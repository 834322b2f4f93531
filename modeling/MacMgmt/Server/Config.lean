import MacMgmt.Lib.Base64
import MacMgmt.Lib.Run
import MacMgmt.Lib.Table
import MacMgmt.Server.Json
import MacMgmt.Server.Rollouts

/-!
# Patches of a cluster's config

`setting_patch_config` of `server/src/api/routes.rs`: a request reads the latest row of `cluster_configs`, merges its
value in memory and inserts a new row. Between the two statements other requests run. Migrating a config and validating
it are done by the shared crate of the daemon and the server, here parameters.
-/

namespace MacMgmt.Server
open Lib

structure PatchConfigBody where
  configSection : String
  key : String
  value : Json

inductive PatchStatus where
  | ok
  | internalServerError
  | unprocessableEntity
deriving DecidableEq

/-- `config[section][key] = value`. A missing section is created. -/
def mergePatch (config : Json) (body : PatchConfigBody) : Except PatchStatus Json :=
  match config with
  | .object fields =>
      match (fields.lookup body.configSection).getD (.object []) with
      | .object sectionMap =>
          .ok (.object (Json.insertField fields body.configSection (.object (Json.insertField sectionMap body.key body.value))))
      | _ => .error .unprocessableEntity
  | _ => .error .internalServerError

/-- The request has not read yet, holds the config it will insert, or has answered. -/
inductive PatchPhase where
  | waiting
  | merged (config : Json)
  | answered (status : PatchStatus)

structure PatchRequest where
  body : PatchConfigBody
  phase : PatchPhase

structure ConfigRow where
  configJson : Json
  createdAt : DateTime

structure ConfigState where
  rows : List ConfigRow
  requests : Table Nat PatchRequest

/-- `read` is given the position of the row that `ORDER BY created_at DESC LIMIT 1` returns, `insert` the time of its
transaction; `fail` is a statement that ends in a database error. -/
inductive ConfigEvent where
  | read (id : Nat) (position : Nat)
  | insert (id : Nat) (createdAt : DateTime)
  | fail (id : Nat)

namespace ConfigState

def isLatest (state : ConfigState) (row : ConfigRow) : Bool := state.rows.all fun other => other.createdAt ≤ row.createdAt

/-- The config that the read gives; rows of the same time may come in any order. -/
def current (state : ConfigState) (position : Nat) : Option Json :=
  if state.rows.isEmpty then some (.object [])
  else (state.rows[position]?.filter state.isLatest).map ConfigRow.configJson

def setPhase (state : ConfigState) (id : Nat) (body : PatchConfigBody) (phase : PatchPhase) : ConfigState :=
  { state with requests := state.requests.insert id ⟨body, phase⟩ }

/-- Migrate the config that was read, merge and validate. -/
def patched (migrate : Json → Json) (valid : Json → Bool) (current : Json) (body : PatchConfigBody) : PatchPhase :=
  match mergePatch (migrate current) body with
  | .error status => .answered status
  | .ok config => if valid config then .merged config else .answered .unprocessableEntity

def step (migrate : Json → Json) (valid : Json → Bool) (state : ConfigState) (event : ConfigEvent) : Option ConfigState :=
  match event with
  | .read id position =>
      match state.requests.lookup id with
      | some ⟨body, .waiting⟩ => (state.current position).map fun config =>
          state.setPhase id body (patched migrate valid config body)
      | _ => none
  | .insert id createdAt =>
      match state.requests.lookup id with
      | some ⟨body, .merged config⟩ =>
          some (setPhase { state with rows := state.rows ++ [⟨config, createdAt⟩] } id body (.answered .ok))
      | _ => none
  | .fail id =>
      match state.requests.lookup id with
      | some ⟨_, .answered _⟩ | none => none
      | some ⟨body, _⟩ => some (state.setPhase id body (.answered .internalServerError))

end ConfigState

/-! ## The pre-shared key of a cluster

`get_config` and `ensure_cluster_psk` of `server/src/api/routes.rs`. A request reads the saved config, then the column
`p2p_psk`; if the column is empty it draws a key and stores it with an `UPDATE` of its own. Between the statements other
requests of the cluster run. A NULL column is an error of the read, as sqlx documents for a type that is no `Option`. -/

/-- `rand::random::<[u8; 32]>()` -/
abbrev PskKey := { bytes : List UInt8 // bytes.length = 32 }

def pskBody (psk : List UInt8) : PatchConfigBody := ⟨"relay", "cluster_psk", .string (String.ofList (hexEncode psk))⟩

/-- The section `relay` is made if it is missing. Where it, or the config, is no object, nothing is inserted. -/
def insertPsk (config : Json) (psk : List UInt8) : Json :=
  match mergePatch config (pskBody psk) with
  | .ok merged => merged
  | .error _ => config

inductive GetConfigPhase where
  | reading (config : Json)
  | generating (config : Json)
  | answered (response : Json)

/-- `psk` is the column of the cluster, `none` for NULL. -/
structure ClusterPsk where
  psk : Option (List UInt8)
  requests : Table Nat GetConfigPhase

/-- `start` has the config that the first statement found. -/
inductive GetConfigEvent where
  | start (id : Nat) (config : Json)
  | read (id : Nat)
  | store (id : Nat) (key : PskKey)

namespace ClusterPsk

def start (psk : Option (List UInt8)) : ClusterPsk := ⟨psk, ∅⟩

def step (migrate : Json → Json) (state : ClusterPsk) : GetConfigEvent → Option ClusterPsk
  | .start id config =>
      if id ∈ state.requests then none
      else some { state with requests := state.requests.insert id (.reading (migrate config)) }
  | .read id =>
      match state.requests.lookup id with
      | some (.reading config) =>
          let phase : GetConfigPhase :=
            match state.psk with
            | none => .answered config
            | some psk => if psk = [] then .generating config else .answered (insertPsk config psk)
          some { state with requests := state.requests.insert id phase }
      | some (.generating _) | some (.answered _) | none => none
  | .store id key =>
      match state.requests.lookup id with
      | some (.generating config) =>
          some { psk := some key.val, requests := state.requests.insert id (.answered (insertPsk config key.val)) }
      | some (.reading _) | some (.answered _) | none => none

/-! ## One key for all -/

def Answered (state : ClusterPsk) (response : Json) : Prop := ∃ id, state.requests.lookup id = some (.answered response)

def Carries (response : Json) (psk : Option (List UInt8)) : Prop :=
  ∃ key : PskKey, psk = some key.val ∧
    ((response.field "relay").bind fun relay => relay.field "cluster_psk") = some (.string (String.ofList (hexEncode key.val)))

def OneKey (state : ClusterPsk) : Prop := ∀ response, state.Answered response → Carries response state.psk

/-- `relay` can be given a key. -/
def TakesKey (config : Json) : Prop :=
  ∃ fields, config = .object fields ∧ ∃ relay, (fields.lookup "relay").getD (.object []) = .object relay

/-- A read finds an empty column or a key, and what is stored replaces an empty column (or the same key). -/
def Steady (state : ClusterPsk) : GetConfigEvent → Prop
  | .start _ _ => True
  | .read id => ∀ config, state.requests.lookup id = some (.reading config) →
      state.psk = some [] ∨ TakesKey config ∧ ∃ key : PskKey, state.psk = some key.val
  | .store id key => ∀ config, state.requests.lookup id = some (.generating config) →
      TakesKey config ∧ (state.psk = some [] ∨ state.psk = some key.val)

end ClusterPsk

end MacMgmt.Server
