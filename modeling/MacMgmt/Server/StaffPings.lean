import MacMgmt.Lib.Run
import MacMgmt.Lib.Sorting
import MacMgmt.Lib.Table
import MacMgmt.Server.Rollouts

/-!
# Staff pings

The staff pings of `JsonFileStore` and of `PgHealerStore` in `mac-mgmt-healer/src/store`, over sessions that stay. Both are
given the same new ids and times. The files of the sessions are read and written through another crate, and the database has
the tables of the migrations.
-/

namespace MacMgmt.Server
open Lib

structure StaffPing where
  id : Uuid
  sessionId : Uuid
  clusterId : Uuid
  instanceId : List Char
  category : List Char
  message : List Char
  resolved : Bool
  resolvedBy : Option (List Char)
  resolvedAt : Option Int
  createdAt : Int
deriving DecidableEq

namespace StaffPing

def new (id sessionId clusterId : Uuid) (instanceId category message : List Char) (now : Int) : StaffPing :=
  ⟨id, sessionId, clusterId, instanceId, category, message, false, none, none, now⟩

def resolve (ping : StaffPing) (resolvedBy : List Char) (now : Int) : StaffPing :=
  { ping with resolved := true, resolvedBy := some resolvedBy, resolvedAt := some now }

/-- `resolved`, then the time of creation from the last to the first. -/
def openFirst (first second : StaffPing) : Prop :=
  first.resolved < second.resolved ∨ first.resolved = second.resolved ∧ second.createdAt ≤ first.createdAt

def newestFirst (first second : StaffPing) : Prop := second.createdAt ≤ first.createdAt

def oldestFirst (first second : StaffPing) : Prop := first.createdAt ≤ second.createdAt

instance : DecidableRel openFirst := fun _ _ => inferInstanceAs (Decidable (_ ∨ _))
instance : DecidableRel newestFirst := fun _ _ => inferInstanceAs (Decidable (_ ≤ _))
instance : DecidableRel oldestFirst := fun _ _ => inferInstanceAs (Decidable (_ ≤ _))

end StaffPing

inductive PingResult where
  | created (id : Uuid)
  | done
  | pings (list : List StaffPing)
  | failed
deriving DecidableEq

inductive PingOperation where
  | create (id sessionId clusterId : Uuid) (instanceId category message : List Char) (now : Int)
  | resolve (id : Uuid) (resolvedBy : List Char) (now : Int)
  | list (clusterId : Uuid)
  | listInstance (instanceId : List Char)
  | listSession (sessionId : Uuid)
deriving DecidableEq

/-! ## The files -/

structure SessionFile where
  scopeId : Uuid
  pings : List StaffPing

abbrev SessionFiles := Table Uuid SessionFile

namespace SessionFiles

def resolvePing (pings : List StaffPing) (id : Uuid) (resolvedBy : List Char) (now : Int) : List StaffPing :=
  match pings with
  | [] => []
  | ping :: pings =>
      if ping.id = id then ping.resolve resolvedBy now :: pings else ping :: resolvePing pings id resolvedBy now

/-- The pings of the files that are selected, the files in the order of `all_sessions`. -/
def pingsOf (order : Traversal Uuid) (files : SessionFiles) (selects : SessionFile → Bool) : List StaffPing :=
  ((order.entries files).filter fun entry => selects entry.2).flatMap fun entry => entry.2.pings

/-- `missingFails` says whether `mutate` fails for a session without a file. -/
def perform (missingFails : Bool) (order : Traversal Uuid) (files : SessionFiles) : PingOperation → PingResult × SessionFiles
  | .create id sessionId clusterId instanceId category message now =>
      match files.lookup sessionId with
      | none => (if missingFails then .failed else .created id, files)
      | some file =>
          let ping := StaffPing.new id sessionId clusterId instanceId category message now
          (.created id, files.insert sessionId { file with pings := file.pings ++ [ping] })
  | .resolve id resolvedBy now =>
      match (order.entries files).find? fun entry => entry.2.pings.any fun ping => ping.id = id with
      | none => (.failed, files)
      | some entry =>
          (.done, files.modify entry.1 fun file => { file with pings := resolvePing file.pings id resolvedBy now })
  | .list clusterId =>
      let pings := pingsOf order files fun file => file.scopeId = clusterId
      (.pings ((pings.insertionSort StaffPing.openFirst).take 100), files)
  | .listInstance instanceId =>
      let pings := (pingsOf order files fun _ => true).filter fun ping => ping.instanceId = instanceId && !ping.resolved
      (.pings ((pings.insertionSort StaffPing.newestFirst).take 50), files)
  | .listSession sessionId => (.pings (((files.lookup sessionId).map SessionFile.pings).getD []), files)

end SessionFiles

/-! ## The database -/

structure PingTables where
  sessions : List Uuid
  clusters : List Uuid
  rows : List StaffPing

namespace PingTables

/-- A `TEXT` of the database has no zero character. -/
def isText (text : List Char) : Bool := '\x00' ∉ text

def perform (reading : Reading StaffPing) (tables : PingTables) : PingOperation → PingResult × PingTables
  | .create id sessionId clusterId instanceId category message now =>
      -- both ids are foreign keys
      if sessionId ∈ tables.sessions ∧ clusterId ∈ tables.clusters ∧
          isText instanceId = true ∧ isText category = true ∧ isText message = true then
        let ping := StaffPing.new id sessionId clusterId instanceId category message now
        (.created id, { tables with rows := tables.rows ++ [ping] })
      else (.failed, tables)
  | .resolve id resolvedBy now =>
      if isText resolvedBy then
        let rows := tables.rows.map fun ping => if ping.id = id then ping.resolve resolvedBy now else ping
        (.done, { tables with rows })
      else (.failed, tables)
  | .list clusterId =>
      let rows := (reading.read tables.rows).filter fun ping => ping.clusterId = clusterId
      (.pings ((rows.insertionSort StaffPing.openFirst).take 100), tables)
  | .listInstance instanceId =>
      if isText instanceId then
        let rows := (reading.read tables.rows).filter fun ping => ping.instanceId = instanceId && !ping.resolved
        (.pings ((rows.insertionSort StaffPing.newestFirst).take 50), tables)
      else (.failed, tables)
  | .listSession sessionId =>
      let rows := (reading.read tables.rows).filter fun ping => ping.sessionId = sessionId
      (.pings (rows.insertionSort StaffPing.oldestFirst), tables)

end PingTables

/-! ## Both stores -/

structure PingStep where
  operation : PingOperation
  order : Traversal Uuid
  reading : Reading StaffPing

/-- `same` says that the last operation has had the same result in both. -/
structure PingStores where
  files : SessionFiles
  tables : PingTables
  same : Bool

namespace PingStores

/-- No pings yet, and a file for each session, with its cluster. -/
def start (sessions : Table Uuid Uuid) (clusters : List Uuid) : PingStores where
  files := sessions.mapValues fun scopeId => ⟨scopeId, []⟩
  tables := ⟨sessions.keys, clusters, []⟩
  same := true

def isNew (state : PingStores) : PingOperation → Bool
  | .create id .. => id ∉ state.tables.rows.map StaffPing.id && state.files.values.all fun file => id ∉ file.pings.map StaffPing.id
  | _ => true

def step (missingFails : Bool) (state : PingStores) (event : PingStep) : Option PingStores :=
  if state.isNew event.operation then
    let (one, files) := state.files.perform missingFails event.order event.operation
    let (two, tables) := state.tables.perform event.reading event.operation
    some ⟨files, tables, one = two⟩
  else none

def Apart (before : StaffPing → StaffPing → Prop) (pings : List StaffPing) : Prop :=
  ∀ first ∈ pings, ∀ second ∈ pings, before first second → before second first → first = second

/-- A ping is created for a known session and cluster, or for no session, and resolved where it is known; texts have no zero
character; what a cluster is asked for belongs to it in both ways; the times of a listing differ, and those of a session go up. -/
def Agreeable (missingFails : Bool) (state : PingStores) (event : PingStep) : Prop :=
  match event.operation with
  | .create _ sessionId clusterId instanceId category message _ =>
      (sessionId ∈ state.tables.sessions → clusterId ∈ state.tables.clusters ∧ PingTables.isText instanceId = true ∧
        PingTables.isText category = true ∧ PingTables.isText message = true) ∧
      (sessionId ∉ state.tables.sessions → missingFails = true)
  | .resolve id resolvedBy _ => id ∈ state.tables.rows.map StaffPing.id ↔ PingTables.isText resolvedBy = true
  | .list clusterId =>
      (∀ ping ∈ state.tables.rows, ∀ file ∈ state.files.lookup ping.sessionId,
        (file.scopeId = clusterId ↔ ping.clusterId = clusterId)) ∧
      Apart StaffPing.openFirst (state.tables.rows.filter fun ping => ping.clusterId = clusterId)
  | .listInstance instanceId =>
      PingTables.isText instanceId = true ∧
      Apart StaffPing.newestFirst
        (state.tables.rows.filter fun ping => ping.instanceId = instanceId && !ping.resolved)
  | .listSession sessionId =>
      ∀ file ∈ state.files.lookup sessionId,
        file.pings.Pairwise fun first second => first.createdAt < second.createdAt

instance {before : StaffPing → StaffPing → Prop} [DecidableRel before] (pings : List StaffPing) : Decidable (Apart before pings) :=
  inferInstanceAs (Decidable (∀ first ∈ pings, ∀ second ∈ pings, _ → _ → first = second))

instance (missingFails : Bool) (state : PingStores) : (event : PingStep) → Decidable (Agreeable missingFails state event)
  | ⟨.create _ _ _ _ _ _ _, _, _⟩ => inferInstanceAs (Decidable (_ ∧ _))
  | ⟨.resolve _ _ _, _, _⟩ => inferInstanceAs (Decidable (_ ↔ _))
  | ⟨.list _, _, _⟩ => inferInstanceAs (Decidable (_ ∧ _))
  | ⟨.listInstance _, _, _⟩ => inferInstanceAs (Decidable (_ ∧ _))
  | ⟨.listSession sessionId, _, _⟩ => inferInstanceAs (Decidable (∀ file ∈ state.files.lookup sessionId, _))

end PingStores
end MacMgmt.Server
