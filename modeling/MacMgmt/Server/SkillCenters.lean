import MacMgmt.Lib.Run
import MacMgmt.Server.Catalog

/-!
# The skill center cache

`server/src/skill_center_cache.rs` with `skill_center_sync_now` and the rows that it reads. The polling loop, a listener for each
center and the requests of an administrator refresh the cached catalogs, and each await is a step of its own. Of a catalog the
ids of its items are kept. The URL of a center stays.
-/

namespace MacMgmt.Server
open Lib

inductive ItemKind where
  | skillChannel
  | bundle
  | mcpServer
  | mcpBundle
deriving DecidableEq

structure CenterCatalog where
  skillChannels : List Uuid
  bundles : List Uuid
  mcpServers : List Uuid
  mcpBundles : List Uuid
deriving DecidableEq

namespace CenterCatalog

def empty : CenterCatalog := ⟨[], [], [], []⟩

def items (catalog : CenterCatalog) : ItemKind → List Uuid
  | .skillChannel => catalog.skillChannels
  | .bundle => catalog.bundles
  | .mcpServer => catalog.mcpServers
  | .mcpBundle => catalog.mcpBundles

/-- The queries of `refresh_one`, which are left out where they have no ids. -/
def deleted (old new : CenterCatalog) : List (ItemKind × List Uuid) :=
  ([.skillChannel, .bundle, .mcpServer, .mcpBundle].map fun kind =>
    (kind, (old.items kind).filter fun id => id ∉ new.items kind)).filter fun query => query.2 ≠ []

end CenterCatalog

/-- `takenAt` is when the center gave the catalog, `allowedAt` when one was last stored while the center was enabled. -/
structure CachedCatalog where
  catalog : CenterCatalog
  takenAt : Nat
  allowedAt : Nat
deriving DecidableEq

structure CenterRow where
  builtinUrl : Bool
  enabled : Bool
deriving DecidableEq

/-- A remote row of one of the four assignment tables. `lacking` says whether the center has been without the item at a moment
since it was assigned. -/
structure RemoteAssignment where
  center : Uuid
  kind : ItemKind
  remoteId : Uuid
  madeAt : Nat
  lacking : Bool
deriving DecidableEq

inductive RefreshStage where
  | fetching
  | diffing (catalog : CenterCatalog) (takenAt : Nat)
  | deleting (catalog : CenterCatalog) (takenAt : Nat) (queries : List (ItemKind × List Uuid))
deriving DecidableEq

structure Refresh where
  center : Uuid
  builtinUrl : Bool
  stage : RefreshStage
deriving DecidableEq

inductive RefreshTask where
  | poll
  | listener (center : Uuid)
  | sync (request : Nat)
deriving DecidableEq

/-- `list` is what the query has given, `none` when it failed. -/
inductive PollPhase where
  | idle
  | refreshing (list : Option (List Uuid)) (readAt : Nat) (remaining : List Uuid)
  | cleaning (list : Option (List Uuid)) (readAt : Nat) (stale : List Uuid)
  | spawning
deriving DecidableEq

/-- What has happened, for the statements: a refresh has deleted an assignment whose item was there all along, a catalog has
followed one that was taken later, one has been removed after a failed query, or one has come back for a center that is not
enabled. `fetched` are the catalogs stored since a list was last without the center, `finished` is the list of a `refresh_all`
that has just ended. -/
structure RefreshRecord where
  wrongful : Bool
  regressed : Bool
  spurious : Bool
  resurrected : Bool
  fetched : Table Uuid CenterCatalog
  finished : Option (List Uuid × Nat)

structure SkillCenters where
  clock : Nat
  builtin : CenterCatalog
  centers : Table Uuid CenterRow
  remote : Table Uuid CenterCatalog
  assignments : Table Nat RemoteAssignment
  cache : Table Uuid CachedCatalog
  poll : PollPhase
  listeners : List Uuid
  refreshes : Table RefreshTask Refresh
  record : RefreshRecord

inductive SkillCenterEvent where
  | create (id : Uuid) (row : CenterRow)
  | update (id : Uuid) (enabled : Bool)
  | remove (id : Uuid)
  | publish (id : Uuid) (catalog : CenterCatalog)
  | assign (key : Nat) (center : Uuid) (kind : ItemKind) (remoteId : Uuid)
  | unassign (key : Nat)
  | refreshAll (queried : Bool)
  | refreshNext (id : Uuid)
  | collect
  | cleanUp (id : Uuid)
  | finish
  | spawnListeners (queried : Bool)
  | catalogChanged (id : Uuid)
  | syncNow (request : Nat) (id : Uuid)
  | fetched (task : RefreshTask)
  | fetchFailed (task : RefreshTask)
  | diff (task : RefreshTask)
  | delete (task : RefreshTask) (queried : Bool)
  | store (task : RefreshTask)

namespace SkillCenters

def start (builtin : CenterCatalog) : SkillCenters :=
  { clock := 1, builtin, centers := ∅, remote := ∅, assignments := ∅,
    cache := AList.insert builtinSkillCenterId ⟨builtin, 0, 0⟩ ∅, poll := .idle, listeners := [], refreshes := ∅,
    record := ⟨false, false, false, false, ∅, none⟩ }

def catalogOf (state : SkillCenters) (id : Uuid) : CenterCatalog := (state.remote.lookup id).getD .empty

def isEnabled (state : SkillCenters) (id : Uuid) : Bool := (state.centers.lookup id).any (·.enabled)

/-- `WHERE enabled = true` -/
def enabledIds (state : SkillCenters) : List Uuid := (state.centers.retain fun _ row => row.enabled).keys

def hasBuiltinUrl (state : SkillCenters) (id : Uuid) : Bool := (state.centers.lookup id).any (·.builtinUrl)

def setStage (state : SkillCenters) (task : RefreshTask) (refresh : Refresh) (stage : RefreshStage) : SkillCenters :=
  { state with refreshes := state.refreshes.insert task { refresh with stage } }

def endRefresh (state : SkillCenters) (task : RefreshTask) : SkillCenters :=
  { state with refreshes := state.refreshes.erase task }

def publish (state : SkillCenters) (id : Uuid) (catalog : CenterCatalog) : SkillCenters :=
  { state with
    remote := state.remote.insert id catalog
    assignments := state.assignments.update
      (fun _ assignment => assignment.center = id && assignment.remoteId ∉ catalog.items assignment.kind)
      fun assignment => { assignment with lacking := true } }

/-- `skill_center_id = $1 AND remote_id = ANY($2)` on the table of the kind. -/
def hits (center : Uuid) (query : ItemKind × List Uuid) (assignment : RemoteAssignment) : Bool :=
  assignment.center = center && assignment.kind = query.1 && assignment.remoteId ∈ query.2

def deleteRows (state : SkillCenters) (center : Uuid) (query : ItemKind × List Uuid) : SkillCenters :=
  { state with
    assignments := state.assignments.retain fun _ assignment => !hits center query assignment
    record := { state.record with
      wrongful := state.record.wrongful ||
        state.assignments.entries.any fun entry => hits center query entry.2 && !entry.2.lacking } }

/-- `SkillCenterCache::update` -/
def cacheUpdate (state : SkillCenters) (center : Uuid) (catalog : CenterCatalog) (takenAt : Nat) : SkillCenters :=
  let old := state.cache.lookup center
  let allowedAt := if state.isEnabled center then state.clock else (old.map (·.allowedAt)).getD 0
  { state with
    cache := state.cache.insert center ⟨catalog, takenAt, allowedAt⟩
    record := { state.record with
      regressed := state.record.regressed || old.any fun entry => takenAt < entry.takenAt
      resurrected := state.record.resurrected || (old.isNone && !state.isEnabled center)
      fetched := state.record.fetched.insert center catalog } }

/-- `SkillCenterCache::remove` -/
def cacheRemove (state : SkillCenters) (list : Option (List Uuid)) (id : Uuid) : SkillCenters :=
  { state with
    cache := state.cache.erase id
    record := { state.record with
      spurious := state.record.spurious || list.isNone
      fetched := if list.isSome then state.record.fetched.erase id else state.record.fetched } }

def act (state : SkillCenters) : SkillCenterEvent → Option SkillCenters
  | .create id row =>
      if id ∈ state.centers ∨ (isBuiltin id = true ∧ row.builtinUrl = false) then none
      else some { state with centers := state.centers.insert id row }
  | .update id enabled =>
      if isBuiltin id then none else some { state with centers := state.centers.modify id fun row => { row with enabled } }
  | .remove id =>
      if isBuiltin id then none
      else some { state with
        centers := state.centers.erase id
        assignments := state.assignments.retain fun _ assignment => assignment.center ≠ id }
  | .publish id catalog => some (state.publish id catalog)
  | .assign key center kind remoteId =>
      if key ∈ state.assignments ∨ center ∉ state.centers then none
      else
        let lacking := remoteId ∉ (state.catalogOf center).items kind
        some { state with assignments := state.assignments.insert key ⟨center, kind, remoteId, state.clock, lacking⟩ }
  | .unassign key => some { state with assignments := state.assignments.erase key }
  | .refreshAll queried =>
      match state.poll with
      | .idle =>
          let list := if queried then some state.enabledIds else none
          let remaining := (list.getD []).filter fun id => !state.hasBuiltinUrl id
          some { state with poll := .refreshing list state.clock remaining }
      | _ => none
  | .refreshNext id =>
      match state.poll with
      | .refreshing list readAt remaining =>
          if id ∉ remaining ∨ .poll ∈ state.refreshes then none
          else some
            { state with
              poll := .refreshing list readAt (remaining.erase id)
              refreshes := state.refreshes.insert .poll ⟨id, false, .fetching⟩ }
      | _ => none
  | .collect =>
      match state.poll with
      | .refreshing list readAt [] =>
          if .poll ∈ state.refreshes then none
          else
            let stale := state.cache.keys.filter fun id => id ∉ list.getD [] && !isBuiltin id
            some { state with poll := .cleaning list readAt stale }
      | _ => none
  | .cleanUp id =>
      match state.poll with
      | .cleaning list readAt stale =>
          if id ∈ stale then some { state.cacheRemove list id with poll := .cleaning list readAt (stale.erase id) } else none
      | _ => none
  | .finish =>
      match state.poll with
      | .cleaning list readAt [] =>
          some { state with
            poll := .spawning
            record := { state.record with finished := list.map fun ids => (ids, readAt) } }
      | _ => none
  | .spawnListeners queried =>
      match state.poll with
      | .spawning =>
          let new := (if queried then state.enabledIds else []).filter fun id =>
            id ∉ state.listeners && !state.hasBuiltinUrl id
          some { state with poll := .idle, listeners := state.listeners ++ new }
      | _ => none
  | .catalogChanged id =>
      if id ∈ state.listeners ∧ .listener id ∉ state.refreshes then
        some { state with refreshes := state.refreshes.insert (.listener id) ⟨id, false, .fetching⟩ }
      else none
  | .syncNow request id =>
      match state.centers.lookup id with
      | some row =>
          if .sync request ∈ state.refreshes then none
          else some { state with refreshes := state.refreshes.insert (.sync request) ⟨id, row.builtinUrl, .fetching⟩ }
      | none => none
  | .fetched task =>
      match state.refreshes.lookup task with
      | some ⟨center, builtinUrl, .fetching⟩ =>
          let catalog := if builtinUrl then state.builtin else state.catalogOf center
          let stage := match task with
            | .sync _ => .deleting catalog state.clock []
            | _ => .diffing catalog state.clock
          some (state.setStage task ⟨center, builtinUrl, .fetching⟩ stage)
      | _ => none
  | .fetchFailed task =>
      match state.refreshes.lookup task with
      | some ⟨_, _, .fetching⟩ => some (state.endRefresh task)
      | _ => none
  | .diff task =>
      match state.refreshes.lookup task with
      | some ⟨center, builtinUrl, .diffing catalog takenAt⟩ =>
          let queries := match state.cache.lookup center with
            | some old => old.catalog.deleted catalog
            | none => []
          some (state.setStage task ⟨center, builtinUrl, .fetching⟩ (.deleting catalog takenAt queries))
      | _ => none
  | .delete task queried =>
      match state.refreshes.lookup task with
      | some ⟨center, builtinUrl, .deleting catalog takenAt (query :: queries)⟩ =>
          let deleted := if queried then state.deleteRows center query else state
          some (deleted.setStage task ⟨center, builtinUrl, .fetching⟩ (.deleting catalog takenAt queries))
      | _ => none
  | .store task =>
      match state.refreshes.lookup task with
      | some ⟨center, _, .deleting catalog takenAt []⟩ =>
          some ((state.cacheUpdate center catalog takenAt).endRefresh task)
      | _ => none

def tick (state : SkillCenters) : SkillCenters := { state with clock := state.clock + 1 }

def goOn (state : SkillCenters) : SkillCenters := { state with record := { state.record with finished := none } }

def step (state : SkillCenters) (event : SkillCenterEvent) : Option SkillCenters := (state.goOn.act event).map tick

/-! ## No live assignment is deleted, and no older catalog is stored -/

def InOrder (state : SkillCenters) : Prop := state.record.wrongful = false ∧ state.record.regressed = false

/-- A query hits no assignment that was made after the center gave the catalog, unless the center has been without the item
since. No catalog that was taken later is cached where one is stored. -/
def InTime (state : SkillCenters) : SkillCenterEvent → Prop
  | .delete task queried => queried = true → ∀ center builtinUrl catalog takenAt query queries,
      state.refreshes.lookup task = some ⟨center, builtinUrl, .deleting catalog takenAt (query :: queries)⟩ →
      ∀ key assignment, state.assignments.lookup key = some assignment → hits center query assignment = true →
      takenAt < assignment.madeAt → assignment.lacking = true
  | .store task => ∀ center builtinUrl catalog takenAt,
      state.refreshes.lookup task = some ⟨center, builtinUrl, .deleting catalog takenAt []⟩ →
      ∀ old, state.cache.lookup center = some old → old.takenAt ≤ takenAt
  | _ => True

/-! ## The cache follows the list of the enabled centers -/

/-- The catalogs of the enabled centers and no others. A center that the list is without may have been stored since it was
read, while it was enabled. -/
structure Exact (state : SkillCenters) (list : List Uuid) (readAt : Nat) : Prop where
  fetched : ∀ id, isBuiltin id = false → (state.cache.lookup id).map (·.catalog) = state.record.fetched.lookup id
  listed : ∀ id entry, isBuiltin id = false → state.cache.lookup id = some entry → id ∈ list ∨ readAt < entry.allowedAt
  builtin : (state.cache.lookup builtinSkillCenterId).map (·.catalog) = some state.builtin

structure Followed (state : SkillCenters) : Prop where
  spurious : state.record.spurious = false
  resurrected : state.record.resurrected = false
  exact_ : ∀ list readAt, state.record.finished = some (list, readAt) → state.Exact list readAt

/-- Nothing is cleaned up after a failed query, and a catalog is stored only for a center that is enabled or still cached. -/
def Followable (state : SkillCenters) : SkillCenterEvent → Prop
  | .cleanUp _ => ∀ list readAt stale, state.poll = .cleaning list readAt stale → list.isSome = true
  | .store task => ∀ center builtinUrl catalog takenAt,
      state.refreshes.lookup task = some ⟨center, builtinUrl, .deleting catalog takenAt []⟩ →
      state.isEnabled center = true ∨ center ∈ state.cache
  | _ => True

end SkillCenters
end MacMgmt.Server
