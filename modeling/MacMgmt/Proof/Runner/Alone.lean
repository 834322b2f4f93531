import MacMgmt.Proof.Runner.Turns

/-!
# One operation at a time

While no other operation is at work, what was read of a cell is still there when its next stage is written. At rest the state
file is the state in memory and refers to nothing that the operation has destroyed; in between, only the cell at hand may
refer to it.
-/

namespace MacMgmt.Proof.Runner
open Lib Task MacMgmt.Runner Orchestrator

variable {config : RunnerConfig} {owns : String → String → Prop} {gone : List Resource}

/-! ## States that fit -/

def number : Resource → Nat
  | .cluster id => id
  | .machine _ id => id

structure Fit (config : RunnerConfig) (gone : List Resource) (fleet : FleetState) : Prop where
  live : ∀ resource ∈ gone, ∀ cell ∈ fleet.cells, cell.stage.refers resource = false
  throttled : 0 < config.maxConcurrentLaunches → fleet.launching ≤ config.maxConcurrentLaunches

structure Steady (config : RunnerConfig) (gone : List Resource) (world : World) : Prop where
  fleet : Fit config gone world.fleet
  saved : Fit config gone world.saved
  owned : world.overwrote = false
  aged : ∀ resource ∈ gone ++ world.destroyed, number resource < world.next

def UnusedBut (key : String) (world : World) (resource : Resource) : Prop :=
  ∀ cell ∈ world.fleet.cells, cell.key ≠ key → cell.stage.refers resource = false

def Unused (world : World) (resource : Resource) : Prop :=
  ∀ cell ∈ world.fleet.cells, cell.stage.refers resource = false

/-- No cell but one of the key refers to what the operation has destroyed. -/
def CleanBut (key : String) (world : World) : Prop := ∀ resource ∈ world.destroyed, UnusedBut key world resource

def Clean (world : World) : Prop := ∀ resource ∈ world.destroyed, Unused world resource

structure Rest (world : World) : Prop where
  saved : world.saved = world.fleet
  clean : Clean world

theorem countP_upsertCells_le (test : CellState → Bool) (cell : CellState) (cells : List CellState) :
    (upsertCells cell cells).countP test ≤ cells.countP test + if test cell then 1 else 0 := by
  induction cells with
  | nil => simp [upsertCells, List.countP_cons]
  | cons existing cells ih =>
      unfold upsertCells
      split
      · simp only [List.countP_cons]
        omega
      · simp only [List.countP_cons]
        omega

theorem countP_upsertCells_eq {test : CellState → Bool} {cell existing : CellState} {cells : List CellState}
    (found : cells.find? (fun other => other.key = cell.key) = some existing) (same : test cell = test existing) :
    (upsertCells cell cells).countP test = cells.countP test := by
  induction cells with
  | nil => cases found
  | cons first cells ih =>
      unfold upsertCells
      by_cases named : first.key = cell.key
      · rw [List.find?_cons_of_pos (by simpa using named)] at found
        cases found
        rw [if_pos named, List.countP_cons, List.countP_cons, same]
      · rw [List.find?_cons_of_neg (by simpa using named)] at found
        rw [if_neg named, List.countP_cons, List.countP_cons, ih found]

theorem mem_upsertCells_of_nodup {cell other : CellState} {cells : List CellState}
    (nodup : (cells.map CellState.key).Nodup) (member : other ∈ upsertCells cell cells) :
    other = cell ∨ other ∈ cells ∧ other.key ≠ cell.key := by
  induction cells with
  | nil => exact .inl (List.mem_singleton.mp member)
  | cons existing cells ih =>
      obtain ⟨unique, nodup⟩ := List.nodup_cons.mp nodup
      unfold upsertCells at member
      split at member
      · rename_i named
        obtain same | later := List.mem_cons.mp member
        · exact .inl same
        · refine .inr ⟨List.mem_cons_of_mem _ later, fun same => ?_⟩
          exact unique (named.trans same.symm ▸ List.mem_map_of_mem later)
      · rename_i different
        obtain same | later := List.mem_cons.mp member
        · exact .inr ⟨same ▸ List.mem_cons_self, same ▸ different⟩
        · exact (ih nodup later).imp_right fun both => ⟨List.mem_cons_of_mem _ both.1, both.2⟩

theorem Fit.upsert {fleet : FleetState} {cell : CellState} (fit : Fit config gone fleet)
    (fresh : ∀ resource ∈ gone, cell.stage.refers resource = false)
    (room : cell.stage.isLaunching = true → 0 < config.maxConcurrentLaunches →
      fleet.launching < config.maxConcurrentLaunches) : Fit config gone (fleet.upsert cell) where
  live resource lost other member := by
    obtain same | before := mem_upsertCells member
    · exact same ▸ fresh resource lost
    · exact fit.live resource lost other before
  throttled capped := by
    have counted := countP_upsertCells_le (fun cell => cell.stage.isLaunching) cell fleet.cells
    have before := fit.throttled capped
    cases launches : cell.stage.isLaunching with
    | false =>
        rw [launches] at counted
        exact counted.trans before
    | true =>
        have below := room launches capped
        rw [launches] at counted
        exact counted.trans below

theorem Fit.remove {fleet : FleetState} (fit : Fit config gone fleet) (key : String) :
    Fit config gone (fleet.remove key) where
  live resource lost cell member := fit.live resource lost cell (List.mem_filter.mp member).1
  throttled capped := (List.Sublist.countP_le List.filter_sublist).trans (fit.throttled capped)

theorem refers_mapInstances {change : InstanceSpec → InstanceSpec} (stage : CellStage) (resource : Resource)
    (same : ∀ spec, (change spec).instanceName = spec.instanceName ∧ (change spec).instanceId = spec.instanceId) :
    (stage.mapInstances change).refers resource = stage.refers resource := by
  cases resource with
  | cluster id =>
      show decide ((stage.mapInstances change).clusterId = some id) = _
      rw [clusterId_mapInstances]
      rfl
  | machine name id =>
      show (stage.mapInstances change).instances.any _ = stage.instances.any _
      rw [instances_mapInstances, List.any_map]
      congr 1
      funext spec
      simp only [Function.comp_apply, (same spec).1, (same spec).2]

theorem isLaunching_mapInstances (change : InstanceSpec → InstanceSpec) (stage : CellStage) :
    (stage.mapInstances change).isLaunching = stage.isLaunching := by
  cases stage <;> rfl

theorem same_mark (name : String) (stopped : Option Nat) (spec : InstanceSpec) :
    (if spec.instanceName = name then { spec with stoppedAt := stopped } else spec).instanceName = spec.instanceName ∧
      (if spec.instanceName = name then { spec with stoppedAt := stopped } else spec).instanceId = spec.instanceId := by
  split <;> exact ⟨rfl, rfl⟩

theorem refers_markStopped {fleet : FleetState} {key name : String} {stopped : Option Nat} {resource : Resource}
    (unused : ∀ cell ∈ fleet.cells, cell.stage.refers resource = false) :
    ∀ cell ∈ (fleet.markStopped key name stopped).cells, cell.stage.refers resource = false := by
  unfold FleetState.markStopped
  split
  · exact unused
  · rename_i marked found
    intro cell member
    obtain same | before := mem_upsertCells member
    · rw [same, refers_mapInstances _ _ (same_mark name stopped)]
      exact unused marked (find_some found).1
    · exact unused cell before

theorem Fit.markStopped {fleet : FleetState} (fit : Fit config gone fleet) (key name : String) (stopped : Option Nat) :
    Fit config gone (fleet.markStopped key name stopped) where
  live resource lost := refers_markStopped (fit.live resource lost)
  throttled capped := by
    unfold FleetState.markStopped
    split
    · exact fit.throttled capped
    · rename_i marked found
      have counted : (fleet.upsert { marked with
          stage := marked.stage.mapInstances fun spec =>
            if spec.instanceName = name then { spec with stoppedAt := stopped } else spec }).launching = fleet.launching := by
        apply countP_upsertCells_eq
        · show fleet.find marked.key = some marked
          rw [(find_some found).2, found]
        · exact isLaunching_mapInstances _ _
      rw [counted]
      exact fit.throttled capped

/-! ## Steps on one's own -/

def alone (config : RunnerConfig) (owns : String → String → Prop) (gone : List Resource) : Contract World Answer where
  rely before now := before = now
  guarantee _ _ := True
  allowed answer := answer.saves = true
  assumes := Kept config owns False False
  keeps := Steady config gone

section Steps
variable {world origin : World} {A : Type}

theorem alone_act {change : World → Answer → World} {result : World → Answer → A} {post : A → World → Prop}
    (steps : Kept config owns False False world → Steady config gone world → ∀ answer, answer.saves = true →
      Steady config gone (change world answer) ∧ post (result world answer) (change world answer)) :
    Holds (alone config owns gone) post (act change result) world := by
  apply holds_act
  intro now same kept steady answer saves
  cases same
  obtain ⟨stays, reached⟩ := steps kept steady answer saves
  exact ⟨trivial, stays, reached⟩

theorem alone_ask {result : World → Answer → A} {post : A → World → Prop}
    (reads : Kept config owns False False world → Steady config gone world → ∀ answer, post (result world answer) world) :
    Holds (alone config owns gone) post (ask result) world :=
  alone_act fun kept steady answer _ => ⟨steady, reads kept steady answer⟩

theorem alone_look {view : World → A} {post : A → World → Prop}
    (sees : Kept config owns False False world → Steady config gone world → post (view world) world) :
    Holds (alone config owns gone) post (look view) world :=
  alone_act fun kept steady _ _ => ⟨steady, sees kept steady⟩

/-- Only resources of a kind have been destroyed, and the states are as they were. -/
structure Outside (kind : Resource → Prop) (before after : World) : Prop where
  fleet : after.fleet = before.fleet
  saved : after.saved = before.saved
  next : before.next ≤ after.next
  destroyed : ∀ resource ∈ after.destroyed, resource ∈ before.destroyed ∨ kind resource

theorem Outside.refl {kind : Resource → Prop} (world : World) : Outside kind world world :=
  ⟨rfl, rfl, le_rfl, fun _ => .inl⟩

theorem Outside.trans {kind : Resource → Prop} {first second third : World} (one : Outside kind first second)
    (two : Outside kind second third) : Outside kind first third where
  fleet := two.fleet.trans one.fleet
  saved := two.saved.trans one.saved
  next := one.next.trans two.next
  destroyed resource member := (two.destroyed resource member).elim (one.destroyed resource) .inr

theorem Outside.imp {kind wider : Resource → Prop} {before after : World} (outside : Outside kind before after)
    (imp : ∀ resource, kind resource → wider resource) : Outside wider before after :=
  ⟨outside.fleet, outside.saved, outside.next, fun resource member => (outside.destroyed resource member).imp_right (imp resource)⟩

theorem Outside.stageOf {kind : Resource → Prop} {before after : World} (outside : Outside kind before after)
    (key : String) : after.stageOf key = before.stageOf key := by
  unfold World.stageOf
  rw [outside.fleet]

abbrev Aside (config : RunnerConfig) (owns : String → String → Prop) (gone : List Resource) (kind : Resource → Prop)
    (task : Orchestrator A) (world : World) : Prop :=
  Holds (alone config owns gone) (fun _ => Outside kind world) task world

variable {kind : Resource → Prop}

theorem aside_pure {result : A} : Aside config owns gone kind (pure result) world := holds_pure (.refl world)

theorem aside_ask {result : World → Answer → A} : Aside config owns gone kind (ask result) world :=
  alone_ask fun _ _ _ => .refl world

theorem aside_seq {B : Type} {first : Orchestrator B} {rest : B → Orchestrator A}
    (one : Aside config owns gone kind first world)
    (onward : ∀ result after, Outside kind world after → Aside config owns gone kind (rest result) after) :
    Aside config owns gone kind (first >>= rest) world := by
  apply holds_seq one
  intro result after outside
  apply (onward result after outside).imp
  intro _ last further
  exact outside.trans further

theorem aside_forEach {Item : Type} {body : Item → Orchestrator Unit} {items : List Item}
    (each : ∀ item ∈ items, ∀ after, Outside kind world after → Aside config owns gone kind (body item) after) :
    Aside config owns gone kind (forEach body items) world := by
  refine holds_forEach (fun item member state outside => ?_) (Outside.refl world)
  apply (each item member state outside).imp
  intro _ after further
  exact outside.trans further

theorem aside_deleteInstance {name : String} (expected : ∀ id, kind (.machine name id)) :
    Aside config owns gone kind (deleteInstance name) world := by
  apply alone_act
  intro kept steady answer _
  dsimp only [effect]
  split
  · unfold World.deleteMachine
    split
    · exact ⟨steady, .refl world⟩
    · rename_i machine found
      constructor
      · refine ⟨steady.fleet, steady.saved, steady.owned, fun resource member => ?_⟩
        obtain before | now := List.mem_append.mp (List.append_assoc _ _ _ ▸ member)
        · exact steady.aged resource before
        · rw [List.mem_singleton.mp now]
          exact kept.keyed name machine found
      · refine ⟨rfl, rfl, le_rfl, fun resource member => ?_⟩
        obtain before | now := List.mem_append.mp member
        · exact .inl before
        · rw [List.mem_singleton.mp now]
          exact .inr (expected machine.instanceId)
  · exact ⟨steady, .refl world⟩

theorem aside_deleteCluster {id : Uuid} (expected : Kept config owns False False world →
    ∀ name, world.clusters.lookup id = some name → kind (.cluster id)) :
    Aside config owns gone kind (deleteCluster id) world := by
  apply alone_act
  intro kept steady answer _
  dsimp only [effect]
  split
  · unfold World.deleteCluster
    split
    · exact ⟨steady, .refl world⟩
    · rename_i name found
      constructor
      · refine ⟨steady.fleet, steady.saved, steady.owned, fun resource member => ?_⟩
        obtain before | now := List.mem_append.mp (List.append_assoc _ _ _ ▸ member)
        · exact steady.aged resource before
        · rw [List.mem_singleton.mp now]
          exact kept.known id name found
      · refine ⟨rfl, rfl, le_rfl, fun resource member => ?_⟩
        obtain before | now := List.mem_append.mp member
        · exact .inl before
        · rw [List.mem_singleton.mp now]
          exact .inr (expected kept name found)
  · exact ⟨steady, .refl world⟩

def Fresh (gone : List Resource) (world : World) (id : Nat) : Prop :=
  ∀ resource ∈ gone ++ world.destroyed, number resource < id

theorem alone_createCluster (kind : Resource → Prop) {name : String} :
    Holds (alone config owns gone) (fun created after => Outside kind world after ∧
      ∀ id, created = some id → Fresh gone after id) (createCluster name) world := by
  apply alone_act
  intro _ steady answer _
  dsimp only [effect]
  have older : Steady config gone (world.createCluster name) :=
    ⟨steady.fleet, steady.saved, steady.owned, fun resource member => (steady.aged resource member).trans (Nat.lt_succ_self _)⟩
  have created : Outside kind world (world.createCluster name) := ⟨rfl, rfl, Nat.le_succ _, fun _ => .inl⟩
  have fresh : ∀ id, (if answer.ok && world.nameFree name then some world.next else none) = some id →
      id = world.next := by
    intro id same
    split at same
    · exact (Option.some.inj same).symm
    · cases same
  split
  · split
    · exact ⟨older, created, fun id same => fresh id same ▸ steady.aged⟩
    · exact ⟨steady, .refl world, fun id same => fresh id same ▸ steady.aged⟩
  · exact ⟨steady, .refl world, fun id same => fresh id same ▸ steady.aged⟩

theorem alone_generateHostKey (kind : Resource → Prop) :
    Holds (alone config owns gone) (fun id after => Outside kind world after ∧ Fresh gone after id) generateHostKey world := by
  apply alone_act
  intro _ steady _ _
  constructor
  · exact ⟨steady.fleet, steady.saved, steady.owned, fun resource member => (steady.aged resource member).trans (Nat.lt_succ_self _)⟩
  · exact ⟨⟨rfl, rfl, Nat.le_succ _, fun _ => .inl⟩, steady.aged⟩

theorem aside_createInstance {key : String} {spec : InstanceSpec} :
    Aside config owns gone kind (createInstance key spec) world := by
  apply alone_act
  intro _ steady answer _
  dsimp only [effect]
  split
  · split
    · exact ⟨steady, .refl world⟩
    · exact ⟨⟨steady.fleet, steady.saved, steady.owned, steady.aged⟩, rfl, rfl, le_rfl, fun _ => .inl⟩
  · exact ⟨steady, .refl world⟩

theorem Outside.clean {after : World} (outside : Outside (Unused world) world after) (clean : Clean world) :
    Clean after := by
  intro resource member
  unfold Unused
  rw [outside.fleet]
  exact (outside.destroyed resource member).elim (clean resource) id

theorem Outside.cleanBut {key : String} {after : World} (outside : Outside (UnusedBut key world) world after)
    (clean : Clean world) : CleanBut key after := by
  intro resource member
  unfold UnusedBut
  rw [outside.fleet]
  intro cell listed other
  exact (outside.destroyed resource member).elim (fun before => clean resource before cell listed)
    fun now => now cell listed other

theorem Outside.rest {after : World} (outside : Outside (Unused world) world after) (rest : Rest world) : Rest after where
  saved := by rw [outside.saved, outside.fleet, rest.saved]
  clean := outside.clean rest.clean

theorem Clean.but (clean : Clean world) (key : String) : CleanBut key world :=
  fun resource member cell listed _ => clean resource member cell listed

theorem alone_look_seq {B : Type} {view : World → A} {rest : A → Orchestrator B} {post : B → World → Prop}
    (sees : Kept config owns False False world → Steady config gone world →
      Holds (alone config owns gone) post (rest (view world)) world) :
    Holds (alone config owns gone) post (look view >>= rest) world := holds_bind (alone_look sees)

theorem alone_ask_seq {B : Type} {result : World → Answer → A} {rest : A → Orchestrator B} {post : B → World → Prop}
    (reads : Kept config owns False False world → Steady config gone world → ∀ answer,
      Holds (alone config owns gone) post (rest (result world answer)) world) :
    Holds (alone config owns gone) post (ask result >>= rest) world := holds_bind (alone_ask reads)

/-! ## Writes -/

theorem find_upsert (fleet : FleetState) (cell : CellState) : (fleet.upsert cell).find cell.key = some cell := by
  unfold FleetState.upsert FleetState.find
  induction fleet.cells with
  | nil => simp [upsertCells]
  | cons existing cells ih =>
      show (upsertCells cell (existing :: cells)).find? _ = _
      unfold upsertCells
      by_cases same : existing.key = cell.key
      · simp [same]
      · rw [if_neg same, List.find?_cons_of_neg (by simpa using same)]
        exact ih

theorem find_remove (fleet : FleetState) (key : String) : (fleet.remove key).find key = none := by
  unfold FleetState.remove FleetState.find
  apply List.find?_eq_none.mpr
  intro cell member
  have kept := (List.mem_filter.mp member).2
  simpa using kept

theorem alone_saveState {post : Bool → World → Prop}
    (saved : Kept config owns False False world → Steady config gone world →
      post true { world with saved := world.fleet }) :
    Holds (alone config owns gone) post saveState world := by
  apply alone_act
  intro kept steady answer saves
  rw [saves]
  exact ⟨⟨steady.fleet, steady.fleet, steady.owned, steady.aged⟩, saved kept steady⟩

theorem alone_write {change : World → World} {post : Bool → World → Prop}
    (writes : Kept config owns False False world → Steady config gone world → ∃ fleet,
      change world = { world with fleet } ∧ Fit config gone fleet ∧ post true { world with fleet, saved := fleet }) :
    Holds (alone config owns gone) post (do alter change; saveState) world := by
  apply holds_bind
  apply alone_act
  intro kept steady _ _
  obtain ⟨fleet, same, fit, reached⟩ := writes kept steady
  rw [same]
  exact ⟨⟨fit, steady.saved, steady.owned, steady.aged⟩, alone_saveState fun _ _ => reached⟩

theorem alone_alter_idle {change : World → World} (same : change world = world) :
    Holds (alone config owns gone) (fun _ after => after = world) (alter change) world := by
  apply alone_act
  intro _ steady _ _
  show Steady config gone (change world) ∧ change world = world
  rw [same]
  exact ⟨steady, rfl⟩

theorem write_eq {key : String} {fleet : FleetState} (owned : world.overwrote = false) :
    world.write key (world.stageOf key) fleet = { world with fleet } := by
  unfold World.write
  simp [owned]

theorem settles_persistCell {expected : Option CellStage} {cell : CellState} (read : world.stageOf cell.key = expected)
    (clean : CleanBut cell.key world)
    (fresh : Steady config gone world → ∀ resource ∈ gone ++ world.destroyed, cell.stage.refers resource = false)
    (room : cell.stage.isLaunching = true → 0 < config.maxConcurrentLaunches →
      world.fleet.launching < config.maxConcurrentLaunches) :
    Holds (alone config owns gone) (fun saved after => saved = true ∧ Rest after ∧ after.stageOf cell.key = some cell.stage)
      (persistCell expected cell) world := by
  apply alone_write
  intro kept steady
  have unused := fresh steady
  refine ⟨_, read ▸ write_eq steady.owned, ?_, rfl, ⟨rfl, ?_⟩, ?_⟩
  · exact steady.fleet.upsert (fun resource lost => unused resource (List.mem_append_left _ lost)) room
  · intro resource destroyed other member
    obtain same | ⟨before, different⟩ := mem_upsertCells_of_nodup kept.fleet.keys member
    · exact same ▸ unused resource (List.mem_append_right _ destroyed)
    · exact clean resource destroyed other before different
  · exact congrArg (Option.map CellState.stage) (find_upsert _ cell)

theorem alone_removeCell {key : String} {expected : Option CellStage} (read : world.stageOf key = expected)
    (clean : CleanBut key world) :
    Holds (alone config owns gone) (fun _ after => Clean after ∧ after.fleet = world.fleet.remove key)
      (removeCell key expected) world := by
  apply alone_act
  intro _ steady _ _
  have written : world.write key expected (world.fleet.remove key) = { world with fleet := world.fleet.remove key } :=
    read ▸ write_eq steady.owned
  show Steady config gone (world.write key expected _) ∧ Clean (world.write key expected _) ∧
    (world.write key expected _).fleet = _
  rw [written]
  refine ⟨⟨steady.fleet.remove key, steady.saved, steady.owned, steady.aged⟩, ?_, rfl⟩
  intro resource destroyed cell member
  obtain ⟨before, other⟩ := List.mem_filter.mp member
  exact clean resource destroyed cell before (by simpa using other)

end Steps

end MacMgmt.Proof.Runner
