import MacMgmt.Runner.Orchestrator

/-!
# What the runner keeps

Whatever else is at work between two steps, a cell has one state, the cluster in it is its own, and so are the names of its
instances. Others only hand out ids and take clusters away, which leaves alone what an operation has read.
-/

namespace MacMgmt.Proof.Runner
open Lib Task MacMgmt.Runner Orchestrator

variable {config : RunnerConfig} {owns : String → String → Prop} {strict calm : Prop}

/-! ## The list of cells -/

theorem mem_upsertCells {cell other : CellState} {cells : List CellState} (member : other ∈ upsertCells cell cells) :
    other = cell ∨ other ∈ cells := by
  induction cells with
  | nil => exact .inl (List.mem_singleton.mp member)
  | cons existing cells ih =>
      unfold upsertCells at member
      split at member
      · obtain same | later := List.mem_cons.mp member
        · exact .inl same
        · exact .inr (List.mem_cons_of_mem _ later)
      · obtain same | later := List.mem_cons.mp member
        · exact .inr (same ▸ List.mem_cons_self)
        · exact (ih later).imp_right (List.mem_cons_of_mem _)

theorem keys_upsertCells (cell : CellState) (cells : List CellState) :
    (upsertCells cell cells).map CellState.key =
      if cell.key ∈ cells.map CellState.key then cells.map CellState.key else cells.map CellState.key ++ [cell.key] := by
  induction cells with
  | nil => rfl
  | cons existing cells ih =>
      unfold upsertCells
      by_cases same : existing.key = cell.key
      · simp [same]
      · have different : cell.key ≠ existing.key := Ne.symm same
        by_cases known : cell.key ∈ cells.map CellState.key
        · rw [if_neg same, List.map_cons, ih, if_pos known, List.map_cons, if_pos (List.mem_cons_of_mem _ known)]
        · have unknown : cell.key ∉ (existing :: cells).map CellState.key := by
            rw [List.map_cons, List.mem_cons]
            exact not_or.mpr ⟨different, known⟩
          rw [if_neg same, List.map_cons, ih, if_neg known, if_neg unknown, List.map_cons, List.cons_append]

theorem nodup_upsertCells {cell : CellState} {cells : List CellState} (nodup : (cells.map CellState.key).Nodup) :
    ((upsertCells cell cells).map CellState.key).Nodup := by
  rw [keys_upsertCells]
  split
  · exact nodup
  · rename_i unknown
    exact List.nodup_append.mpr ⟨nodup, List.nodup_singleton _, fun key known other single =>
      fun same => unknown (List.mem_singleton.mp single ▸ same ▸ known)⟩

theorem find_some {fleet : FleetState} {key : String} {cell : CellState} (found : fleet.find key = some cell) :
    cell ∈ fleet.cells ∧ cell.key = key := by
  unfold FleetState.find at found
  have keyed := List.find?_some found
  exact ⟨List.mem_of_find?_eq_some found, of_decide_eq_true keyed⟩

theorem stageOf_some {world : World} {key : String} {stage : CellStage} (found : world.stageOf key = some stage) :
    ∃ cell ∈ world.fleet.cells, cell.key = key ∧ cell.stage = stage := by
  obtain ⟨cell, there, same⟩ := Option.map_eq_some_iff.mp found
  obtain ⟨member, keyed⟩ := find_some there
  exact ⟨cell, member, keyed, same⟩

theorem find_of_mem {fleet : FleetState} {cell : CellState} (keys : (fleet.cells.map CellState.key).Nodup)
    (member : cell ∈ fleet.cells) : fleet.find cell.key = some cell := by
  cases found : fleet.find cell.key with
  | none =>
      have all := List.find?_eq_none.mp found cell member
      exact absurd (decide_eq_true rfl) all
  | some other =>
      obtain ⟨there, sameKey⟩ := find_some found
      rw [List.inj_on_of_nodup_map keys there member sameKey]

theorem stageOf_of_mem {world : World} {cell : CellState} (keys : (world.fleet.cells.map CellState.key).Nodup)
    (member : cell ∈ world.fleet.cells) : world.stageOf cell.key = some cell.stage := by
  unfold World.stageOf
  rw [find_of_mem keys member, Option.map_some]

/-! ## Worlds that others have changed -/

structure Later (before after : World) : Prop where
  next : before.next ≤ after.next
  clusters : ∀ id name, after.clusters.lookup id = some name → id < before.next → before.clusters.lookup id = some name

theorem Later.refl (world : World) : Later world world := ⟨le_rfl, fun _ _ found _ => found⟩

theorem Later.trans {first second third : World} (one : Later first second) (two : Later second third) :
    Later first third where
  next := one.next.trans two.next
  clusters id name found bound := one.clusters id name (two.clusters id name found (bound.trans_le one.next)) bound

theorem Named.later {before after : World} {key : String} {id : Uuid} (named : before.Named config key id)
    (later : Later before after) : after.Named config key id :=
  ⟨named.1.trans_le later.next, fun name found => named.2 name (later.clusters id name found named.1)⟩

structure Listed (config : RunnerConfig) (owns : String → String → Prop) (world : World) (fleet : FleetState) : Prop
    extends Recorded config world fleet where
  names : ∀ cell ∈ fleet.cells, ∀ name ∈ namesOf cell.stage, owns cell.key name

theorem Listed.later {before after : World} {fleet : FleetState} (listed : Listed config owns before fleet)
    (later : Later before after) : Listed config owns after fleet where
  keys := listed.keys
  clusters cell member id found := Named.later (listed.clusters cell member id found) later
  names := listed.names

theorem Listed.upsert {world : World} {fleet : FleetState} {cell : CellState} (listed : Listed config owns world fleet)
    (named : ∀ id, cell.stage.clusterId = some id → world.Named config cell.key id)
    (owned : ∀ name ∈ namesOf cell.stage, owns cell.key name) : Listed config owns world (fleet.upsert cell) where
  keys := nodup_upsertCells listed.keys
  clusters other member := by
    obtain same | before := mem_upsertCells member
    · subst same
      exact named
    · exact listed.clusters other before
  names other member := by
    obtain same | before := mem_upsertCells member
    · subst same
      exact owned
    · exact listed.names other before

theorem Listed.remove {world : World} {fleet : FleetState} (listed : Listed config owns world fleet) (key : String) :
    Listed config owns world (fleet.remove key) where
  keys := listed.keys.sublist (List.filter_sublist.map _)
  clusters cell member := listed.clusters cell (List.mem_filter.mp member).1
  names cell member := listed.names cell (List.mem_filter.mp member).1

theorem clusterId_mapInstances (change : InstanceSpec → InstanceSpec) (stage : CellStage) :
    (stage.mapInstances change).clusterId = stage.clusterId := by
  cases stage <;> rfl

theorem instances_mapInstances (change : InstanceSpec → InstanceSpec) (stage : CellStage) :
    (stage.mapInstances change).instances = stage.instances.map change := by
  cases stage <;> rfl

theorem namesOf_mapInstances {change : InstanceSpec → InstanceSpec} (stage : CellStage)
    (same : ∀ spec, (change spec).instanceName = spec.instanceName) :
    namesOf (stage.mapInstances change) = namesOf stage := by
  unfold namesOf
  rw [instances_mapInstances, List.map_map]
  exact List.map_congr_left fun spec _ => same spec

theorem instanceName_mark (name : String) (stopped : Option Nat) (spec : InstanceSpec) :
    (if spec.instanceName = name then { spec with stoppedAt := stopped } else spec).instanceName = spec.instanceName := by
  split <;> rfl

theorem Listed.markStopped {world : World} {fleet : FleetState} (listed : Listed config owns world fleet)
    (key name : String) (stopped : Option Nat) : Listed config owns world (fleet.markStopped key name stopped) := by
  unfold FleetState.markStopped
  split
  · exact listed
  · rename_i cell found
    have member := (find_some found).1
    apply listed.upsert
    · intro id named
      rw [clusterId_mapInstances] at named
      exact listed.clusters cell member id named
    · intro other owned
      rw [namesOf_mapInstances _ (instanceName_mark name stopped)] at owned
      exact listed.names cell member other owned

theorem paused_markStopped (fleet : FleetState) (key name : String) (stopped : Option Nat) :
    (fleet.markStopped key name stopped).paused = fleet.paused := by
  unfold FleetState.markStopped
  split <;> rfl

/-! ## The invariant -/

/-- Where `strict`, only names that carry the prefix have been deleted; where `calm`, the runner is not paused. -/
structure Kept (config : RunnerConfig) (owns : String → String → Prop) (strict calm : Prop) (world : World) : Prop where
  fleet : Listed config owns world world.fleet
  saved : Listed config owns world world.saved
  known : ∀ id name, world.clusters.lookup id = some name → id < world.next
  keyed : ∀ name machine, world.machines.lookup name = some machine → machine.instanceId < world.next
  made : ∀ name machine key, world.machines.lookup name = some machine → machine.madeFor = some key → owns key name
  deleted : strict → ∀ name ∈ world.deleted, config.carries name = true
  unpaused : calm → world.fleet.paused = false ∧ world.saved.paused = false

theorem later_deleteMachine (world : World) (name : String) : Later world (world.deleteMachine name) := by
  unfold World.deleteMachine
  split
  · exact .refl world
  · exact ⟨le_rfl, fun _ _ found _ => found⟩

theorem kept_deleteMachine {world : World} {name : String} (kept : Kept config owns strict calm world)
    (carried : strict → config.carries name = true) : Kept config owns strict calm (world.deleteMachine name) := by
  have later := later_deleteMachine world name
  unfold World.deleteMachine at later ⊢
  split at later
  · exact kept
  · have rest {other : String} {machine : Machine} (found : (world.machines.erase name).lookup other = some machine) :
        world.machines.lookup other = some machine := by
      rw [Table.lookup_erase_ite] at found
      split at found
      · cases found
      · exact found
    exact {
      fleet := kept.fleet.later later
      saved := kept.saved.later later
      known := kept.known
      keyed := fun other machine found => kept.keyed other machine (rest found)
      made := fun other machine key found => kept.made other machine key (rest found)
      deleted := fun strictly other member => by
        obtain before | now := List.mem_append.mp member
        · exact kept.deleted strictly other before
        · rw [List.mem_singleton.mp now]
          exact carried strictly
      unpaused := kept.unpaused }

theorem later_deleteCluster (world : World) (id : Uuid) : Later world (world.deleteCluster id) := by
  unfold World.deleteCluster
  split
  · exact .refl world
  · refine ⟨le_rfl, fun other name found _ => ?_⟩
    have before : (world.clusters.erase id).lookup other = some name := found
    rw [Table.lookup_erase_ite] at before
    split at before
    · cases before
    · exact before

theorem kept_deleteCluster {world : World} {id : Uuid} (kept : Kept config owns strict calm world)
    (carried : strict → ∀ name, world.clusters.lookup id = some name → config.carries name = true) :
    Kept config owns strict calm (world.deleteCluster id) := by
  have later := later_deleteCluster world id
  unfold World.deleteCluster at later ⊢
  cases found : world.clusters.lookup id with
  | none => exact kept
  | some name =>
      simp only [found] at later ⊢
      exact {
        fleet := kept.fleet.later later
        saved := kept.saved.later later
        known := fun other name there => by
          have bound := kept.known other name
          have before : (world.clusters.erase id).lookup other = some name := there
          rw [Table.lookup_erase_ite] at before
          split at before
          · cases before
          · exact bound before
        keyed := kept.keyed
        made := kept.made
        deleted := fun strictly other member => by
          obtain before | now := List.mem_append.mp member
          · exact kept.deleted strictly other before
          · rw [List.mem_singleton.mp now]
            exact carried strictly name found
        unpaused := kept.unpaused }

theorem later_createCluster {world : World} (name : String) : Later world (world.createCluster name) where
  next := Nat.le_succ _
  clusters id other found bound := by
    have there : (world.clusters.insert world.next name).lookup id = some other := found
    rwa [Table.lookup_insert_ite, if_neg (Nat.ne_of_lt bound)] at there

theorem kept_createCluster {world : World} (kept : Kept config owns strict calm world) (name : String) :
    Kept config owns strict calm (world.createCluster name) where
  fleet := kept.fleet.later (later_createCluster name)
  saved := kept.saved.later (later_createCluster name)
  known id other found := by
    have there : (world.clusters.insert world.next name).lookup id = some other := found
    rw [Table.lookup_insert_ite] at there
    split at there
    · rename_i same
      exact same ▸ Nat.lt_succ_self _
    · exact (kept.known id other there).trans (Nat.lt_succ_self _)
  keyed other machine found := (kept.keyed other machine found).trans (Nat.lt_succ_self _)
  made := kept.made
  deleted := kept.deleted
  unpaused := kept.unpaused

theorem kept_handOut {world : World} (kept : Kept config owns strict calm world) :
    Kept config owns strict calm { world with next := world.next + 1 } where
  fleet := kept.fleet.later ⟨Nat.le_succ _, fun _ _ found _ => found⟩
  saved := kept.saved.later ⟨Nat.le_succ _, fun _ _ found _ => found⟩
  known id name found := (kept.known id name found).trans (Nat.lt_succ_self _)
  keyed name machine found := (kept.keyed name machine found).trans (Nat.lt_succ_self _)
  made := kept.made
  deleted := kept.deleted
  unpaused := kept.unpaused

theorem kept_createInstance {world : World} {key name : String} {instanceId : Nat}
    (kept : Kept config owns strict calm world) (owned : owns key name) (handed : instanceId < world.next) :
    Kept config owns strict calm { world with machines := world.machines.insert name ⟨instanceId, some key⟩ } where
  fleet := kept.fleet.later ⟨le_rfl, fun _ _ found _ => found⟩
  saved := kept.saved.later ⟨le_rfl, fun _ _ found _ => found⟩
  known := kept.known
  keyed other machine found := by
    rw [Table.lookup_insert_ite] at found
    split at found
    · cases found
      exact handed
    · exact kept.keyed other machine found
  made other machine for_ found madeFor := by
    rw [Table.lookup_insert_ite] at found
    split at found
    · rename_i same
      cases found
      cases madeFor
      exact same ▸ owned
    · exact kept.made other machine for_ found madeFor
  deleted := kept.deleted
  unpaused := kept.unpaused

theorem kept_fleet {world : World} {fleet : FleetState} {overwrote : Bool} (kept : Kept config owns strict calm world)
    (listed : Listed config owns world fleet) (unpaused : calm → fleet.paused = false) :
    Kept config owns strict calm { world with fleet, overwrote } where
  fleet := listed.later ⟨le_rfl, fun _ _ found _ => found⟩
  saved := kept.saved.later ⟨le_rfl, fun _ _ found _ => found⟩
  known := kept.known
  keyed := kept.keyed
  made := kept.made
  deleted := kept.deleted
  unpaused calmly := ⟨unpaused calmly, (kept.unpaused calmly).2⟩

theorem kept_save {world : World} (kept : Kept config owns strict calm world) :
    Kept config owns strict calm { world with saved := world.fleet } where
  fleet := kept.fleet.later ⟨le_rfl, fun _ _ found _ => found⟩
  saved := kept.fleet.later ⟨le_rfl, fun _ _ found _ => found⟩
  known := kept.known
  keyed := kept.keyed
  made := kept.made
  deleted := kept.deleted
  unpaused calmly := ⟨(kept.unpaused calmly).1, (kept.unpaused calmly).1⟩

end MacMgmt.Proof.Runner
