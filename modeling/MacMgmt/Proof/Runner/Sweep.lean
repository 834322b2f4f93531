import MacMgmt.Proof.Runner.Turns

/-!
# The sweep after a crash

A complete reconcile ends with the collection. Whatever state the rest of it has left, what is untracked and carries the
prefix is deleted, a cell whose cluster is not listed is dropped with its instances, and the rest is saved.
-/

namespace MacMgmt.Proof.Runner
open Lib Task MacMgmt.Runner Orchestrator

variable {config : RunnerConfig} {owns : String → String → Prop} {strict : Prop}

def quiet (config : RunnerConfig) (owns : String → String → Prop) (strict : Prop) : Contract World Answer where
  rely before now := before = now
  guarantee _ _ := True
  allowed answer := answer.ok = true ∧ answer.saves = true
  assumes := Kept config owns strict True
  keeps _ := True

section Calls
variable {world : World}

theorem quiet_of_safe {A : Type} {task : Orchestrator A} (safe : Safe config owns strict True task world) :
    Holds (quiet config owns strict) (fun _ _ => True) task world := by
  apply safe.weaken
  · intro before now same
    exact same ▸ Later.refl before
  · intro _ _
    trivial
  · intro now kept _
    exact ⟨trivial, kept⟩
  · intro _ _ _
    trivial
  · intro _ _
    trivial

theorem quiet_look {A : Type} {view : World → A} {post : A → World → Prop}
    (sees : Kept config owns strict True world → post (view world) world) :
    Holds (quiet config owns strict) post (look view) world := by
  apply holds_look
  · intro _
    trivial
  · intro now same kept _
    subst same
    exact sees kept

theorem quiet_act {A : Type} {change : World → Answer → World} {result : World → Answer → A} {post : A → World → Prop}
    (steps : Kept config owns strict True world → ∀ answer, answer.ok = true → answer.saves = true →
      post (result world answer) (change world answer)) : Holds (quiet config owns strict) post (act change result) world := by
  apply holds_act
  intro now same kept _ answer allowed
  cases same
  exact ⟨trivial, trivial, steps kept answer allowed.1 allowed.2⟩

structure Without (names : List String) (before after : World) : Prop where
  fleet : after.fleet = before.fleet
  clusters : after.clusters = before.clusters
  machines : ∀ name, after.machines.lookup name = if name ∈ names then none else before.machines.lookup name

theorem without_deleteMachine (world : World) (name : String) : Without [name] world (world.deleteMachine name) := by
  unfold World.deleteMachine
  split
  · rename_i missing
    refine ⟨rfl, rfl, fun other => ?_⟩
    split
    · rename_i same
      rw [List.mem_singleton.mp same, missing]
    · rfl
  · refine ⟨rfl, rfl, fun other => ?_⟩
    show (world.machines.erase name).lookup other = _
    simp only [Table.lookup_erase_ite, List.mem_singleton]

theorem Without.trans {first second : List String} {before middle after : World} (one : Without first before middle)
    (two : Without second middle after) : Without (first ++ second) before after where
  fleet := two.fleet.trans one.fleet
  clusters := two.clusters.trans one.clusters
  machines name := by
    rw [two.machines, one.machines]
    by_cases late : name ∈ second
    · simp [late]
    · simp [late]

theorem quiet_deleteInstances {names : List String} :
    Holds (quiet config owns strict) (fun _ => Without names world) (deleteInstances names) world := by
  induction names generalizing world with
  | nil =>
      apply holds_pure
      exact ⟨rfl, rfl, fun _ => rfl⟩
  | cons name names ih =>
      have deleted : Holds (quiet config owns strict) (fun _ => Without [name] world) (deleteInstance name) world := by
        apply quiet_act
        intro _ answer ok _
        simp only [effect, ok, Bool.true_or, if_true]
        exact without_deleteMachine world name
      have one : Holds (quiet config owns strict) (fun _ => Without [name] world)
          (do let _ ← deleteInstance name) world := by
        apply holds_seq deleted
        intro _ _ gone
        exact holds_pure gone
      apply holds_seq one
      intro _ after gone
      apply ih.imp
      intro _ _ rest
      exact gone.trans rest

structure Unclustered (rows : List (Uuid × String)) (before after : World) : Prop where
  fleet : after.fleet = before.fleet
  machines : after.machines = before.machines
  clusters : ∀ id, after.clusters.lookup id = if id ∈ rows.map Prod.fst then none else before.clusters.lookup id

theorem unclustered_deleteCluster (world : World) (row : Uuid × String) :
    Unclustered [row] world (world.deleteCluster row.1) := by
  unfold World.deleteCluster
  split
  · rename_i missing
    refine ⟨rfl, rfl, fun other => ?_⟩
    split
    · rename_i same
      rw [List.mem_singleton.mp same, missing]
    · rfl
  · refine ⟨rfl, rfl, fun other => ?_⟩
    show (world.clusters.erase row.1).lookup other = _
    simp only [Table.lookup_erase_ite, List.map_cons, List.map_nil, List.mem_singleton]

theorem quiet_sweepClusters {rows : List (Uuid × String)} :
    Holds (quiet config owns strict) (fun _ => Unclustered rows world) (sweepClusters rows) world := by
  induction rows generalizing world with
  | nil =>
      apply holds_pure
      exact ⟨rfl, rfl, fun _ => rfl⟩
  | cons row rows ih =>
      have deleted : Holds (quiet config owns strict) (fun _ => Unclustered [row] world) (deleteCluster row.1) world := by
        apply quiet_act
        intro _ answer ok _
        simp only [effect, ok, Bool.true_or, if_true]
        exact unclustered_deleteCluster world row
      have one : Holds (quiet config owns strict) (fun _ => Unclustered [row] world)
          (do let _ ← deleteCluster row.1) world := by
        apply holds_seq deleted
        intro _ _ gone
        exact holds_pure gone
      apply holds_seq one
      intro _ after gone
      apply ih.imp
      intro _ last rest
      refine ⟨rest.fleet.trans gone.fleet, rest.machines.trans gone.machines, fun id => ?_⟩
      rw [rest.clusters, gone.clusters]
      by_cases late : id ∈ rows.map Prod.fst
      · simp [late]
      · simp [late]

end Calls

/-! ## The reverse sweep -/

/-- After some of the stale keys, `rest` are left: the other ones are dropped with their instances. -/
structure Dropping (stale : List String) (before : World) (rest : List String) (now : World) : Prop where
  distinct : rest.Nodup
  listed : ∀ key ∈ rest, key ∈ stale
  clusters : now.clusters = before.clusters
  cells : ∀ cell, cell ∈ now.fleet.cells ↔ cell ∈ before.fleet.cells ∧ (cell.key ∈ stale → cell.key ∈ rest)
  machines : ∀ name machine, now.machines.lookup name = some machine → before.machines.lookup name = some machine ∧
    ∀ cell ∈ before.fleet.cells, cell.key ∈ stale → name ∈ namesOf cell.stage → cell.key ∈ rest

theorem quiet_dropStale {stale rest : List String} {key : String} {before world : World}
    (dropping : Dropping stale before (key :: rest) world) :
    Holds (quiet config owns strict) (fun _ => Dropping stale before rest) (dropStale key) world := by
  have looked : Holds (quiet config owns strict)
      (fun found after => world = after ∧ found = world.stageOf key ∧ (world.fleet.cells.map CellState.key).Nodup)
      (look fun world => world.stageOf key) world := quiet_look fun kept => ⟨rfl, rfl, kept.fleet.keys⟩
  apply holds_seq looked
  intro found _ ⟨sameWorld, sameStage, keys⟩
  subst sameWorld sameStage
  apply holds_seq quiet_deleteInstances
  intro _ after gone
  apply quiet_act
  intro _ _ _ _
  obtain ⟨unique, distinct⟩ := List.nodup_cons.mp dropping.distinct
  have stays := dropping.listed key List.mem_cons_self
  have cells (cell : CellState) : cell ∈ (after.fleet.remove key).cells ↔ cell ∈ world.fleet.cells ∧ cell.key ≠ key := by
    unfold FleetState.remove
    rw [gone.fleet, List.mem_filter, decide_eq_true_iff]
  exact {
    distinct
    listed := fun other member => dropping.listed other (List.mem_cons_of_mem _ member)
    clusters := gone.clusters.trans dropping.clusters
    cells := by
      intro cell
      show cell ∈ (after.fleet.remove key).cells ↔ _
      rw [cells, dropping.cells]
      constructor
      · rintro ⟨⟨there, left⟩, other⟩
        exact ⟨there, fun marked => (List.mem_cons.mp (left marked)).resolve_left other⟩
      · rintro ⟨there, left⟩
        refine ⟨⟨there, fun marked => List.mem_cons_of_mem _ (left marked)⟩, ?_⟩
        intro same
        exact unique (same ▸ left (same ▸ stays))
    machines := by
      intro name machine there
      have kept : after.machines.lookup name = some machine := there
      rw [gone.machines] at kept
      split at kept
      · cases kept
      · rename_i unnamed
        obtain ⟨earlier, left⟩ := dropping.machines name machine kept
        refine ⟨earlier, fun cell member marked named => ?_⟩
        obtain same | later := List.mem_cons.mp (left cell member marked named)
        · have present : cell ∈ world.fleet.cells :=
            (dropping.cells cell).mpr ⟨member, fun _ => same ▸ List.mem_cons_self⟩
          have stage := stageOf_of_mem keys present
          rw [same] at stage
          rw [stage] at unnamed
          exact absurd named unnamed
        · exact later }

theorem mem_staleKeys {rows : List (Uuid × String)} {fleet : FleetState} {cell : CellState}
    (keys : (fleet.cells.map CellState.key).Nodup) (member : cell ∈ fleet.cells) :
    cell.key ∈ staleKeys rows fleet ↔ ∃ id, cell.stage.clusterId = some id ∧ id ∉ rows.map Prod.fst := by
  unfold staleKeys
  constructor
  · intro marked
    obtain ⟨other, chosen, same⟩ := List.mem_map.mp marked
    obtain ⟨there, lost⟩ := List.mem_filter.mp chosen
    rw [List.inj_on_of_nodup_map keys there member same] at lost
    obtain ⟨id, cluster, unlisted⟩ := (Option.any_eq_true _ _).mp lost
    exact ⟨id, cluster, of_decide_eq_true unlisted⟩
  · rintro ⟨id, cluster, unlisted⟩
    apply List.mem_map_of_mem
    apply List.mem_filter.mpr
    rw [cluster]
    exact ⟨member, decide_eq_true unlisted⟩

/-! ## The whole sweep -/

/-- What the collection leaves, of the state and the resources that it found. -/
structure Collected (config : RunnerConfig) (before after : World) : Prop where
  saved : after.saved = after.fleet
  cells : ∀ cell, cell ∈ after.fleet.cells ↔ cell ∈ before.fleet.cells ∧
    ∀ id, cell.stage.clusterId = some id → (before.clusters.lookup id).isSome = true
  clusters : ∀ id name, after.clusters.lookup id = some name ↔ before.clusters.lookup id = some name ∧
    (config.carries name = true → ∃ cell ∈ before.fleet.cells, cell.stage.clusterId = some id)
  machines : ∀ name machine, after.machines.lookup name = some machine → before.machines.lookup name = some machine ∧
    (config.carries name = true → ∃ cell ∈ after.fleet.cells, name ∈ namesOf cell.stage)

theorem mem_trackedNames {fleet : FleetState} {name : String} :
    name ∈ trackedNames fleet ↔ ∃ cell ∈ fleet.cells, name ∈ namesOf cell.stage := List.mem_flatMap

theorem mem_trackedClusters {fleet : FleetState} {id : Uuid} :
    id ∈ trackedClusters fleet ↔ ∃ cell ∈ fleet.cells, cell.stage.clusterId = some id := List.mem_filterMap

theorem mem_rows_fst {world : World} {id : Uuid} :
    id ∈ (world.clusters.entries.map fun row => (row.1, row.2)).map Prod.fst ↔
      (world.clusters.lookup id).isSome = true := by
  rw [List.map_map, AList.lookup_isSome]
  rfl

theorem mem_sweptRows {world : World} {id : Uuid} {name : String} (found : world.clusters.lookup id = some name) :
    id ∈ (((world.clusters.entries.map fun row => (row.1, row.2)).filter fun row =>
        config.carries row.2 && row.1 ∉ trackedClusters world.fleet).map Prod.fst) ↔
      config.carries name = true ∧ id ∉ trackedClusters world.fleet := by
  constructor
  · intro swept
    obtain ⟨row, chosen, same⟩ := List.mem_map.mp swept
    obtain ⟨listed, condition⟩ := List.mem_filter.mp chosen
    obtain ⟨carried, untracked⟩ := Bool.and_eq_true _ _ ▸ condition
    subst same
    have named := Option.some.inj ((mem_rows listed).symm.trans found)
    exact ⟨named ▸ carried, of_decide_eq_true untracked⟩
  · intro ⟨carried, untracked⟩
    apply List.mem_map.mpr
    refine ⟨(id, name), List.mem_filter.mpr ⟨?_, ?_⟩, rfl⟩
    · exact List.mem_map.mpr ⟨⟨id, name⟩, AList.mem_lookup_iff.mp found, rfl⟩
    · rw [carried, Bool.true_and]
      exact decide_eq_true untracked

theorem collected {world first second third : World} (keys : (world.fleet.cells.map CellState.key).Nodup)
    (gone : Without (world.machines.keys.filter fun name => config.carries name && name ∉ trackedNames world.fleet) world first)
    (swept : Unclustered ((world.clusters.entries.map fun row => (row.1, row.2)).filter fun row =>
      config.carries row.2 && row.1 ∉ trackedClusters world.fleet) first second)
    (dropped : Dropping (staleKeys (world.clusters.entries.map fun row => (row.1, row.2)) second.fleet) second [] third) :
    Collected config world { third with saved := third.fleet } := by
  have fleet : second.fleet = world.fleet := swept.fleet.trans gone.fleet
  have unmarked {cell : CellState} (member : cell ∈ world.fleet.cells) :
      cell.key ∉ staleKeys (world.clusters.entries.map fun row => (row.1, row.2)) second.fleet ↔
        ∀ id, cell.stage.clusterId = some id → (world.clusters.lookup id).isSome = true := by
    rw [fleet, mem_staleKeys keys member]
    constructor
    · intro none id cluster
      by_contra missing
      exact none ⟨id, cluster, fun listed => missing (mem_rows_fst.mp listed)⟩
    · rintro listed ⟨id, cluster, unlisted⟩
      exact unlisted (mem_rows_fst.mpr (listed id cluster))
  have cells (cell : CellState) : cell ∈ third.fleet.cells ↔ cell ∈ world.fleet.cells ∧
      ∀ id, cell.stage.clusterId = some id → (world.clusters.lookup id).isSome = true := by
    rw [dropped.cells, fleet]
    constructor
    · intro ⟨member, left⟩
      exact ⟨member, (unmarked member).mp fun marked => by cases left (fleet ▸ marked)⟩
    · intro ⟨member, listed⟩
      exact ⟨member, fun marked => ((unmarked member).mpr listed (fleet.symm ▸ marked)).elim⟩
  exact {
    saved := rfl
    cells
    clusters := by
      intro id name
      show third.clusters.lookup id = some name ↔ _
      rw [dropped.clusters, swept.clusters, gone.clusters]
      constructor
      · intro found
        split at found
        · cases found
        · rename_i unswept
          refine ⟨found, fun carried => mem_trackedClusters.mp ?_⟩
          by_contra untracked
          exact unswept ((mem_sweptRows found).mpr ⟨carried, untracked⟩)
      · intro ⟨found, tracked⟩
        rw [if_neg, found]
        intro swept
        obtain ⟨carried, untracked⟩ := (mem_sweptRows found).mp swept
        exact untracked (mem_trackedClusters.mpr (tracked carried))
    machines := by
      intro name machine found
      obtain ⟨there, left⟩ := dropped.machines name machine found
      rw [swept.machines, gone.machines] at there
      split at there
      · cases there
      · rename_i spared
        refine ⟨there, fun carried => ?_⟩
        have known : name ∈ world.machines.keys := AList.lookup_isSome.mp (there ▸ rfl)
        have tracked : name ∈ trackedNames world.fleet := by
          by_contra untracked
          apply spared
          apply List.mem_filter.mpr
          rw [carried, Bool.true_and]
          exact ⟨known, decide_eq_true untracked⟩
        obtain ⟨cell, member, named⟩ := mem_trackedNames.mp tracked
        refine ⟨cell, (dropped.cells cell).mpr ⟨fleet.symm ▸ member, fun marked => ?_⟩, named⟩
        exact left cell (fleet.symm ▸ member) marked named }

theorem quiet_gcInner {world : World} :
    Holds (quiet config owns strict) (fun _ after => Kept config owns strict True world ∧ Collected config world after)
      (gcInner config) world := by
  have looked : Holds (quiet config owns strict)
      (fun paused after => world = after ∧ paused = false ∧ Kept config owns strict True world) isPaused world :=
    quiet_look fun kept => ⟨rfl, (kept.unpaused trivial).1, kept⟩
  apply holds_seq looked
  intro paused after ⟨sameWorld, unpaused, kept⟩
  have keys := kept.fleet.keys
  subst sameWorld unpaused
  have tracked : Holds (quiet config owns strict)
      (fun tracked after => world = after ∧ tracked = (trackedNames world.fleet, trackedClusters world.fleet))
      (look fun world => (trackedNames world.fleet, trackedClusters world.fleet)) world := quiet_look fun _ => ⟨rfl, rfl⟩
  apply holds_seq tracked
  intro tracked after ⟨sameWorld, sameTracked⟩
  subst sameWorld sameTracked
  have listed : Holds (quiet config owns strict) (fun names after => world = after ∧ names = some world.machines.keys)
      listInstances world := by
    apply quiet_act
    intro _ answer ok _
    exact ⟨rfl, if_pos ok⟩
  apply holds_seq listed
  intro names after ⟨sameWorld, sameNames⟩
  subst sameWorld sameNames
  have rowsRead : Holds (quiet config owns strict)
      (fun rows after => world = after ∧ rows = some (world.clusters.entries.map fun row => (row.1, row.2)))
      listClusters world := by
    apply quiet_act
    intro _ answer ok _
    exact ⟨rfl, if_pos ok⟩
  apply holds_seq rowsRead
  intro rows after ⟨sameWorld, sameRows⟩
  subst sameWorld sameRows
  apply holds_seq quiet_deleteInstances
  intro _ first gone
  apply holds_seq quiet_sweepClusters
  intro _ second swept
  have marked : Holds (quiet config owns strict)
      (fun stale after => second = after ∧
        stale = staleKeys (world.clusters.entries.map fun row => (row.1, row.2)) second.fleet)
      (look fun now => staleKeys (world.clusters.entries.map fun row => (row.1, row.2)) now.fleet) second :=
    quiet_look fun _ => ⟨rfl, rfl⟩
  apply holds_seq marked
  intro stale after ⟨sameWorld, sameStale⟩
  subst sameWorld sameStale
  have fleet : second.fleet = world.fleet := swept.fleet.trans gone.fleet
  have distinct : (staleKeys (world.clusters.entries.map fun row => (row.1, row.2)) second.fleet).Nodup := by
    rw [fleet]
    exact keys.sublist (List.filter_sublist.map _)
  have begun : Dropping (staleKeys (world.clusters.entries.map fun row => (row.1, row.2)) second.fleet) second
      (staleKeys (world.clusters.entries.map fun row => (row.1, row.2)) second.fleet) second :=
    ⟨distinct, fun _ => id, rfl, fun cell => ⟨fun member => ⟨member, id⟩, And.left⟩,
      fun _ _ found => ⟨found, fun _ _ marked _ => marked⟩⟩
  apply holds_seq (holds_forEach_rest (fun _ _ _ => quiet_dropStale) begun)
  intro _ third dropped
  apply quiet_act
  intro _ answer _ saves
  rw [if_pos saves]
  exact ⟨kept, collected keys gone swept dropped⟩

theorem quiet_reconcileInner {world : World} (carried : strict → ∀ key name, owns key name → config.carries name = true)
    (matrix : ∀ cell ∈ config.matrix, ∀ name ∈ instanceNames config cell, owns cell.key name) :
    Holds (quiet config owns strict)
      (fun _ after => ∃ before, Kept config owns strict True before ∧ Collected config before after)
      (reconcileInner config) world := by
  have looked : Holds (quiet config owns strict) (fun paused _ => paused = false) isPaused world :=
    quiet_look fun kept => (kept.unpaused trivial).1
  apply holds_seq looked
  intro paused after unpaused
  subst unpaused
  apply holds_seq (quiet_of_safe (safe_reconcileCells carried matrix))
  intro _ after _
  apply holds_seq (quiet_of_safe safe_look)
  intro stale after _
  apply holds_seq (quiet_of_safe (safe_destroyCells carried))
  intro _ before _
  apply holds_seq quiet_gcInner
  intro _ after both
  exact holds_pure ⟨before, both⟩

/-! ## Runs -/

structure Reconciling (config : RunnerConfig) (owns : String → String → Prop) (strict : Prop) (state : Daemon) : Prop where
  world : Kept config owns strict True state.world
  alone : state.tick = none
  op : ∀ job, state.op = some job → Goes config owns strict True state.world job ∧
    Holds (quiet config owns strict)
      (fun _ after => ∃ before, Kept config owns strict True before ∧ Collected config before after)
      job.program { state.world with destroyed := job.destroyed }
  ended : state.op = none → ∃ before, Kept config owns strict True before ∧ Collected config before state.world

theorem forall_of_none {held : Option Job} {holds : Job → Prop} (absent : held = none) (job : Job) (same : held = some job) :
    holds job := absurd (absent.symm.trans same) (Option.some_ne_none job).symm

theorem Collected.restore {before after : World} {destroyed : List Resource}
    (collected : Collected config before { after with destroyed }) : Collected config before after :=
  ⟨collected.saved, collected.cells, collected.clusters, collected.machines⟩

theorem reconciling_turn {state after : Daemon} {answer : Answer} (reconciling : Reconciling config owns strict state)
    (ok : answer.ok = true) (saves : answer.saves = true) (taken : state.step config (.turn answer) = some after) :
    Reconciling config owns strict after := by
  simp only [Daemon.step] at taken
  split at taken
  · cases taken
  · rename_i job working
    obtain ⟨goes, holds⟩ := reconciling.op job working
    split at taken
    · rename_i finished
      cases taken
      refine ⟨reconciling.world, reconciling.alone, forall_of_none rfl, fun _ => ?_⟩
      unfold Job.turn at finished
      cases program : job.program with
      | step change next => simp [program] at finished
      | done result =>
          rw [program] at holds
          obtain ⟨before, kept, collected⟩ := holds
          exact ⟨before, kept, collected.restore⟩
    · rename_i world onward turned
      cases taken
      obtain ⟨later, kept, still⟩ := turn_keeps reconciling.world goes turned
      refine ⟨kept, reconciling.alone, ?_, fun idle => absurd idle (Option.some_ne_none _)⟩
      intro other same
      cases same
      refine ⟨still, ?_⟩
      unfold Job.turn at turned
      cases program : job.program with
      | done result => simp [program] at turned
      | step change next =>
          simp only [program, Option.some.injEq, Prod.mk.injEq] at turned
          obtain ⟨rfl, rfl⟩ := turned
          rw [program] at holds
          exact (holds _ rfl (kept_destroyed reconciling.world _) trivial answer ⟨ok, saves⟩).2.2

theorem reconciling_turns {state final : Daemon} {answers : List Answer} (reconciling : Reconciling config owns strict state)
    (succeed : ∀ answer ∈ answers, answer.ok = true ∧ answer.saves = true)
    (ran : run (Daemon.step config) state (answers.map .turn) = some final) : Reconciling config owns strict final := by
  induction answers generalizing state with
  | nil =>
      cases ran
      exact reconciling
  | cons answer answers ih =>
      obtain ⟨after, taken, rest⟩ := run_cons_some.mp ran
      obtain ⟨ok, saves⟩ := succeed answer List.mem_cons_self
      have onward := reconciling_turn reconciling ok saves taken
      exact ih onward (fun other member => succeed other (List.mem_cons_of_mem _ member)) rest

theorem kept_start {world : World} (begins : Begins config world) (strict : Prop) :
    Kept config (Owns config world) strict False { world with fleet := world.saved } where
  fleet := ⟨⟨begins.recorded.keys, begins.recorded.clusters⟩, fun cell member name named => .inr (.inl ⟨cell, member, rfl, named⟩)⟩
  saved := ⟨⟨begins.recorded.keys, begins.recorded.clusters⟩, fun cell member name named => .inr (.inl ⟨cell, member, rfl, named⟩)⟩
  known := begins.known
  keyed := begins.keyed
  made name machine key found madeFor := .inr (.inr ⟨machine, found, madeFor⟩)
  deleted _ name member := by
    have none : world.deleted = [] := begins.undeleted
    rw [show ({ world with fleet := world.saved } : World).deleted = world.deleted from rfl, none] at member
    cases member
  unpaused := False.elim

theorem keeps_run {world : World} {events : List DaemonEvent} {state : Daemon} {strict : Prop} (begins : Begins config world)
    (carried : strict → ∀ key name, Owns config world key name → config.carries name = true)
    (ran : run (Daemon.step config) (.restart world []) events = some state) :
    Keeps config (Owns config world) strict state := by
  have matrix : ∀ cell ∈ config.matrix, ∀ name ∈ instanceNames config cell, Owns config world cell.key name :=
    fun cell member name listed => .inl ⟨cell, member, rfl, listed⟩
  have initially : Keeps config (Owns config world) strict (.restart world []) := ⟨kept_start begins strict, nofun, nofun⟩
  exact run_invariant (fun _ _ _ keeps taken => keeps_step carried matrix keeps taken) initially ran

theorem swept_of_collected {start world before : World} (kept : Kept config (Owns config start)
      (∀ key name, Owns config start key name → config.carries name = true) True world)
    (earlier : Kept config (Owns config start)
      (∀ key name, Owns config start key name → config.carries name = true) True before)
    (collected : Collected config before world) : Swept config start world where
  machines name machine found carried := by
    rw [collected.saved]
    exact (collected.machines name machine found).2 carried
  clusters id name found carried := by
    obtain ⟨there, tracked⟩ := (collected.clusters id name).mp found
    obtain ⟨cell, member, cluster⟩ := tracked carried
    rw [collected.saved]
    refine ⟨cell, (collected.cells cell).mpr ⟨member, fun other same => ?_⟩, cluster⟩
    cases cluster.symm.trans same
    rw [there]
    rfl
  standing cell member id cluster := by
    rw [collected.saved] at member
    obtain ⟨before, listed⟩ := (collected.cells cell).mp member
    obtain ⟨name, there⟩ := Option.isSome_iff_exists.mp (listed id cluster)
    have own := (earlier.fleet.clusters cell before id cluster).2 name there
    subst own
    exact (collected.clusters id _).mpr ⟨there, fun _ => ⟨cell, before, cluster⟩⟩
  own unique cell member name named machine key found madeFor :=
    unique name cell.key key (kept.saved.names cell member name named) (kept.made name machine key found madeFor)
  tidy carry := ⟨fun cell member name named => carry cell.key name (kept.saved.names cell member name named),
    kept.deleted carry⟩

/-- After any run, a restart and a complete reconcile, nothing that carries the prefix is left unrecorded. -/
theorem swept_after_restart (config : RunnerConfig) (world : World) (begins : Begins config world)
    (events : List DaemonEvent) (crashed : Daemon)
    (ran : run (Daemon.step config) (.restart world []) events = some crashed)
    (unpaused : crashed.world.saved.paused = false) (answers : List Answer)
    (succeed : ∀ answer ∈ answers, answer.ok = true ∧ answer.saves = true) (final : Daemon)
    (complete : run (Daemon.step config) crashed (.crash :: .call .reconcile :: answers.map .turn) = some final)
    (ended : final.op = none) : Swept config world final.world := by
  have matrix : ∀ cell ∈ config.matrix, ∀ name ∈ instanceNames config cell, Owns config world cell.key name :=
    fun cell member name listed => .inl ⟨cell, member, rfl, listed⟩
  have keeps := keeps_run begins id ran
  have saved : Kept config (Owns config world) (∀ key name, Owns config world key name → config.carries name = true) True
      { crashed.world with fleet := crashed.world.saved } := {
    fleet := keeps.world.saved.later ⟨le_rfl, fun _ _ found _ => found⟩
    saved := keeps.world.saved.later ⟨le_rfl, fun _ _ found _ => found⟩
    known := keeps.world.known
    keyed := keeps.world.keyed
    made := keeps.world.made
    deleted := keeps.world.deleted
    unpaused := fun _ => ⟨unpaused, unpaused⟩ }
  obtain ⟨restarted, crash, complete⟩ := run_cons_some.mp complete
  cases crash
  obtain ⟨begun, call, complete⟩ := run_cons_some.mp complete
  cases call
  have begins : Reconciling config (Owns config world) (∀ key name, Owns config world key name → config.carries name = true)
      { Daemon.restart crashed.world crashed.gone with op := some ⟨program config .reconcile, []⟩ } := {
    world := saved
    alone := rfl
    op := by
      intro job same
      cases same
      exact ⟨⟨_, .refl _, safe_reconcileInner id matrix⟩, quiet_reconcileInner id matrix⟩
    ended := nofun }
  have throughout := reconciling_turns begins succeed complete
  obtain ⟨before, earlier, collected⟩ := throughout.ended ended
  exact swept_of_collected throughout.world earlier collected

/-! ## Three fleets -/

def answered : Answer := ⟨true, true, true, 5, 0, true, [], some .running⟩

def turnsOf (count : Nat) : List DaemonEvent := List.replicate count (.turn answered)

def emptyWorld : World := ⟨⟨[], false⟩, ⟨[], false⟩, ∅, ∅, 0, [], [], false⟩

def fleetOf (namePrefix : String) (keys : List String) : RunnerConfig := ⟨namePrefix, keys.map fun key => ⟨key, 1⟩, 2, 100⟩

theorem begins_empty (config : RunnerConfig) : Begins config emptyWorld :=
  ⟨⟨List.nodup_nil, nofun⟩, nofun, nofun, rfl, rfl⟩

/-- A crash after the cell was recorded, and before its instance was made. -/
def crashedEarly : List DaemonEvent := .call .reconcile :: turnsOf 23

theorem swept_after_restart_crashed : ∃ crashed final,
    run (Daemon.step (fleetOf "mmr-" ["a"])) (.restart emptyWorld []) crashedEarly = some crashed ∧
    run (Daemon.step (fleetOf "mmr-" ["a"])) crashed (.crash :: .call .reconcile :: turnsOf 12) = some final ∧
    Swept (fleetOf "mmr-" ["a"]) emptyWorld final.world := by
  have ends : ((run (Daemon.step (fleetOf "mmr-" ["a"])) (.restart emptyWorld []) crashedEarly).any fun crashed =>
      !crashed.world.saved.paused &&
        (run (Daemon.step (fleetOf "mmr-" ["a"])) crashed (.crash :: .call .reconcile :: turnsOf 12)).any fun final =>
          final.op.isNone) = true := by decide +kernel
  obtain ⟨crashed, ran, both⟩ := (Option.any_eq_true _ _).mp ends
  obtain ⟨unpaused, finishes⟩ := Bool.and_eq_true _ _ ▸ both
  obtain ⟨final, complete, ended⟩ := (Option.any_eq_true _ _).mp finishes
  have answers : turnsOf 12 = (List.replicate 12 answered).map .turn := rfl
  have running : crashed.world.saved.paused = false := by simpa using unpaused
  have succeed : ∀ answer ∈ List.replicate 12 answered, answer.ok = true ∧ answer.saves = true := by
    intro answer member
    rw [List.eq_of_mem_replicate member]
    exact ⟨rfl, rfl⟩
  refine ⟨crashed, final, ran, complete, ?_⟩
  rw [answers] at complete
  exact swept_after_restart _ emptyWorld (begins_empty _) crashedEarly crashed ran running (List.replicate 12 answered)
    succeed final complete (Option.isNone_iff_eq_none.mp ended)

/-- A recorded instance that is not there, lacks the prefix, or was made for another cell. -/
def astray (config : RunnerConfig) (world : World) : Bool :=
  world.saved.cells.any fun cell => (namesOf cell.stage).any fun name =>
    match world.machines.lookup name with
    | none => true
    | some machine => !config.carries name || machine.madeFor.any fun key => key ≠ cell.key

theorem not_exact_of_astray {config : RunnerConfig} {world : World} (wrong : astray config world = true) :
    ¬ Exact config world := by
  intro exact_
  obtain ⟨cell, member, names⟩ := List.any_eq_true.mp wrong
  obtain ⟨name, named, problem⟩ := List.any_eq_true.mp names
  obtain ⟨there, carried⟩ := (exact_.machines name).mp ⟨cell, member, named⟩
  cases found : world.machines.lookup name with
  | none => simp [found] at there
  | some machine =>
      simp only [found, carried, Bool.not_true, Bool.false_or] at problem
      obtain ⟨key, madeFor, other⟩ := (Option.any_eq_true _ _).mp problem
      exact of_decide_eq_true other (exact_.own cell member name named machine key found madeFor)

theorem not_exact_of_run {config : RunnerConfig} {events : List DaemonEvent}
    (ends : (run (Daemon.step config) (.restart emptyWorld []) events).any (fun final =>
      final.op.isNone && astray config final.world) = true) :
    ∃ final, run (Daemon.step config) (.restart emptyWorld []) events = some final ∧ final.op = none ∧
      ¬ Exact config final.world := by
  obtain ⟨final, ran, both⟩ := (Option.any_eq_true _ _).mp ends
  obtain ⟨ended, wrong⟩ := Bool.and_eq_true _ _ ▸ both
  exact ⟨final, ran, Option.isNone_iff_eq_none.mp ended, not_exact_of_astray wrong⟩

/-- The recorded instance was never made, does not carry the prefix, or was made for another cell of the same name. -/
theorem misses_strays_and_mixes :
    (∃ final, run (Daemon.step (fleetOf "mmr-" ["a"])) (.restart emptyWorld [])
        (crashedEarly ++ [.crash, .call .reconcile] ++ turnsOf 12) = some final ∧ final.op = none ∧
      ¬ Exact (fleetOf "mmr-" ["a"]) final.world) ∧
    (∃ final, run (Daemon.step (fleetOf "MMR_" ["a"])) (.restart emptyWorld []) ([.crash, .call .reconcile] ++ turnsOf 32) =
      some final ∧ final.op = none ∧ ¬ Exact (fleetOf "MMR_" ["a"]) final.world) ∧
    ∃ final, run (Daemon.step (fleetOf "mmr-" ["A", "a"])) (.restart emptyWorld []) ([.crash, .call .reconcile] ++ turnsOf 56) =
      some final ∧ final.op = none ∧ ¬ Exact (fleetOf "mmr-" ["A", "a"]) final.world :=
  ⟨not_exact_of_run (by decide +kernel), not_exact_of_run (by decide +kernel), not_exact_of_run (by decide +kernel)⟩

end MacMgmt.Proof.Runner
