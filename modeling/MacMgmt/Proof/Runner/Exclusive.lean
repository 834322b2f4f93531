import MacMgmt.Proof.Runner.Alone
import MacMgmt.Proof.Runner.Sweep

/-!
# Every operation ends at rest

One lemma for each function of the orchestrator: alone and from a world at rest, it ends in one. No two cells use one name, so
what is destroyed for a cell is referred to by that cell alone.
-/

namespace MacMgmt.Proof.Runner
open Lib Task MacMgmt.Runner Orchestrator

variable {config : RunnerConfig} {owns : String → String → Prop} {gone : List Resource}

section Operations
variable {world : World} {A : Type}

abbrev Settles (config : RunnerConfig) (owns : String → String → Prop) (gone : List Resource) (task : Orchestrator A)
    (world : World) : Prop :=
  Holds (alone config owns gone) (fun _ => Rest) task world

/-! ## What a stage refers to -/

theorem refers_eq_false {stage : CellStage} {resource : Resource}
    (cluster : ∀ id, stage.clusterId = some id → resource ≠ .cluster id)
    (machines : ∀ spec ∈ stage.instances, resource ≠ .machine spec.instanceName spec.instanceId) :
    stage.refers resource = false := by
  cases resource with
  | cluster id =>
      apply decide_eq_false
      exact fun same => cluster id same rfl
  | machine name id =>
      apply List.any_eq_false.mpr
      intro spec member both
      rw [Bool.and_eq_true, decide_eq_true_eq, decide_eq_true_eq] at both
      exact machines spec member (by rw [both.1, both.2])

theorem ne_cluster {stage : CellStage} {resource : Resource} {id : Uuid} (unused : stage.refers resource = false)
    (cluster : stage.clusterId = some id) : resource ≠ .cluster id := by
  intro same
  subst same
  exact of_decide_eq_false unused cluster

theorem ne_machine {stage : CellStage} {resource : Resource} {spec : InstanceSpec} (unused : stage.refers resource = false)
    (member : spec ∈ stage.instances) : resource ≠ .machine spec.instanceName spec.instanceId := by
  intro same
  subst same
  apply List.any_eq_false.mp unused spec member
  simp

theorem mem_namesOf {stage : CellStage} {name : String} {id : Nat} (refers : stage.refers (.machine name id) = true) :
    name ∈ namesOf stage := by
  obtain ⟨spec, member, both⟩ := List.any_eq_true.mp refers
  rw [Bool.and_eq_true, decide_eq_true_eq, decide_eq_true_eq] at both
  exact List.mem_map.mpr ⟨spec, member, both.1⟩

theorem unused_of_unusedBut {key : String} {resource : Resource} (kept : Kept config owns False False world)
    (others : UnusedBut key world resource)
    (own : ∀ stage, world.stageOf key = some stage → stage.refers resource = false) : Unused world resource := by
  intro cell member
  by_cases same : cell.key = key
  · exact own cell.stage (same ▸ stageOf_of_mem kept.fleet.keys member)
  · exact others cell member same

theorem clusterName_injective {key other : String} (same : config.clusterName key = config.clusterName other) :
    key = other := by
  unfold RunnerConfig.clusterName at same
  have lists := congrArg String.toList same
  rw [String.toList_append, String.toList_append] at lists
  exact String.toList_inj.mp (List.append_cancel_left lists)

theorem unusedBut_cluster {key : String} {id : Uuid} (kept : Kept config owns False False world)
    (there : world.clusters.lookup id = some (config.clusterName key)) : UnusedBut key world (.cluster id) := by
  intro cell member other
  apply decide_eq_false
  intro cluster
  have named := (kept.fleet.clusters cell member id cluster).2 _ there
  exact other (clusterName_injective named).symm

theorem unusedBut_own {key : String} {stage : CellStage} {id : Uuid} (kept : Kept config owns False False world)
    (read : world.stageOf key = some stage) (cluster : stage.clusterId = some id) {name : String}
    (there : world.clusters.lookup id = some name) : UnusedBut key world (.cluster id) := by
  have named := (kept.read read).1 id cluster
  rw [named.2 name there] at there
  exact unusedBut_cluster kept there

theorem fresh_of_read {key : String} {stage : CellStage} (steady : Steady config gone world) (clean : Clean world)
    (read : world.stageOf key = some stage) : ∀ resource ∈ gone ++ world.destroyed, stage.refers resource = false := by
  intro resource member
  obtain ⟨cell, listed, _, sameStage⟩ := stageOf_some read
  rw [← sameStage]
  exact (List.mem_append.mp member).elim (fun lost => steady.fleet.live resource lost cell listed)
    fun destroyed => clean resource destroyed cell listed

section Names
variable (unique : ∀ name key other, owns key name → owns other name → other = key)
include unique

theorem unusedBut_machine {key name : String} {id : Nat} (kept : Kept config owns False False world)
    (owned : owns key name) : UnusedBut key world (.machine name id) := by
  intro cell member other
  cases refers : cell.stage.refers (.machine name id) with
  | false => rfl
  | true => exact absurd (unique name key cell.key owned (kept.fleet.names cell member name (mem_namesOf refers))) other

end Names

/-! ## Transitions -/

theorem aside_deleteInstances (kind : Resource → Prop) {names : List String}
    (expected : ∀ name ∈ names, ∀ id, kind (.machine name id)) :
    Aside config owns gone kind (deleteInstances names) world := by
  apply aside_forEach
  intro name member after _
  apply aside_seq (aside_deleteInstance (expected name member))
  intro _ _ _
  exact aside_pure

theorem settles_persistStage {cell : MatrixCell} {expected : Option CellStage} {stage : CellStage} {now : Nat}
    {change : CellState → CellState} (keeps : ∀ state, (change state).key = state.key ∧ (change state).stage = state.stage)
    (read : world.stageOf cell.key = expected) (clean : CleanBut cell.key world)
    (fresh : Steady config gone world → ∀ resource ∈ gone ++ world.destroyed, stage.refers resource = false)
    (room : stage.isLaunching = true → 0 < config.maxConcurrentLaunches →
      world.fleet.launching < config.maxConcurrentLaunches) :
    Settles config owns gone (persistStage cell expected stage now change) world := by
  apply alone_look_seq
  intro _ _
  obtain ⟨keptKey, keptStage⟩ := keeps
    { key := cell.key, stage
      deployFailures := ((world.fleet.find cell.key).map CellState.deployFailures).getD 0
      lastReprovisionedAt := ((world.fleet.find cell.key).map CellState.lastReprovisionedAt).getD now }
  apply holds_seq
  · apply settles_persistCell
    · rw [keptKey]
      exact read
    · rw [keptKey]
      exact clean
    · rw [keptStage]
      exact fresh
    · rw [keptStage]
      exact room
  · intro _ after ⟨_, rest, _⟩
    exact holds_pure rest

section Cells
variable {cell : MatrixCell} (unique : ∀ name key other, owns key name → owns other name → other = key)
variable (matrix : ∀ cell ∈ config.matrix, ∀ name ∈ instanceNames config cell, owns cell.key name)
variable (distinct : ∀ key name, owns key name → ∀ cell ∈ config.matrix, cell.key ≠ key → name ≠ config.clusterName cell.key)

theorem fresh_cluster {stage : CellStage} {id : Uuid} (handed : Fresh gone world id)
    (same : stage.clusterId = some id) (bare : stage.instances = []) :
    ∀ resource ∈ gone ++ world.destroyed, stage.refers resource = false := by
  intro resource member
  apply refers_eq_false
  · intro other cluster lost
    rw [same] at cluster
    cases cluster
    rw [lost] at member
    exact absurd (handed _ member) (Nat.lt_irrefl id)
  · rw [bare]
    exact nofun

theorem unused_stray {id : Uuid} (kept : Kept config owns False False world)
    (there : world.clusters.lookup id = some (config.clusterName cell.key))
    (pending : (world.stageOf cell.key).getD .pending = .pending) : Unused world (.cluster id) := by
  apply unused_of_unusedBut kept (unusedBut_cluster kept there)
  intro stage read
  rw [read] at pending
  cases pending
  rfl

include distinct in
theorem unused_strayMachine {id : Nat} (kept : Kept config owns False False world) (member : cell ∈ config.matrix)
    (pending : (world.stageOf cell.key).getD .pending = .pending) :
    Unused world (.machine (config.clusterName cell.key) id) := by
  apply unused_of_unusedBut kept
  · show UnusedBut cell.key world _
    intro other listed different
    cases refers : other.stage.refers (.machine (config.clusterName cell.key) id) with
    | false => rfl
    | true =>
        have owned := kept.fleet.names other listed _ (mem_namesOf refers)
        exact absurd rfl (distinct other.key _ owned cell member (Ne.symm different))
  · intro stage read
    rw [read] at pending
    cases pending
    rfl

include distinct in
theorem settles_enterClusterCreated {expected : Option CellStage} (member : cell ∈ config.matrix)
    (read : world.stageOf cell.key = expected) (pending : expected.getD .pending = .pending) (rest : Rest world) :
    Settles config owns gone (enterClusterCreated config cell expected) world := by
  rw [← read] at pending
  apply alone_ask_seq
  intro kept steady answer
  have strays : Aside config owns gone (Unused world) (deleteStray (config.clusterName cell.key)
      (if answer.ok then some (world.clusters.entries.map fun row => (row.1, row.2)) else none)) world := by
    cases answer.ok with
    | false => exact aside_pure
    | true =>
        simp only [if_true, deleteStray]
        split
        · exact aside_pure
        · rename_i stray found
          have chosen := List.find?_some found
          have named : stray.2 = config.clusterName cell.key := of_decide_eq_true chosen
          have there := named ▸ mem_rows (List.mem_of_find?_eq_some found)
          apply aside_seq
          · apply aside_deleteInstance
            intro id
            exact unused_strayMachine distinct kept member pending
          · intro _ after _
            apply aside_seq
            · apply aside_deleteCluster
              intro _ _ _
              exact unused_stray kept there pending
            · intro _ _ _
              exact aside_pure
  apply holds_seq strays
  intro _ swept outside
  apply holds_seq (alone_createCluster (Unused world))
  intro created after ⟨further, handed⟩
  have reached := outside.trans further
  have again := reached.rest rest
  cases created with
  | none => exact holds_pure again
  | some id =>
      apply alone_ask_seq
      intro _ _ now
      apply settles_persistStage (fun _ => ⟨rfl, rfl⟩)
      · exact (reached.stageOf cell.key).trans read
      · exact again.clean.but cell.key
      · intro _
        exact fresh_cluster (handed id rfl) rfl rfl
      · nofun

theorem settles_enterConfigPushed {id time : Nat} (read : world.stageOf cell.key = some (.clusterCreated id time))
    (rest : Rest world) :
    Settles config owns gone (enterConfigPushed cell (some (.clusterCreated id time)) id) world := by
  apply alone_ask_seq
  intro _ _ answer
  split
  · apply alone_ask_seq
    intro _ _ now
    apply settles_persistStage (fun _ => ⟨rfl, rfl⟩) read (rest.clean.but cell.key)
    · intro steady resource member
      have unused := fresh_of_read steady rest.clean read resource member
      apply refers_eq_false
      · intro other same
        exact ne_cluster unused same
      · nofun
    · nofun
  · exact holds_pure rest

theorem alone_planInstances {id : Uuid} {names : List String} :
    Holds (alone config owns gone) (fun planned after => Outside (fun _ => False) world after ∧
      ∀ instances, planned = some instances → ∀ spec ∈ instances, Fresh gone after spec.instanceId)
      (planInstances id names) world := by
  induction names generalizing world with
  | nil =>
      refine holds_pure ⟨.refl world, fun instances same => ?_⟩
      cases same
      nofun
  | cons name names ih =>
      apply holds_seq (alone_generateHostKey fun _ => False)
      intro instanceId after ⟨outside, handed⟩
      apply alone_ask_seq
      intro _ _ answer
      split
      · apply holds_seq ih
        intro planned last ⟨further, others⟩
        have reached := outside.trans further
        cases planned with
        | none => exact holds_pure ⟨reached, nofun⟩
        | some planned =>
            refine holds_pure ⟨reached, fun instances same => ?_⟩
            cases same
            intro spec member
            obtain first | later := List.mem_cons.mp member
            · intro resource lost
              rw [first]
              apply handed
              obtain before | now := List.mem_append.mp lost
              · exact List.mem_append_left _ before
              · exact List.mem_append_right _ ((further.destroyed resource now).resolve_right not_false)
            · exact others planned rfl spec later
      · exact holds_pure ⟨outside, nofun⟩

theorem aside_createInstances (kind : Resource → Prop) {key : String} {planned : List InstanceSpec} :
    Aside config owns gone kind (createInstances key planned) world := by
  induction planned generalizing world with
  | nil => exact aside_pure
  | cons spec planned ih =>
      apply aside_seq aside_createInstance
      intro created after _
      cases created with
      | false => exact aside_pure
      | true => exact ih

include unique matrix in
theorem aside_deleteLeftovers {id time : Nat} (member : cell ∈ config.matrix) (kept : Kept config owns False False world)
    (read : world.stageOf cell.key = some (.configPushed id time)) :
    Aside config owns gone (Unused world) (forEach deleteLeftover (instanceNames config cell)) world := by
  apply aside_forEach
  intro name listed after _
  apply aside_seq aside_ask
  intro there _ _
  cases there with
  | false => exact aside_pure
  | true =>
      apply aside_seq
      · apply aside_deleteInstance
        intro instanceId
        apply unused_of_unusedBut kept (unusedBut_machine unique kept (matrix cell member name listed))
        intro stage same
        rw [read] at same
        cases same
        rfl
      · intro _ _ _
        exact aside_pure

include unique matrix in
theorem settles_enterLaunching {id time : Nat} (member : cell ∈ config.matrix)
    (read : world.stageOf cell.key = some (.configPushed id time)) (rest : Rest world)
    (kept : Kept config owns False False world)
    (room : 0 < config.maxConcurrentLaunches → world.fleet.launching < config.maxConcurrentLaunches) :
    Settles config owns gone (enterLaunching config cell (some (.configPushed id time)) id) world := by
  apply holds_seq (aside_deleteLeftovers unique matrix member kept read)
  intro _ swept outside
  apply holds_seq alone_planInstances
  intro planned after ⟨further, handed⟩
  have reached := outside.trans (further.imp fun _ => False.elim)
  have again := reached.rest rest
  have still : after.stageOf cell.key = some (.configPushed id time) := (reached.stageOf cell.key).trans read
  cases planned with
  | none => exact holds_pure again
  | some instances =>
      apply alone_ask_seq
      intro _ _ now
      apply holds_seq
      · apply settles_persistStage (fun _ => ⟨rfl, rfl⟩) still (again.clean.but cell.key)
        · intro steady resource lost
          have unused := fresh_of_read steady again.clean still resource lost
          apply refers_eq_false
          · intro other same
            exact ne_cluster unused same
          · intro spec listed same
            have below := handed instances rfl spec listed resource lost
            rw [same] at below
            exact Nat.lt_irrefl _ below
        · intro _ capped
          rw [reached.fleet]
          exact room capped
      · intro persisted last settled
        cases persisted with
        | none => exact holds_pure settled
        | some stage =>
            apply holds_seq (aside_createInstances (Unused last))
            intro _ ended launched
            exact holds_pure (launched.rest settled)

include unique in
theorem settles_onLaunchTimeout {id since : Nat} {instances : List InstanceSpec} (kept : Kept config owns False False world)
    (read : world.stageOf cell.key = some (.launching id instances since)) (rest : Rest world) :
    Settles config owns gone
      (onLaunchTimeout cell (.launching id instances since) (some (.launching id instances since)) id) world := by
  apply alone_look_seq
  intro _ steady
  let kind : Resource → Prop := fun resource => UnusedBut cell.key world resource ∧ resource ≠ .cluster id
  apply holds_seq
  · apply aside_deleteInstances kind
    intro name listed instanceId
    exact ⟨unusedBut_machine unique kept ((kept.read read).2 name listed), nofun⟩
  · intro _ after outside
    apply alone_ask_seq
    intro _ _ now
    refine settles_persistStage (fun _ => ⟨rfl, rfl⟩) ?_ ?_ ?_ nofun
    · exact (outside.stageOf cell.key).trans read
    · exact (outside.imp fun _ => And.left).cleanBut rest.clean
    · intro _ resource lost
      have unused := fresh_of_read steady rest.clean read resource
      apply refers_eq_false
      · intro other same
        cases same
        obtain before | now := List.mem_append.mp lost
        · exact ne_cluster (unused (List.mem_append_left _ before)) rfl
        · exact (outside.destroyed resource now).elim
            (fun earlier => ne_cluster (unused (List.mem_append_right _ earlier)) rfl) And.right
      · nofun

include unique in
theorem settles_pollLaunching {id since : Nat} {instances : List InstanceSpec}
    (read : world.stageOf cell.key = some (.launching id instances since)) (rest : Rest world) :
    Settles config owns gone (pollLaunching config cell (some (.launching id instances since)) id instances since) world := by
  apply alone_ask_seq
  intro kept _ answer
  generalize (if answer.ok then some answer.alive else none) = rows
  split
  · apply alone_ask_seq
    intro _ _ now
    refine settles_persistStage (fun _ => ⟨rfl, rfl⟩) read (rest.clean.but cell.key) ?_ nofun
    intro steady resource lost
    have unused := fresh_of_read steady rest.clean read resource lost
    apply refers_eq_false
    · intro other same
      exact ne_cluster unused same
    · intro spec listed
      exact ne_machine unused listed
  · apply alone_ask_seq
    intro _ _ now
    split
    · exact settles_onLaunchTimeout unique kept read rest
    · exact holds_pure rest

include unique matrix distinct in
theorem settles_driveCell (member : cell ∈ config.matrix) (rest : Rest world) :
    Settles config owns gone (driveCell config cell) world := by
  apply alone_look_seq
  intro kept _
  cases read : world.stageOf cell.key with
  | none => exact settles_enterClusterCreated distinct member read rfl rest
  | some stage =>
      cases stage with
      | pending => exact settles_enterClusterCreated distinct member read rfl rest
      | clusterCreated id time => exact settles_enterConfigPushed read rest
      | configPushed id time =>
          apply alone_look_seq
          intro _ _
          split
          · exact holds_pure rest
          · rename_i room
            apply settles_enterLaunching unique matrix member read rest kept
            intro capped
            exact Nat.lt_of_not_le fun full => room ⟨capped, full⟩
      | launching id instances since => exact settles_pollLaunching unique read rest
      | running id instances since =>
          apply alone_ask_seq
          intro _ _ _
          exact holds_pure rest

include unique matrix distinct in
theorem settles_reconcileCell {steps : Nat} (member : cell ∈ config.matrix) (rest : Rest world) :
    Settles config owns gone (reconcileCell config cell steps) world := by
  induction steps generalizing world with
  | zero => exact holds_pure rest
  | succ steps ih =>
      apply holds_seq (settles_driveCell unique matrix distinct member rest)
      intro last after settled
      cases last with
      | none => exact holds_pure settled
      | some last =>
          dsimp only
          split
          · exact holds_pure settled
          · exact ih settled

/-! ## Cells that go -/

theorem aside_deleteOwn {key : String} {stage : CellStage} (read : world.stageOf key = some stage) :
    Aside config owns gone (UnusedBut key world) (deleteOwn stage.clusterId) world := by
  cases cluster : stage.clusterId with
  | none => exact aside_pure
  | some id =>
      apply aside_seq
      · apply aside_deleteCluster
        intro kept name there
        exact unusedBut_own kept read cluster there
      · intro _ _ _
        exact aside_pure

include unique in
theorem aside_deleteNames {key : String} (kept : Kept config owns False False world) :
    Aside config owns gone (UnusedBut key world) (deleteInstances (((world.stageOf key).map namesOf).getD [])) world := by
  apply aside_deleteInstances (UnusedBut key world)
  intro name listed id
  cases read : world.stageOf key with
  | none =>
      rw [read] at listed
      cases listed
  | some stage =>
      rw [read] at listed
      exact unusedBut_machine unique kept ((kept.read read).2 name listed)

structure Gone (key : String) (before after : World) : Prop extends Rest after where
  unread : after.stageOf key = none
  cells : ∀ cell ∈ after.fleet.cells, cell ∈ before.fleet.cells ∧ cell.key ≠ key

include unique in
theorem settles_destroyCell {key : String} (rest : Rest world) :
    Holds (alone config owns gone) (fun _ => Gone key world) (destroyCell key) world := by
  apply alone_look_seq
  intro kept _
  cases read : world.stageOf key with
  | none =>
      refine holds_pure ⟨rest, read, fun cell member => ⟨member, fun same => ?_⟩⟩
      have found := stageOf_of_mem kept.fleet.keys member
      rw [same, read] at found
      cases found
  | some stage =>
      have names : Aside config owns gone (UnusedBut key world)
          (deleteInstances (((world.stageOf key).map namesOf).getD [])) world := aside_deleteNames unique kept
      rw [read] at names
      apply holds_seq names
      intro _ second outside
      apply holds_seq (aside_deleteOwn ((outside.stageOf key).trans read))
      intro _ third further
      have reached : Outside (UnusedBut key world) world third := by
        apply outside.trans (further.imp _)
        intro resource unused
        unfold UnusedBut at unused ⊢
        rwa [outside.fleet] at unused
      apply holds_seq
      · exact alone_removeCell ((reached.stageOf key).trans read) (reached.cleanBut rest.clean)
      · intro _ removed ⟨clean, fleet⟩
        apply alone_saveState
        intro _ _
        refine ⟨⟨rfl, clean⟩, ?_, fun cell member => ?_⟩
        · show (removed.fleet.find key).map CellState.stage = none
          rw [fleet, find_remove]
          rfl
        · rw [show ({ removed with saved := removed.fleet } : World).fleet = removed.fleet from rfl, fleet,
            reached.fleet] at member
          obtain ⟨before, other⟩ := List.mem_filter.mp member
          exact ⟨before, by simpa using other⟩

include unique in
theorem clean_dropStale {key : String} (clean : Clean world) :
    Holds (alone config owns gone) (fun _ => Clean) (dropStale key) world := by
  apply alone_look_seq
  intro kept _
  apply holds_seq (aside_deleteNames unique kept)
  intro _ after outside
  apply (alone_removeCell (outside.stageOf key) (outside.cleanBut clean)).imp
  intro _ _ removed
  exact removed.1

/-! ## Whole operations -/

theorem unused_untrackedName {name : String} {id : Nat} (untracked : name ∉ trackedNames world.fleet) :
    Unused world (.machine name id) := by
  intro cell member
  cases refers : cell.stage.refers (.machine name id) with
  | false => rfl
  | true => exact absurd (mem_trackedNames.mpr ⟨cell, member, mem_namesOf refers⟩) untracked

theorem unused_untrackedCluster {id : Uuid} (untracked : id ∉ trackedClusters world.fleet) :
    Unused world (.cluster id) := by
  intro cell member
  apply decide_eq_false
  intro cluster
  exact untracked (mem_trackedClusters.mpr ⟨cell, member, cluster⟩)

include unique in
theorem settles_gcInner (rest : Rest world) : Settles config owns gone (gcInner config) world := by
  apply alone_look_seq
  intro _ _
  split
  · exact holds_pure rest
  · apply alone_look_seq
    intro _ _
    apply alone_ask_seq
    intro _ _ listing
    split
    · exact holds_pure rest
    · apply alone_ask_seq
      intro _ _ answer
      split
      · exact holds_pure rest
      · apply holds_seq
        · apply aside_deleteInstances (Unused world)
          intro name listed id
          have untracked := (Bool.and_eq_true _ _ ▸ (List.mem_filter.mp listed).2).2
          exact unused_untrackedName (of_decide_eq_true untracked)
        · intro _ second outside
          apply holds_seq
          · show Aside config owns gone (Unused world) _ second
            apply aside_forEach
            intro row listed _ _
            have untracked := (Bool.and_eq_true _ _ ▸ (List.mem_filter.mp listed).2).2
            apply aside_seq
            · apply aside_deleteCluster
              intro _ _ _
              exact unused_untrackedCluster (of_decide_eq_true untracked)
            · intro _ _ _
              exact aside_pure
          · intro _ third further
            have clean := (outside.trans further).clean rest.clean
            apply alone_look_seq
            intro _ _
            apply holds_seq
            · apply holds_forEach _ clean
              intro key _ state clean
              exact clean_dropStale unique clean
            · intro _ last clean
              apply alone_saveState
              intro _ _
              exact ⟨rfl, clean⟩

include unique in
theorem settles_destroyCells {keys : List String} (rest : Rest world) :
    Settles config owns gone (forEach (fun key => do let _ ← destroyCell key) keys) world := by
  apply holds_forEach _ rest
  intro key _ state rest
  apply holds_seq (settles_destroyCell unique rest)
  intro _ after destroyed
  exact holds_pure destroyed.toRest

include unique matrix distinct in
theorem settles_reconcileInner (rest : Rest world) : Settles config owns gone (reconcileInner config) world := by
  apply alone_look_seq
  intro _ _
  split
  · exact holds_pure rest
  · apply holds_seq
    · apply holds_forEach _ rest
      intro cell member state rest
      apply holds_seq (settles_reconcileCell unique matrix distinct member rest)
      intro _ _ settled
      exact holds_pure settled
    · intro _ second rest
      apply alone_look_seq
      intro _ _
      apply holds_seq (settles_destroyCells unique rest)
      intro _ third rest
      apply holds_seq (settles_gcInner unique rest)
      intro _ _ settled
      exact holds_pure settled

theorem settles_setPaused {paused : Bool} (rest : Rest world) :
    Holds (alone config owns gone) (fun saved after => saved = true ∧ Rest after ∧ after.fleet.cells = world.fleet.cells)
      (setPaused paused) world := by
  apply alone_write
  intro _ steady
  exact ⟨_, rfl, ⟨steady.fleet.live, steady.fleet.throttled⟩, rfl, ⟨rfl, rest.clean⟩, rfl⟩

include unique matrix distinct in
theorem settles_reprovisionCellInner {key : String} (rest : Rest world) :
    Settles config owns gone (reprovisionCellInner config key) world := by
  unfold reprovisionCellInner
  split
  · exact holds_pure rest
  · rename_i cell found
    have member := List.mem_of_find?_eq_some found
    have chosen := List.find?_some found
    have named : cell.key = key := of_decide_eq_true chosen
    apply holds_seq (settles_setPaused rest)
    intro unpaused second ⟨saved, rest, _⟩
    rw [if_pos saved]
    apply holds_seq (settles_destroyCell unique rest)
    intro destroyed third destruction
    split
    · apply alone_ask_seq
      intro _ _ now
      apply holds_seq
      · apply settles_persistCell
        · show third.stageOf cell.key = none
          rw [named, destruction.unread]
        · exact destruction.clean.but cell.key
        · intro _ resource _
          exact refers_eq_false nofun nofun
        · nofun
      · intro persisted fourth ⟨written, rest, _⟩
        rw [if_pos written]
        apply holds_seq (settles_reconcileCell unique matrix distinct member rest)
        intro _ _ settled
        exact holds_pure settled
    · exact holds_pure destruction.toRest

include unique matrix distinct in
theorem settles_reprovisionRandomInner (rest : Rest world) :
    Settles config owns gone (reprovisionRandomInner config) world := by
  apply holds_seq (settles_setPaused rest)
  intro unpaused second ⟨saved, rest, _⟩
  rw [if_pos saved]
  apply alone_look_seq
  intro _ _
  apply alone_ask_seq
  intro _ _ answer
  split
  · exact holds_pure rest
  · exact settles_reprovisionCellInner unique matrix distinct rest

theorem unused_of_empty {resource : Resource} (empty : world.fleet.cells = []) : Unused world resource := by
  intro cell member
  rw [empty] at member
  cases member

theorem aside_sweepPrefix {rows : Option (List (Uuid × String))} {origin : World} (empty : origin.fleet.cells = []) :
    Aside config owns gone (Unused origin) (sweepPrefix config rows) world := by
  cases rows with
  | none => exact aside_pure
  | some rows =>
      apply aside_forEach
      intro row _ after _
      apply aside_seq
      · apply aside_deleteInstance
        intro id
        exact unused_of_empty empty
      · intro _ _ _
        apply aside_seq
        · apply aside_deleteCluster
          intro _ _ _
          exact unused_of_empty empty
        · intro _ _ _
          exact aside_pure

include unique in
theorem settles_teardownInner (rest : Rest world) :
    Holds (alone config owns gone) (fun _ after => Rest after ∧ after.fleet.cells = []) (teardownInner config) world := by
  apply alone_look_seq
  intro _ _
  have all : Holds (alone config owns gone) (fun _ after => Rest after ∧ ∀ cell ∈ after.fleet.cells, cell.key ∈ [])
      (forEach (fun key => do let _ ← destroyCell key) (world.fleet.cells.map CellState.key)) world := by
    let invariant (keys : List String) (state : World) : Prop := Rest state ∧ ∀ cell ∈ state.fleet.cells, cell.key ∈ keys
    refine @holds_forEach_rest _ _ _ _ _ _ invariant _ ?_ ?_
    · intro key keys state ⟨rest, listed⟩
      apply holds_seq (settles_destroyCell unique rest)
      intro _ after destruction
      refine holds_pure ⟨destruction.toRest, fun cell member => ?_⟩
      obtain ⟨before, other⟩ := destruction.cells cell member
      exact (List.mem_cons.mp (listed cell before)).resolve_left other
    · exact ⟨rest, fun cell member => List.mem_map_of_mem member⟩
  apply holds_seq all
  intro _ second ⟨rest, listed⟩
  have empty : second.fleet.cells = [] := List.eq_nil_iff_forall_not_mem.mpr fun cell member => nomatch listed cell member
  apply holds_seq (settles_setPaused rest)
  intro paused third ⟨saved, rest, cells⟩
  rw [if_pos saved]
  apply alone_ask_seq
  intro _ _ answer
  apply holds_seq (aside_sweepPrefix (cells.trans empty))
  intro _ last outside
  exact holds_pure ⟨outside.rest rest, by rw [outside.fleet, cells, empty]⟩

include unique matrix distinct in
theorem settles_redeployInner (rest : Rest world) : Settles config owns gone (redeployInner config) world := by
  apply holds_seq (settles_teardownInner unique rest)
  intro torn second ⟨rest, empty⟩
  split
  · apply holds_seq (settles_setPaused rest)
    intro unpaused third ⟨saved, rest, cells⟩
    rw [if_pos saved]
    apply alone_ask_seq
    intro _ _ answer
    apply holds_seq (aside_sweepPrefix (cells.trans empty))
    intro _ fourth outside
    have cleared : fourth.fleet.cells = [] := by rw [outside.fleet, cells, empty]
    apply holds_seq (alone_alter_idle (by rw [← cleared]))
    intro _ _ same
    subst same
    apply holds_bind
    apply alone_saveState
    intro _ _
    rw [if_pos rfl]
    exact settles_reconcileInner unique matrix distinct ⟨rfl, (outside.rest rest).clean⟩
  · exact holds_pure rest

/-! ## The chaos loop -/

theorem settles_markStopped {key name : String} {stopped : Option Nat} (rest : Rest world) :
    Settles config owns gone (markStopped key name stopped) world := by
  apply holds_bind
  apply alone_act
  intro _ steady _ _
  refine ⟨⟨steady.fleet.markStopped key name stopped, steady.saved, steady.owned, steady.aged⟩, ?_⟩
  apply holds_bind
  apply alone_saveState
  intro _ _
  refine holds_pure ⟨rfl, fun resource destroyed => ?_⟩
  exact refers_markStopped (rest.clean resource destroyed)

theorem settles_restartOverdueStops (rest : Rest world) : Settles config owns gone restartOverdueStops world := by
  apply alone_ask_seq
  intro _ _ now
  apply alone_look_seq
  intro _ _
  split
  · exact holds_pure rest
  · apply alone_look_seq
    intro _ _
    split
    · apply alone_ask_seq
      intro _ _ answer
      split
      · apply holds_seq (settles_markStopped rest)
        intro _ _ settled
        exact holds_pure settled
      · exact holds_pure rest
    · exact holds_pure rest

theorem settles_toggle {key name : String} (rest : Rest world) : Settles config owns gone (toggle key name) world := by
  apply alone_ask_seq
  intro _ _ answer
  split
  · exact holds_pure rest
  · exact holds_pure rest
  · apply alone_look_seq
    intro _ _
    split
    · apply alone_ask_seq
      intro _ _ started
      split
      · apply alone_ask_seq
        intro _ _ now
        exact settles_markStopped rest
      · exact holds_pure rest
    · exact holds_pure rest

include unique matrix distinct in
theorem settles_chaosVmTick (rest : Rest world) : Settles config owns gone (chaosVmTick config) world := by
  apply alone_look_seq
  intro _ _
  split
  · exact holds_pure rest
  · apply holds_seq (settles_restartOverdueStops rest)
    intro ended second rest
    split
    · exact holds_pure rest
    · apply alone_look_seq
      intro _ _
      apply alone_ask_seq
      intro _ _ choice
      split
      · exact holds_pure rest
      · apply alone_ask_seq
        intro _ _ roll
        split
        · exact settles_reprovisionCellInner unique matrix distinct rest
        · apply alone_ask_seq
          intro _ _ pick
          split
          · exact holds_pure rest
          · exact settles_toggle rest

include unique matrix distinct in
theorem settles_program (call : Call) (rest : Rest world) : Settles config owns gone (program config call) world := by
  cases call with
  | resume =>
      apply holds_seq (settles_setPaused rest)
      intro _ _ ⟨_, settled, _⟩
      exact holds_pure settled
  | reconcile => exact settles_reconcileInner unique matrix distinct rest
  | gc =>
      apply holds_seq (settles_gcInner unique rest)
      intro _ _ settled
      exact holds_pure settled
  | teardown =>
      apply holds_seq (settles_teardownInner unique rest)
      intro _ _ ⟨settled, _⟩
      exact holds_pure settled
  | redeploy => exact settles_redeployInner unique matrix distinct rest
  | reprovision key => exact settles_reprovisionCellInner unique matrix distinct rest
  | reprovisionRandom => exact settles_reprovisionRandomInner unique matrix distinct rest

end Cells

end Operations

end MacMgmt.Proof.Runner
