import MacMgmt.Proof.Runner.Exclusive

/-!
# Operations that overlap

While the chaos loop's turns overlap with no other operation, the saved state refers to nothing that a finished operation has
destroyed. `chaos_vm_tick` takes no `op_lock`, so they may overlap.
-/

namespace MacMgmt.Proof.Runner
open Lib Task MacMgmt.Runner Orchestrator

variable {config : RunnerConfig} {owns : String → String → Prop}

/-! ## One job at a time -/

def withDestroyed (world : World) (destroyed : List Resource) : World := { world with destroyed }

structure Works (config : RunnerConfig) (owns : String → String → Prop) (gone : List Resource) (world : World) (job : Job) :
    Prop where
  steady : Steady config gone (withDestroyed world job.destroyed)
  settles : Settles config owns gone job.program (withDestroyed world job.destroyed)

structure Solo (config : RunnerConfig) (owns : String → String → Prop) (state : Daemon) : Prop where
  kept : Kept config owns False False state.world
  steady : Steady config state.gone (withDestroyed state.world [])
  op : ∀ job, state.op = some job → state.tick = none ∧ Works config owns state.gone state.world job
  tick : ∀ job, state.tick = some job → state.op = none ∧ Works config owns state.gone state.world job
  idle : state.op = none → state.tick = none → state.world.saved = state.world.fleet

variable {gone : List Resource} {world after : World} {job onward : Job} {answer : Answer}

theorem Steady.without {destroyed : List Resource} (steady : Steady config gone (withDestroyed world destroyed)) :
    Steady config gone (withDestroyed world []) where
  fleet := steady.fleet
  saved := steady.saved
  owned := steady.owned
  aged resource member := steady.aged resource (by
    rw [show (withDestroyed world []).destroyed = [] from rfl, List.append_nil] at member
    exact List.mem_append_left _ member)

theorem Fit.append {destroyed : List Resource} {fleet : FleetState} (fit : Fit config gone fleet)
    (clean : ∀ resource ∈ destroyed, ∀ cell ∈ fleet.cells, cell.stage.refers resource = false) :
    Fit config (gone ++ destroyed) fleet where
  live resource member := (List.mem_append.mp member).elim (fit.live resource) (clean resource)
  throttled := fit.throttled

theorem works_finished (works : Works config owns gone world job) (finished : job.turn world answer = none) :
    world.saved = world.fleet ∧ Steady config (gone ++ job.destroyed) (withDestroyed world []) := by
  have settles := works.settles
  have steady := works.steady
  unfold Job.turn at finished
  cases program : job.program with
  | step change next =>
      rw [program] at finished
      cases finished
  | done result =>
      rw [program] at settles
      have rest : Rest (withDestroyed world job.destroyed) := settles
      have saved : world.saved = world.fleet := rest.saved
      have fits := steady.fleet.append rest.clean
      refine ⟨saved, fits, ?_, steady.owned, fun resource member => ?_⟩
      · show Fit config _ world.saved
        rw [saved]
        exact fits
      · rw [show (withDestroyed world []).destroyed = [] from rfl, List.append_nil] at member
        exact steady.aged resource member

theorem works_turn (kept : Kept config owns False False world) (works : Works config owns gone world job)
    (turned : job.turn world answer = some (after, onward)) (saves : answer.saves = true) :
    Works config owns gone after onward := by
  have settles := works.settles
  unfold Job.turn at turned
  cases program : job.program with
  | done result => simp [program] at turned
  | step change next =>
      simp only [program, Option.some.injEq, Prod.mk.injEq] at turned
      obtain ⟨rfl, rfl⟩ := turned
      rw [program] at settles
      obtain ⟨_, steady, rest⟩ := settles _ rfl (kept_destroyed kept job.destroyed) works.steady answer saves
      exact ⟨steady, rest⟩

theorem works_begin {task : Orchestrator Unit} (steady : Steady config gone (withDestroyed world []))
    (idle : world.saved = world.fleet)
    (settles : ∀ world, Rest world → Settles config owns gone task world) : Works config owns gone world ⟨task, []⟩ :=
  ⟨steady, settles _ ⟨idle, nofun⟩⟩

/-! ## Runs -/

section Runs
variable (unique : ∀ name key other, owns key name → owns other name → other = key)
variable (matrix : ∀ cell ∈ config.matrix, ∀ name ∈ instanceNames config cell, owns cell.key name)
variable (distinct : ∀ key name, owns key name → ∀ cell ∈ config.matrix, cell.key ≠ key → name ≠ config.clusterName cell.key)
include unique matrix distinct

theorem solo_step {state after : Daemon} {event : DaemonEvent} (solo : Solo config owns state)
    (kept : Kept config owns False False after.world) (careful : Careful state event)
    (taken : state.step config event = some after) : Solo config owns after := by
  cases event with
  | call call =>
      simp only [Daemon.step] at taken
      split at taken
      · cases taken
      · rename_i free
        cases taken
        have alone : state.tick = none := Option.isNone_iff_eq_none.mp careful
        exact {
          kept := kept
          steady := solo.steady
          op := by
            intro job same
            cases same
            exact ⟨alone, works_begin solo.steady (solo.idle free alone) fun _ =>
              settles_program unique matrix distinct call⟩
          tick := forall_of_none alone
          idle := fun idle => absurd idle (Option.some_ne_none _) }
  | tick =>
      simp only [Daemon.step] at taken
      split at taken
      · cases taken
      · rename_i free
        cases taken
        have alone : state.op = none := Option.isNone_iff_eq_none.mp careful
        exact {
          kept := kept
          steady := solo.steady
          op := forall_of_none alone
          tick := by
            intro job same
            cases same
            exact ⟨alone, works_begin solo.steady (solo.idle alone free) fun _ =>
              settles_chaosVmTick unique matrix distinct⟩
          idle := fun _ idle => absurd idle (Option.some_ne_none _) }
  | turn answer =>
      simp only [Daemon.step] at taken
      split at taken
      · cases taken
      · rename_i job working
        obtain ⟨alone, works⟩ := solo.op job working
        split at taken
        · rename_i finished
          cases taken
          obtain ⟨saved, steady⟩ := works_finished works finished
          exact ⟨kept, steady, forall_of_none rfl, forall_of_none alone, fun _ _ => saved⟩
        · rename_i world onward turned
          cases taken
          have goes := works_turn solo.kept works turned careful
          refine ⟨kept, goes.steady.without, fun other same => ?_, forall_of_none alone,
            fun idle => absurd idle (Option.some_ne_none _)⟩
          cases same
          exact ⟨alone, goes⟩
  | tickTurn answer =>
      simp only [Daemon.step] at taken
      split at taken
      · cases taken
      · rename_i job working
        obtain ⟨alone, works⟩ := solo.tick job working
        split at taken
        · rename_i finished
          cases taken
          obtain ⟨saved, steady⟩ := works_finished works finished
          exact ⟨kept, steady, forall_of_none alone, forall_of_none rfl, fun _ _ => saved⟩
        · rename_i world onward turned
          cases taken
          have goes := works_turn solo.kept works turned careful
          refine ⟨kept, goes.steady.without, forall_of_none alone, fun other same => ?_,
            fun _ idle => absurd idle (Option.some_ne_none _)⟩
          cases same
          exact ⟨alone, goes⟩
  | crash =>
      cases taken
      exact ⟨kept, ⟨solo.steady.saved, solo.steady.saved, solo.steady.owned, solo.steady.aged⟩, forall_of_none rfl,
        forall_of_none rfl, fun _ _ => rfl⟩

end Runs

theorem consistent_of_solo {state : Daemon} (solo : Solo config owns state) : Consistent config state where
  live := solo.steady.saved.live
  owned := solo.steady.owned
  throttled capped := ⟨solo.steady.fleet.throttled capped, solo.steady.saved.throttled capped⟩

theorem solo_start {world : World} (begins : Begins config world)
    (room : 0 < config.maxConcurrentLaunches → world.saved.launching ≤ config.maxConcurrentLaunches) :
    Solo config (Owns config world) (.restart world []) where
  kept := kept_start begins False
  steady := ⟨⟨nofun, room⟩, ⟨nofun, room⟩, begins.owned, nofun⟩
  op := nofun
  tick := nofun
  idle _ _ := rfl

/-- While no turn of the chaos loop overlaps with another operation and the state file can be written, every operation runs
as if alone. -/
theorem consistent_of_careful (config : RunnerConfig) (world : World) (begins : Begins config world)
    (apart : Apart config world)
    (room : 0 < config.maxConcurrentLaunches → world.saved.launching ≤ config.maxConcurrentLaunches)
    (events : List DaemonEvent) (careful : Meets (Daemon.step config) Careful (.restart world []) events) :
    Always (Daemon.step config) (Consistent config) (.restart world []) events := by
  have matrix : ∀ cell ∈ config.matrix, ∀ name ∈ instanceNames config cell, Owns config world cell.key name :=
    fun cell member name listed => .inl ⟨cell, member, rfl, listed⟩
  have unique : ∀ name key other, Owns config world key name → Owns config world other name → other = key :=
    fun name key other owned owned' => (apart key name owned).1 other owned'
  have distinct : ∀ key name, Owns config world key name → ∀ cell ∈ config.matrix, cell.key ≠ key →
      name ≠ config.clusterName cell.key := fun key name owned => (apart key name owned).2
  let invariant : Daemon → Prop := fun state =>
    Keeps config (Owns config world) False state ∧ Solo config (Owns config world) state
  have initially : invariant (.restart world []) := ⟨⟨kept_start begins False, nofun, nofun⟩, solo_start begins room⟩
  have preserved (state : Daemon) (event : DaemonEvent) (after : Daemon) (before : invariant state)
      (allowed : Careful state event) (taken : state.step config event = some after) : invariant after := by
    have keeps := keeps_step False.elim matrix before.1 taken
    exact ⟨keeps, solo_step unique matrix distinct before.2 keeps.world allowed taken⟩
  apply (always_of_meets preserved initially careful).imp
  intro state both
  exact consistent_of_solo both.2

/-! ## A tick and a teardown -/

/-- The world of a runner that has one cell, with an instance that runs. -/
def oneRunning : World where
  fleet := ⟨[], false⟩
  saved := ⟨[⟨"a", .running 0 [⟨"mmr-a", 1, none⟩] 0, 0, 0⟩], false⟩
  clusters := (∅ : Table Uuid String).insert 0 "mmr-a"
  machines := (∅ : Table String Machine).insert "mmr-a" ⟨1, some "a"⟩
  next := 2
  destroyed := []
  deleted := []
  overwrote := false

def tickTurnsOf (count : Nat) : List DaemonEvent := List.replicate count (.tickTurn answered)

theorem begins_oneRunning : Begins (fleetOf "mmr-" ["a"]) oneRunning where
  recorded := by
    refine ⟨List.nodup_singleton _, fun cell member id cluster => ?_⟩
    cases List.mem_singleton.mp member
    cases cluster
    refine ⟨by decide, fun name found => ?_⟩
    have there : ((∅ : Table Uuid String).insert 0 "mmr-a").lookup 0 = some name := found
    rw [AList.lookup_insert] at there
    cases there
    rfl
  known id name found := by
    have there : ((∅ : Table Uuid String).insert 0 "mmr-a").lookup id = some name := found
    rw [Table.lookup_insert_ite] at there
    split at there
    · rename_i same
      subst same
      decide
    · cases there
  keyed name machine found := by
    have there : ((∅ : Table String Machine).insert "mmr-a" ⟨1, some "a"⟩).lookup name = some machine := found
    rw [Table.lookup_insert_ite] at there
    split at there
    · cases there
      decide
    · cases there
  undeleted := rfl
  owned := rfl

theorem owns_oneRunning {key name : String} (owned : Owns (fleetOf "mmr-" ["a"]) oneRunning key name) : key = "a" := by
  obtain ⟨cell, member, same, _⟩ | ⟨cell, member, same, _⟩ | ⟨machine, found, madeFor⟩ := owned
  · cases List.mem_singleton.mp member
    exact same.symm
  · cases List.mem_singleton.mp member
    exact same.symm
  · have there : ((∅ : Table String Machine).insert "mmr-a" ⟨1, some "a"⟩).lookup name = some machine := found
    rw [Table.lookup_insert_ite] at there
    split at there
    · cases there
      cases madeFor
      rfl
    · cases there

theorem apart_oneRunning : Apart (fleetOf "mmr-" ["a"]) oneRunning := by
  intro key name owned
  have named := owns_oneRunning owned
  refine ⟨fun other owned' => (owns_oneRunning owned').trans named.symm, fun cell member different => ?_⟩
  cases List.mem_singleton.mp member
  exact absurd named.symm different

theorem consistent_tick_then_teardown :
    Always (Daemon.step (fleetOf "mmr-" ["a"])) (Consistent (fleetOf "mmr-" ["a"])) (.restart oneRunning [])
      (.tick :: tickTurnsOf 40 ++ .call .teardown :: turnsOf 10) :=
  consistent_of_careful _ oneRunning begins_oneRunning apart_oneRunning (by decide) _ (by decide +kernel)

/-- What a finished operation has destroyed is in the saved state. -/
def dangling (state : Daemon) : Bool :=
  state.gone.any fun resource => state.world.saved.cells.any fun cell => cell.stage.refers resource

/-- The tick creates a cluster, the teardown finds it by its prefix and deletes it, and the tick records it. -/
def overlapping : List DaemonEvent := .tick :: tickTurnsOf 21 ++ .call .teardown :: turnsOf 10 ++ tickTurnsOf 2

theorem tick_overlaps_teardown :
    Begins (fleetOf "mmr-" ["a"]) oneRunning ∧ Apart (fleetOf "mmr-" ["a"]) oneRunning ∧
      ¬ Always (Daemon.step (fleetOf "mmr-" ["a"])) (Consistent (fleetOf "mmr-" ["a"])) (.restart oneRunning []) overlapping := by
  refine ⟨begins_oneRunning, apart_oneRunning, fun always => ?_⟩
  have ends : (run (Daemon.step (fleetOf "mmr-" ["a"])) (.restart oneRunning []) overlapping).any dangling = true := by
    decide +kernel
  obtain ⟨final, ran, wrong⟩ := (Option.any_eq_true _ _).mp ends
  obtain ⟨resource, lost, cells⟩ := List.any_eq_true.mp wrong
  obtain ⟨cell, member, refers⟩ := List.any_eq_true.mp cells
  rw [(always.final ran).live resource lost cell member] at refers
  cases refers

end MacMgmt.Proof.Runner
