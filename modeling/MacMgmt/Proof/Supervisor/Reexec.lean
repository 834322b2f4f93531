import MacMgmt.Proof.Supervisor.Supervision

/-!
# Children across a reexec

A child of an earlier image is never in the window between a spawn and the store of its pid, so the entry of the runner
that adopted it has its pid.
-/

namespace MacMgmt.Proof.Supervisor
open Lib MacMgmt.Supervisor

variable {state after : SupervisorState}

/-- A child whose pid has not been stored was spawned by this image. -/
def SpawnedHere (state : SupervisorState) : Prop :=
  state.imagePid ≤ state.processes.nextPid ∧
    ∀ task held child, view state task = some held → held.pc = .spawned child → state.imagePid ≤ child

theorem SpawnedHere.of_view {other : SupervisorState} (here : SpawnedHere state) (views : view other = view state)
    (processes : other.processes = state.processes) (image : other.imagePid = state.imagePid) : SpawnedHere other := by
  unfold SpawnedHere at here ⊢
  rw [views, processes, image]
  exact here

theorem SpawnedHere.requestStop (here : SpawnedHere state) (stopTx : Option TaskId) :
    SpawnedHere (state.requestStop stopTx) := by
  apply here.of_view (view_requestStop state stopTx) (requestStop_frame state stopTx).2.1
  cases stopTx with
  | none => rfl
  | some task => rfl

theorem SpawnedHere.spawnRunner {name : ServiceName} {spec : SpawnSpec} {resolved : Option String} {pid : Pid}
    {pc : RunnerPc} (here : SpawnedHere state) (other : ∀ child, pc ≠ .spawned child) :
    SpawnedHere (state.spawnRunner name spec resolved pid pc) := by
  refine ⟨here.1, fun task held child viewed spawned => ?_⟩
  rw [view_spawnRunner] at viewed
  split at viewed
  · cases viewed
    exact absurd spawned (other child)
  · exact here.2 task held child viewed spawned

theorem SpawnedHere.spawnNew {name : ServiceName} {spec : SpawnSpec} (resolved : Option String)
    (here : SpawnedHere state) : SpawnedHere (state.spawnRunner name spec resolved 0 .spawning) :=
  here.spawnRunner fun _ same => by cases same

theorem SpawnedHere.unregister {name : ServiceName} {rest : SupervisorState} {task : Option TaskId}
    (here : SpawnedHere state) (left : state.unregister name = (rest, task)) : SpawnedHere rest := by
  unfold SupervisorState.unregister at left
  split at left
  · cases left
    exact here
  · cases left
    exact @SpawnedHere.requestStop { state with services := state.services.erase name } here _

theorem SpawnedHere.stopSvc {name : ServiceName} {rest : SupervisorState} {response : Response} {task : Option TaskId}
    (here : SpawnedHere state) (left : state.stopSvc name = (rest, response, task)) : SpawnedHere rest := by
  unfold SupervisorState.stopSvc at left
  split at left
  · cases left
    exact here
  · split at left
    · cases left
      exact here
    · cases left
      exact @SpawnedHere.requestStop { state with services := state.services.insert name _ } here _

theorem SpawnedHere.startSvc (name : ServiceName) (os : Os) (here : SpawnedHere state) :
    SpawnedHere (state.startSvc name os).1 := by
  unfold SupervisorState.startSvc
  split
  · exact here
  · rename_i entry found
    split
    · exact here.spawnNew (os.resolveProgram entry.spec.program)
    · exact here

theorem SpawnedHere.handle (request : Request) (os : Os) (here : SpawnedHere state) :
    SpawnedHere (state.handle request os) := by
  cases request with
  | register name spec =>
      simp only [SupervisorState.handle, SupervisorState.register]
      split
      · exact here.spawnNew (os.resolveProgram spec.program)
      · split
        · split
          · exact here.startSvc name os
          · exact here
        · split
          · rename_i left
            exact (here.unregister left).spawnNew (os.resolveProgram spec.program)
          · rename_i left
            have rest := here.unregister left
            exact rest
  | unregister name =>
      simp only [SupervisorState.handle]
      split
      · rename_i left
        have rest := here.unregister left
        exact rest
      · rename_i left
        have rest := here.unregister left
        exact rest
  | stop name =>
      simp only [SupervisorState.handle]
      split
      · rename_i left
        have rest := here.stopSvc left
        exact rest
      · rename_i left
        have rest := here.stopSvc left
        exact rest
  | start name => exact here.startSvc name os
  | restart name =>
      simp only [SupervisorState.handle]
      split
      · exact here
      · split
        · rename_i left
          exact (here.stopSvc left).startSvc name os
        · rename_i left
          have rest := here.stopSvc left
          exact rest
  | list | kill name signal | shutdown | updateSelf => exact here

theorem SpawnedHere.joined (next : AfterJoin) (os : Os) (here : SpawnedHere state) :
    SpawnedHere (state.joined next os) := by
  cases next with
  | unregister name => exact here
  | register name spec => exact here.spawnNew (os.resolveProgram spec.program)
  | stop name => exact here
  | restart name => exact @SpawnedHere.startSvc (state.markStopped name) name os here

theorem SpawnedHere.runner {task : TaskId} {runner moved : Runner} {processes : Processes} {move : Move}
    (here : SpawnedHere state) (stepped : runner.move state.processes move = some (moved, processes)) :
    SpawnedHere { state with runners := state.runners.insert task moved, processes := processes } := by
  refine ⟨Nat.le_trans here.1 (move_moved stepped).nextPid_le, fun other held child viewed spawned => ?_⟩
  rw [view_insert] at viewed
  split at viewed
  · cases viewed
    rw [move_spawned stepped spawned]
    exact here.1
  · exact here.2 other held child viewed spawned

theorem abort_view (runners : Table TaskId Runner) (entry : Entry) (task : TaskId) :
    ((SupervisorState.abortRunner runners entry).lookup task).map Runner.view = (runners.lookup task).map Runner.view := by
  unfold SupervisorState.abortRunner
  split
  · rw [Table.lookup_modify]
    split
    · rename_i same
      rw [same, Option.map_map]
      rfl
    · rfl
  · rfl

theorem abortAllTasks_view (state : SupervisorState) (task : TaskId) : view state.abortAllTasks task = view state task := by
  have all : ∀ (entries : List Entry) (runners : Table TaskId Runner),
      ((entries.foldl SupervisorState.abortRunner runners).lookup task).map Runner.view = (runners.lookup task).map Runner.view := by
    intro entries
    induction entries with
    | nil => exact fun _ => rfl
    | cons entry entries ih =>
        intro runners
        rw [List.foldl_cons, ih, abort_view]
  exact all state.services.values state.runners

theorem SpawnedHere.step {event : SupervisorEvent} (here : SpawnedHere state)
    (stepped : supervisorStep state event = some after) : SpawnedHere after := by
  cases event with
  | request request os =>
      simp only [supervisorStep] at stepped
      split at stepped
      · cases stepped
      · cases stepped
      · cases stepped
        exact here.handle _ os
      · cases stepped
  | join os =>
      simp only [supervisorStep] at stepped
      split at stepped
      · split at stepped
        · split at stepped
          · cases stepped
            exact here.joined _ os
          · cases stepped
        · cases stepped
      · cases stepped
  | runner task move =>
      simp only [supervisorStep] at stepped
      split at stepped
      · cases stepped
      · split at stepped
        · cases stepped
        · split at stepped
          · cases stepped
          · rename_i moves
            cases stepped
            exact here.runner moves
  | exit pid =>
      cases stepped
      exact here
  | updateSelf changed =>
      simp only [supervisorStep] at stepped
      split at stepped
      · split at stepped
        · cases stepped
          exact here
        · cases stepped
          exact here
      · cases stepped
  | abort =>
      simp only [supervisorStep] at stepped
      split at stepped
      · cases stepped
        exact here.of_view (funext (abortAllTasks_view state)) rfl rfl
      · cases stepped
  | exec =>
      simp only [supervisorStep] at stepped
      split at stepped
      · cases stepped
        exact ⟨Nat.le_refl _, fun task held child viewed => by cases viewed⟩
      · cases stepped
  | adopt =>
      simp only [supervisorStep] at stepped
      split at stepped
      · rename_i service rest adopting
        cases stepped
        have adopted : SpawnedHere (state.adopt service) := by
          unfold SupervisorState.adopt
          split
          · exact here.spawnRunner fun _ same => by cases same
          · exact here
        exact adopted
      · cases stepped
  | serve =>
      simp only [supervisorStep] at stepped
      split at stepped
      · cases stepped
        exact here
      · cases stepped

/-- Between requests, in every run whose reexecs hand over cleanly, each live child of an earlier image is the tracked
pid of the entry with its name and spec, and of no other entry. -/
theorem children_adopted {events : List SupervisorEvent} {final : SupervisorState}
    (ran : run supervisorStep SupervisorState.new events = some final)
    (meets : Meets supervisorStep CleanHandover SupervisorState.new events) (idle : final.loop = .idle) :
    ∀ pid proc, final.processes.table.lookup pid = some proc → proc.alive = true → pid < final.imagePid →
      (∃ entry, final.services.lookup proc.name = some entry ∧ entry.spec = proc.spec ∧ final.trackedPid entry = pid) ∧
        ∀ name entry, final.services.lookup name = some entry → final.trackedPid entry = pid → name = proc.name := by
  have tracked := ((Supervision.run ran meets).idle idle).1
  have here : SpawnedHere final := run_invariant (fun _ _ _ => SpawnedHere.step)
    ⟨Nat.le_refl _, fun task held child viewed => by cases viewed⟩ ran
  intro pid proc present _ earlier
  have stored : ∀ task held, view final task = some held → held.pc ≠ .spawned pid := by
    intro task held viewed spawned
    exact absurd (here.2 task held pid viewed spawned) (Nat.not_le.mpr earlier)
  obtain ⟨positive, entry, found, specced, cell⟩ := tracked.tracked_entry idle present stored
  refine ⟨⟨entry, found, specced, cell⟩, fun name other otherFound otherCell => ?_⟩
  obtain ⟨held, viewed, named, -, -⟩ := tracked.entries proc.name entry found
  obtain ⟨otherHeld, otherViewed, otherNamed, -, -⟩ := tracked.entries name other otherFound
  rw [trackedPid_view, viewed] at cell
  rw [trackedPid_view, otherViewed] at otherCell
  have same := tracked.unique _ _ held otherHeld pid viewed otherViewed (.inr ⟨Nat.ne_of_gt positive, cell⟩)
    (.inr ⟨Nat.ne_of_gt positive, otherCell⟩)
  rw [same, otherViewed] at viewed
  cases viewed
  exact otherNamed.symm.trans named

/-- A service that crashed is in its respawn delay at the snapshot and respawns before the abort. -/
def respawnDuringReexec : List SupervisorEvent :=
  [.request (.register "a" sleepSpec) quietOs] ++ runnerMoves 0 [.spawn, .storePid] ++ [.exit 1] ++
    runnerMoves 0 [.childExited, .clearPid] ++ [.updateSelf true] ++ runnerMoves 0 [.delayOver, .spawn, .storePid] ++
    [.abort, .exec, .serve]

theorem children_adopted_reexec : ∃ final, run supervisorStep SupervisorState.new stopStartReexec = some final ∧
    ∃ entry, final.services.lookup "a" = some entry ∧ entry.spec = sleepSpec ∧ final.trackedPid entry = 2 :=
  ⟨_, rfl, (@children_adopted stopStartReexec _ rfl (by decide) rfl 2 ⟨"a", sleepSpec, true⟩ rfl rfl (by decide)).1⟩

theorem child_orphaned_by_reexec : ¬ ∀ events final, run supervisorStep SupervisorState.new events = some final →
    final.loop = .idle → ∀ pid proc, final.processes.table.lookup pid = some proc → proc.alive = true →
      pid < final.imagePid → (∃ entry, final.services.lookup proc.name = some entry ∧ entry.spec = proc.spec ∧
        final.trackedPid entry = pid) ∧
        ∀ name entry, final.services.lookup name = some entry → final.trackedPid entry = pid → name = proc.name := by
  intro all
  obtain ⟨⟨entry, found, -⟩, -⟩ := all respawnDuringReexec _ rfl rfl 2 ⟨"a", sleepSpec, true⟩ rfl rfl (by decide)
  cases found

end MacMgmt.Proof.Supervisor
