import MacMgmt.Supervisor.Server

/-!
# Every child has one runner, every runner one holder

A runner that has not ended is held by the entry of its name, or awaited by the request loop; so a name has at most
one runner that can have a child. While a new image adopts, the services it has not come to are `waiting`.
-/

namespace MacMgmt.Proof.Supervisor
open Lib MacMgmt.Supervisor

/-! ## Runners and their children

What one move of a runner does to its child, its pid cell and the process table. -/

/-- A runner without its stop channel and its abort flag, which no ownership fact depends on. -/
structure View where
  name : ServiceName
  spec : SpawnSpec
  pid : Pid
  pc : RunnerPc

def Runner.view (runner : Runner) : View := ⟨runner.name, runner.spec, runner.pid, runner.pc⟩

def view (state : SupervisorState) (task : TaskId) : Option View := (state.runners.lookup task).map Runner.view

def View.Holds (view : View) (pid : Pid) : Prop := view.pc.child = some pid ∨ (pid ≠ 0 ∧ view.pid = pid)

def View.CellOk (view : View) (nextPid : Pid) : Prop :=
  match view.pc with
  | .spawning | .respawnDelay | .done => view.pid = 0
  | .spawned child => view.pid = 0 ∧ 0 < child ∧ child < nextPid
  | .waiting child | .stopping child | .killing child | .adopted child | .adoptedWait child | .adoptedStopping child =>
      view.pid = child ∧ 0 < child ∧ child < nextPid
  | .stopped | .exited => view.pid < nextPid

theorem View.CellOk.holds_bounds {view : View} {nextPid pid : Pid} (ok : view.CellOk nextPid) (holds : view.Holds pid) :
    0 < pid ∧ pid < nextPid := by
  unfold View.CellOk at ok
  unfold View.Holds RunnerPc.child at holds
  split at ok
  all_goals
    rename_i pc
    simp only [pc] at holds
    grind

theorem View.CellOk.mono {view : View} {nextPid later : Pid} (ok : view.CellOk nextPid) (le : nextPid ≤ later) :
    view.CellOk later := by
  unfold View.CellOk at ok ⊢
  split at ok
  all_goals grind

theorem View.CellOk.cell_eq {view : View} {nextPid child : Pid} (ok : view.CellOk nextPid)
    (owns : view.pc.child = some child) (stored : view.pc ≠ .spawned child) : view.pid = child := by
  unfold View.CellOk at ok
  unfold RunnerPc.child at owns
  split at ok
  all_goals
    rename_i pc
    simp only [pc] at owns
    grind

inductive Moved (runner moved : Runner) (before after : Processes) : Move → Prop
  | spawn (pc : runner.pc = .spawning) (same : moved = { runner with pc := .spawned before.nextPid })
      (processes : after = before.spawn runner.name runner.spec) : Moved runner moved before after .spawn
  | keep {move : Move} (other : move ≠ .spawn) (child : moved.pc.child = runner.pc.child)
      (cell : moved.pid = runner.pid ∨ moved.pid = 0 ∨ moved.pc.child = some moved.pid) (processes : after = before) :
      Moved runner moved before after move
  | reap {move : Move} (child : Pid) (other : move ≠ .spawn) (owned : runner.pc.child = some child)
      (gone : moved.pc.child = none) (cell : moved.pid = runner.pid) (processes : after = before.reap child) :
      Moved runner moved before after move

theorem move_moved {runner moved : Runner} {before after : Processes} {move : Move}
    (stepped : runner.move before move = some (moved, after)) : Moved runner moved before after move := by
  unfold Runner.move at stepped
  split at stepped
  all_goals rename_i pc
  all_goals try split at stepped
  all_goals cases stepped
  all_goals first
    | exact .spawn pc rfl rfl
    | exact .keep (by simp) (by simp [pc, RunnerPc.child]) (by simp [RunnerPc.child]) rfl
    | exact .reap _ (by simp) (by simp only [pc, RunnerPc.child]) rfl rfl rfl

theorem move_frame {runner moved : Runner} {before after : Processes} {move : Move}
    (stepped : runner.move before move = some (moved, after)) :
    moved.name = runner.name ∧ moved.spec = runner.spec ∧ runner.pc ≠ .done := by
  unfold Runner.move at stepped
  split at stepped
  all_goals rename_i pc
  all_goals try split at stepped
  all_goals cases stepped
  all_goals exact ⟨rfl, rfl, by simp [pc]⟩

theorem move_cellOk {runner moved : Runner} {before after : Processes} {move : Move}
    (stepped : runner.move before move = some (moved, after)) (positive : 0 < before.nextPid)
    (ok : (Runner.view runner).CellOk before.nextPid) : (Runner.view moved).CellOk after.nextPid := by
  unfold Runner.move at stepped
  split at stepped
  all_goals rename_i pc
  all_goals try split at stepped
  all_goals cases stepped
  all_goals simp only [View.CellOk, Runner.view, pc] at ok
  all_goals simp only [View.CellOk, Runner.view, Processes.spawn, Processes.reap]
  all_goals grind

theorem move_spawned {runner moved : Runner} {before after : Processes} {move : Move} {child : Pid}
    (stepped : runner.move before move = some (moved, after)) (spawned : moved.pc = .spawned child) :
    child = before.nextPid := by
  unfold Runner.move at stepped
  split at stepped
  all_goals try split at stepped
  all_goals cases stepped
  all_goals cases spawned
  rfl

/-! ## Ownership -/

def AfterJoin.name : AfterJoin → ServiceName
  | .unregister name | .register name _ | .stop name | .restart name => name

def AfterJoin.keepsEntry : AfterJoin → Bool
  | .stop _ | .restart _ => true
  | .unregister _ | .register _ _ => false

structure Tracked (state : SupervisorState) (waiting : List SavedService) : Prop where
  positive : 0 < state.processes.nextPid
  owner : ∀ pid proc, state.processes.table.lookup pid = some proc →
    (∃ task held, view state task = some held ∧ held.pc.child = some pid ∧ held.name = proc.name ∧ held.spec = proc.spec) ∨
      ∃ service ∈ waiting, service.pid = pid ∧ service.name = proc.name ∧ service.spec = proc.spec
  attached : ∀ task held, view state task = some held → held.pc ≠ .done →
    (∃ entry, state.services.lookup held.name = some entry ∧ entry.supervisor = some task) ∨
      ∃ next, state.loop = .joining task next
  joining : ∀ task next, state.loop = .joining task next →
    (∃ held, view state task = some held ∧ held.name = AfterJoin.name next) ∧
      match AfterJoin.keepsEntry next with
      | true => ∃ entry, state.services.lookup (AfterJoin.name next) = some entry ∧ entry.supervisor = none ∧
          entry.stopped = false ∧ entry.pid = task
      | false => state.services.lookup (AfterJoin.name next) = none
  entries : ∀ name entry, state.services.lookup name = some entry →
    ∃ held, view state entry.pid = some held ∧ held.name = name ∧ held.spec = entry.spec ∧
      ((entry.supervisor = some entry.pid ∧ entry.stopTx = some entry.pid ∧ entry.stopped = false) ∨
        (entry.supervisor = none ∧ entry.stopTx = none ∧
          ((entry.stopped = true ∧ held.pc = .done) ∨ (entry.stopped = false ∧ ∃ next, state.loop = .joining entry.pid next))))
  cells : ∀ task held, view state task = some held → held.CellOk state.processes.nextPid
  unique : ∀ first second one other pid, view state first = some one → view state second = some other →
    one.Holds pid → other.Holds pid → first = second
  bounded : ∀ task held, view state task = some held → task < state.nextTask
  awaited : ∀ service ∈ waiting, state.services.lookup service.name = none ∧ 0 < service.pid ∧
    service.pid < state.processes.nextPid ∧ ∀ task held, view state task = some held → ¬ held.Holds service.pid
  names : (waiting.map SavedService.name).Nodup
  pids : (waiting.map SavedService.pid).Nodup

/-! ## What the parts of a step change -/

theorem view_insert (state : SupervisorState) (task other : TaskId) (runner : Runner) (processes : Processes) :
    view { state with runners := state.runners.insert task runner, processes := processes } other =
      if other = task then some (Runner.view runner) else view state other := by
  simp only [view, Table.lookup_insert_ite]
  split
  all_goals rfl

theorem view_requestStop (state : SupervisorState) (stopTx : Option TaskId) :
    view (state.requestStop stopTx) = view state := by
  funext task
  cases stopTx with
  | none => rfl
  | some other =>
      simp only [view, SupervisorState.requestStop, Table.lookup_modify]
      split
      · rename_i same
        subst same
        cases state.runners.lookup task with
        | none => rfl
        | some runner => rfl
      · rfl

theorem requestStop_frame (state : SupervisorState) (stopTx : Option TaskId) :
    (state.requestStop stopTx).services = state.services ∧ (state.requestStop stopTx).processes = state.processes ∧
      (state.requestStop stopTx).nextTask = state.nextTask ∧ (state.requestStop stopTx).answered = state.answered := by
  cases stopTx with
  | none => exact ⟨rfl, rfl, rfl, rfl⟩
  | some task => exact ⟨rfl, rfl, rfl, rfl⟩

theorem Moved.nextPid_le {runner moved : Runner} {before after : Processes} {move : Move}
    (step : Moved runner moved before after move) : before.nextPid ≤ after.nextPid := by
  cases step with
  | spawn pc same processes =>
      rw [processes]
      exact Nat.le_succ _
  | keep other child cell processes => rw [processes]
  | reap child other owned gone cell processes =>
      rw [processes]
      exact Nat.le_refl _

theorem Moved.table {runner moved : Runner} {before after : Processes} {move : Move} {pid : Pid} {proc : Proc}
    (step : Moved runner moved before after move) (found : after.table.lookup pid = some proc) :
    (before.table.lookup pid = some proc ∧ (runner.pc.child = some pid → moved.pc.child = some pid)) ∨
      (move = .spawn ∧ pid = before.nextPid ∧ proc = ⟨runner.name, runner.spec, true⟩ ∧ moved.pc.child = some pid) := by
  cases step with
  | spawn pc same processes =>
      rw [processes, Processes.spawn, Table.lookup_insert_ite] at found
      split at found
      · rename_i new
        exact .inr ⟨rfl, new, (Option.some.inj found).symm, by rw [same, new]; rfl⟩
      · refine .inl ⟨found, fun owned => ?_⟩
        rw [pc] at owned
        cases owned
  | keep other child cell processes =>
      rw [processes] at found
      exact .inl ⟨found, fun owned => child.trans owned⟩
  | reap child other owned gone cell processes =>
      rw [processes, Processes.reap, Table.lookup_erase_ite] at found
      split at found
      · cases found
      · rename_i different
        refine .inl ⟨found, fun mine => ?_⟩
        rw [owned] at mine
        exact absurd (Option.some.inj mine).symm different

theorem Moved.holds {runner moved : Runner} {before after : Processes} {move : Move} {pid : Pid}
    (step : Moved runner moved before after move) (holds : (Runner.view moved).Holds pid) :
    (Runner.view runner).Holds pid ∨ pid = before.nextPid := by
  cases step with
  | spawn pc same processes =>
      subst same
      rcases holds with child | cell
      · exact .inr (Option.some.inj child).symm
      · exact .inl (.inr cell)
  | keep other child cell processes =>
      rcases holds with owned | ⟨positive, stored⟩
      · exact .inl (.inl (child.symm.trans owned))
      · change moved.pid = pid at stored
        rcases cell with same | cleared | own
        · exact .inl (.inr ⟨positive, same.symm.trans stored⟩)
        · exact absurd (stored.symm.trans cleared) positive
        · exact .inl (.inl (child.symm.trans (stored ▸ own)))
  | reap child other owned gone cell processes =>
      rcases holds with mine | ⟨positive, stored⟩
      · change moved.pc.child = some pid at mine
        rw [gone] at mine
        cases mine
      · exact .inl (.inr ⟨positive, cell.symm.trans stored⟩)

/-! ## Runners and processes -/

theorem Tracked.runner {state : SupervisorState} {waiting : List SavedService} {task : TaskId} {runner moved : Runner}
    {processes : Processes} {move : Move} (tracked : Tracked state waiting)
    (found : state.runners.lookup task = some runner)
    (stepped : runner.move state.processes move = some (moved, processes)) :
    Tracked { state with runners := state.runners.insert task moved, processes := processes } waiting := by
  have step := move_moved stepped
  obtain ⟨name, spec, running⟩ := move_frame stepped
  have seen : view state task = some (Runner.view runner) := by simp only [view, found, Option.map_some]
  have holds : ∀ other held pid,
      view { state with runners := state.runners.insert task moved, processes := processes } other = some held →
      held.Holds pid → (∃ old, view state other = some old ∧ old.Holds pid) ∨ (other = task ∧ pid = state.processes.nextPid) := by
    intro other held pid viewed held_
    rw [view_insert] at viewed
    split at viewed
    · rename_i same
      cases viewed
      rcases step.holds held_ with before | new
      · exact .inl ⟨_, same ▸ seen, before⟩
      · exact .inr ⟨same, new⟩
    · exact .inl ⟨held, viewed, held_⟩
  have unheld : ∀ other old, view state other = some old → ¬ old.Holds state.processes.nextPid := by
    intro other old viewed held
    exact Nat.lt_irrefl _ ((tracked.cells other old viewed).holds_bounds held).2
  refine ⟨Nat.lt_of_lt_of_le tracked.positive step.nextPid_le, ?_, ?_, ?_, ?_, ?_, ?_, ?_, ?_, tracked.names, tracked.pids⟩
  · intro pid proc present
    rcases step.table present with ⟨before, kept⟩ | ⟨-, rfl, rfl, child⟩
    · rcases tracked.owner pid proc before with ⟨other, held, viewed, owned, named, specced⟩ | waits
      · left
        by_cases same : other = task
        · subst same
          rw [seen] at viewed
          cases viewed
          exact ⟨other, Runner.view moved, by rw [view_insert, if_pos rfl], kept owned, name.trans named, spec.trans specced⟩
        · exact ⟨other, held, by rw [view_insert, if_neg same]; exact viewed, owned, named, specced⟩
      · exact .inr waits
    · exact .inl ⟨task, Runner.view moved, by rw [view_insert, if_pos rfl], child, name, spec⟩
  · intro other held viewed active
    rw [view_insert] at viewed
    split at viewed
    · rename_i same
      cases viewed
      subst same
      have before := tracked.attached other (Runner.view runner) seen running
      rw [show (Runner.view moved).name = (Runner.view runner).name from name]
      exact before
    · exact tracked.attached other held viewed active
  · intro other next joins
    obtain ⟨⟨held, viewed, named⟩, rest⟩ := tracked.joining other next joins
    refine ⟨?_, rest⟩
    by_cases same : other = task
    · subst same
      rw [seen] at viewed
      cases viewed
      exact ⟨Runner.view moved, by rw [view_insert, if_pos rfl], name.trans named⟩
    · exact ⟨held, by rw [view_insert, if_neg same]; exact viewed, named⟩
  · intro service entry present
    obtain ⟨held, viewed, named, specced, kind⟩ := tracked.entries service entry present
    by_cases same : entry.pid = task
    · rw [same, seen] at viewed
      cases viewed
      refine ⟨Runner.view moved, by rw [view_insert, if_pos same], name.trans named, spec.trans specced, ?_⟩
      rcases kind with runs | ⟨supervisor, stopTx, ⟨-, ended⟩ | joins⟩
      · exact .inl runs
      · exact absurd ended running
      · exact .inr ⟨supervisor, stopTx, .inr joins⟩
    · exact ⟨held, by rw [view_insert, if_neg same]; exact viewed, named, specced, kind⟩
  · intro other held viewed
    rw [view_insert] at viewed
    split at viewed
    · cases viewed
      exact move_cellOk stepped tracked.positive (tracked.cells task _ seen)
    · exact (tracked.cells other held viewed).mono step.nextPid_le
  · intro first second one other pid viewed viewed' holds₁ holds₂
    rcases holds first one pid viewed holds₁ with ⟨old, before, held⟩ | ⟨rfl, new⟩
    · rcases holds second other pid viewed' holds₂ with ⟨old', before', held'⟩ | ⟨rfl, new'⟩
      · exact tracked.unique first second old old' pid before before' held held'
      · exact absurd (new' ▸ held) (unheld first old before)
    · rcases holds second other pid viewed' holds₂ with ⟨old', before', held'⟩ | ⟨rfl, new'⟩
      · exact absurd (new ▸ held') (unheld second old' before')
      · rfl
  · intro other held viewed
    rw [view_insert] at viewed
    split at viewed
    · rename_i same
      exact same ▸ tracked.bounded task _ seen
    · exact tracked.bounded other held viewed
  · intro service member
    obtain ⟨absent, positive, below, free⟩ := tracked.awaited service member
    refine ⟨absent, positive, Nat.lt_of_lt_of_le below step.nextPid_le, ?_⟩
    intro other held viewed held_
    rcases holds other held service.pid viewed held_ with ⟨old, before, was⟩ | ⟨-, new⟩
    · exact free other old before was
    · exact absurd below (new ▸ Nat.lt_irrefl _)

theorem lookup_exit {processes : Processes} {pid other : Pid} {proc : Proc}
    (found : (processes.exit pid).table.lookup other = some proc) :
    ∃ before, processes.table.lookup other = some before ∧ before.name = proc.name ∧ before.spec = proc.spec ∧
      (proc.alive = true → before.alive = true) := by
  rw [Processes.exit, Table.lookup_modify] at found
  split at found
  · rename_i same
    obtain ⟨before, present, rfl⟩ := Option.map_eq_some_iff.mp found
    exact ⟨before, same ▸ present, rfl, rfl, fun lives => by cases lives⟩
  · exact ⟨proc, found, rfl, rfl, id⟩

theorem Tracked.exit {state : SupervisorState} {waiting : List SavedService} (tracked : Tracked state waiting)
    (pid : Pid) : Tracked { state with processes := state.processes.exit pid } waiting := by
  refine ⟨tracked.positive, ?_, tracked.attached, tracked.joining, tracked.entries, tracked.cells, tracked.unique,
    tracked.bounded, tracked.awaited, tracked.names, tracked.pids⟩
  intro other proc present
  obtain ⟨before, found, name, spec, -⟩ := lookup_exit present
  rw [← name, ← spec]
  exact tracked.owner other before found

/-! ## Requests -/

theorem Tracked.of_eq {state other : SupervisorState} {waiting : List SavedService} (tracked : Tracked state waiting)
    (services : other.services = state.services) (views : view other = view state)
    (nextTask : other.nextTask = state.nextTask) (processes : other.processes = state.processes)
    (loop : other.loop = state.loop) : Tracked other waiting := by
  obtain ⟨positive, owner, attached, joining, entries, cells, unique, bounded, awaited, names, pids⟩ := tracked
  rw [← processes] at positive
  rw [← processes, ← views] at owner
  rw [← views, ← services, ← loop] at attached
  rw [← views, ← services, ← loop] at joining
  rw [← views, ← services, ← loop] at entries
  rw [← views, ← processes] at cells
  rw [← views] at unique
  rw [← views, ← nextTask] at bounded
  rw [← views, ← services, ← processes] at awaited
  exact ⟨positive, owner, attached, joining, entries, cells, unique, bounded, awaited, names, pids⟩

theorem Tracked.respond {state : SupervisorState} {waiting : List SavedService}
    (tracked : Tracked { state with loop := .idle } waiting) (request : Request) (response : Response) :
    Tracked (state.respond request response) waiting :=
  tracked.of_eq rfl rfl rfl rfl rfl

theorem view_spawnRunner (state : SupervisorState) (name : ServiceName) (spec : SpawnSpec) (resolved : Option String)
    (pid : Pid) (pc : RunnerPc) (task : TaskId) :
    view (state.spawnRunner name spec resolved pid pc) task =
      if task = state.nextTask then some ⟨name, spec, pid, pc⟩ else view state task := by
  simp only [view, SupervisorState.spawnRunner, Table.lookup_insert_ite]
  split
  all_goals rfl

theorem Tracked.ended {state : SupervisorState} {waiting : List SavedService} {name : ServiceName} {task : TaskId}
    {held : View} (tracked : Tracked state waiting) (unjoined : ∀ task next, state.loop ≠ .joining task next)
    (free : ∀ entry, state.services.lookup name = some entry → entry.stopped = true)
    (viewed : view state task = some held) (named : held.name = name) : held.pc = .done := by
  by_contra active
  rcases tracked.attached task held viewed active with ⟨entry, present, supervised⟩ | ⟨next, joins⟩
  · rw [named] at present
    obtain ⟨_, _, _, _, kind⟩ := tracked.entries name entry present
    have stopped := free entry present
    rcases kind with ⟨-, -, runs⟩ | ⟨detached, -, -⟩
    · rw [runs] at stopped
      cases stopped
    · rw [detached] at supervised
      cases supervised
  · exact unjoined task next joins

theorem Tracked.spawnRunner {state : SupervisorState} {waiting rest : List SavedService} {name : ServiceName}
    {spec : SpawnSpec} {pid : Pid} {pc : RunnerPc} (resolved : Option String) (tracked : Tracked state waiting)
    (unjoined : ∀ task next, state.loop ≠ .joining task next)
    (free : ∀ entry, state.services.lookup name = some entry → entry.stopped = true)
    (kept : rest.Sublist waiting) (unnamed : ∀ service ∈ rest, service.name ≠ name)
    (adopted : ∀ service ∈ waiting, service ∈ rest ∨ pc.child = some service.pid ∧ service.name = name ∧ service.spec = spec)
    (cell : (⟨name, spec, pid, pc⟩ : View).CellOk state.processes.nextPid)
    (fresh : ∀ held, (⟨name, spec, pid, pc⟩ : View).Holds held →
      (∀ task other, view state task = some other → ¬ other.Holds held) ∧ ∀ service ∈ rest, service.pid ≠ held) :
    Tracked (state.spawnRunner name spec resolved pid pc) rest := by
  have new : view (state.spawnRunner name spec resolved pid pc) state.nextTask = some ⟨name, spec, pid, pc⟩ := by
    rw [view_spawnRunner, if_pos rfl]
  have old : ∀ task held, view state task = some held →
      view (state.spawnRunner name spec resolved pid pc) task = some held := by
    intro task held viewed
    rw [view_spawnRunner, if_neg (Nat.ne_of_lt (tracked.bounded task held viewed))]
    exact viewed
  have either : ∀ task held, view (state.spawnRunner name spec resolved pid pc) task = some held →
      (task = state.nextTask ∧ held = ⟨name, spec, pid, pc⟩) ∨ view state task = some held := by
    intro task held viewed
    rw [view_spawnRunner] at viewed
    split at viewed
    · rename_i same
      exact .inl ⟨same, (Option.some.inj viewed).symm⟩
    · exact .inr viewed
  have entry_ne : ∀ other, other ≠ name →
      (state.spawnRunner name spec resolved pid pc).services.lookup other = state.services.lookup other := by
    intro other different
    simp only [SupervisorState.spawnRunner, Table.lookup_insert_ite, if_neg different]
  have entry_eq : (state.spawnRunner name spec resolved pid pc).services.lookup name =
      some ⟨spec, some state.nextTask, some state.nextTask, state.nextTask, resolved, false⟩ := by
    simp only [SupervisorState.spawnRunner, Table.lookup_insert_ite, if_true]
  refine ⟨tracked.positive, ?_, ?_, fun task next joins => absurd joins (unjoined task next), ?_, ?_, ?_, ?_, ?_,
    tracked.names.sublist (kept.map _), tracked.pids.sublist (kept.map _)⟩
  · intro child proc present
    rcases tracked.owner child proc present with ⟨task, held, viewed, owned⟩ | ⟨service, member, same, named, specced⟩
    · exact .inl ⟨task, held, old task held viewed, owned⟩
    · rcases adopted service member with still | ⟨owns, serviceName, serviceSpec⟩
      · exact .inr ⟨service, still, same, named, specced⟩
      · exact .inl ⟨state.nextTask, _, new, same ▸ owns, serviceName ▸ named, serviceSpec ▸ specced⟩
  · intro task held viewed active
    rcases either task held viewed with ⟨rfl, rfl⟩ | before
    · exact .inl ⟨_, entry_eq, rfl⟩
    · have different : held.name ≠ name := fun same => active (tracked.ended unjoined free before same)
      rcases tracked.attached task held before active with ⟨entry, present, supervised⟩ | ⟨next, joins⟩
      · exact .inl ⟨entry, by rw [entry_ne _ different]; exact present, supervised⟩
      · exact absurd joins (unjoined task next)
  · intro other entry present
    by_cases same : other = name
    · subst same
      rw [entry_eq] at present
      cases present
      exact ⟨_, new, rfl, rfl, .inl ⟨rfl, rfl, rfl⟩⟩
    · rw [entry_ne other same] at present
      obtain ⟨held, viewed, rest_⟩ := tracked.entries other entry present
      exact ⟨held, old _ held viewed, rest_⟩
  · intro task held viewed
    rcases either task held viewed with ⟨-, rfl⟩ | before
    · exact cell
    · exact tracked.cells task held before
  · intro first second one other child viewed viewed' holds holds'
    rcases either first one viewed with ⟨rfl, rfl⟩ | before
    · rcases either second other viewed' with ⟨rfl, rfl⟩ | before'
      · rfl
      · exact absurd holds' ((fresh child holds).1 second other before')
    · rcases either second other viewed' with ⟨rfl, rfl⟩ | before'
      · exact absurd holds ((fresh child holds').1 first one before)
      · exact tracked.unique first second one other child before before' holds holds'
  · intro task held viewed
    rcases either task held viewed with ⟨rfl, -⟩ | before
    · exact Nat.lt_succ_self _
    · exact Nat.lt_succ_of_lt (tracked.bounded task held before)
  · intro service member
    obtain ⟨absent, positive, below, unheld⟩ := tracked.awaited service (kept.subset member)
    refine ⟨by rw [entry_ne _ (unnamed service member)]; exact absent, positive, below, ?_⟩
    intro task held viewed holds
    rcases either task held viewed with ⟨-, rfl⟩ | before
    · exact (fresh service.pid holds).2 service member rfl
    · exact unheld task held before holds

theorem Tracked.spawnNew {state : SupervisorState} {name : ServiceName} (spec : SpawnSpec) (resolved : Option String)
    (tracked : Tracked state []) (unjoined : ∀ task next, state.loop ≠ .joining task next)
    (free : ∀ entry, state.services.lookup name = some entry → entry.stopped = true) :
    Tracked (state.spawnRunner name spec resolved 0 .spawning) [] := by
  apply tracked.spawnRunner resolved unjoined free (List.Sublist.refl [])
  · exact fun _ member => (List.not_mem_nil member).elim
  · exact fun _ member => (List.not_mem_nil member).elim
  · rfl
  · intro held holds
    rcases holds with owned | ⟨positive, cell⟩
    · cases owned
    · exact absurd cell.symm positive

theorem Tracked.pid_eq {state : SupervisorState} {waiting : List SavedService} {name : ServiceName} {entry : Entry}
    {task : TaskId} (tracked : Tracked state waiting) (found : state.services.lookup name = some entry)
    (runs : entry.supervisor = some task) : entry.pid = task := by
  obtain ⟨_, _, _, _, ⟨supervised, -, -⟩ | ⟨detached, -, -⟩⟩ := tracked.entries name entry found
  · exact Option.some.inj (supervised.symm.trans runs)
  · rw [runs] at detached
    cases detached

theorem Tracked.entry_of_idle {state : SupervisorState} {waiting : List SavedService} {name : ServiceName} {entry : Entry}
    (tracked : Tracked state waiting) (idle : state.loop = .idle) (found : state.services.lookup name = some entry)
    (loop : LoopPc) :
    ∃ held, view state entry.pid = some held ∧ held.name = name ∧ held.spec = entry.spec ∧
      ((entry.supervisor = some entry.pid ∧ entry.stopTx = some entry.pid ∧ entry.stopped = false) ∨
        (entry.supervisor = none ∧ entry.stopTx = none ∧
          ((entry.stopped = true ∧ held.pc = .done) ∨ (entry.stopped = false ∧ ∃ next, loop = .joining entry.pid next)))) := by
  obtain ⟨held, viewed, heldName, heldSpec, kind⟩ := tracked.entries name entry found
  refine ⟨held, viewed, heldName, heldSpec, ?_⟩
  rcases kind with running | ⟨supervisor, stopTx, stopped | ⟨-, _, joins⟩⟩
  · exact .inl running
  · exact .inr ⟨supervisor, stopTx, .inl stopped⟩
  · rw [idle] at joins
    cases joins

theorem Tracked.detach {state : SupervisorState} {name : ServiceName} {entry detached : Entry} {task : TaskId}
    {next : AfterJoin} (tracked : Tracked state []) (idle : state.loop = .idle)
    (found : state.services.lookup name = some entry) (runs : entry.supervisor = some task)
    (shape : detached = { entry with stopTx := none, supervisor := none, stopped := false })
    (named : AfterJoin.name next = name) (keeps : AfterJoin.keepsEntry next = true) :
    Tracked { state with services := state.services.insert name detached, loop := .joining task next } [] := by
  obtain ⟨held, viewed, heldName, heldSpec, -⟩ := tracked.entries name entry found
  have own : entry.pid = task := tracked.pid_eq found runs
  refine ⟨tracked.positive, tracked.owner, ?_, ?_, ?_, tracked.cells, tracked.unique, tracked.bounded,
    fun _ member => (List.not_mem_nil member).elim, tracked.names, tracked.pids⟩
  · intro other otherHeld viewedOther active
    rcases tracked.attached other otherHeld viewedOther active with ⟨otherEntry, present, supervised⟩ | ⟨_, joins⟩
    · by_cases same : otherHeld.name = name
      · rw [same, found] at present
        cases present
        rw [runs] at supervised
        cases supervised
        exact .inr ⟨next, rfl⟩
      · exact .inl ⟨otherEntry, by rw [Table.lookup_insert_ite, if_neg same]; exact present, supervised⟩
    · rw [idle] at joins
      cases joins
  · intro other otherNext joins
    cases joins
    refine ⟨⟨held, own ▸ viewed, heldName.trans named.symm⟩, ?_⟩
    rw [keeps, named]
    exact ⟨detached, by rw [Table.lookup_insert_ite, if_pos rfl], by rw [shape], by rw [shape], by rw [shape]; exact own⟩
  · intro other otherEntry present
    rw [Table.lookup_insert_ite] at present
    split at present
    · rename_i same
      cases present
      subst shape
      refine ⟨held, viewed, heldName.trans same.symm, heldSpec, .inr ⟨rfl, rfl, .inr ⟨rfl, next, ?_⟩⟩⟩
      exact congrArg (LoopPc.joining · next) own.symm
    · exact tracked.entry_of_idle idle present _

theorem Tracked.remove {state : SupervisorState} {name : ServiceName} {entry : Entry} {loop : LoopPc}
    (tracked : Tracked state []) (idle : state.loop = .idle) (found : state.services.lookup name = some entry)
    (after : (entry.supervisor = none ∧ loop = .idle) ∨ ∃ task next, entry.supervisor = some task ∧
      loop = .joining task next ∧ AfterJoin.name next = name ∧ AfterJoin.keepsEntry next = false) :
    Tracked { state with services := state.services.erase name, loop := loop } [] := by
  obtain ⟨held, viewed, heldName, -⟩ := tracked.entries name entry found
  refine ⟨tracked.positive, tracked.owner, ?_, ?_, ?_, tracked.cells, tracked.unique, tracked.bounded,
    fun _ member => (List.not_mem_nil member).elim, tracked.names, tracked.pids⟩
  · intro other otherHeld viewedOther active
    rcases tracked.attached other otherHeld viewedOther active with ⟨otherEntry, present, supervised⟩ | ⟨_, joins⟩
    · by_cases same : otherHeld.name = name
      · rw [same, found] at present
        cases present
        rcases after with ⟨stopped, -⟩ | ⟨task, next, runs, joins, -⟩
        · rw [stopped] at supervised
          cases supervised
        · rw [runs] at supervised
          cases supervised
          exact .inr ⟨next, joins⟩
      · exact .inl ⟨otherEntry, by rw [Table.lookup_erase_ite, if_neg same]; exact present, supervised⟩
    · rw [idle] at joins
      cases joins
  · intro other otherNext joins
    change loop = .joining other otherNext at joins
    rcases after with ⟨-, stays⟩ | ⟨task, next, runs, now, named, drops⟩
    · rw [stays] at joins
      cases joins
    · rw [now] at joins
      cases joins
      have own : entry.pid = other := tracked.pid_eq found runs
      refine ⟨⟨held, own ▸ viewed, heldName.trans named.symm⟩, ?_⟩
      rw [drops, named]
      show (state.services.erase name).lookup name = none
      rw [Table.lookup_erase_ite, if_pos rfl]
  · intro other otherEntry present
    rw [Table.lookup_erase_ite] at present
    split at present
    · cases present
    · exact tracked.entry_of_idle idle present _

theorem Tracked.joining_entry {state : SupervisorState} {task : TaskId} {next : AfterJoin} {name : ServiceName}
    {entry : Entry} (tracked : Tracked state []) (joins : state.loop = .joining task next)
    (present : state.services.lookup name = some entry) (own : entry.pid = task) : name = AfterJoin.name next := by
  obtain ⟨⟨held, viewed, heldName⟩, -⟩ := tracked.joining task next joins
  obtain ⟨otherHeld, viewedOther, otherName, -, -⟩ := tracked.entries name entry present
  rw [own, viewed] at viewedOther
  cases viewedOther
  exact otherName.symm.trans heldName

theorem Tracked.join_attached {state : SupervisorState} {task other : TaskId} {next : AfterJoin} {held otherHeld : View}
    (tracked : Tracked state []) (joins : state.loop = .joining task next) (viewed : view state task = some held)
    (ended : held.pc = .done) (viewedOther : view state other = some otherHeld) (active : otherHeld.pc ≠ .done) :
    ∃ entry, state.services.lookup otherHeld.name = some entry ∧ entry.supervisor = some other := by
  rcases tracked.attached other otherHeld viewedOther active with present | ⟨otherNext, now⟩
  · exact present
  · rw [joins] at now
    cases now
    rw [viewed] at viewedOther
    cases viewedOther
    exact absurd ended active

theorem Tracked.join_removed {state : SupervisorState} {task : TaskId} {next : AfterJoin} {held : View}
    (tracked : Tracked state []) (joins : state.loop = .joining task next) (viewed : view state task = some held)
    (ended : held.pc = .done) (drops : AfterJoin.keepsEntry next = false) : Tracked { state with loop := .idle } [] := by
  obtain ⟨-, gone⟩ := tracked.joining task next joins
  rw [drops] at gone
  refine ⟨tracked.positive, tracked.owner, ?_, fun _ _ never => (by cases never), ?_, tracked.cells, tracked.unique,
    tracked.bounded, fun _ member => (List.not_mem_nil member).elim, tracked.names, tracked.pids⟩
  · exact fun other otherHeld viewedOther active => .inl (tracked.join_attached joins viewed ended viewedOther active)
  · intro name entry present
    obtain ⟨otherHeld, viewedOther, otherName, otherSpec, kind⟩ := tracked.entries name entry present
    refine ⟨otherHeld, viewedOther, otherName, otherSpec, ?_⟩
    rcases kind with running | ⟨supervisor, stopTx, stopped | ⟨-, otherNext, now⟩⟩
    · exact .inl running
    · exact .inr ⟨supervisor, stopTx, .inl stopped⟩
    · rw [joins] at now
      cases now
      have same := tracked.joining_entry joins present rfl
      rw [same, gone] at present
      cases present

theorem Tracked.join_stopped {state : SupervisorState} {task : TaskId} {next : AfterJoin} {held : View}
    (tracked : Tracked state []) (joins : state.loop = .joining task next) (viewed : view state task = some held)
    (ended : held.pc = .done) (keeps : AfterJoin.keepsEntry next = true) :
    Tracked { state.markStopped (AfterJoin.name next) with loop := .idle } [] := by
  obtain ⟨-, entryOf⟩ := tracked.joining task next joins
  rw [keeps] at entryOf
  obtain ⟨entry, found, supervisor, running, own⟩ := entryOf
  refine ⟨tracked.positive, tracked.owner, ?_, fun _ _ never => (by cases never), ?_, tracked.cells, tracked.unique,
    tracked.bounded, fun _ member => (List.not_mem_nil member).elim, tracked.names, tracked.pids⟩
  · intro other otherHeld viewedOther active
    obtain ⟨otherEntry, present, supervised⟩ := tracked.join_attached joins viewed ended viewedOther active
    have different : otherHeld.name ≠ AfterJoin.name next := by
      intro same
      rw [same, found] at present
      cases present
      rw [supervisor] at supervised
      cases supervised
    refine .inl ⟨otherEntry, ?_, supervised⟩
    show (state.services.modify _ _).lookup otherHeld.name = some otherEntry
    rw [Table.lookup_modify, if_neg different]
    exact present
  · intro name otherEntry present
    change (state.services.modify _ _).lookup name = some otherEntry at present
    rw [Table.lookup_modify] at present
    split at present
    · rename_i same
      rw [found] at present
      cases present
      obtain ⟨otherHeld, viewedOther, otherName, otherSpec, kind⟩ := tracked.entries _ entry found
      have stopTx : entry.stopTx = none := by
        rcases kind with ⟨supervised, -, -⟩ | ⟨-, none_, -⟩
        · rw [supervisor] at supervised
          cases supervised
        · exact none_
      rw [own, viewed] at viewedOther
      cases viewedOther
      exact ⟨held, own ▸ viewed, otherName.trans same.symm, otherSpec, .inr ⟨supervisor, stopTx, .inl ⟨rfl, ended⟩⟩⟩
    · rename_i different
      obtain ⟨otherHeld, viewedOther, otherName, otherSpec, kind⟩ := tracked.entries name otherEntry present
      refine ⟨otherHeld, viewedOther, otherName, otherSpec, ?_⟩
      rcases kind with runs | ⟨none_, stopTx, stopped | ⟨-, otherNext, now⟩⟩
      · exact .inl runs
      · exact .inr ⟨none_, stopTx, .inl stopped⟩
      · rw [joins] at now
        cases now
        exact absurd (tracked.joining_entry joins present rfl) different

end MacMgmt.Proof.Supervisor
