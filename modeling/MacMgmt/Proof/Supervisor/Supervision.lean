import MacMgmt.Proof.Supervisor.Requests

/-!
# Supervision over whole runs

The invariant of a supervisor through requests, exits, respawns and reexecs, and what it says about children.
-/

namespace MacMgmt.Proof.Supervisor
open Lib MacMgmt.Supervisor

variable {state after : SupervisorState} {waiting : List SavedService}

/-! ## Handing over -/

structure Handover (saved : List SavedService) (processes : Processes) : Prop where
  positive : 0 < processes.nextPid
  covered : ∀ pid proc, processes.table.lookup pid = some proc →
    ∃ service ∈ saved, service.pid = pid ∧ service.name = proc.name ∧ service.spec = proc.spec
  bounds : ∀ service ∈ saved, 0 < service.pid ∧ service.pid < processes.nextPid
  names : (saved.map SavedService.name).Nodup
  pids : (saved.map SavedService.pid).Nodup

theorem trackedPid_view (state : SupervisorState) (entry : Entry) :
    state.trackedPid entry = match view state entry.pid with | some held => held.pid | none => 0 := by
  unfold SupervisorState.trackedPid view
  cases state.runners.lookup entry.pid with
  | none => rfl
  | some runner => rfl

theorem mem_saveStateForReexec {service : SavedService} : service ∈ state.saveStateForReexec ↔
    ∃ entry, state.services.lookup service.name = some entry ∧ state.trackedPid entry ≠ 0 ∧
      service = ⟨service.name, entry.spec, state.trackedPid entry, entry.resolvedProgram⟩ := by
  unfold SupervisorState.saveStateForReexec
  rw [List.mem_filterMap]
  constructor
  · intro ⟨⟨name, entry⟩, member, saved⟩
    split at saved
    · cases saved
    · rename_i stored
      cases saved
      exact ⟨entry, AList.mem_lookup_iff.mpr member, stored, rfl⟩
  · intro ⟨entry, present, stored, same⟩
    refine ⟨⟨service.name, entry⟩, AList.mem_lookup_iff.mp present, ?_⟩
    rw [if_neg stored]
    exact congrArg some same.symm

theorem map_name_filterMap {save : (item : (_ : ServiceName) × Entry) → Option SavedService}
    (named : ∀ item service, save item = some service → service.name = item.1) (items : List ((_ : ServiceName) × Entry)) :
    ((items.filterMap save).map SavedService.name).Sublist (items.map Sigma.fst) := by
  induction items with
  | nil => exact List.Sublist.refl _
  | cons item items ih =>
      cases saved : save item with
      | none =>
          rw [List.filterMap_cons_none saved]
          exact ih.cons _
      | some service =>
          rw [List.filterMap_cons_some saved, List.map_cons, List.map_cons, named item service saved]
          exact ih.cons_cons _

theorem saveStateForReexec_names (state : SupervisorState) :
    (state.saveStateForReexec.map SavedService.name).Nodup := by
  apply List.Nodup.sublist _ state.services.nodupKeys
  apply map_name_filterMap
  intro item service saved
  split at saved
  · cases saved
  · cases saved
    rfl

theorem Tracked.saved_pid {service : SavedService} (tracked : Tracked state waiting)
    (member : service ∈ state.saveStateForReexec) : ∃ task held, view state task = some held ∧ held.Holds service.pid ∧
      held.name = service.name := by
  obtain ⟨entry, present, stored, same⟩ := mem_saveStateForReexec.mp member
  obtain ⟨held, viewed, named, -, -⟩ := tracked.entries service.name entry present
  have cell : service.pid = held.pid := by
    rw [same, trackedPid_view, viewed]
  refine ⟨entry.pid, held, viewed, .inr ⟨?_, cell.symm⟩, named⟩
  rw [same]
  exact stored

theorem Tracked.tracked_entry {pid : Pid} {proc : Proc} (tracked : Tracked state []) (idle : state.loop = .idle)
    (present : state.processes.table.lookup pid = some proc)
    (stored : ∀ task held, view state task = some held → held.pc ≠ .spawned pid) :
    0 < pid ∧ ∃ entry, state.services.lookup proc.name = some entry ∧ entry.spec = proc.spec ∧
      state.trackedPid entry = pid := by
  rcases tracked.owner pid proc present with ⟨task, held, viewed, owned, named, specced⟩ | ⟨_, member, _⟩
  · have active : held.pc ≠ .done := by
      intro ended
      rw [ended] at owned
      cases owned
    have ok := tracked.cells task held viewed
    rcases tracked.attached task held viewed active with ⟨entry, found, supervised⟩ | ⟨next, joins⟩
    · obtain ⟨entryHeld, entryViewed, _, entrySpec, kind⟩ := tracked.entries held.name entry found
      have own : entry.pid = task := by
        rcases kind with ⟨runs, -, -⟩ | ⟨detached, -, -⟩
        · exact Option.some.inj (runs.symm.trans supervised)
        · rw [detached] at supervised
          cases supervised
      rw [own, viewed] at entryViewed
      cases entryViewed
      refine ⟨(ok.holds_bounds (.inl owned)).1, entry, named ▸ found, entrySpec.symm.trans specced, ?_⟩
      rw [trackedPid_view, own, viewed]
      exact ok.cell_eq owned (stored task held viewed)
    · exact absurd joins (not_joining idle task next)
  · exact (List.not_mem_nil member).elim

theorem Tracked.handover (tracked : Tracked state []) (idle : state.loop = .idle)
    (stored : ∀ task runner child, state.runners.lookup task = some runner → runner.pc ≠ .spawned child) :
    Handover state.saveStateForReexec state.processes := by
  have names := saveStateForReexec_names state
  refine ⟨tracked.positive, ?_, ?_, names, ?_⟩
  · intro pid proc present
    have free : ∀ task held, view state task = some held → held.pc ≠ .spawned pid := by
      intro task held viewed
      obtain ⟨runner, lookup, same⟩ := Option.map_eq_some_iff.mp viewed
      rw [← same]
      exact stored task runner pid lookup
    obtain ⟨positive, entry, found, specced, cell⟩ := tracked.tracked_entry idle present free
    refine ⟨⟨proc.name, entry.spec, pid, entry.resolvedProgram⟩, ?_, rfl, rfl, specced⟩
    apply mem_saveStateForReexec.mpr
    exact ⟨entry, found, by rw [cell]; exact Nat.ne_of_gt positive, by rw [cell]⟩
  · intro service member
    obtain ⟨task, held, viewed, holds, -⟩ := tracked.saved_pid member
    exact (tracked.cells task held viewed).holds_bounds holds
  · apply List.Nodup.map_on _ (List.Nodup.of_map _ names)
    intro one first other second same
    obtain ⟨task, held, viewed, holds, named⟩ := tracked.saved_pid first
    obtain ⟨task', held', viewed', holds', named'⟩ := tracked.saved_pid second
    have equal := tracked.unique task task' held held' one.pid viewed viewed' holds (same ▸ holds')
    rw [equal, viewed'] at viewed
    cases viewed
    exact List.inj_on_of_nodup_map names first second (named.symm.trans named')

theorem Handover.shrink {saved : List SavedService} {processes later : Processes} (handover : Handover saved processes)
    (same : later.nextPid = processes.nextPid)
    (subset : ∀ pid proc, later.table.lookup pid = some proc → ∃ before, processes.table.lookup pid = some before ∧
      before.name = proc.name ∧ before.spec = proc.spec) : Handover saved later := by
  refine ⟨same ▸ handover.positive, ?_, same ▸ handover.bounds, handover.names, handover.pids⟩
  intro pid proc present
  obtain ⟨before, found, name, spec⟩ := subset pid proc present
  rw [← name, ← spec]
  exact handover.covered pid before found

theorem Handover.runner {saved : List SavedService} {runner moved : Runner} {before later : Processes} {move : Move}
    (handover : Handover saved before) (step : Moved runner moved before later move) (other : move ≠ .spawn) :
    Handover saved later := by
  apply handover.shrink
  · cases step with
    | spawn pc same processes => exact absurd rfl other
    | keep _ child cell processes => rw [processes]
    | reap child _ owned gone cell processes => rw [processes]; rfl
  · intro pid proc present
    rcases step.table present with ⟨found, -⟩ | ⟨spawned, -⟩
    · exact ⟨proc, found, rfl, rfl⟩
    · exact absurd spawned other

theorem Handover.exit {saved : List SavedService} {processes : Processes} (handover : Handover saved processes)
    (pid : Pid) : Handover saved (processes.exit pid) := by
  refine handover.shrink rfl ?_
  intro other proc present
  obtain ⟨before, found, name, spec, -⟩ := lookup_exit present
  exact ⟨before, found, name, spec⟩

/-! ## The new image -/

theorem Tracked.setLoop (tracked : Tracked state waiting) (loop : LoopPc)
    (before : ∀ task next, state.loop ≠ .joining task next) (later : ∀ task next, loop ≠ .joining task next) :
    Tracked { state with loop := loop } waiting := by
  refine ⟨tracked.positive, tracked.owner, ?_, fun task next joins => absurd joins (later task next), ?_, tracked.cells,
    tracked.unique, tracked.bounded, tracked.awaited, tracked.names, tracked.pids⟩
  · intro task held viewed active
    rcases tracked.attached task held viewed active with present | ⟨next, joins⟩
    · exact .inl present
    · exact absurd joins (before task next)
  · intro name entry present
    obtain ⟨held, viewed, named, specced, kind⟩ := tracked.entries name entry present
    refine ⟨held, viewed, named, specced, ?_⟩
    rcases kind with runs | ⟨supervisor, stopTx, stopped | ⟨-, next, joins⟩⟩
    · exact .inl runs
    · exact .inr ⟨supervisor, stopTx, .inl stopped⟩
    · exact absurd joins (before entry.pid next)

theorem Handover.exec (handover : Handover state.saved state.processes) (cleared : state.services = ∅) :
    Tracked { state with
      runners := ∅, loop := .adopting state.saved, saved := [], answered := [], imagePid := state.processes.nextPid }
      state.saved := by
  refine ⟨handover.positive, fun pid proc present => .inr (handover.covered pid proc present), ?_, ?_, ?_, ?_, ?_, ?_, ?_,
    handover.names, handover.pids⟩
  · exact fun task held viewed => (by cases viewed)
  · exact fun task next joins => (by cases joins)
  · intro name entry present
    change state.services.lookup name = some entry at present
    rw [cleared] at present
    cases present
  · exact fun task held viewed => (by cases viewed)
  · exact fun first second one other pid viewed => (by cases viewed)
  · exact fun task held viewed => (by cases viewed)
  · intro service member
    obtain ⟨positive, below⟩ := handover.bounds service member
    refine ⟨?_, positive, below, fun task held viewed => (by cases viewed)⟩
    show state.services.lookup service.name = none
    rw [cleared]
    rfl

theorem Tracked.adopt {service : SavedService} {rest : List SavedService} (tracked : Tracked state (service :: rest))
    (unjoined : ∀ task next, state.loop ≠ .joining task next) : Tracked (state.adopt service) rest := by
  obtain ⟨absent, positive, below, unheld⟩ := tracked.awaited service List.mem_cons_self
  have names := tracked.names
  have pids := tracked.pids
  rw [List.map_cons, List.nodup_cons] at names pids
  unfold SupervisorState.adopt
  split
  · apply tracked.spawnRunner service.resolvedProgram unjoined
    · intro entry present
      rw [absent] at present
      cases present
    · exact List.sublist_cons_self service rest
    · intro other member same
      exact names.1 (same ▸ List.mem_map_of_mem member)
    · intro other member
      rcases List.mem_cons.mp member with same | later
      · exact .inr ⟨same ▸ rfl, same ▸ rfl, same ▸ rfl⟩
      · exact .inl later
    · exact ⟨rfl, positive, below⟩
    · intro pid holds
      have same : service.pid = pid := by
        rcases holds with owned | ⟨-, cell⟩
        · exact Option.some.inj owned
        · exact cell
      subst same
      refine ⟨unheld, fun other member equal => ?_⟩
      exact pids.1 (equal ▸ List.mem_map_of_mem member)
  · rename_i dead
    refine ⟨tracked.positive, ?_, tracked.attached, tracked.joining, tracked.entries, tracked.cells, tracked.unique,
      tracked.bounded, fun other member => tracked.awaited other (List.mem_cons_of_mem _ member), names.2, pids.2⟩
    intro pid proc present
    rcases tracked.owner pid proc present with owned | ⟨other, member, same, named⟩
    · exact .inl owned
    · rcases List.mem_cons.mp member with first | later
      · subst first
        subst same
        rw [Processes.isAlive, present] at dead
        exact absurd rfl dead
      · exact .inr ⟨other, later, same, named⟩

/-! ## Every step -/

def Supervision (state : SupervisorState) : Prop :=
  match state.loop with
  | .idle | .joining _ _ => Tracked state [] ∧ ∀ name, Obeyed state name
  | .adopting waiting => Tracked state waiting ∧ state.answered = []
  | .leaving => Handover state.saved state.processes
  | .aborted => Handover state.saved state.processes ∧ state.services = ∅

/-- Around a reexec no child is between its spawn and the store of its pid when the snapshot is taken, and none is
spawned from then until the new image runs. -/
def CleanHandover (state : SupervisorState) : SupervisorEvent → Prop
  | .updateSelf true => ∀ task runner child, state.runners.lookup task = some runner → runner.pc ≠ .spawned child
  | .runner _ .spawn => state.loop ≠ .leaving ∧ state.loop ≠ .aborted
  | _ => True

theorem supervision_new : Supervision SupervisorState.new := by
  refine ⟨⟨Nat.one_pos, ?_, ?_, ?_, ?_, ?_, ?_, ?_, ?_, List.nodup_nil, List.nodup_nil⟩, fun _ => trivial⟩
  · exact fun pid proc present => (by cases present)
  · exact fun task held viewed => (by cases viewed)
  · exact fun task next joins => (by cases joins)
  · exact fun name entry present => (by cases present)
  · exact fun task held viewed => (by cases viewed)
  · exact fun first second one other pid viewed => (by cases viewed)
  · exact fun task held viewed => (by cases viewed)
  · exact fun service member => (List.not_mem_nil member).elim

theorem Handled.supervision {request : Request} (handled : Handled state after request)
    (obeyed : ∀ name, Obeyed after name) : Supervision after := by
  unfold Supervision
  rcases handled.outcome with ⟨idle, -⟩ | ⟨task, next, entry, joins, -⟩
  · rw [idle]
    exact ⟨handled.tracked, obeyed⟩
  · rw [joins]
    exact ⟨handled.tracked, obeyed⟩

theorem Supervision.idle (supervision : Supervision state) (idle : state.loop = .idle) :
    Tracked state [] ∧ ∀ name, Obeyed state name := by
  unfold Supervision at supervision
  rw [idle] at supervision
  exact supervision

theorem Supervision.request {request : Request} (os : Os) (supervision : Supervision state) (idle : state.loop = .idle)
    (served : request ≠ .shutdown ∧ request ≠ .updateSelf) : Supervision (state.handle request os) := by
  obtain ⟨tracked, obeyed⟩ := supervision.idle idle
  have handled : Handled state (state.handle request os) request := tracked.handle request served idle
  apply handled.supervision
  exact fun name => handled.obeyed (fun task next joins => absurd joins (not_joining idle task next)) (obeyed name)

theorem Supervision.join {task : TaskId} {next : AfterJoin} {runner : Runner} (os : Os) (supervision : Supervision state)
    (joins : state.loop = .joining task next) (found : state.runners.lookup task = some runner)
    (ended : runner.pc = .done) : Supervision (state.joined next os) := by
  unfold Supervision at supervision
  rw [joins] at supervision
  obtain ⟨tracked, obeyed⟩ := supervision
  have viewed : view state task = some (Runner.view runner) := by simp only [view, found, Option.map_some]
  have handled : Handled state (state.joined next os) (AfterJoin.request next) := tracked.joined joins viewed ended
  apply handled.supervision
  intro name
  apply handled.obeyed _ (obeyed name)
  intro other otherNext now
  rw [joins] at now
  cases now
  exact controls_request next

theorem Supervision.frame (supervision : Supervision state) (loop : after.loop = state.loop)
    (services : after.services = state.services) (answered : after.answered = state.answered)
    (tracked : ∀ waiting, Tracked state waiting → Tracked after waiting)
    (handover : state.loop = .leaving ∨ state.loop = .aborted → Handover state.saved state.processes →
      Handover after.saved after.processes) : Supervision after := by
  have obeyed : ∀ name, Obeyed state name → Obeyed after name := by
    intro name holds
    unfold Obeyed Unawaited at holds ⊢
    rw [loop, services, answered]
    exact holds
  unfold Supervision at supervision ⊢
  rw [loop, services, answered]
  cases now : state.loop with
  | idle =>
      rw [now] at supervision
      exact ⟨tracked [] supervision.1, fun name => obeyed name (supervision.2 name)⟩
  | joining task next =>
      rw [now] at supervision
      exact ⟨tracked [] supervision.1, fun name => obeyed name (supervision.2 name)⟩
  | adopting waiting =>
      rw [now] at supervision
      exact ⟨tracked waiting supervision.1, supervision.2⟩
  | leaving =>
      rw [now] at supervision
      exact handover (.inl now) supervision
  | aborted =>
      rw [now] at supervision
      exact ⟨handover (.inr now) supervision.1, supervision.2⟩

theorem Supervision.runner {task : TaskId} {runner moved : Runner} {processes : Processes} {move : Move}
    (supervision : Supervision state) (condition : CleanHandover state (.runner task move))
    (found : state.runners.lookup task = some runner)
    (stepped : runner.move state.processes move = some (moved, processes)) :
    Supervision { state with runners := state.runners.insert task moved, processes := processes } := by
  refine supervision.frame rfl rfl rfl (fun waiting tracked => tracked.runner found stepped) ?_
  intro leaving handover
  apply handover.runner (move_moved stepped)
  intro spawns
  subst spawns
  rcases leaving with now | now
  · exact condition.1 now
  · exact condition.2 now

theorem Supervision.exit (pid : Pid) (supervision : Supervision state) :
    Supervision { state with processes := state.processes.exit pid } :=
  supervision.frame rfl rfl rfl (fun _ tracked => tracked.exit pid) (fun _ handover => handover.exit pid)

theorem Supervision.step {event : SupervisorEvent} (supervision : Supervision state)
    (condition : CleanHandover state event) (stepped : supervisorStep state event = some after) : Supervision after := by
  cases event with
  | request request os =>
      simp only [supervisorStep] at stepped
      split at stepped
      · cases stepped
      · cases stepped
      · rename_i idle notShutdown notUpdate
        cases stepped
        exact supervision.request os idle ⟨notShutdown, notUpdate⟩
      · cases stepped
  | join os =>
      simp only [supervisorStep] at stepped
      split at stepped
      · rename_i task next joins
        split at stepped
        · rename_i runner found
          split at stepped
          · rename_i ended
            cases stepped
            exact supervision.join os joins found ended
          · cases stepped
        · cases stepped
      · cases stepped
  | runner task move =>
      simp only [supervisorStep] at stepped
      split at stepped
      · cases stepped
      · rename_i runner found
        split at stepped
        · cases stepped
        · split at stepped
          · cases stepped
          · rename_i moved processes moves
            cases stepped
            exact supervision.runner condition found moves
  | exit pid =>
      cases stepped
      exact supervision.exit pid
  | updateSelf changed =>
      simp only [supervisorStep] at stepped
      split at stepped
      · rename_i idle
        obtain ⟨tracked, obeyed⟩ := supervision.idle idle
        split at stepped
        · rename_i changes
          subst changes
          cases stepped
          exact tracked.handover idle condition
        · cases stepped
          have handled : Handled state (state.respond .updateSelf .noChange) .updateSelf :=
            Handled.unchanged _ tracked idle trivial
          apply handled.supervision
          exact fun name => handled.obeyed (fun task next joins => absurd joins (not_joining idle task next)) (obeyed name)
      · cases stepped
  | abort =>
      simp only [supervisorStep] at stepped
      split at stepped
      · rename_i leaving
        cases stepped
        unfold Supervision at supervision
        rw [leaving] at supervision
        exact ⟨supervision, rfl⟩
      · cases stepped
  | exec =>
      simp only [supervisorStep] at stepped
      split at stepped
      · rename_i aborted
        cases stepped
        unfold Supervision at supervision
        rw [aborted] at supervision
        exact ⟨supervision.1.exec supervision.2, rfl⟩
      · cases stepped
  | adopt =>
      simp only [supervisorStep] at stepped
      split at stepped
      · rename_i service rest adopting
        cases stepped
        unfold Supervision at supervision
        rw [adopting] at supervision
        have unjoined : ∀ task next, state.loop ≠ .joining task next := by
          intro task next joins
          rw [adopting] at joins
          cases joins
        have adopted := supervision.1.adopt unjoined
        have loop : (state.adopt service).loop = state.loop := by
          unfold SupervisorState.adopt
          split
          · rfl
          · rfl
        have answered : (state.adopt service).answered = state.answered := by
          unfold SupervisorState.adopt
          split
          · rfl
          · rfl
        refine ⟨adopted.setLoop (.adopting rest) (loop ▸ unjoined) (fun _ _ joins => by cases joins), ?_⟩
        exact answered.trans supervision.2
      · cases stepped
  | serve =>
      simp only [supervisorStep] at stepped
      split at stepped
      · rename_i adopting
        cases stepped
        unfold Supervision at supervision
        rw [adopting] at supervision
        refine ⟨supervision.1.setLoop .idle ?_ (fun _ _ joins => by cases joins), fun name => ?_⟩
        · intro task next joins
          rw [adopting] at joins
          cases joins
        · unfold Obeyed
          rw [show lastControl name _ = none by rw [supervision.2]; rfl]
          trivial
      · cases stepped

theorem Supervision.run {events : List SupervisorEvent} {final : SupervisorState}
    (ran : run supervisorStep SupervisorState.new events = some final)
    (meets : Meets supervisorStep CleanHandover SupervisorState.new events) : Supervision final :=
  run_invariant_of_meets (fun _ _ _ => Supervision.step) supervision_new meets ran

/-! ## Children -/

def LiveChild (state : SupervisorState) (name : ServiceName) (pid : Pid) : Prop :=
  ∃ proc, state.processes.table.lookup pid = some proc ∧ proc.alive = true ∧ proc.name = name

def LoopPc.serves : LoopPc → Bool
  | .idle | .joining _ _ | .adopting _ => true
  | .leaving | .aborted => false

theorem Supervision.tracked (supervision : Supervision state) (serves : LoopPc.serves state.loop = true) :
    ∃ waiting, Tracked state waiting ∧ (waiting = [] ∨ ∀ task next, state.loop ≠ .joining task next) := by
  unfold Supervision at supervision
  cases loop : state.loop with
  | idle =>
      rw [loop] at supervision
      exact ⟨[], supervision.1, .inl rfl⟩
  | joining task next =>
      rw [loop] at supervision
      exact ⟨[], supervision.1, .inl rfl⟩
  | adopting waiting =>
      rw [loop] at supervision
      exact ⟨waiting, supervision.1, .inr fun task next joins => by cases joins⟩
  | leaving =>
      rw [loop] at serves
      cases serves
  | aborted =>
      rw [loop] at serves
      cases serves

theorem Tracked.active_unique {first second : TaskId} {one other : View} (tracked : Tracked state waiting)
    (viewed : view state first = some one) (viewed' : view state second = some other) (active : one.pc ≠ .done)
    (active' : other.pc ≠ .done) (same : one.name = other.name) : first = second := by
  have awaited : ∀ {task task' : TaskId} {held : View} {entry : Entry} {next : AfterJoin}, view state task = some held →
      state.services.lookup held.name = some entry → entry.supervisor = some task' → state.loop = .joining task next →
      False := by
    intro task task' held entry next seen present supervised joins
    obtain ⟨⟨_, seen', named⟩, entryOf⟩ := tracked.joining task next joins
    rw [seen] at seen'
    cases seen'
    rw [named] at present
    cases keeps : AfterJoin.keepsEntry next with
    | true =>
        rw [keeps] at entryOf
        obtain ⟨_, found, detached, -⟩ := entryOf
        rw [present] at found
        cases found
        rw [detached] at supervised
        cases supervised
    | false =>
        rw [keeps] at entryOf
        rw [show state.services.lookup _ = none from entryOf] at present
        cases present
  rcases tracked.attached first one viewed active with ⟨entry, present, supervised⟩ | ⟨next, joins⟩
  · rcases tracked.attached second other viewed' active' with ⟨entry', present', supervised'⟩ | ⟨next', joins'⟩
    · rw [same, present'] at present
      cases present
      exact Option.some.inj (supervised.symm.trans supervised')
    · exact (awaited viewed' (same ▸ present) supervised joins').elim
  · rcases tracked.attached second other viewed' active' with ⟨entry', present', supervised'⟩ | ⟨next', joins'⟩
    · exact (awaited viewed (same ▸ present') supervised' joins).elim
    · rw [joins] at joins'
      cases joins'
      rfl

theorem child_active {held : View} {pid : Pid} (owned : held.pc.child = some pid) : held.pc ≠ .done := by
  intro ended
  rw [ended] at owned
  cases owned

theorem Tracked.child_unique {name : ServiceName} {first second : Pid} (tracked : Tracked state waiting)
    (free : waiting = [] ∨ ∀ task next, state.loop ≠ .joining task next) (one : LiveChild state name first)
    (other : LiveChild state name second) : first = second := by
  obtain ⟨proc, present, -, named⟩ := one
  obtain ⟨proc', present', -, named'⟩ := other
  -- A runner of the name excludes a service of the name that waits to be adopted.
  have apart : ∀ {task : TaskId} {held : View} {service : SavedService}, view state task = some held → held.pc ≠ .done →
      service ∈ waiting → held.name = service.name → False := by
    intro task held service viewed active member same
    rcases tracked.attached task held viewed active with ⟨entry, found, -⟩ | ⟨next, joins⟩
    · rw [same, (tracked.awaited service member).1] at found
      cases found
    · rcases free with none_ | unjoined
      · rw [none_] at member
        exact List.not_mem_nil member
      · exact unjoined task next joins
  rcases tracked.owner first proc present with ⟨task, held, viewed, owned, held_name, -⟩ | ⟨service, member, pid, service_name, -⟩
  · rcases tracked.owner second proc' present' with ⟨task', held', viewed', owned', held_name', -⟩ | ⟨service, member, -, service_name, -⟩
    · have same := tracked.active_unique viewed viewed' (child_active owned) (child_active owned')
        (by rw [held_name, held_name', named, named'])
      rw [same, viewed'] at viewed
      cases viewed
      exact Option.some.inj (owned.symm.trans owned')
    · exact (apart viewed (child_active owned) member (by rw [held_name, service_name, named, named'])).elim
  · rcases tracked.owner second proc' present' with ⟨task', held', viewed', owned', held_name', -⟩ | ⟨service', member', pid', service_name', -⟩
    · exact (apart viewed' (child_active owned') member (by rw [held_name', service_name, named, named'])).elim
    · have same := List.inj_on_of_nodup_map tracked.names member member' (by rw [service_name, service_name', named, named'])
      rw [← pid, ← pid', same]

theorem Tracked.child_entry {name : ServiceName} {pid : Pid} (tracked : Tracked state waiting)
    (live : LiveChild state name pid) :
    (∃ entry, state.services.lookup name = some entry ∧ entry.stopped = false) ∨
      (∃ task next, state.loop = .joining task next ∧ AfterJoin.name next = name) ∨
      ∃ service ∈ waiting, service.name = name := by
  obtain ⟨proc, present, -, named⟩ := live
  rcases tracked.owner pid proc present with ⟨task, held, viewed, owned, held_name, -⟩ | ⟨service, member, -, service_name, -⟩
  · rcases tracked.attached task held viewed (child_active owned) with ⟨entry, found, supervised⟩ | ⟨next, joins⟩
    · left
      rw [held_name, named] at found
      refine ⟨entry, found, ?_⟩
      by_contra stopped
      rw [tracked.supervisor_none found (by simpa using stopped)] at supervised
      cases supervised
    · obtain ⟨⟨_, viewed', next_name⟩, -⟩ := tracked.joining task next joins
      rw [viewed] at viewed'
      cases viewed'
      exact .inr (.inl ⟨task, next, joins, next_name.symm.trans (held_name.trans named)⟩)
  · exact .inr (.inr ⟨service, member, service_name.trans named⟩)

/-- What holds of a supervisor while it serves requests. The one entry without a runner that is not marked stopped is
the entry whose runner the loop is waiting for. -/
structure Supervised (state : SupervisorState) : Prop where
  oneChild : ∀ name first second, LiveChild state name first → LiveChild state name second → first = second
  stoppedEntry : ∀ name entry, state.services.lookup name = some entry → entry.stopped = true →
    entry.supervisor = none ∧ entry.stopTx = none ∧ ∀ pid, ¬ LiveChild state name pid
  idleEntry : ∀ name entry, state.services.lookup name = some entry → entry.supervisor = none → entry.stopTx = none →
    entry.stopped = true ∨ ∃ task next, state.loop = .joining task next ∧ AfterJoin.name next = name
  down : ∀ name, lastControl name state.answered = some (.stop name) ∨
    lastControl name state.answered = some (.unregister name) → ∀ pid, ¬ LiveChild state name pid
  registered : state.loop = .idle → ∀ name spec, lastControl name state.answered = some (.register name spec) →
    ∃ entry, state.services.lookup name = some entry ∧ entry.spec = spec ∧ entry.stopped = false

theorem Tracked.stopped_childless {name : ServiceName} {entry : Entry} {pid : Pid} (tracked : Tracked state waiting)
    (found : state.services.lookup name = some entry) (stopped : entry.stopped = true) : ¬ LiveChild state name pid := by
  intro live
  rcases tracked.child_entry live with ⟨other, present, runs⟩ | ⟨task, next, joins, named⟩ | ⟨service, member, named⟩
  · rw [found] at present
    cases present
    rw [stopped] at runs
    cases runs
  · have entryOf := (tracked.joining task next joins).2
    cases keeps : AfterJoin.keepsEntry next with
    | true =>
        rw [keeps, named] at entryOf
        obtain ⟨other, present, -, runs, -⟩ := entryOf
        rw [found] at present
        cases present
        rw [stopped] at runs
        cases runs
    | false =>
        rw [keeps, named] at entryOf
        rw [show state.services.lookup name = none from entryOf] at found
        cases found
  · rw [← named, (tracked.awaited service member).1] at found
    cases found

theorem Obeyed.childless {name : ServiceName} {pid : Pid} (tracked : Tracked state []) (obeyed : Obeyed state name)
    (last : lastControl name state.answered = some (.stop name) ∨
      lastControl name state.answered = some (.unregister name)) : ¬ LiveChild state name pid := by
  have downed : (∀ entry, state.services.lookup name = some entry → entry.stopped = true) ∧ Unawaited state name := by
    unfold Obeyed at obeyed
    rcases last with last | last
    · rw [last] at obeyed
      exact obeyed
    · rw [last] at obeyed
      exact obeyed
  intro live
  rcases tracked.child_entry live with ⟨entry, found, runs⟩ | ⟨task, next, joins, named⟩ | ⟨_, member, -⟩
  · rw [downed.1 entry found] at runs
    cases runs
  · exact downed.2 task next joins named
  · exact List.not_mem_nil member

theorem Supervision.supervised (supervision : Supervision state) (serves : LoopPc.serves state.loop = true) :
    Supervised state := by
  obtain ⟨waiting, tracked, free⟩ := supervision.tracked serves
  refine ⟨fun name first second => tracked.child_unique free, ?_, ?_, ?_, ?_⟩
  · intro name entry found stopped
    have supervisor := tracked.supervisor_none found stopped
    obtain ⟨_, _, _, _, kind⟩ := tracked.entries name entry found
    rcases kind with ⟨supervised, -, -⟩ | ⟨-, stopTx, -⟩
    · rw [supervisor] at supervised
      cases supervised
    · exact ⟨supervisor, stopTx, fun pid => tracked.stopped_childless found stopped⟩
  · intro name entry found supervisor stopTx
    obtain ⟨held, viewed, named, _, kind⟩ := tracked.entries name entry found
    rcases kind with ⟨supervised, -, -⟩ | ⟨-, -, ⟨stopped, -⟩ | ⟨-, next, joins⟩⟩
    · rw [supervisor] at supervised
      cases supervised
    · exact .inl stopped
    · obtain ⟨⟨_, viewed', next_name⟩, -⟩ := tracked.joining entry.pid next joins
      rw [viewed] at viewed'
      cases viewed'
      exact .inr ⟨entry.pid, next, joins, next_name.symm.trans named⟩
  · intro name last pid
    unfold Supervision at supervision
    cases loop : state.loop with
    | idle =>
        rw [loop] at supervision
        exact (supervision.2 name).childless supervision.1 last
    | joining task next =>
        rw [loop] at supervision
        exact (supervision.2 name).childless supervision.1 last
    | adopting waiting =>
        rw [loop] at supervision
        rw [supervision.2] at last
        rcases last with impossible | impossible
        · cases impossible
        · cases impossible
    | leaving =>
        rw [loop] at serves
        cases serves
    | aborted =>
        rw [loop] at serves
        cases serves
  · intro idle name spec last
    have obeyed := (supervision.idle idle).2 name
    unfold Obeyed at obeyed
    rw [last] at obeyed
    exact obeyed (unawaited_idle idle)

theorem handle_serves (state : SupervisorState) (request : Request) (os : Os) :
    LoopPc.serves (state.handle request os).loop = true := by
  cases request with
  | register name spec =>
      simp only [SupervisorState.handle, SupervisorState.register]
      split
      · rfl
      · split
        · split
          · rfl
          · rfl
        · split
          · rfl
          · rfl
  | unregister name =>
      simp only [SupervisorState.handle]
      split
      · rfl
      · rfl
  | stop name =>
      simp only [SupervisorState.handle]
      split
      · rfl
      · rfl
  | restart name =>
      simp only [SupervisorState.handle]
      split
      · rfl
      · split
        · rfl
        · rfl
  | start name => rfl
  | kill name signal => rfl
  | list => rfl
  | shutdown => rfl
  | updateSelf => rfl

theorem joined_serves (state : SupervisorState) (next : AfterJoin) (os : Os) :
    LoopPc.serves (state.joined next os).loop = true := by
  cases next with
  | _ => rfl

theorem serves_step {event : SupervisorEvent} (stays : event ≠ .updateSelf true)
    (serves : LoopPc.serves state.loop = true) (stepped : supervisorStep state event = some after) :
    LoopPc.serves after.loop = true := by
  cases event with
  | request request os =>
      simp only [supervisorStep] at stepped
      split at stepped
      · cases stepped
      · cases stepped
      · cases stepped
        exact handle_serves state _ os
      · cases stepped
  | join os =>
      simp only [supervisorStep] at stepped
      split at stepped
      · rename_i task next joins
        split at stepped
        · split at stepped
          · cases stepped
            exact joined_serves state next os
          · cases stepped
        · cases stepped
      · cases stepped
  | runner task move =>
      simp only [supervisorStep] at stepped
      split at stepped
      · cases stepped
      · split at stepped
        · cases stepped
        · split at stepped
          · cases stepped
          · cases stepped
            exact serves
  | exit pid =>
      cases stepped
      exact serves
  | updateSelf changed =>
      simp only [supervisorStep] at stepped
      split at stepped
      · split at stepped
        · rename_i changes
          subst changes
          exact absurd rfl stays
        · cases stepped
          rfl
      · cases stepped
  | abort =>
      simp only [supervisorStep] at stepped
      split at stepped
      · rename_i leaving
        rw [leaving] at serves
        cases serves
      · cases stepped
  | exec =>
      simp only [supervisorStep] at stepped
      split at stepped
      · rename_i aborted
        rw [aborted] at serves
        cases serves
      · cases stepped
  | adopt =>
      simp only [supervisorStep] at stepped
      split at stepped
      · cases stepped
        rfl
      · cases stepped
  | serve =>
      simp only [supervisorStep] at stepped
      split at stepped
      · cases stepped
        rfl
      · cases stepped

theorem cleanHandover_of_serves {event : SupervisorEvent} (stays : event ≠ .updateSelf true)
    (serves : LoopPc.serves state.loop = true) : CleanHandover state event := by
  unfold CleanHandover
  split
  · exact absurd rfl stays
  · constructor
    · intro leaving
      rw [leaving] at serves
      cases serves
    · intro aborted
      rw [aborted] at serves
      cases serves
  · trivial

theorem meets_without_updateSelf {events : List SupervisorEvent} (absent : .updateSelf true ∉ events) :
    Meets supervisorStep CleanHandover SupervisorState.new events := by
  apply meets_of_invariant (fun _ _ _ => serves_step) (fun _ _ => cleanHandover_of_serves) rfl
  intro event member same
  rw [same] at member
  exact absent member

/-- In every run, over any sequence of requests interleaved with exits and respawns (and also through reexecs, if they
hand every child over): one live child a name, entries that say truly whether they run, no child after a `Stop` or
`Unregister`, and the registered spec after a `Register`. -/
theorem services_supervised {events : List SupervisorEvent} {final : SupervisorState}
    (ran : run supervisorStep SupervisorState.new events = some final)
    (reexecs : .updateSelf true ∉ events ∨ Meets supervisorStep CleanHandover SupervisorState.new events)
    (serves : LoopPc.serves final.loop = true) : Supervised final := by
  have meets : Meets supervisorStep CleanHandover SupervisorState.new events := by
    rcases reexecs with absent | meets
    · exact meets_without_updateSelf absent
    · exact meets
  exact (Supervision.run ran meets).supervised serves

def RunnerPc.isSpawned : RunnerPc → Bool
  | .spawned _ => true
  | _ => false

theorem isSpawned_false {pc : RunnerPc} : RunnerPc.isSpawned pc = false ↔ ∀ child, pc ≠ .spawned child := by
  cases pc with
  | spawned child => exact ⟨fun impossible => (by cases impossible), fun all => absurd rfl (all child)⟩
  | _ => exact ⟨fun _ child same => (by cases same), fun _ => rfl⟩

instance (state : SupervisorState) (event : SupervisorEvent) : Decidable (CleanHandover state event) :=
  match event with
  | .updateSelf true =>
      decidable_of_iff (∀ item ∈ state.runners.entries, RunnerPc.isSpawned item.2.pc = false) (by
        rw [← Table.forall_lookup_iff state.runners fun _ runner => RunnerPc.isSpawned runner.pc = false]
        constructor
        · exact fun all task runner child found => isSpawned_false.mp (all task runner found) child
        · exact fun all task runner found => isSpawned_false.mpr fun child => all task runner child found)
  | .runner _ .spawn => inferInstanceAs (Decidable (state.loop ≠ .leaving ∧ state.loop ≠ .aborted))
  | .runner _ .spawnFails | .runner _ .storePid | .runner _ .childExited | .runner _ .stop | .runner _ .graceOver
  | .runner _ .kill | .runner _ .clearPid | .runner _ .delayOver | .runner _ .stillRunning | .runner _ .pollAgain
  | .updateSelf false | .request _ _ | .join _ | .exit _ | .abort | .exec | .adopt | .serve => .isTrue trivial

def quietOs : Os := ⟨fun _ => none, fun _ => none, fun _ _ => none⟩

def sleepSpec : SpawnSpec := ⟨"sleep", ["3600"], ∅⟩

def runnerMoves (task : TaskId) (moves : List Move) : List SupervisorEvent := moves.map (.runner task)

/-- A service is registered, stopped with its child, started again, handed over to a new image and adopted. -/
def stopStartReexec : List SupervisorEvent :=
  [.request (.register "a" sleepSpec) quietOs] ++ runnerMoves 0 [.spawn, .storePid] ++
    [.request (.stop "a") quietOs] ++ runnerMoves 0 [.stop] ++ [.exit 1] ++ runnerMoves 0 [.childExited, .clearPid] ++
    [.join quietOs, .request (.start "a") quietOs] ++ runnerMoves 1 [.spawn, .storePid] ++
    [.updateSelf true, .abort, .exec, .adopt, .serve, .request (.register "a" sleepSpec) quietOs]

theorem services_supervised_reexec : ∃ final, run supervisorStep SupervisorState.new stopStartReexec = some final ∧
    Supervised final :=
  ⟨_, rfl, @services_supervised stopStartReexec _ rfl (.inr (by decide)) rfl⟩

end MacMgmt.Proof.Supervisor
