import MacMgmt.Proof.Supervisor.Ownership

/-!
# Handling a request

Each request keeps the ownership invariant, and leaves the service it names as the request says.
-/

namespace MacMgmt.Proof.Supervisor
open Lib MacMgmt.Supervisor

variable {state : SupervisorState} {name : ServiceName} {os : Os}

/-! ## Ownership -/

theorem not_joining (idle : state.loop = .idle) : ∀ task next, state.loop ≠ .joining task next := by
  intro task next joins
  rw [idle] at joins
  cases joins

theorem Tracked.respond_idle {waiting : List SavedService} (tracked : Tracked state waiting) (idle : state.loop = .idle)
    (request : Request) (response : Response) : Tracked (state.respond request response) waiting :=
  tracked.of_eq rfl rfl rfl rfl idle.symm

theorem requestStop_loop (state : SupervisorState) (stopTx : Option TaskId) :
    (state.requestStop stopTx).loop = state.loop := by
  cases stopTx with
  | none => rfl
  | some task => rfl

theorem startSvc_loop : (state.startSvc name os).1.loop = state.loop := by
  unfold SupervisorState.startSvc
  split
  · rfl
  · split
    · rfl
    · rfl

theorem startSvc_withLoop (state : SupervisorState) (loop : LoopPc) :
    ({ state with loop := loop }.startSvc name os).1 = { (state.startSvc name os).1 with loop := loop } := by
  unfold SupervisorState.startSvc
  cases held : state.services.lookup name with
  | none => rfl
  | some entry =>
      by_cases stopped : entry.stopped = true
      · simp only [stopped, if_true]
        rfl
      · simp only [stopped]
        rfl

theorem Tracked.startSvc (name : ServiceName) (os : Os) (tracked : Tracked state []) (idle : state.loop = .idle) :
    Tracked (state.startSvc name os).1 [] := by
  unfold SupervisorState.startSvc
  split
  · exact tracked
  · rename_i entry found
    split
    · rename_i stopped
      apply tracked.spawnNew _ _ (not_joining idle)
      intro other present
      rw [found] at present
      cases present
      exact stopped
    · exact tracked

theorem Tracked.requestStop {services : Table ServiceName Entry} {loop : LoopPc} {waiting : List SavedService}
    (stopTx : Option TaskId) (tracked : Tracked { state with services := services, loop := loop } waiting) :
    Tracked { ({ state with services := services }.requestStop stopTx) with loop := loop } waiting := by
  obtain ⟨same, processes, nextTask, -⟩ := requestStop_frame { state with services := services } stopTx
  exact tracked.of_eq same (view_requestStop { state with services := services } stopTx) nextTask processes rfl

theorem Tracked.supervisor_none {waiting : List SavedService} {entry : Entry} (tracked : Tracked state waiting)
    (found : state.services.lookup name = some entry) (stopped : entry.stopped = true) : entry.supervisor = none := by
  obtain ⟨_, _, _, _, kind⟩ := tracked.entries name entry found
  rcases kind with ⟨-, -, runs⟩ | ⟨detached, -, -⟩
  · rw [stopped] at runs
    cases runs
  · exact detached

theorem Tracked.stopped_of_none {waiting : List SavedService} {entry : Entry} (tracked : Tracked state waiting)
    (idle : state.loop = .idle) (found : state.services.lookup name = some entry)
    (detached : entry.supervisor = none) : entry.stopped = true := by
  obtain ⟨_, _, _, _, kind⟩ := tracked.entries name entry found
  rcases kind with ⟨supervised, -, -⟩ | ⟨-, -, ⟨stopped, -⟩ | ⟨-, next, joins⟩⟩
  · rw [detached] at supervised
    cases supervised
  · exact stopped
  · exact absurd joins (not_joining idle _ next)

theorem lookup_requestStop (services : Table ServiceName Entry) (stopTx : Option TaskId) (other : ServiceName) :
    ({ state with services := services }.requestStop stopTx).services.lookup other = services.lookup other := by
  rw [(requestStop_frame _ _).1]

theorem Tracked.unregister (name : ServiceName) (tracked : Tracked state []) (idle : state.loop = .idle) :
    ∃ rest, rest.services.lookup name = none ∧ rest.answered = state.answered ∧
      (∀ other, other ≠ name → rest.services.lookup other = state.services.lookup other) ∧
      ((state.unregister name = (rest, none) ∧ Tracked rest [] ∧ rest.loop = .idle) ∨
        ∃ task entry, state.unregister name = (rest, some task) ∧ state.services.lookup name = some entry ∧
          entry.stopped = false ∧ ∀ next, AfterJoin.name next = name → AfterJoin.keepsEntry next = false →
            Tracked { rest with loop := .joining task next } []) := by
  unfold SupervisorState.unregister
  cases found : state.services.lookup name with
  | none => exact ⟨state, found, rfl, fun _ _ => rfl, .inl ⟨rfl, tracked, idle⟩⟩
  | some entry =>
      refine ⟨{ state with services := state.services.erase name }.requestStop entry.stopTx, ?_, ?_, ?_, ?_⟩
      · rw [lookup_requestStop, Table.lookup_erase_ite, if_pos rfl]
      · exact (requestStop_frame _ _).2.2.2
      · intro other different
        rw [lookup_requestStop, Table.lookup_erase_ite, if_neg different]
      · cases supervisor : entry.supervisor with
        | none =>
            have removed := (tracked.remove idle found (.inl ⟨supervisor, rfl⟩)).requestStop entry.stopTx
            have stays := (requestStop_loop { state with services := state.services.erase name } entry.stopTx).trans idle
            exact .inl ⟨by simp only [supervisor], removed.of_eq rfl rfl rfl rfl stays, stays⟩
        | some task =>
            have runs : entry.stopped = false := by
              by_contra stopped
              rw [tracked.supervisor_none found (by simpa using stopped)] at supervisor
              cases supervisor
            refine .inr ⟨task, entry, by simp only [supervisor], rfl, runs, fun next named drops => ?_⟩
            exact (tracked.remove idle found (.inr ⟨task, next, supervisor, rfl, named, drops⟩)).requestStop entry.stopTx

theorem Tracked.stopSvc (name : ServiceName) (tracked : Tracked state []) (idle : state.loop = .idle) :
    (∃ response, state.stopSvc name = (state, response, none) ∧
      ∀ entry, state.services.lookup name = some entry → entry.stopped = true) ∨
    ∃ rest task response entry, state.stopSvc name = (rest, response, some task) ∧ rest.answered = state.answered ∧
      state.services.lookup name = some entry ∧ entry.stopped = false ∧
      (∀ other, other ≠ name → rest.services.lookup other = state.services.lookup other) ∧
      ∀ next, AfterJoin.name next = name → AfterJoin.keepsEntry next = true →
        Tracked { rest with loop := .joining task next } [] := by
  unfold SupervisorState.stopSvc
  cases found : state.services.lookup name with
  | none => exact .inl ⟨_, rfl, fun _ present => by cases present⟩
  | some entry =>
      by_cases stopped : entry.stopped = true
      · refine .inl ⟨.ok, by simp only [stopped, if_true], fun other present => ?_⟩
        cases present
        exact stopped
      · cases supervisor : entry.supervisor with
        | none => exact absurd (tracked.stopped_of_none idle found supervisor) stopped
        | some task =>
            let detached : Entry := { entry with stopTx := none, supervisor := none, stopped := false }
            refine .inr ⟨{ state with services := state.services.insert name detached }.requestStop entry.stopTx, task, .ok,
              entry, ?_, (requestStop_frame _ _).2.2.2, rfl, by simpa using stopped, ?_, fun next named keeps =>
              (tracked.detach idle found supervisor rfl named keeps).requestStop entry.stopTx⟩
            · simp only [stopped, Option.isNone_some, supervisor]
              rfl
            · intro other different
              rw [lookup_requestStop, Table.lookup_insert_ite, if_neg different]

theorem startSvc_frame (state : SupervisorState) (name : ServiceName) (os : Os) :
    (state.startSvc name os).1.answered = state.answered ∧
      ∀ other, other ≠ name → (state.startSvc name os).1.services.lookup other = state.services.lookup other := by
  unfold SupervisorState.startSvc
  split
  · exact ⟨rfl, fun _ _ => rfl⟩
  · split
    · refine ⟨rfl, fun other different => ?_⟩
      rw [SupervisorState.spawnRunner, Table.lookup_insert_ite, if_neg different]
    · exact ⟨rfl, fun _ _ => rfl⟩

/-! ## What a handled request leaves behind -/

def controls (name : ServiceName) : Request → Bool
  | .register other _ | .unregister other | .stop other | .start other | .restart other => other = name
  | .list | .kill _ _ | .shutdown | .updateSelf => false

def AfterJoin.request : AfterJoin → Request
  | .unregister name => .unregister name
  | .register name spec => .register name spec
  | .stop name => .stop name
  | .restart name => .restart name

def Settled (state : SupervisorState) : Request → Prop
  | .register name spec =>
      ∃ entry, state.services.lookup name = some entry ∧ entry.spec = spec ∧ entry.stopped = false
  | .unregister name | .stop name => ∀ entry, state.services.lookup name = some entry → entry.stopped = true
  | _ => True

/-- Either the request is answered and settled, or the loop awaits the runner of a service that was not stopped. -/
structure Handled (state after : SupervisorState) (request : Request) : Prop where
  tracked : Tracked after []
  frame : ∀ other, controls other request = false → after.services.lookup other = state.services.lookup other
  outcome : (after.loop = .idle ∧ (∃ response, after.answered = state.answered ++ [(request, response)]) ∧
      Settled after request) ∨
    ∃ task next entry, after.loop = .joining task next ∧ after.answered = state.answered ∧
      AfterJoin.request next = request ∧ state.services.lookup (AfterJoin.name next) = some entry ∧ entry.stopped = false

theorem controls_ne {other : ServiceName} {request : Request} (named : controls name request = true)
    (free : controls other request = false) : other ≠ name := by
  intro same
  rw [same, named] at free
  cases free

theorem Handled.answer {rest : SupervisorState} {request : Request} (response : Response) (tracked : Tracked rest [])
    (idle : rest.loop = .idle) (named : controls name request = true) (log : rest.answered = state.answered)
    (frame : ∀ other, other ≠ name → rest.services.lookup other = state.services.lookup other)
    (settled : Settled rest request) : Handled state (rest.respond request response) request where
  tracked := tracked.respond_idle idle request response
  frame := fun other free => frame other (controls_ne named free)
  outcome := .inl ⟨rfl, ⟨response, congrArg (· ++ [(request, response)]) log⟩, settled⟩

theorem Handled.unchanged {request : Request} (response : Response) (tracked : Tracked state [])
    (idle : state.loop = .idle) (settled : Settled state request) :
    Handled state (state.respond request response) request where
  tracked := tracked.respond_idle idle request response
  frame := fun _ _ => rfl
  outcome := .inl ⟨rfl, ⟨response, rfl⟩, settled⟩

theorem Handled.await {rest : SupervisorState} {task : TaskId} {next : AfterJoin} {entry : Entry}
    (tracked : Tracked { rest with loop := .joining task next } []) (named : controls name (AfterJoin.request next) = true)
    (log : rest.answered = state.answered)
    (frame : ∀ other, other ≠ name → rest.services.lookup other = state.services.lookup other)
    (found : state.services.lookup (AfterJoin.name next) = some entry) (runs : entry.stopped = false) :
    Handled state { rest with loop := .joining task next } (AfterJoin.request next) where
  tracked := tracked
  frame := fun other free => frame other (controls_ne named free)
  outcome := .inr ⟨task, next, entry, rfl, log, rfl, found, runs⟩

theorem spawnRunner_frame (state : SupervisorState) (name : ServiceName) (spec : SpawnSpec) (resolved : Option String)
    (pid : Pid) (pc : RunnerPc) : ∀ other, other ≠ name →
      (state.spawnRunner name spec resolved pid pc).services.lookup other = state.services.lookup other := by
  intro other different
  rw [SupervisorState.spawnRunner, Table.lookup_insert_ite, if_neg different]

theorem Handled.insertNew {rest : SupervisorState} (spec : SpawnSpec) (tracked : Tracked rest [])
    (idle : rest.loop = .idle) (free : ∀ entry, rest.services.lookup name = some entry → entry.stopped = true)
    (log : rest.answered = state.answered)
    (frame : ∀ other, other ≠ name → rest.services.lookup other = state.services.lookup other)
    (resolved : Option String) :
    Handled state ((rest.spawnRunner name spec resolved 0 .spawning).respond (.register name spec) .ok)
      (.register name spec) := by
  have named : controls name (.register name spec) = true := decide_eq_true rfl
  apply Handled.answer .ok (tracked.spawnNew spec resolved (not_joining idle) free) idle named
  · exact log
  · intro other different
    rw [spawnRunner_frame _ _ _ _ _ _ other different, frame other different]
  · refine ⟨⟨spec, some rest.nextTask, some rest.nextTask, rest.nextTask, resolved, false⟩, ?_, rfl, rfl⟩
    rw [SupervisorState.spawnRunner, Table.lookup_insert_ite, if_pos rfl]

theorem Tracked.register (spec : SpawnSpec) (tracked : Tracked state []) (idle : state.loop = .idle) :
    Handled state (state.register name spec os) (.register name spec) := by
  have named : controls name (.register name spec) = true := decide_eq_true rfl
  unfold SupervisorState.register
  cases found : state.services.lookup name with
  | none =>
      apply Handled.insertNew spec tracked idle _ rfl (fun _ _ => rfl)
      intro entry present
      rw [found] at present
      cases present
  | some entry =>
      simp only
      by_cases same : entry.spec = spec
      · rw [if_pos same]
        by_cases stopped : entry.stopped = true
        · rw [if_pos stopped]
          obtain ⟨log, frame⟩ := startSvc_frame state name os
          apply Handled.answer .ok (tracked.startSvc name os idle) (startSvc_loop.trans idle) named log frame
          refine ⟨⟨entry.spec, some state.nextTask, some state.nextTask, state.nextTask,
            os.resolveProgram entry.spec.program, false⟩, ?_, same, rfl⟩
          simp only [SupervisorState.startSvc, found, stopped, if_true]
          exact (Table.lookup_insert_ite _ _ _ _).trans (if_pos rfl)
        · rw [if_neg stopped]
          exact Handled.answer .ok tracked idle named rfl (fun _ _ => rfl) ⟨entry, found, same, by simpa using stopped⟩
      · rw [if_neg same]
        obtain ⟨rest, gone, log, frame, ⟨unregistered, removed, stays⟩ | ⟨task, old, unregistered, present, runs, joins⟩⟩ :=
          tracked.unregister name idle
        · rw [unregistered]
          apply Handled.insertNew spec removed stays _ log frame
          intro other present
          rw [gone] at present
          cases present
        · rw [unregistered]
          exact Handled.await (joins (.register name spec) rfl rfl) named log frame present runs

theorem Tracked.handle (request : Request) (served : request ≠ .shutdown ∧ request ≠ .updateSelf)
    (tracked : Tracked state []) (idle : state.loop = .idle) : Handled state (state.handle request os) request := by
  cases request with
  | register name spec => exact tracked.register spec idle
  | unregister name =>
      have named : controls name (.unregister name) = true := decide_eq_true rfl
      obtain ⟨rest, gone, log, frame, ⟨unregistered, removed, stays⟩ | ⟨task, old, unregistered, present, runs, joins⟩⟩ :=
        tracked.unregister name idle
      · simp only [SupervisorState.handle, unregistered]
        apply Handled.answer .ok removed stays named log frame
        intro entry found
        rw [gone] at found
        cases found
      · simp only [SupervisorState.handle, unregistered]
        exact Handled.await (joins (.unregister name) rfl rfl) named log frame present runs
  | list => exact Handled.unchanged _ tracked idle trivial
  | stop name =>
      have named : controls name (.stop name) = true := decide_eq_true rfl
      rcases tracked.stopSvc name idle with ⟨response, stopped, already⟩ |
        ⟨rest, task, response, entry, stopped, log, found, runs, frame, joins⟩
      · simp only [SupervisorState.handle, stopped]
        exact Handled.answer response tracked idle named rfl (fun _ _ => rfl) already
      · simp only [SupervisorState.handle, stopped]
        exact Handled.await (joins (.stop name) rfl rfl) named log frame found runs
  | start name =>
      obtain ⟨log, frame⟩ := startSvc_frame state name os
      exact Handled.answer _ (tracked.startSvc name os idle) (startSvc_loop.trans idle) (decide_eq_true rfl) log frame trivial
  | restart name =>
      have named : controls name (.restart name) = true := decide_eq_true rfl
      simp only [SupervisorState.handle]
      split
      · exact Handled.answer _ tracked idle named rfl (fun _ _ => rfl) trivial
      · rcases tracked.stopSvc name idle with ⟨response, stopped, already⟩ |
          ⟨rest, task, response, entry, stopped, log, found, runs, frame, joins⟩
        · simp only [stopped]
          obtain ⟨log, frame⟩ := startSvc_frame state name os
          exact Handled.answer _ (tracked.startSvc name os idle) (startSvc_loop.trans idle) named log frame trivial
        · simp only [stopped]
          exact Handled.await (joins (.restart name) rfl rfl) named log frame found runs
  | kill name signal => exact Handled.unchanged _ tracked idle trivial
  | shutdown => exact absurd rfl served.1
  | updateSelf => exact absurd rfl served.2

theorem controls_request (next : AfterJoin) : controls (AfterJoin.name next) (AfterJoin.request next) = true := by
  cases next with
  | unregister name => exact decide_eq_true rfl
  | register name spec => exact decide_eq_true rfl
  | stop name => exact decide_eq_true rfl
  | restart name => exact decide_eq_true rfl

theorem markStopped_frame (state : SupervisorState) (name : ServiceName) : ∀ other, other ≠ name →
    (state.markStopped name).services.lookup other = state.services.lookup other := by
  intro other different
  rw [SupervisorState.markStopped, Table.lookup_modify, if_neg different]

theorem markStopped_stopped (state : SupervisorState) (name : ServiceName) :
    ∀ entry, (state.markStopped name).services.lookup name = some entry → entry.stopped = true := by
  intro entry present
  rw [SupervisorState.markStopped, Table.lookup_modify, if_pos rfl] at present
  obtain ⟨before, -, rfl⟩ := Option.map_eq_some_iff.mp present
  rfl

theorem Tracked.joined {task : TaskId} {next : AfterJoin} {held : View} (tracked : Tracked state [])
    (joins : state.loop = .joining task next) (viewed : view state task = some held) (ended : held.pc = .done) :
    Handled state (state.joined next os) (AfterJoin.request next) := by
  have named := controls_request next
  have gone := (tracked.joining task next joins).2
  cases next with
  | unregister name =>
      have removed := tracked.join_removed joins viewed ended rfl
      refine ⟨removed.respond _ _, fun _ _ => rfl, .inl ⟨rfl, ⟨.ok, rfl⟩, fun entry present => ?_⟩⟩
      change state.services.lookup name = some entry at present
      rw [show state.services.lookup name = none from gone] at present
      cases present
  | register name spec =>
      have removed := tracked.join_removed joins viewed ended rfl
      have free : ∀ entry, state.services.lookup name = some entry → entry.stopped = true := by
        intro entry present
        rw [show state.services.lookup name = none from gone] at present
        cases present
      have inserted := Handled.insertNew spec removed rfl free rfl (fun _ _ => rfl) (os.resolveProgram spec.program)
      exact ⟨inserted.tracked, inserted.frame, inserted.outcome⟩
  | stop name =>
      have stopped := tracked.join_stopped joins viewed ended rfl
      refine ⟨stopped.respond _ _, fun other free => ?_, .inl ⟨rfl, ⟨.ok, rfl⟩, markStopped_stopped state name⟩⟩
      exact markStopped_frame state name other (controls_ne named free)
  | restart name =>
      have stopped := tracked.join_stopped joins viewed ended rfl
      have started := stopped.startSvc name os rfl
      rw [startSvc_withLoop] at started
      obtain ⟨log, frame⟩ := startSvc_frame (state.markStopped name) name os
      refine ⟨started.respond _ _, fun other free => ?_, .inl ⟨rfl, ⟨_, congrArg (· ++ _) log⟩, trivial⟩⟩
      have different := controls_ne named free
      exact (frame other different).trans (markStopped_frame state name other different)

/-! ## The last request about a service -/

def lastControl (name : ServiceName) (answered : List (Request × Response)) : Option Request :=
  (answered.map Prod.fst).reverse.find? (controls name)

theorem lastControl_concat (name : ServiceName) (answered : List (Request × Response)) (request : Request)
    (response : Response) : lastControl name (answered ++ [(request, response)]) =
      if controls name request then some request else lastControl name answered := by
  simp only [lastControl, List.map_append, List.map_cons, List.map_nil, List.reverse_append, List.reverse_cons,
    List.reverse_nil, List.nil_append, List.singleton_append, List.find?_cons]
  cases controls name request with
  | true => rfl
  | false => rfl

def Unawaited (state : SupervisorState) (name : ServiceName) : Prop :=
  ∀ task next, state.loop = .joining task next → AfterJoin.name next ≠ name

/-- The registry shows what the last answered request about the service asked for. -/
def Obeyed (state : SupervisorState) (name : ServiceName) : Prop :=
  match lastControl name state.answered with
  | some (.stop _) | some (.unregister _) =>
      (∀ entry, state.services.lookup name = some entry → entry.stopped = true) ∧ Unawaited state name
  | some (.register _ spec) => Unawaited state name →
      ∃ entry, state.services.lookup name = some entry ∧ entry.spec = spec ∧ entry.stopped = false
  | _ => True

theorem Obeyed.of_eq {after : SupervisorState} (obeyed : Obeyed state name)
    (log : lastControl name after.answered = lastControl name state.answered)
    (entry : after.services.lookup name = state.services.lookup name) (before : Unawaited state name)
    (later : Unawaited after name) : Obeyed after name := by
  unfold Obeyed at obeyed ⊢
  rw [log, entry]
  split at obeyed
  · exact ⟨obeyed.1, later⟩
  · exact ⟨obeyed.1, later⟩
  · exact fun _ => obeyed before
  · trivial

theorem unawaited_idle (idle : state.loop = .idle) : Unawaited state name :=
  fun task next joins => absurd joins (not_joining idle task next)

theorem Settled.obeyed {request : Request} (settled : Settled state request) (named : controls name request = true)
    (idle : state.loop = .idle) (log : lastControl name state.answered = some request) : Obeyed state name := by
  unfold Obeyed
  rw [log]
  cases request with
  | register other spec =>
      have same : other = name := of_decide_eq_true named
      subst same
      exact fun _ => settled
  | unregister other | stop other =>
      have same : other = name := of_decide_eq_true named
      subst same
      exact ⟨settled, unawaited_idle idle⟩
  | _ => trivial

theorem controls_name {next : AfterJoin} (named : controls name (AfterJoin.request next) = true) :
    AfterJoin.name next = name := by
  cases next with
  | unregister other => exact of_decide_eq_true named
  | register other spec => exact of_decide_eq_true named
  | stop other => exact of_decide_eq_true named
  | restart other => exact of_decide_eq_true named

theorem Handled.obeyed {after : SupervisorState} {request : Request} (handled : Handled state after request)
    (about : ∀ task next, state.loop = .joining task next → controls (AfterJoin.name next) request = true)
    (obeyed : Obeyed state name) : Obeyed after name := by
  cases named : controls name request with
  | false =>
      have before : Unawaited state name := by
        intro task next joins same
        rw [← same, about task next joins] at named
        cases named
      rcases handled.outcome with ⟨idle, ⟨response, log⟩, -⟩ | ⟨task, next, entry, joins, log, same, -, -⟩
      · apply obeyed.of_eq _ (handled.frame name named) before (unawaited_idle idle)
        rw [log, lastControl_concat, named]
        rfl
      · apply obeyed.of_eq (by rw [log]) (handled.frame name named) before
        intro other otherNext now equal
        rw [joins] at now
        cases now
        rw [← equal, ← same, controls_request] at named
        cases named
  | true =>
      rcases handled.outcome with ⟨idle, ⟨response, log⟩, settled⟩ | ⟨task, next, entry, joins, log, same, found, runs⟩
      · apply settled.obeyed named idle
        rw [log, lastControl_concat, named]
        rfl
      · -- The service was not stopped, so the last request about it was no `Stop` or `Unregister`.
        rw [← same] at named
        have name_eq := controls_name named
        rw [name_eq] at found
        unfold Obeyed at obeyed ⊢
        rw [log]
        split at obeyed
        · rw [obeyed.1 entry found] at runs
          cases runs
        · rw [obeyed.1 entry found] at runs
          cases runs
        · exact fun free => absurd name_eq (free task next joins)
        · trivial

end MacMgmt.Proof.Supervisor
