import MacMgmt.Server.HealerSessions

/-!
# One healer session for an instance

The states that do not count as running are the terminal ones. So while no write meets a terminal state and spawns of an
instance take turns, a spawn that has passed its guard stays alone.
-/

namespace MacMgmt.Server
open Lib MacMgmt.Server.Healer

variable {state after : Healer}

theorem isTerminal_iff (state : SessionState) : state.isTerminal = true ↔ state.asStr ∈ inactiveStates := by
  cases state <;> decide

theorem running_iff (state : SessionState) : state.asStr ∉ inactiveStates ↔ state.isTerminal = false := by
  rw [← isTerminal_iff, Bool.not_eq_true]

structure Supervised (state : Healer) : Prop where
  exclusive : state.Exclusive
  checked : ∀ op operation instanceId, state.operations.lookup op = some operation → operation.spawning = some instanceId →
    ∀ id session, state.sessions.lookup id = some session → session.instanceId = instanceId →
      session.state.isTerminal = true
  apart : ∀ op other operation rival instanceId, state.operations.lookup op = some operation →
    state.operations.lookup other = some rival → operation.spawning = some instanceId →
    rival.spawning = some instanceId → op = other
  held : ∀ op operation id, state.operations.lookup op = some operation → operation.holding = some id →
    ∃ session, state.sessions.lookup id = some session ∧ session.state.isTerminal = false

theorem supervised_start (now : Nat) : Supervised (start now) where
  exclusive _ _ _ _ found := by cases found
  checked _ _ _ found := by cases found
  apart _ _ _ _ _ found := by cases found
  held _ _ _ found := by cases found

/-! ## What the steps are made of -/

/-- The operation finds no running session of an instance for which it spawns, nor another spawn, and the session that it
holds has not ended. -/
structure MayBegin (state : Healer) (op : Nat) (operation : HealerOperation) : Prop where
  checked : ∀ instanceId, operation.spawning = some instanceId → (∀ id session, state.sessions.lookup id = some session →
    session.instanceId = instanceId → session.state.isTerminal = true) ∧
    ∀ other rival, other ≠ op → state.operations.lookup other = some rival → rival.spawning ≠ some instanceId
  held : ∀ id, operation.holding = some id →
    ∃ session, state.sessions.lookup id = some session ∧ session.state.isTerminal = false

theorem Supervised.begin (supervised : Supervised state) {op : Nat} {operation : HealerOperation}
    (may : MayBegin state op operation) : Supervised (state.begin op operation) := by
  refine ⟨supervised.exclusive, fun other rival instanceId found spawns => ?_,
    fun first second operation rival instanceId one two spawns same => ?_, fun other rival id found holds => ?_⟩
  · rw [Healer.begin, Table.lookup_insert_ite] at found
    split at found
    · cases found
      exact (may.checked instanceId spawns).1
    · exact supervised.checked other rival instanceId found spawns
  · rw [Healer.begin, Table.lookup_insert_ite] at one two
    split at one <;> split at two
    · rename_i left right
      exact left.trans right.symm
    · rename_i left right
      cases one
      exact absurd same ((may.checked instanceId spawns).2 second rival right two)
    · rename_i left right
      cases two
      exact absurd spawns ((may.checked instanceId same).2 first operation left one)
    · exact supervised.apart first second operation rival instanceId one two spawns same
  · rw [Healer.begin, Table.lookup_insert_ite] at found
    split at found
    · cases found
      exact may.held id holds
    · exact supervised.held other rival id found holds

/-- Operations end, or begin that neither spawn nor hold a session. -/
def Calm (state after : Healer) : Prop :=
  ∀ op operation, after.operations.lookup op = some operation →
    state.operations.lookup op = some operation ∨ operation.spawning = none ∧ operation.holding = none

theorem calm_begin {op : Nat} {operation : HealerOperation} (spawning : operation.spawning = none)
    (holding : operation.holding = none) : Calm state (state.begin op operation) := by
  intro other rival found
  rw [Healer.begin, Table.lookup_insert_ite] at found
  split at found
  · cases found
    exact .inr ⟨spawning, holding⟩
  · exact .inl found

theorem calm_finish (state : Healer) (op : Nat) : Calm state (state.finish op) := by
  intro other operation found
  rw [Healer.finish, Table.lookup_erase_ite] at found
  split at found
  · cases found
  · exact .inl found

theorem Supervised.calm (supervised : Supervised state) (sessions : after.sessions = state.sessions)
    (calm : Calm state after) : Supervised after := by
  have kept {op : Nat} {operation : HealerOperation} {instanceId : String}
      (found : after.operations.lookup op = some operation) (spawns : operation.spawning = some instanceId) :
      state.operations.lookup op = some operation := by
    rcases calm op operation found with known | ⟨spawning, -⟩
    · exact known
    · rw [spawning] at spawns
      cases spawns
  refine ⟨?_, fun op operation instanceId found spawns => ?_,
    fun op other operation rival instanceId one two spawns same =>
      supervised.apart op other operation rival instanceId (kept one spawns) (kept two same) spawns same,
    fun op operation id found holds => ?_⟩
  · unfold Exclusive
    rw [sessions]
    exact supervised.exclusive
  · rw [sessions]
    exact supervised.checked op operation instanceId (kept found spawns) spawns
  · rw [sessions]
    rcases calm op operation found with known | ⟨-, holding⟩
    · exact supervised.held op operation id known holds
    · rw [holding] at holds
      cases holds

theorem lookup_transitionState {id other : Nat} {new : SessionState} {data : SessionData} {session : HealerSession}
    (found : (state.transitionState id new data).sessions.lookup other = some session) :
    state.sessions.lookup other = some session ∧ other ≠ id ∨
    other = id ∧ session.state = new ∧
      ∃ before, state.sessions.lookup id = some before ∧ before.instanceId = session.instanceId := by
  rw [transitionState, Table.lookup_modify] at found
  split at found
  · rename_i same
    obtain ⟨before, known, rfl⟩ := Option.map_eq_some_iff.mp found
    exact .inr ⟨same, rfl, before, known, rfl⟩
  · rename_i different
    exact .inl ⟨found, different⟩

theorem Supervised.transitionState (supervised : Supervised state) {id : Nat} {new : SessionState} (free : state.Free id new)
    (data : SessionData) : Supervised (state.transitionState id new data) := by
  have active {other : Nat} {session : HealerSession}
      (found : (state.transitionState id new data).sessions.lookup other = some session)
      (running : session.state.isTerminal = false) :
      ∃ before, state.sessions.lookup other = some before ∧ before.instanceId = session.instanceId ∧
        before.state.isTerminal = false := by
    rcases lookup_transitionState found with ⟨found, -⟩ | ⟨rfl, -, before, found, same⟩
    · exact ⟨session, found, rfl, running⟩
    · exact ⟨before, found, same, free.1 before found⟩
  refine ⟨fun first second session rival one two same runs rivals => ?_,
    fun op operation instanceId found spawns other session known same => ?_, supervised.apart,
    fun op operation other found holds => ?_⟩
  · obtain ⟨before, one, left, running⟩ := active one ((running_iff _).mp runs)
    obtain ⟨other, two, right, active⟩ := active two ((running_iff _).mp rivals)
    exact supervised.exclusive first second before other one two (left.trans (same.trans right.symm))
      ((running_iff _).mpr running) ((running_iff _).mpr active)
  · by_contra running
    obtain ⟨before, known, left, active⟩ := active known (Bool.not_eq_true _ ▸ running)
    have ended := supervised.checked op operation instanceId found spawns other before known (left.trans same)
    exact Bool.false_ne_true (active.symm.trans ended)
  · obtain ⟨session, known, running⟩ := supervised.held op operation other found holds
    by_cases same : other = id
    · subst same
      refine ⟨{ session with state := new, data := data }, ?_, ?_⟩
      · rw [Healer.transitionState, Table.lookup_modify, if_pos rfl, known]
        rfl
      · by_contra ended
        exact free.2 (Bool.not_eq_false _ ▸ ended) op operation found holds
    · refine ⟨session, ?_, running⟩
      rw [Healer.transitionState, Table.lookup_modify, if_neg same]
      exact known

theorem Supervised.insert (supervised : Supervised state) {op id : Nat} {req : SpawnRequest}
    (spawns : state.operations.lookup op = some (.notRecent req)) (fresh : id ∉ state.sessions) {session : HealerSession}
    (created : session.instanceId = req.instanceId ∧ session.state.isTerminal = false) :
    Supervised { state.begin op (.created req id) with sessions := state.sessions.insert id session } := by
  have ended := supervised.checked op _ req.instanceId spawns rfl
  refine ⟨fun first second one two found known same runs rivals => ?_,
    fun other operation instanceId found spawning name row known same => ?_,
    fun first second operation rival instanceId one two left right => ?_, fun other operation name found holds => ?_⟩
  · rw [Table.lookup_insert_ite] at found known
    have alone {row : HealerSession} {name : Nat} (found : state.sessions.lookup name = some row)
        (same : row.instanceId = session.instanceId) (runs : row.state.asStr ∉ inactiveStates) : False := by
      have terminal := ended name row found (same.trans created.1)
      exact Bool.false_ne_true (((running_iff _).mp runs).symm.trans terminal)
    split at found <;> split at known
    · rename_i left right
      exact left.trans right.symm
    · cases found
      exact (alone known same.symm rivals).elim
    · cases known
      exact (alone found same runs).elim
    · exact supervised.exclusive first second one two found known same runs rivals
  · rw [Healer.begin, Table.lookup_insert_ite] at found
    split at found
    · cases found
      cases spawning
    · rename_i different
      rw [Table.lookup_insert_ite] at known
      split at known
      · cases known
        rw [← same, created.1] at spawning
        exact absurd (supervised.apart other op operation _ req.instanceId found spawns spawning rfl) different
      · exact supervised.checked other operation instanceId found spawning name row known same
  · rw [Healer.begin, Table.lookup_insert_ite] at one two
    split at one
    · cases one
      cases left
    · split at two
      · cases two
        cases right
      · exact supervised.apart first second operation rival instanceId one two left right
  · rw [Healer.begin, Table.lookup_insert_ite] at found
    split at found
    · cases found
      cases holds
      exact ⟨session, AList.lookup_insert _, created.2⟩
    · obtain ⟨row, known, running⟩ := supervised.held other operation name found holds
      refine ⟨row, ?_, running⟩
      rw [Table.lookup_insert_ite, if_neg]
      · exact known
      · rintro rfl
        exact fresh (AList.lookup_isSome.mp (known ▸ rfl))

/-! ## One step -/

theorem checked_of_not_running {instanceId : String} (quiet : ¬ state.hasRunningSession instanceId = true) :
    ∀ id session, state.sessions.lookup id = some session → session.instanceId = instanceId →
      session.state.isTerminal = true := by
  intro id session found same
  by_contra running
  apply quiet
  rw [hasRunningSession, List.any_eq_true]
  refine ⟨⟨id, session⟩, AList.mem_lookup_iff.mp found, ?_⟩
  simp [same, (running_iff _).mpr (Bool.not_eq_true _ ▸ running)]

theorem Supervised.free (supervised : Supervised state) {op id : Nat} {operation : HealerOperation} {new : SessionState}
    (found : state.operations.lookup op = some operation) (holds : operation.holding = some id)
    (goesOn : new.isTerminal = false) : state.Free id new := by
  obtain ⟨session, known, running⟩ := supervised.held op operation id found holds
  refine ⟨fun other same => ?_, fun ended => absurd (goesOn.symm.trans ended) Bool.false_ne_true⟩
  rw [known] at same
  cases same
  exact running

inductive Effect (state after : Healer) : Prop where
  | keeps (sessions : after.sessions = state.sessions) (calm : Calm state after)
  | writes (id : Nat) (new : SessionState) (data : SessionData) (free : state.Free id new)
      (sessions : after.sessions = (state.transitionState id new data).sessions) (calm : Calm state after)
  | begins (op : Nat) (operation : HealerOperation) (may : MayBegin state op operation)
      (same : after = state.begin op operation)
  | inserts (op id : Nat) (req : SpawnRequest) (session : HealerSession)
      (spawns : state.operations.lookup op = some (.notRecent req)) (fresh : id ∉ state.sessions)
      (created : session.instanceId = req.instanceId ∧ session.state.isTerminal = false)
      (same : after = { state.begin op (.created req id) with sessions := state.sessions.insert id session })

theorem step_effect {event : HealerEvent} (supervised : Supervised state) (serialized : state.Serialized event)
    (taken : state.step event = some after) : Effect state after := by
  cases event with
  | spawn op req =>
      obtain ⟨refused, same⟩ := Option.ite_none_left_eq_some.mp taken
      obtain ⟨-, quiet⟩ := not_or.mp refused
      refine .begins op (.notRunning req) ⟨fun instanceId same => ?_, fun _ same => by cases same⟩ (Option.some.inj same).symm
      cases same
      exact ⟨checked_of_not_running quiet, fun other rival _ found => serialized other rival found⟩
  | cooldown op =>
      simp only [step] at taken
      split at taken
      · rename_i req found
        split at taken
        · cases taken
          exact .keeps rfl (calm_finish state op)
        · cases taken
          refine .begins op (.notRecent req) ⟨fun instanceId same => ?_, fun _ same => by cases same⟩ rfl
          refine ⟨supervised.checked op _ instanceId found same, fun other rival different known spawns => different ?_⟩
          exact supervised.apart other op rival _ instanceId known found spawns same
      · cases taken
  | create op id =>
      simp only [step] at taken
      split at taken
      · rename_i req found
        obtain ⟨fresh, same⟩ := Option.ite_none_left_eq_some.mp taken
        exact .inserts op id req _ found fresh ⟨rfl, rfl⟩ (Option.some.inj same).symm
      · cases taken
  | initialized op =>
      simp only [step] at taken
      split at taken
      · rename_i req id found
        cases taken
        exact .writes id _ _ (supervised.free found rfl rfl) rfl (calm_begin rfl rfl)
      · cases taken
  | launch op =>
      simp only [step] at taken
      split at taken
      · split at taken
        · cases taken
          exact .keeps rfl (calm_finish state op)
        · cases taken
          exact .keeps rfl (calm_finish state op)
      · cases taken
  | build id =>
      simp only [step] at taken
      split at taken
      · obtain ⟨-, same⟩ := Option.ite_none_left_eq_some.mp taken
        cases same
        exact .keeps rfl fun _ _ => .inl
      · cases taken
  | buildFailed op id | resume op id | resumeInterrupted op id =>
      simp only [step] at taken
      split at taken
      · obtain ⟨-, same⟩ := Option.ite_none_left_eq_some.mp taken
        cases same
        exact .keeps rfl (calm_begin rfl rfl)
      · cases taken
  | fail op =>
      simp only [step] at taken
      split at taken
      · rename_i id found
        cases taken
        exact .writes id _ _ (serialized id found) rfl (calm_finish state op)
      · cases taken
  | approve op id =>
      simp only [step] at taken
      split at taken
      · rename_i session found
        obtain ⟨refused, same⟩ := Option.ite_none_left_eq_some.mp taken
        obtain ⟨-, awaiting⟩ := not_or.mp refused
        refine .begins op (.approving id session) ⟨fun _ same => (by cases same), fun other same => ?_⟩
          (Option.some.inj same).symm
        cases same
        exact ⟨session, found, by rw [not_not.mp awaiting]; rfl⟩
      · cases taken
  | approved op =>
      simp only [step] at taken
      split at taken
      · rename_i id session found
        cases taken
        exact .writes id _ _ (supervised.free found rfl rfl) rfl (calm_begin rfl rfl)
      · cases taken
  | setPhase id phase =>
      simp only [step] at taken
      split at taken
      · rename_i agent found
        obtain ⟨-, moves⟩ := Option.ite_none_right_eq_some.mp taken
        obtain ⟨⟨new, data⟩, target, same⟩ := Option.map_eq_some_iff.mp moves
        cases same
        exact .writes id new data (serialized agent new data found target) rfl fun _ _ => .inl
      · cases taken
  | manage id new data =>
      cases taken
      exact .writes id new data serialized rfl fun _ _ => .inl
  | unregister id | tick seconds =>
      cases taken
      exact .keeps rfl fun _ _ => .inl
  | giveUp op =>
      cases taken
      exact .keeps rfl (calm_finish state op)
  | restart =>
      cases taken
      exact .keeps rfl fun _ _ found => by cases found

theorem supervised_step {event : HealerEvent} (supervised : Supervised state) (serialized : state.Serialized event)
    (taken : state.step event = some after) : Supervised after := by
  cases step_effect supervised serialized taken with
  | keeps sessions calm => exact supervised.calm sessions calm
  | writes id new data free sessions calm => exact (supervised.transitionState free data).calm sessions calm
  | begins op operation may same =>
      subst same
      exact supervised.begin may
  | inserts op id req session spawns fresh created same =>
      subst same
      exact supervised.insert spawns fresh created

theorem ended_step {event : HealerEvent} (supervised : Supervised state) (serialized : state.Serialized event)
    (taken : state.step event = some after) {id : Nat} {session : HealerSession}
    (found : state.sessions.lookup id = some session) (ended : session.state.isTerminal = true) :
    after.sessions.lookup id = some session := by
  cases step_effect supervised serialized taken with
  | keeps sessions =>
      rw [sessions]
      exact found
  | begins op operation may same =>
      rw [same]
      exact found
  | inserts op other req inserted spawns fresh created same =>
      rw [same, Table.lookup_insert_ite, if_neg]
      · exact found
      · rintro rfl
        exact fresh (AList.lookup_isSome.mp (found ▸ rfl))
  | writes other new data free sessions =>
      rw [sessions, transitionState, Table.lookup_modify, if_neg]
      · exact found
      · rintro rfl
        exact Bool.false_ne_true ((free.1 session found).symm.trans ended)

/-! ## Whole runs -/

theorem ended_run {events : List HealerEvent} {final : Healer} (supervised : Supervised state)
    (serialized : Meets Healer.step Serialized state events) (ran : run Healer.step state events = some final) {id : Nat}
    {session : HealerSession} (found : state.sessions.lookup id = some session) (ended : session.state.isTerminal = true) :
    final.sessions.lookup id = some session := by
  induction events generalizing state with
  | nil =>
      cases ran
      exact found
  | cons event events ih =>
      obtain ⟨middle, taken, rest⟩ := run_cons_some.mp ran
      obtain ⟨first, later⟩ := (meets_cons_iff taken).mp serialized
      exact ih (supervised_step supervised first taken) later rest (ended_step supervised first taken found ended)

theorem healer_sessions (now : Nat) (events : List HealerEvent) (final : Healer)
    (serialized : Meets Healer.step Serialized (start now) events) (ran : run Healer.step (start now) events = some final) :
    final.Exclusive ∧
    ∀ first second middle, events = first ++ second → run Healer.step (start now) first = some middle →
      ∀ id session, middle.sessions.lookup id = some session → session.state.isTerminal = true →
        final.sessions.lookup id = some session := by
  have supervised {events : List HealerEvent} {final : Healer} (serialized : Meets Healer.step Serialized (start now) events)
      (ran : run Healer.step (start now) events = some final) : Supervised final :=
    run_invariant_of_meets (fun _ _ _ holds meets taken => supervised_step holds meets taken) (supervised_start now) serialized ran
  refine ⟨(supervised serialized ran).exclusive, ?_⟩
  rintro first second middle rfl reached id session found ended
  obtain ⟨before, later⟩ := (meets_append_iff reached).mp serialized
  rw [run_append, reached, Option.bind_some] at ran
  exact ended_run (supervised before reached) later ran found ended

def request (autoApprove : Bool) : SpawnRequest := ⟨"mac-1", true, autoApprove⟩

def healed : List HealerEvent :=
  [.spawn 1 (request true), .cooldown 1, .create 1 10, .initialized 1, .launch 1, .build 10, .setPhase 10 "done"]

theorem healer_sessions_healed :
    ∃ final, run Healer.step (start 0) healed = some final ∧ final.Exclusive := by
  have serialized : Meets Healer.step Serialized (start 0) healed := by
    refine ⟨fun _ _ found => (by cases found), fun _ taken => ?_⟩
    cases taken
    refine ⟨trivial, fun _ taken => ?_⟩
    cases taken
    refine ⟨trivial, fun _ taken => ?_⟩
    cases taken
    refine ⟨trivial, fun _ taken => ?_⟩
    cases taken
    refine ⟨trivial, fun _ taken => ?_⟩
    cases taken
    refine ⟨trivial, fun _ taken => ?_⟩
    cases taken
    refine ⟨fun agent new data found target => ?_, fun _ _ => trivial⟩
    refine ⟨fun session found => ?_, fun _ op operation found => ?_⟩
    · cases found
      rfl
    · cases found
  exact ⟨_, rfl, (healer_sessions 0 healed _ serialized rfl).1⟩

/-- Two spawns pass the guard before either has inserted its session, and an agent that has ended its session goes on. -/
theorem healer_sessions_broken :
    (∃ final, run Healer.step (start 0) [.spawn 1 (request true), .spawn 2 (request true), .cooldown 1, .cooldown 2,
        .create 1 10, .create 2 11] = some final ∧ ¬ final.Exclusive) ∧
    ∃ middle final, run Healer.step (start 0) healed = some middle ∧ middle.step (.setPhase 10 "verifying") = some final ∧
      (middle.sessions.lookup 10).map (·.state) = some .done ∧ (final.sessions.lookup 10).map (·.state) = some .verifying := by
  refine ⟨⟨_, rfl, fun exclusive => ?_⟩, _, _, rfl, rfl, rfl, rfl⟩
  have same := exclusive 10 11 _ _ rfl rfl rfl (by decide) (by decide)
  cases same

end MacMgmt.Server
