import MacMgmt.Daemon.Heartbeats

/-!
# Heartbeats in the order of their capture

The lock keeps one request under way as long as no post is given up before its request is settled.
-/

namespace MacMgmt.Proof.Heartbeats
open Lib Daemon Heartbeats

/-- What the lock protects: the request of its holder, newer than all that have arrived. -/
def Locked (state : Heartbeats) : Prop :=
  match state.holder with
  | none => state.requests = []
  | some (snapshot, .locked) => state.requests = [] ∧ ∀ earlier ∈ state.arrived, earlier < snapshot
  | some (snapshot, .posted) =>
      state.requests = [] ∨ state.requests = [snapshot] ∧ ∀ earlier ∈ state.arrived, earlier < snapshot

structure Ordered (state : Heartbeats) : Prop where
  inOrder : state.InOrder
  locked : Locked state

variable {state after : Heartbeats}

theorem Ordered.held (ordered : Ordered state) {snapshot : Nat} (member : snapshot ∈ state.requests) :
    state.holder = some (snapshot, .posted) ∧ state.requests = [snapshot] ∧ ∀ earlier ∈ state.arrived, earlier < snapshot := by
  have locked := ordered.locked
  unfold Locked at locked
  split at locked
  · rw [locked] at member
    cases member
  · rw [locked.1] at member
    cases member
  · rename_i holder held
    rcases locked with none | ⟨one, newer⟩
    · rw [none] at member
      cases member
    · rw [one, List.mem_singleton] at member
      subst member
      exact ⟨held, one, newer⟩

theorem Ordered.schedule (ordered : Ordered state) {snapshot : Nat} (settled : state.Settled (.schedule snapshot))
    (taken : state.step (.schedule snapshot) = some after) : Ordered after := by
  obtain ⟨_, same⟩ := Option.ite_none_right_eq_some.mp taken
  have locked := ordered.locked
  cases holder : state.holder with
  | none =>
      simp only [holder] at same
      cases same
      refine ⟨ordered.inOrder, ?_, settled holder⟩
      simpa only [Locked, holder] using locked
  | some held =>
      simp only [holder] at same
      cases same
      refine ⟨ordered.inOrder, ?_⟩
      simpa only [Locked, holder] using locked

theorem Ordered.post (ordered : Ordered state) (taken : state.step .post = some after) : Ordered after := by
  have locked := ordered.locked
  unfold Locked at locked
  simp only [step] at taken
  split at taken
  · rename_i snapshot holder
    cases taken
    rw [holder] at locked
    refine ⟨ordered.inOrder, .inr ⟨?_, locked.2⟩⟩
    show state.requests ++ [snapshot] = [snapshot]
    rw [locked.1, List.nil_append]
  · cases taken
  · cases taken

theorem Ordered.arrive (ordered : Ordered state) {snapshot : Nat} (taken : state.step (.arrive snapshot) = some after) :
    Ordered after := by
  obtain ⟨member, same⟩ := Option.ite_none_right_eq_some.mp taken
  cases same
  obtain ⟨holder, one, newer⟩ := ordered.held member
  constructor
  · show (state.arrived ++ [snapshot]).Pairwise (· < ·)
    rw [List.pairwise_append]
    refine ⟨ordered.inOrder, List.pairwise_singleton _ _, fun earlier before later last => ?_⟩
    rw [List.mem_singleton.mp last]
    exact newer earlier before
  · simp [Locked, holder, one]

theorem Ordered.lose (ordered : Ordered state) {snapshot : Nat} (taken : state.step (.lose snapshot) = some after) :
    Ordered after := by
  obtain ⟨member, same⟩ := Option.ite_none_right_eq_some.mp taken
  cases same
  obtain ⟨holder, one, newer⟩ := ordered.held member
  refine ⟨ordered.inOrder, ?_⟩
  simp [Locked, holder, one]

theorem Ordered.finish (ordered : Ordered state) (settled : state.Settled .finish)
    (taken : state.step .finish = some after) : Ordered after := by
  simp only [step] at taken
  split at taken
  · rename_i held holder
    cases taken
    refine ⟨ordered.inOrder, ?_⟩
    show state.requests = []
    rw [List.eq_nil_iff_forall_not_mem]
    intro snapshot member
    obtain ⟨own, -, -⟩ := ordered.held member
    exact settled snapshot .posted own member
  · cases taken

theorem ordered_step {event : HeartbeatEvent} (ordered : Ordered state) (settled : state.Settled event)
    (taken : state.step event = some after) : Ordered after := by
  cases event with
  | capture =>
      cases taken
      exact ⟨ordered.inOrder, ordered.locked⟩
  | schedule snapshot => exact ordered.schedule settled taken
  | post => exact ordered.post taken
  | arrive snapshot => exact ordered.arrive taken
  | lose snapshot => exact ordered.lose taken
  | finish => exact ordered.finish settled taken

theorem ordered_start : Ordered start := ⟨by unfold InOrder; exact .nil, rfl⟩

theorem heartbeats_in_order (events : List HeartbeatEvent) (final : Heartbeats)
    (settled : Meets Heartbeats.step Settled start events) (ran : run Heartbeats.step start events = some final) :
    final.InOrder := by
  have ordered : Ordered final :=
    run_invariant_of_meets (fun _ _ _ ordered settled taken => ordered_step ordered settled taken) ordered_start settled ran
  exact ordered.inOrder

theorem heartbeats_in_order_coalesced :
    ∃ final, run Heartbeats.step start
        [.capture, .capture, .schedule 0, .post, .schedule 1, .arrive 0, .finish, .capture, .schedule 2, .post, .arrive 2] =
          some final ∧ final.InOrder := by
  refine ⟨_, rfl, heartbeats_in_order
    [.capture, .capture, .schedule 0, .post, .schedule 1, .arrive 0, .finish, .capture, .schedule 2, .post, .arrive 2] _ ?_ rfl⟩
  simp [Meets, Heartbeats.step, start, Settled]

/-- A task that is scheduled late takes the lock after a newer one, and a request that timed out arrives after the next. -/
theorem heartbeats_overtaken :
    (∃ final, run Heartbeats.step start
        [.capture, .capture, .schedule 1, .post, .arrive 1, .finish, .schedule 0, .post, .arrive 0] = some final ∧
      ¬ final.InOrder) ∧
    ∃ final, run Heartbeats.step start
        [.capture, .schedule 0, .post, .finish, .capture, .schedule 1, .post, .arrive 1, .arrive 0] = some final ∧
      ¬ final.InOrder := by
  refine ⟨⟨_, rfl, fun ordered => ?_⟩, _, rfl, fun ordered => ?_⟩
  · exact absurd ordered (by unfold InOrder; decide)
  · exact absurd ordered (by unfold InOrder; decide)

end MacMgmt.Proof.Heartbeats
