import MacMgmt.Daemon.AiUsage

/-!
# Requests within the budget

While the events in memory are in the order of their times, the scan from the end reads exactly those in the window. What
is no longer in memory must have left the window, and the sum must not wrap.
-/

namespace MacMgmt.Proof.AiUsage
open Lib Daemon UsageTracker

/-! ## The scan -/

theorem takeWhile_eq_filter {α : Type*} {keeps : α → Bool} {list : List α}
    (initial : list.Pairwise fun first second => keeps second = true → keeps first = true) :
    list.takeWhile keeps = list.filter keeps := by
  induction list with
  | nil => rfl
  | cons head rest ih =>
      obtain ⟨before, rest⟩ := List.pairwise_cons.mp initial
      by_cases kept : keeps head = true
      · rw [List.takeWhile_cons_of_pos kept, List.filter_cons_of_pos kept, ih rest]
      · rw [List.takeWhile_cons_of_neg kept, List.filter_cons_of_neg kept, eq_comm, List.filter_eq_nil_iff]
        intro later member holds
        exact kept (before later member holds)

def tokens (event : UsageEvent) : Int := event.inputTokens.toInt + event.outputTokens.toInt

theorem toInt_foldl (events : List UsageEvent) (sum : Int64) :
    (events.foldl (fun sum event => sum + event.totalTokens) sum).toInt =
      (sum.toInt + (events.map tokens).sum).bmod (2 ^ 64) := by
  induction events generalizing sum with
  | nil =>
      rw [List.foldl_nil, List.map_nil, List.sum_nil, Int.add_zero]
      exact (Int.bmod_eq_of_le (by have := sum.le_toInt; omega) (by have := sum.toInt_lt; omega)).symm
  | cons event events ih =>
      rw [List.foldl_cons, ih, UsageEvent.totalTokens, Int64.toInt_add, Int64.toInt_add, List.map_cons, List.sum_cons]
      simp only [Int.add_bmod_bmod, Int.bmod_add_bmod, tokens]
      congr 1
      omega

theorem lt_of_remaining {budget total : Int} (fits : total ≤ budget + 2 ^ 63) (positive : 0 < (budget - total).bmod (2 ^ 64)) :
    total < budget := by
  by_contra exceeded
  have same : (budget - total).bmod (2 ^ 64) = budget - total := Int.bmod_eq_of_le (by omega) (by omega)
  omega

/-! ## The invariant -/

structure Sound (keys : List KeyEntry) (tracker : UsageTracker) : Prop where
  ordered : tracker.events.Pairwise fun earlier later => earlier.ts ≤ later.ts
  held : (tracker.events : Multiset UsageEvent) ≤ tracker.recorded
  written : (tracker.file : Multiset UsageEvent) + tracker.pending + tracker.writing ≤ tracker.recorded
  expired : ∀ event ∈ tracker.lost, Expired keys tracker.clock event

variable {keys : List KeyEntry} {tracker after : UsageTracker}

theorem sound_new (keys : List KeyEntry) (clock : Int) : Sound keys (new clock) where
  ordered := .nil
  held := le_rfl
  written := by simp [new]
  expired event member := by simp [new, lost] at member

theorem Sound.record (sound : Sound keys tracker) {event : UsageEvent}
    (last : ∀ earlier ∈ tracker.events, earlier.ts ≤ event.ts) : Sound keys (tracker.record event) where
  ordered := by
    rw [UsageTracker.record, List.pairwise_append]
    refine ⟨sound.ordered, List.pairwise_singleton _ _, fun earlier member later same => ?_⟩
    rw [List.mem_singleton.mp same]
    exact last earlier member
  held := by
    simp only [UsageTracker.record, ← Multiset.coe_add]
    exact add_le_add_left sound.held _
  written := by
    simp only [UsageTracker.record, ← Multiset.coe_add]
    calc (tracker.file : Multiset UsageEvent) + (tracker.pending + [event]) + tracker.writing
        = tracker.file + tracker.pending + tracker.writing + [event] := by
          simp only [← add_assoc]
          rw [add_right_comm]
      _ ≤ tracker.recorded + [event] := add_le_add_left sound.written _
  expired other member := by
    have same : (tracker.record event).lost = tracker.lost := by
      simp only [lost, UsageTracker.record, ← Multiset.coe_add]
      exact add_tsub_add_eq_tsub_right _ _ _
    rw [same] at member
    exact sound.expired other member

theorem Sound.rotate (sound : Sound keys tracker) (renames : Bool) : Sound keys (tracker.maybeRotate renames) := by
  unfold maybeRotate
  split
  · refine ⟨sound.ordered, sound.held, le_trans ?_ sound.written, sound.expired⟩
    exact add_le_add_left (add_le_add_left (Multiset.zero_le _) _) _
  · exact sound

theorem Sound.write (sound : Sound keys tracker) (opens : Bool) {parsed : List UsageEvent}
    (lines : parsed.Sublist tracker.writing) (bytes : Nat) : Sound keys (tracker.write opens parsed bytes) := by
  unfold UsageTracker.write
  split
  · refine ⟨sound.ordered, sound.held, le_trans ?_ sound.written, sound.expired⟩
    have fewer : (parsed : Multiset UsageEvent) ≤ tracker.writing := Multiset.coe_le.mpr lines.subperm
    calc ((tracker.file ++ parsed : List UsageEvent) : Multiset UsageEvent) + tracker.pending + ([] : List UsageEvent)
        = tracker.file + tracker.pending + parsed := by
          rw [← Multiset.coe_add, Multiset.coe_nil, add_zero, add_right_comm]
      _ ≤ tracker.file + tracker.pending + tracker.writing := add_le_add_right fewer _
  · refine ⟨sound.ordered, sound.held, le_trans (le_of_eq ?_) sound.written, sound.expired⟩
    rw [← Multiset.coe_add, Multiset.coe_nil, add_zero, add_assoc]

theorem Sound.restart (sound : Sound keys tracker) {reads : Bool} (settled : Settled keys tracker (.restart reads)) :
    Sound keys (tracker.restart reads) := by
  have file : (tracker.file : Multiset UsageEvent) ≤ tracker.recorded := by
    refine le_trans ?_ sound.written
    rw [add_assoc]
    exact Multiset.le_add_right _ _
  refine ⟨?_, ?_, ?_, settled.2⟩
  · cases reads with
    | true => exact settled.1 rfl
    | false => exact .nil
  · cases reads with
    | true => exact file
    | false => exact Multiset.zero_le _
  · simpa [UsageTracker.restart] using file

theorem sound_step {step : UsageStep} (sound : Sound keys tracker) (settled : Settled keys tracker step)
    (taken : tracker.step step = some after) : Sound keys after := by
  cases step with
  | clock now =>
      cases taken
      exact ⟨sound.ordered, sound.held, sound.written, settled⟩
  | record event =>
      cases taken
      exact sound.record settled
  | flush =>
      obtain ⟨idle, same⟩ := Option.ite_none_right_eq_some.mp taken
      cases same
      refine ⟨sound.ordered, sound.held, le_trans (le_of_eq ?_) sound.written, sound.expired⟩
      simp [idle]
  | write renames opens parsed bytes =>
      obtain ⟨⟨_, lines⟩, same⟩ := Option.ite_none_right_eq_some.mp taken
      cases same
      have kept : (tracker.maybeRotate renames).writing = tracker.writing := by
        unfold maybeRotate
        split <;> rfl
      refine (sound.rotate renames).write opens ?_ bytes
      rw [kept]
      exact List.isSublist_iff_sublist.mp lines
  | restart reads =>
      cases taken
      exact sound.restart settled
  | request keyHash =>
      cases taken
      exact sound

/-! ## A request -/

section Request
variable {entry : KeyEntry}

theorem Sound.spent_eq (sound : Sound keys tracker) (member : entry ∈ keys) (limited : entry.tokenBudget ≠ 0) :
    tracker.spent entry = ((tracker.events.filter fun event =>
      event.keyHash = entry.keyHash ∧ tracker.clock - entry.budgetWindow ≤ event.ts).map tokens).sum := by
  let counts (event : UsageEvent) := event.keyHash = entry.keyHash ∧ tracker.clock - entry.budgetWindow ≤ event.ts
  have gone : tracker.lost.filter counts = 0 := by
    rw [Multiset.filter_eq_nil]
    rintro event held ⟨own, recent⟩
    have old := sound.expired event held entry member limited own.symm
    omega
  have whole : (tracker.recorded : Multiset UsageEvent) = tracker.events + tracker.lost :=
    (add_tsub_cancel_of_le sound.held).symm
  have sums : (((tracker.recorded : Multiset UsageEvent).filter counts).map tokens).sum =
      (((tracker.events : Multiset UsageEvent).filter counts).map tokens).sum := by
    rw [whole, Multiset.filter_add, gone, add_zero]
  simp only [Multiset.filter_coe, Multiset.map_coe, Multiset.sum_coe] at sums
  exact sums

theorem Sound.tokensSince_eq (sound : Sound keys tracker) (member : entry ∈ keys) (limited : entry.tokenBudget ≠ 0) :
    (tracker.tokensSince entry.keyHash (tracker.clock - entry.budgetWindow)).toInt =
      (tracker.spent entry).bmod (2 ^ 64) := by
  have initial : tracker.events.reverse.Pairwise fun first second =>
      decide (tracker.clock - entry.budgetWindow ≤ second.ts) = true →
        decide (tracker.clock - entry.budgetWindow ≤ first.ts) = true := by
    rw [List.pairwise_reverse]
    refine sound.ordered.imp fun {earlier later} before recent => ?_
    rw [decide_eq_true_iff] at recent ⊢
    omega
  rw [tokensSince, takeWhile_eq_filter initial, toInt_foldl, Int64.toInt_zero, Int.zero_add, sound.spent_eq member limited]
  congr 1
  rw [List.filter_filter, List.filter_reverse, List.map_reverse, List.sum_reverse]
  simp only [Bool.decide_and]

theorem Sound.withinBudget (sound : Sound keys tracker) (earliest : Int) {keyHash : String}
    (settled : Settled keys tracker (.request keyHash)) : tracker.WithinBudget earliest keys keyHash := by
  intro admitted entry found limited
  obtain ⟨representable, fits⟩ := settled entry found limited
  have member := List.mem_of_find?_eq_some found
  rw [admits, found, Bool.and_eq_true, remainingBudget, if_neg limited] at admitted
  obtain ⟨remaining, held, positive⟩ := (Option.any_eq_true _ _).mp admitted.2
  obtain ⟨time, cut, rfl⟩ := Option.map_eq_some_iff.mp held
  obtain ⟨_, same⟩ := Option.ite_none_right_eq_some.mp cut
  rw [fromStd, if_pos representable] at same
  cases same
  have left : 0 < (entry.tokenBudget - tracker.tokensSince entry.keyHash (tracker.clock - entry.budgetWindow)).toInt := by
    simpa only [decide_eq_true_iff, Int64.lt_iff_toInt_lt, Int64.toInt_zero] using positive
  rw [Int64.toInt_sub, sound.tokensSince_eq member limited, Int.sub_bmod_bmod] at left
  exact lt_of_remaining fits left

end Request

/-! ## Whole runs -/

theorem requests_within_budget (earliest : Int) (keys : List KeyEntry) (clock : Int) (steps : List UsageStep)
    (keyHash : String) (tracker : UsageTracker)
    (settled : Meets UsageTracker.step (Settled keys) (new clock) (steps ++ [.request keyHash]))
    (ran : run UsageTracker.step (new clock) steps = some tracker) : tracker.WithinBudget earliest keys keyHash := by
  obtain ⟨before, last⟩ := (meets_append_iff ran).mp settled
  have sound : Sound keys tracker :=
    run_invariant_of_meets (fun _ _ _ sound settled taken => sound_step sound settled taken) (sound_new keys clock) before ran
  exact sound.withinBudget earliest last.1

def dayKey : KeyEntry := ⟨"key", 100, 86400 * 10 ^ 9, true⟩

theorem requests_within_budget_after_restart :
    ∃ tracker, run UsageTracker.step (new 0)
        [.record ⟨0, "key", 60, 10⟩, .flush, .write false true [⟨0, "key", 60, 10⟩] 120, .restart true] = some tracker ∧
      tracker.WithinBudget (-(10 ^ 18)) [dayKey] "key" := by
  refine ⟨_, rfl, requests_within_budget (-(10 ^ 18)) [dayKey] 0
    [.record ⟨0, "key", 60, 10⟩, .flush, .write false true [⟨0, "key", 60, 10⟩] 120, .restart true] "key" _ ?_ rfl⟩
  refine ⟨by simp [Settled, new], fun _ first => ?_⟩
  cases first
  refine ⟨trivial, fun _ second => ?_⟩
  cases second
  refine ⟨trivial, fun _ third => ?_⟩
  cases third
  refine ⟨⟨fun _ => List.pairwise_singleton _ _, fun event member => ?_⟩, fun _ fourth => ?_⟩
  · simp [lost, UsageTracker.restart, UsageTracker.write, maybeRotate, UsageTracker.record, new] at member
  · cases fourth
    refine ⟨fun entry found _ => ?_, fun _ _ => trivial⟩
    cases found
    decide +kernel

/-- A clock that is set back hides an event, a restart forgets what was not written, and a count wraps. -/
theorem budget_exceeded :
    (∃ tracker, run UsageTracker.step (new (10 ^ 9))
        [.record ⟨10 ^ 9, "key", 200, 0⟩, .clock 0, .record ⟨0, "key", 0, 0⟩, .clock (86400 * 10 ^ 9 + 1)] = some tracker ∧
      ¬ tracker.WithinBudget (-(10 ^ 18)) [dayKey] "key") ∧
    (∃ tracker, run UsageTracker.step (new 0) [.record ⟨0, "key", 200, 0⟩, .restart true] = some tracker ∧
      ¬ tracker.WithinBudget (-(10 ^ 18)) [dayKey] "key") ∧
    ∃ tracker, run UsageTracker.step (new 0) [.record ⟨0, "key", Int64.maxValue, Int64.maxValue⟩] = some tracker ∧
      ¬ tracker.WithinBudget (-(10 ^ 18)) [dayKey] "key" := by
  have limited : dayKey.tokenBudget ≠ 0 := by decide
  refine ⟨⟨_, rfl, fun within => ?_⟩, ⟨_, rfl, fun within => ?_⟩, _, rfl, fun within => ?_⟩
  · exact absurd (within (by decide +kernel) dayKey rfl limited) (by decide +kernel)
  · exact absurd (within (by decide +kernel) dayKey rfl limited) (by decide +kernel)
  · exact absurd (within (by decide +kernel) dayKey rfl limited) (by decide +kernel)

end MacMgmt.Proof.AiUsage
