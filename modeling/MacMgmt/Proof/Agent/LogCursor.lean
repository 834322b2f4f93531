import MacMgmt.Agent.LogBuffer

/-!
# What a client that follows the log is shown

The buffer always has the last `maxLines` lines pushed. An index counts lines from the start of the buffer, so it names
another line once lines are dropped.
-/

namespace MacMgmt.Proof.Agent
open MacMgmt.Agent Lib

theorem forService_append (service : Option String) (first second : List String) :
    forService service (first ++ second) = forService service first ++ forService service second := by
  cases service with
  | none => rfl
  | some svc => exact List.filter_append ..

theorem since_eq (buf : LogBuffer) (after : Nat) : buf.since after = (buf.lines.length, buf.lines.drop after) := by
  unfold LogBuffer.since
  split
  next beyond => rw [List.drop_eq_nil_of_le beyond]
  next => rfl

def kept (pushed : List String) : List String := pushed.drop (pushed.length - maxLines)

theorem length_kept (pushed : List String) : (kept pushed).length = min pushed.length maxLines := by
  unfold kept
  rw [List.length_drop]
  omega

theorem push_kept (pushed : List String) (line : String) :
    LogBuffer.push ⟨kept pushed⟩ line = ⟨kept (pushed ++ [line])⟩ := by
  have room : 0 < maxLines := by decide +kernel
  simp only [LogBuffer.push, LogBuffer.mk.injEq, length_kept]
  unfold kept
  split
  next full =>
    have later : pushed.length + 1 - maxLines = pushed.length - maxLines + 1 := by omega
    rw [List.tail_drop, List.length_append, List.length_singleton, later, List.drop_append_of_le_length (by omega)]
  next =>
    have all : pushed.length - maxLines = 0 := by omega
    have still : pushed.length + 1 - maxLines = 0 := by omega
    rw [List.length_append, List.length_singleton, all, still, List.drop_zero, List.drop_zero]

/-- The answer of a first request is open while its lines are read and its index is not. -/
structure Sound (follower : Follower) : Prop where
  holds : follower.buffer.lines = kept follower.pushed
  covered : follower.covered ≤ follower.pushed.length
  index : follower.index ≤ follower.buffer.lines.length
  ahead : follower.asked = none → follower.covered ≤ follower.evicted + follower.index

theorem sound_start (service : Option String) : Sound (Follower.start service) where
  holds := List.drop_nil.symm
  covered := Nat.zero_le _
  index := Nat.zero_le _
  ahead _ := Nat.zero_le _

section Sound
variable {follower : Follower}

theorem buffer_eq (sound : Sound follower) : follower.buffer = ⟨kept follower.pushed⟩ :=
  congrArg LogBuffer.mk sound.holds

theorem evicted_eq (sound : Sound follower) : follower.evicted = follower.pushed.length - maxLines := by
  rw [Follower.evicted, sound.holds, length_kept]
  omega

theorem evicted_add_length (sound : Sound follower) :
    follower.evicted + follower.buffer.lines.length = follower.pushed.length := by
  rw [evicted_eq sound, sound.holds, length_kept]
  omega

theorem sound_push (sound : Sound follower) (line : String) : Sound (follower.push line) := by
  have after : (follower.push line).buffer = ⟨kept (follower.pushed ++ [line])⟩ := by
    rw [← push_kept, ← buffer_eq sound]
    rfl
  have size : (follower.push line).buffer.lines.length = min (follower.pushed.length + 1) maxLines := by
    refine (congrArg (fun buf : LogBuffer => buf.lines.length) after).trans ((length_kept _).trans ?_)
    rw [List.length_append, List.length_singleton]
  have gone : (follower.push line).evicted = follower.pushed.length + 1 - maxLines := by
    have length : (follower.push line).pushed.length = follower.pushed.length + 1 := List.length_append
    rw [Follower.evicted, size, length]
    omega
  have before := evicted_add_length sound
  have index := sound.index
  have covered := sound.covered
  rw [evicted_eq sound] at before
  refine ⟨congrArg LogBuffer.lines after, ?_, ?_, fun idle => ?_⟩
  · exact covered.trans (List.length_append ▸ Nat.le_add_right ..)
  · exact size ▸ show follower.index ≤ _ by omega
  · have ahead := sound.ahead idle
    rw [evicted_eq sound] at ahead
    exact gone ▸ show follower.covered ≤ _ + follower.index by omega

theorem sound_request (sound : Sound follower) (n : Nat) : Sound (follower.request n) where
  holds := sound.holds
  covered := le_rfl
  index := sound.index
  ahead := nofun

theorem sound_answer (sound : Sound follower) (lines : List String) : Sound (follower.answer lines) where
  holds := sound.holds
  covered := sound.covered
  index := le_rfl
  ahead _ := by
    change follower.covered ≤ follower.evicted + follower.buffer.lines.length
    rw [evicted_add_length sound]
    exact sound.covered

theorem sound_poll (sound : Sound follower) : Sound follower.poll := by
  have after : follower.poll.index = follower.buffer.lines.length := by rw [Follower.poll, since_eq]
  refine ⟨sound.holds, le_rfl, after.le, fun _ => ?_⟩
  rw [after]
  exact (evicted_add_length sound).ge

theorem sound_step {after : Follower} {event : LogEvent} (sound : Sound follower)
    (taken : follower.step event = some after) : Sound after := by
  cases event with
  | push line =>
      cases taken
      exact sound_push sound line
  | request n =>
      obtain ⟨-, same⟩ := Option.ite_none_left_eq_some.mp taken
      cases same
      exact sound_request sound n
  | answer =>
      obtain ⟨lines, -, rfl⟩ := Option.map_eq_some_iff.mp taken
      exact sound_answer sound lines
  | poll =>
      obtain ⟨-, same⟩ := Option.ite_none_left_eq_some.mp taken
      cases same
      exact sound_poll sound
  | failedPoll =>
      obtain ⟨-, same⟩ := Option.ite_none_left_eq_some.mp taken
      cases same
      exact sound

/-! ## One poll -/

theorem since_index (sound : Sound follower) :
    (follower.buffer.since follower.index).2 = follower.pushed.drop (follower.evicted + follower.index) := by
  rw [since_eq, sound.holds, kept, List.drop_drop, evicted_eq sound]

theorem unread_eq (sound : Sound follower) (idle : follower.asked = none) :
    follower.unread = follower.skipped ++ (follower.buffer.since follower.index).2 := by
  have split := List.take_append_drop (follower.evicted + follower.index - max follower.covered follower.evicted)
    follower.unread
  have ahead := sound.ahead idle
  rw [since_index sound, Follower.skipped]
  conv_lhs => rw [← split]
  congr 1
  rw [Follower.unread, List.drop_drop]
  congr 1
  omega

theorem skipped_eq_nil (stands : follower.index = 0 ∨ follower.evicted + follower.index ≤ follower.covered) :
    follower.skipped = [] := by
  have none : follower.evicted + follower.index - max follower.covered follower.evicted = 0 := by omega
  rw [Follower.skipped, none, List.take_zero]

theorem stands_poll_iff : follower.Stands .poll ↔ forService follower.service follower.skipped = [] := by
  have nothing : forService follower.service [] = [] := by cases follower.service <;> rfl
  constructor
  · rintro (first | before | others)
    · rw [skipped_eq_nil (.inl first), nothing]
    · rw [skipped_eq_nil (.inr before), nothing]
    · exact others
  · intro others
    exact .inr (.inr others)

theorem complete_poll_iff (sound : Sound follower) (idle : follower.asked = none) (complete : follower.Complete) :
    follower.poll.Complete ↔ follower.Stands .poll := by
  rw [stands_poll_iff]
  change follower.shown ++ forService follower.service (follower.buffer.since follower.index).2 =
    follower.due ++ forService follower.service follower.unread ↔ _
  rw [show follower.shown = follower.due from complete, unread_eq sound idle, forService_append, List.append_cancel_left_eq,
    eq_comm, List.append_left_eq_self]

theorem complete_step_iff {after : Follower} {event : LogEvent} (sound : Sound follower) (complete : follower.Complete)
    (taken : follower.step event = some after) : after.Complete ↔ follower.Stands event := by
  cases event with
  | push line =>
      cases taken
      exact iff_of_true complete trivial
  | request n =>
      obtain ⟨-, same⟩ := Option.ite_none_left_eq_some.mp taken
      cases same
      exact iff_of_true complete trivial
  | answer =>
      obtain ⟨lines, -, rfl⟩ := Option.map_eq_some_iff.mp taken
      exact iff_of_true (congrArg (· ++ forService follower.service lines) complete) trivial
  | poll =>
      obtain ⟨idle, same⟩ := Option.ite_none_left_eq_some.mp taken
      cases same
      exact complete_poll_iff sound (by simpa using idle) complete
  | failedPoll =>
      obtain ⟨-, same⟩ := Option.ite_none_left_eq_some.mp taken
      cases same
      exact iff_of_true complete trivial

end Sound

/-! ## Whole sessions -/

theorem follower_complete_iff (service : Option String) (events : List LogEvent) (final : Follower)
    (ran : run Follower.step (.start service) events = some final) :
    Always Follower.step Follower.Complete (.start service) events ↔
      Meets Follower.step Follower.Stands (.start service) events :=
  always_iff_meets (fun _ _ _ => sound_step) (fun _ _ _ => complete_step_iff) (sound_start service) rfl ran

theorem follower_complete_second_line :
    Always Follower.step Follower.Complete (.start none) [.push "a", .request 50, .answer, .push "b", .poll] := by
  refine (follower_complete_iff none _ _ rfl).mpr ?_
  refine ⟨trivial, fun _ first => ⟨trivial, fun _ second => ⟨trivial, fun _ third => ⟨trivial, fun _ fourth => ?_⟩⟩⟩⟩
  cases first
  cases second
  cases third
  cases fourth
  refine ⟨.inr (.inl ?_), fun _ _ => trivial⟩
  decide +kernel

theorem run_push (follower : Follower) (lines : List String) (events : List LogEvent) :
    run Follower.step follower (lines.map .push ++ events) = run Follower.step (lines.foldl .push follower) events := by
  induction lines generalizing follower with
  | nil => rfl
  | cons line lines ih => exact ih (follower.push line)

theorem foldl_push (follower : Follower) (lines : List String) (sound : Sound follower) :
    lines.foldl Follower.push follower =
      { follower with buffer := ⟨kept (follower.pushed ++ lines)⟩, pushed := follower.pushed ++ lines } := by
  induction lines generalizing follower with
  | nil => rw [List.append_nil, ← buffer_eq sound, List.foldl_nil]
  | cons line lines ih =>
      rw [List.foldl_cons, ih _ (sound_push sound line)]
      simp only [Follower.push, List.append_assoc, List.singleton_append]

theorem not_complete_of_full {follower : Follower} (sound : Sound follower) (complete : follower.Complete)
    (first : follower.index = 0) (idle : follower.asked = none) (everything : follower.service = none)
    (full : follower.pushed.length = maxLines) (line : String) : ¬ (follower.poll.push line).poll.Complete := by
  have shown : follower.poll.Complete := (complete_poll_iff sound idle complete).mpr (.inl first)
  have later := sound_push (sound_poll sound) line
  have index : follower.poll.index = maxLines := by
    rw [Follower.poll, since_eq, sound.holds, length_kept, full, Nat.min_self]
  have length : (follower.pushed ++ [line]).length = maxLines + 1 := by
    rw [List.length_append, full, List.length_singleton]
  have gone : (follower.poll.push line).evicted = 1 := by
    rw [evicted_eq later]
    exact (congrArg (· - maxLines) length).trans (by omega)
  rw [complete_poll_iff later idle shown, stands_poll_iff]
  intro nothing
  have none : (follower.poll.push line).skipped = [] := by
    rwa [show (follower.poll.push line).service = none from everything] at nothing
  have count : (follower.poll.push line).skipped.length = 1 := by
    have room : 0 < maxLines := by decide +kernel
    rw [Follower.skipped, Follower.unread, List.length_take, List.length_drop, gone]
    change min (1 + follower.poll.index - max follower.pushed.length 1)
      ((follower.pushed ++ [line]).length - max follower.pushed.length 1) = 1
    omega
  rw [none] at count
  cases count

def overflow : List LogEvent := (List.replicate maxLines "old").map .push ++ [.poll, .push "new", .poll]

theorem overflow_skips_line : ∃ final, run Follower.step (.start none) overflow = some final ∧ ¬ final.Complete := by
  have full := foldl_push (.start none) (List.replicate maxLines "old") (sound_start none)
  have sound : Sound ((List.replicate maxLines "old").foldl .push (.start none)) := by
    refine full ▸ ⟨rfl, Nat.zero_le _, Nat.zero_le _, fun _ => Nat.zero_le _⟩
  rw [overflow, run_push]
  generalize List.foldl Follower.push (.start none) (List.replicate maxLines "old") = follower at full sound ⊢
  subst full
  refine ⟨_, rfl, not_complete_of_full sound rfl rfl rfl rfl List.length_replicate "new"⟩

end MacMgmt.Proof.Agent
