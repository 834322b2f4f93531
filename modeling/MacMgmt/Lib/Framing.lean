import Mathlib.Data.List.Basic

/-!
# Decoding frames from a byte stream

A decoder is fed one byte at a time and says whether it needs more, has a frame, or gives up. `poll` feeds
it until one of the last two happens or the bytes run out. An `Intake` is a decoder in the position of a read
future: bytes wait in `avail`, `reading` holds what the future has consumed, and `cancel` drops the
future together with the bytes it had taken.
-/

namespace Lib

inductive Progress (State Frame : Type*) where
  | more (state : State)
  | done (frame : Frame)
  | fail
deriving DecidableEq

structure Decoder (Byte : Type*) (Frame : Type*) where
  State : Type
  fresh : State
  feed : State → Byte → Progress State Frame

namespace Decoder
variable {Byte Frame : Type*} (decoder : Decoder Byte Frame)

def poll : decoder.State → List Byte → Progress decoder.State Frame × List Byte
  | state, [] => (.more state, [])
  | state, byte :: bytes =>
      match decoder.feed state byte with
      | .more next => poll next bytes
      | .done frame => (.done frame, bytes)
      | .fail => (.fail, bytes)

variable {decoder}

@[simp] theorem poll_nil (state : decoder.State) : decoder.poll state [] = (.more state, []) := rfl

theorem poll_append (state : decoder.State) (bytes more : List Byte) :
    decoder.poll state (bytes ++ more) =
      match decoder.poll state bytes with
      | (.more next, _) => decoder.poll next more
      | (.done frame, rest) => (.done frame, rest ++ more)
      | (.fail, rest) => (.fail, rest ++ more) := by
  induction bytes generalizing state with
  | nil => rfl
  | cons byte bytes ih =>
      simp only [poll, List.cons_append]
      cases decoder.feed state byte with
      | more next => exact ih next
      | done frame => rfl
      | fail => rfl

theorem poll_more_append {state next : decoder.State} {bytes rest : List Byte} (more : List Byte)
    (polled : decoder.poll state bytes = (.more next, rest)) :
    decoder.poll state (bytes ++ more) = decoder.poll next more := by
  rw [poll_append, polled]

theorem poll_fail_append {state : decoder.State} {bytes rest : List Byte} (more : List Byte)
    (polled : decoder.poll state bytes = (.fail, rest)) :
    decoder.poll state (bytes ++ more) = (.fail, rest ++ more) := by
  rw [poll_append, polled]

theorem poll_more_rest {state next : decoder.State} {bytes rest : List Byte}
    (polled : decoder.poll state bytes = (.more next, rest)) : rest = [] := by
  induction bytes generalizing state with
  | nil =>
      cases polled
      rfl
  | cons byte bytes ih =>
      simp only [poll] at polled
      cases fed : decoder.feed state byte with
      | more middle => exact ih (by simpa only [fed] using polled)
      | done frame => simp [fed] at polled
      | fail => simp [fed] at polled

theorem poll_rest_length (state : decoder.State) (bytes : List Byte) :
    (decoder.poll state bytes).2.length ≤ bytes.length := by
  induction bytes generalizing state with
  | nil => exact Nat.le_refl 0
  | cons byte bytes ih =>
      simp only [poll]
      cases decoder.feed state byte with
      | more next => exact Nat.le_succ_of_le (ih next)
      | done frame => exact Nat.le_succ _
      | fail => exact Nat.le_succ _

theorem poll_ne_more_fresh (never : ∀ state byte, decoder.feed state byte ≠ .more decoder.fresh)
    {state : decoder.State} {bytes rest : List Byte} (polled : decoder.poll state bytes = (.more decoder.fresh, rest)) :
    bytes = [] := by
  induction bytes generalizing state with
  | nil => rfl
  | cons byte bytes ih =>
      simp only [poll] at polled
      cases fed : decoder.feed state byte with
      | more middle =>
          have empty := ih (by simpa only [fed] using polled)
          subst empty
          simp only [fed, poll_nil, Prod.mk.injEq, Progress.more.injEq] at polled
          exact absurd (polled.1 ▸ fed) (never state byte)
      | done frame => simp [fed] at polled
      | fail => simp [fed] at polled

/-- A frame comes out exactly when its encoding has been put in, and no byte is ever consumed without
a trace in the state. -/
structure Decodes (decoder : Decoder Byte Frame) (encode : Frame → List Byte) (Valid : Frame → Prop) : Prop where
  done_iff : ∀ bytes frame rest,
    decoder.poll decoder.fresh bytes = (.done frame, rest) ↔ Valid frame ∧ bytes = encode frame ++ rest
  feed_ne : ∀ state byte, decoder.feed state byte ≠ .more decoder.fresh

end Decoder

structure Intake {Byte Frame : Type*} (decoder : Decoder Byte Frame) where
  avail : List Byte
  reading : decoder.State
  frames : List Frame
  closed : Bool

namespace Intake
variable {Byte Frame : Type*} {decoder : Decoder Byte Frame}

def start (decoder : Decoder Byte Frame) : Intake decoder := ⟨[], decoder.fresh, [], false⟩

def arrive (intake : Intake decoder) (chunk : List Byte) : Intake decoder :=
  { intake with avail := intake.avail ++ chunk }

def poll (intake : Intake decoder) : Intake decoder :=
  match decoder.poll intake.reading intake.avail with
  | (.more state, rest) => { intake with avail := rest, reading := state }
  | (.done frame, rest) =>
      { intake with avail := rest, reading := decoder.fresh, frames := intake.frames ++ [frame] }
  | (.fail, rest) => { intake with avail := rest, closed := true }

def cancel (intake : Intake decoder) : Intake decoder := { intake with reading := decoder.fresh }

def close (intake : Intake decoder) : Intake decoder := { intake with closed := true }

/-- The current read future has consumed `pending` since it was created. -/
def Pending (intake : Intake decoder) (pending : List Byte) : Prop :=
  decoder.poll decoder.fresh pending = (.more intake.reading, [])

theorem pending_start : (start decoder).Pending [] := rfl

theorem pending_cancel (intake : Intake decoder) : intake.cancel.Pending [] := rfl

variable {encode : Frame → List Byte} {Valid : Frame → Prop}

theorem poll_cases (decodes : decoder.Decodes encode Valid) {intake : Intake decoder} {pending : List Byte}
    (holds : intake.Pending pending) :
    (∃ state, intake.poll = { intake with avail := [], reading := state } ∧
      intake.poll.Pending (pending ++ intake.avail)) ∨
    (∃ frame rest, Valid frame ∧ pending ++ intake.avail = encode frame ++ rest ∧
      intake.poll =
        { intake with avail := rest, reading := decoder.fresh, frames := intake.frames ++ [frame] }) ∨
    (∃ rest, decoder.poll decoder.fresh (pending ++ intake.avail) = (.fail, rest) ∧
      rest.length ≤ intake.avail.length ∧ intake.poll = { intake with avail := rest, closed := true }) := by
  have whole := Decoder.poll_more_append intake.avail holds
  unfold Pending poll
  cases polled : decoder.poll intake.reading intake.avail with
  | mk progress rest =>
      rw [polled] at whole
      cases progress with
      | more state =>
          cases Decoder.poll_more_rest polled
          exact .inl ⟨state, rfl, whole⟩
      | done frame =>
          obtain ⟨valid, split⟩ := (decodes.done_iff _ _ _).mp whole
          exact .inr (.inl ⟨frame, rest, valid, split, rfl⟩)
      | fail =>
          have shorter := Decoder.poll_rest_length intake.reading intake.avail
          rw [polled] at shorter
          exact .inr (.inr ⟨rest, whole, shorter, rfl⟩)

/-! ## A stream read without loss

`Aligned` relates an intake to the frames that were written: those not yet decoded are spelled by the bytes the
future holds, the bytes that wait, and the bytes still to come.
-/

def Aligned (encode : Frame → List Byte) (written : List Frame) (future : List Byte) (intake : Intake decoder) :
    Prop :=
  ∃ pending rest, intake.Pending pending ∧ written = intake.frames ++ rest ∧
    pending ++ intake.avail ++ future = rest.flatMap encode

theorem aligned_start (written : List Frame) :
    Aligned encode written (written.flatMap encode) (start decoder) :=
  ⟨[], written, pending_start, rfl, rfl⟩

theorem Aligned.arrive {written : List Frame} {chunk future : List Byte} {intake : Intake decoder}
    (aligned : Aligned encode written (chunk ++ future) intake) : Aligned encode written future (intake.arrive chunk) := by
  obtain ⟨pending, rest, holds, split, spelled⟩ := aligned
  refine ⟨pending, rest, holds, split, ?_⟩
  rw [← spelled]
  simp [Intake.arrive]

theorem Aligned.write {written : List Frame} {future : List Byte} {intake : Intake decoder}
    (aligned : Aligned encode written future intake) (frame : Frame) :
    Aligned encode (written ++ [frame]) (future ++ encode frame) intake := by
  obtain ⟨pending, rest, holds, split, spelled⟩ := aligned
  refine ⟨pending, rest ++ [frame], holds, by rw [split, List.append_assoc], ?_⟩
  rw [← List.append_assoc, spelled]
  simp

theorem Aligned.frames_prefix {written : List Frame} {future : List Byte} {intake : Intake decoder}
    (aligned : Aligned encode written future intake) : intake.frames <+: written := by
  obtain ⟨pending, rest, holds, split, spelled⟩ := aligned
  exact ⟨rest, split.symm⟩

theorem Aligned.cancel (decodes : decoder.Decodes encode Valid) {written : List Frame} {future : List Byte}
    {intake : Intake decoder} (aligned : Aligned encode written future intake)
    (fresh : intake.reading = decoder.fresh) : Aligned encode written future intake.cancel := by
  obtain ⟨pending, rest, holds, split, spelled⟩ := aligned
  unfold Pending at holds
  rw [fresh] at holds
  cases Decoder.poll_ne_more_fresh decodes.feed_ne holds
  exact ⟨[], rest, pending_cancel intake, split, spelled⟩

theorem Aligned.poll (decodes : decoder.Decodes encode Valid) {written : List Frame} {future : List Byte}
    {intake : Intake decoder} (valid : ∀ frame ∈ written, Valid frame)
    (aligned : Aligned encode written future intake) :
    Aligned encode written future intake.poll ∧ intake.poll.closed = intake.closed := by
  obtain ⟨pending, rest, holds, split, spelled⟩ := aligned
  -- The next frame is what a decoder started at `pending` finds in everything that is there or will be.
  have decoded : ∀ frame others, rest = frame :: others →
      decoder.poll decoder.fresh (pending ++ intake.avail ++ future) = (.done frame, others.flatMap encode) := by
    intro frame others same
    apply (decodes.done_iff _ _ _).mpr
    refine ⟨valid frame (by simp [split, same]), ?_⟩
    rw [spelled, same, List.flatMap_cons]
  rcases poll_cases decodes holds with ⟨state, polled, still⟩ | ⟨frame, left, ok, taken, polled⟩ | ⟨left, failed, -, -⟩
  · refine ⟨⟨pending ++ intake.avail, rest, still, ?_, ?_⟩, by rw [polled]⟩
    · rw [polled, split]
    · rw [polled, ← spelled]
      simp
  · have found := (decodes.done_iff (pending ++ intake.avail ++ future) frame (left ++ future)).mpr
      ⟨ok, by rw [taken, List.append_assoc]⟩
    cases rest with
    | nil =>
        rw [spelled] at found
        simp at found
    | cons next others =>
        rw [decoded next others rfl] at found
        obtain ⟨same, after⟩ := Prod.mk.inj found
        cases same
        refine ⟨⟨[], others, ?_, ?_, ?_⟩, by rw [polled]⟩
        · rw [polled]
          rfl
        · rw [polled, split]
          simp
        · rw [polled]
          simpa using after.symm
  · have found := Decoder.poll_fail_append future failed
    cases rest with
    | nil =>
        rw [spelled] at found
        simp at found
    | cons next others =>
        rw [decoded next others rfl] at found
        cases found

theorem Aligned.complete (decodes : decoder.Decodes encode Valid) {written : List Frame} {intake : Intake decoder}
    (valid : ∀ frame ∈ written, Valid frame) (aligned : Aligned encode written [] intake)
    (drained : intake.avail = []) : intake.frames = written := by
  obtain ⟨pending, rest, holds, split, spelled⟩ := aligned
  cases rest with
  | nil => simpa using split.symm
  | cons frame others =>
      have found := (decodes.done_iff pending frame (others.flatMap encode)).mpr
        ⟨valid frame (by simp [split]), by simpa [drained] using spelled⟩
      rw [holds] at found
      cases found

/-! ## Counting bytes

`Accounted` bounds what an intake has by the number of bytes that arrived, whether or not any were lost.
-/

def encodedLength (encode : Frame → List Byte) (frames : List Frame) : Nat := (frames.flatMap encode).length

theorem encodedLength_concat (frames : List Frame) (frame : Frame) :
    encodedLength encode (frames ++ [frame]) = encodedLength encode frames + (encode frame).length := by
  simp [encodedLength]

def Accounted (encode : Frame → List Byte) (Valid : Frame → Prop) (bound : Nat) (intake : Intake decoder) : Prop :=
  (∀ frame ∈ intake.frames, Valid frame) ∧ ∃ pending, intake.Pending pending ∧
    encodedLength encode intake.frames + pending.length + intake.avail.length ≤ bound

theorem accounted_start : Accounted encode Valid 0 (start decoder) :=
  ⟨fun _ member => (List.not_mem_nil member).elim, [], pending_start, Nat.le_refl 0⟩

theorem Accounted.arrive {bound : Nat} {intake : Intake decoder} (accounted : Accounted encode Valid bound intake)
    (chunk : List Byte) : Accounted encode Valid (bound + chunk.length) (intake.arrive chunk) := by
  obtain ⟨valid, pending, holds, count⟩ := accounted
  refine ⟨valid, pending, holds, ?_⟩
  simp only [Intake.arrive, List.length_append]
  omega

theorem Accounted.poll (decodes : decoder.Decodes encode Valid) {bound : Nat} {intake : Intake decoder}
    (accounted : Accounted encode Valid bound intake) : Accounted encode Valid bound intake.poll := by
  obtain ⟨valid, pending, holds, count⟩ := accounted
  rcases poll_cases decodes holds with ⟨state, polled, still⟩ | ⟨frame, rest, ok, taken, polled⟩ |
    ⟨rest, -, shorter, polled⟩
  · refine ⟨by rw [polled]; exact valid, pending ++ intake.avail, still, ?_⟩
    simp only [polled, List.length_append, List.length_nil]
    omega
  · rw [polled]
    refine ⟨?_, [], rfl, ?_⟩
    · intro other member
      rcases List.mem_append.mp member with old | new
      · exact valid other old
      · cases List.mem_singleton.mp new
        exact ok
    · have lengths := congrArg List.length taken
      simp only [List.length_append] at lengths
      simp only [encodedLength_concat, List.length_nil]
      omega
  · rw [polled]
    refine ⟨valid, pending, holds, ?_⟩
    simp only
    omega

theorem Accounted.cancel {bound : Nat} {intake : Intake decoder} (accounted : Accounted encode Valid bound intake) :
    Accounted encode Valid bound intake.cancel := by
  obtain ⟨valid, pending, holds, count⟩ := accounted
  refine ⟨valid, [], pending_cancel intake, ?_⟩
  simp only [Intake.cancel, List.length_nil]
  omega

theorem Accounted.cancel_short {bound : Nat} {intake : Intake decoder}
    (accounted : Accounted encode Valid bound intake) (partly : intake.reading ≠ decoder.fresh) :
    0 < bound ∧ Accounted encode Valid (bound - 1) intake.cancel := by
  obtain ⟨valid, pending, holds, count⟩ := accounted
  have consumed : 0 < pending.length := by
    apply List.length_pos_iff.mpr
    intro empty
    subst empty
    exact partly (Progress.more.inj (congrArg Prod.fst holds)).symm
  refine ⟨by omega, valid, [], pending_cancel intake, ?_⟩
  simp only [Intake.cancel, List.length_nil]
  omega

theorem Accounted.encodedLength_le {bound : Nat} {intake : Intake decoder}
    (accounted : Accounted encode Valid bound intake) : encodedLength encode intake.frames ≤ bound := by
  obtain ⟨-, pending, -, count⟩ := accounted
  exact Nat.le_trans (Nat.le_trans (Nat.le_add_right _ _) (Nat.le_add_right _ _)) count

end Intake
end Lib
