import MacMgmt.Relay.RpcCalls
import Mathlib.Tactic.NormNum

/-!
# The relay decodes the frames a daemon writes
-/

namespace MacMgmt.Proof.Relay
open Lib MacMgmt.Relay

/-! ## The decoder -/

theorem u32FromBeBytes_toBeBytes (value : Nat) : u32FromBeBytes (u32ToBeBytes value) = value % 2 ^ 32 := by
  simp only [u32FromBeBytes, u32ToBeBytes, List.foldl_cons, List.foldl_nil, UInt8.toNat_ofNat']
  omega

theorem u32ToBeBytes_fromBeBytes (a b c d : UInt8) : u32ToBeBytes (u32FromBeBytes [a, b, c, d]) = [a, b, c, d] := by
  have bounds : a.toNat < 256 ∧ b.toNat < 256 ∧ c.toNat < 256 ∧ d.toNat < 256 :=
    ⟨a.toNat_lt, b.toNat_lt, c.toNat_lt, d.toNat_lt⟩
  simp only [u32FromBeBytes, u32ToBeBytes, List.foldl_cons, List.foldl_nil, List.cons.injEq, and_true]
  refine ⟨?_, ?_, ?_, ?_⟩
  all_goals
    apply UInt8.toNat_inj.mp
    rw [UInt8.toNat_ofNat']
    omega

theorem poll_body {len : Nat} {buf payload : List UInt8} (rest : List UInt8) (partly : buf.length < len)
    (fills : buf.length + payload.length = len) :
    rpcDecoder.poll (.body len buf) (payload ++ rest) = (.done (buf ++ payload), rest) := by
  induction payload generalizing buf with
  | nil => simp at fills; omega
  | cons byte payload ih =>
      simp only [List.length_cons] at fills
      simp only [List.cons_append, Decoder.poll, rpcDecoder, readByte, List.length_append, List.length_cons,
        List.length_nil]
      by_cases short : buf.length + (0 + 1) < len
      · simp only [short, if_true]
        have filled : rpcDecoder.poll (.body len (buf ++ [byte])) (payload ++ rest) =
            (.done (buf ++ [byte] ++ payload), rest) := ih (by simpa using short) (by simp; omega)
        simpa [rpcDecoder] using filled
      · have last : payload = [] := List.eq_nil_of_length_eq_zero (by omega)
        subst last
        simp [short]

theorem poll_body_done {len : Nat} {buf bytes frame rest : List UInt8} (partly : buf.length < len)
    (polled : rpcDecoder.poll (.body len buf) bytes = (.done frame, rest)) :
    ∃ payload, bytes = payload ++ rest ∧ frame = buf ++ payload ∧ frame.length = len := by
  induction bytes generalizing buf with
  | nil => cases polled
  | cons byte bytes ih =>
      by_cases short : (buf ++ [byte]).length < len
      · simp only [Decoder.poll, rpcDecoder, readByte, short, if_true] at polled
        obtain ⟨payload, split, same, full⟩ := ih short polled
        exact ⟨byte :: payload, by rw [split]; rfl, by rw [same]; simp, full⟩
      · simp only [Decoder.poll, rpcDecoder, readByte, short, if_false, Prod.mk.injEq,
          Progress.done.injEq] at polled
        obtain ⟨rfl, rfl⟩ := polled
        refine ⟨[byte], rfl, rfl, ?_⟩
        simp only [List.length_append, List.length_cons, List.length_nil] at short ⊢
        omega

theorem poll_header (a b c d : UInt8) (bytes : List UInt8) :
    rpcDecoder.poll (.header []) (a :: b :: c :: d :: bytes) =
      if u32FromBeBytes [a, b, c, d] > maxFrameLen then (.fail, bytes)
      else if u32FromBeBytes [a, b, c, d] = 0 then (.done [], bytes)
      else rpcDecoder.poll (.body (u32FromBeBytes [a, b, c, d]) []) bytes := by
  by_cases long : u32FromBeBytes [a, b, c, d] > maxFrameLen
  · simp [Decoder.poll, rpcDecoder, readByte, long]
  · by_cases empty : u32FromBeBytes [a, b, c, d] = 0
    · simp [Decoder.poll, rpcDecoder, readByte, empty]
    · simp [Decoder.poll, rpcDecoder, readByte, long, empty]

theorem poll_encodeFrame {payload : List UInt8} (rest : List UInt8) (valid : payload.length ≤ maxFrameLen) :
    rpcDecoder.poll (.header []) (encodeFrame payload ++ rest) = (.done payload, rest) := by
  have known : u32FromBeBytes (u32ToBeBytes payload.length) = payload.length := by
    rw [u32FromBeBytes_toBeBytes]
    apply Nat.mod_eq_of_lt
    unfold maxFrameLen at valid
    omega
  have header := poll_header (UInt8.ofNat (payload.length / 2 ^ 24)) (UInt8.ofNat (payload.length / 2 ^ 16))
    (UInt8.ofNat (payload.length / 2 ^ 8)) (UInt8.ofNat payload.length) (payload ++ rest)
  rw [show [UInt8.ofNat (payload.length / 2 ^ 24), UInt8.ofNat (payload.length / 2 ^ 16),
    UInt8.ofNat (payload.length / 2 ^ 8), UInt8.ofNat payload.length] = u32ToBeBytes payload.length from rfl,
    known, if_neg (Nat.not_lt.mpr valid)] at header
  apply Eq.trans header
  by_cases empty : payload.length = 0
  · rw [if_pos empty, List.eq_nil_of_length_eq_zero empty]
    rfl
  · rw [if_neg empty]
    exact poll_body rest (Nat.pos_of_ne_zero empty) (Nat.zero_add _)

theorem encodeFrame_of_poll {bytes frame rest : List UInt8}
    (polled : rpcDecoder.poll (.header []) bytes = (.done frame, rest)) :
    frame.length ≤ maxFrameLen ∧ bytes = encodeFrame frame ++ rest := by
  match bytes with
  | [] | [_] | [_, _] | [_, _, _] => cases polled
  | a :: b :: c :: d :: bytes =>
      rw [poll_header] at polled
      have digits := u32ToBeBytes_fromBeBytes a b c d
      by_cases long : u32FromBeBytes [a, b, c, d] > maxFrameLen
      · rw [if_pos long] at polled
        cases polled
      rw [if_neg long] at polled
      by_cases empty : u32FromBeBytes [a, b, c, d] = 0
      · rw [if_pos empty] at polled
        cases polled
        rw [empty] at digits
        exact ⟨Nat.zero_le _, congrArg (· ++ rest) digits.symm⟩
      · rw [if_neg empty] at polled
        obtain ⟨payload, split, same, full⟩ := poll_body_done (Nat.pos_of_ne_zero empty) polled
        refine ⟨full ▸ Nat.not_lt.mp long, ?_⟩
        rw [encodeFrame, full, digits, split, same]
        rfl

theorem rpcDecoder_decodes :
    rpcDecoder.Decodes encodeFrame (fun payload => payload.length ≤ maxFrameLen) where
  done_iff := by
    intro bytes frame rest
    constructor
    · exact encodeFrame_of_poll
    · intro ⟨valid, split⟩
      rw [split]
      exact poll_encodeFrame rest valid
  feed_ne := by
    intro state byte again
    cases state with
    | header lenBuf =>
        simp only [rpcDecoder, readByte] at again
        split at again
        · simp at again
        · split at again
          · cases again
          · split at again
            · cases again
            · cases again
    | body len buf =>
        simp only [rpcDecoder, readByte] at again
        split at again
        · cases again
        · cases again

/-! ## The loop -/

/-- A request is taken only while no byte of the next length has been read. -/
def OutboundBetweenFrames (reader : RpcReader) : ReadEvent → Prop
  | .outbound => reader.intake.reading = .header []
  | _ => True

instance (reader : RpcReader) (event : ReadEvent) : Decidable (OutboundBetweenFrames reader event) :=
  match event with
  | .outbound => instDecidableEqReadPhase reader.intake.reading (.header [])
  | .arrive _ | .poll | .eof => instDecidableTrue

theorem rpcReadStep_cases {reader after : RpcReader} {event : ReadEvent}
    (stepped : rpcReadStep reader event = some after) :
    (∃ chunk, event = .arrive chunk ∧ reader.ended = false ∧
      after = { reader with intake := reader.intake.arrive chunk }) ∨
    (event = .poll ∧ reader.intake.closed = false ∧ after = { reader with intake := reader.intake.poll }) ∨
    (event = .outbound ∧ after = { reader with intake := reader.intake.cancel }) ∨
    (event = .eof ∧ reader.intake.avail = [] ∧ after = ⟨reader.intake.close, true⟩) := by
  cases event with
  | arrive chunk =>
      simp only [rpcReadStep] at stepped
      split at stepped
      · cases stepped
      · rename_i live
        exact .inl ⟨chunk, rfl, by simpa using live, (Option.some.inj stepped).symm⟩
  | poll =>
      simp only [rpcReadStep] at stepped
      split at stepped
      · cases stepped
      · rename_i looping
        exact .inr (.inl ⟨rfl, by simpa using looping, (Option.some.inj stepped).symm⟩)
  | outbound =>
      simp only [rpcReadStep] at stepped
      split at stepped
      · cases stepped
      · split at stepped
        · exact .inr (.inr (.inl ⟨rfl, (Option.some.inj stepped).symm⟩))
        · cases stepped
  | eof =>
      simp only [rpcReadStep] at stepped
      split at stepped
      · cases stepped
      · rename_i drained
        simp only [Bool.or_eq_true, Bool.not_eq_true', not_or, Bool.not_eq_false, List.isEmpty_iff] at drained
        exact .inr (.inr (.inr ⟨rfl, drained.2, (Option.some.inj stepped).symm⟩))

/-- The bytes of `future` are still to come, and the loop ends only after the last of them. -/
structure Synchronized (written : List (List UInt8)) (future : List UInt8) (reader : RpcReader) : Prop where
  aligned : reader.intake.Aligned encodeFrame written future
  closed : reader.intake.closed = reader.ended
  ended : reader.ended = true → reader.intake.avail = []

theorem Synchronized.step {written : List (List UInt8)} {event : ReadEvent} {events : List ReadEvent}
    {reader after : RpcReader} (valid : ∀ payload ∈ written, payload.length ≤ maxFrameLen)
    (synchronized : Synchronized written (arrivedBytes (event :: events)) reader)
    (condition : OutboundBetweenFrames reader event) (stepped : rpcReadStep reader event = some after) :
    Synchronized written (arrivedBytes events) after := by
  obtain ⟨aligned, closed, ended⟩ := synchronized
  rcases rpcReadStep_cases stepped with
    ⟨chunk, rfl, live, rfl⟩ | ⟨rfl, looping, rfl⟩ | ⟨rfl, rfl⟩ | ⟨rfl, drained, rfl⟩
  · exact ⟨aligned.arrive, closed, fun ended => absurd ended (by simp [live])⟩
  · obtain ⟨still, same⟩ := aligned.poll rpcDecoder_decodes valid
    exact ⟨still, same.trans closed, fun ended => absurd ended (by simp [← closed, looping])⟩
  · exact ⟨aligned.cancel rpcDecoder_decodes condition, closed, ended⟩
  · exact ⟨aligned, rfl, fun _ => drained⟩

theorem Synchronized.run {written : List (List UInt8)} {events : List ReadEvent} {reader final : RpcReader}
    (valid : ∀ payload ∈ written, payload.length ≤ maxFrameLen)
    (synchronized : Synchronized written (arrivedBytes events) reader)
    (meets : Meets rpcReadStep OutboundBetweenFrames reader events)
    (ran : Lib.run rpcReadStep reader events = some final) : Synchronized written [] final := by
  induction events generalizing reader with
  | nil =>
      cases ran
      exact synchronized
  | cons event events ih =>
      obtain ⟨after, taken, rest⟩ := run_cons_some.mp ran
      exact ih (synchronized.step valid meets.1 taken) (meets.2 after taken) rest

def ReaderAccounted (bound : Nat) (reader : RpcReader) : Prop :=
  reader.intake.Accounted encodeFrame (fun payload => payload.length ≤ maxFrameLen) bound

theorem ReaderAccounted.step {bound : Nat} {event : ReadEvent} {reader after : RpcReader}
    (accounted : ReaderAccounted bound reader) (stepped : rpcReadStep reader event = some after) :
    ReaderAccounted (bound + (arrivedBytes [event]).length) after := by
  rcases rpcReadStep_cases stepped with ⟨chunk, rfl, -, rfl⟩ | ⟨rfl, -, rfl⟩ | ⟨rfl, rfl⟩ | ⟨rfl, -, rfl⟩
  · simpa [ReaderAccounted, arrivedBytes] using Intake.Accounted.arrive accounted chunk
  · exact Intake.Accounted.poll rpcDecoder_decodes accounted
  · exact Intake.Accounted.cancel accounted
  · exact accounted

theorem ReaderAccounted.step_short {bound : Nat} {event : ReadEvent} {reader after : RpcReader}
    (accounted : ReaderAccounted bound reader) (stepped : rpcReadStep reader event = some after)
    (violated : ¬ OutboundBetweenFrames reader event) : 0 < bound ∧ ReaderAccounted (bound - 1) after := by
  rcases rpcReadStep_cases stepped with ⟨chunk, rfl, -, rfl⟩ | ⟨rfl, -, rfl⟩ | ⟨rfl, rfl⟩ | ⟨rfl, -, rfl⟩
  · exact absurd trivial violated
  · exact absurd trivial violated
  · exact Intake.Accounted.cancel_short accounted violated
  · exact absurd trivial violated

theorem arrivedBytes_cons (event : ReadEvent) (events : List ReadEvent) :
    (arrivedBytes (event :: events)).length = (arrivedBytes [event]).length + (arrivedBytes events).length := by
  simp [arrivedBytes]

theorem ReaderAccounted.run {bound : Nat} {events : List ReadEvent} {reader final : RpcReader}
    (accounted : ReaderAccounted bound reader) (ran : Lib.run rpcReadStep reader events = some final) :
    ReaderAccounted (bound + (arrivedBytes events).length) final := by
  induction events generalizing reader bound with
  | nil =>
      cases ran
      exact accounted
  | cons event events ih =>
      obtain ⟨after, taken, rest⟩ := run_cons_some.mp ran
      have later := ih (accounted.step taken) rest
      rwa [Nat.add_assoc, ← arrivedBytes_cons] at later

theorem ReaderAccounted.run_short {bound : Nat} {events : List ReadEvent} {reader final : RpcReader}
    (accounted : ReaderAccounted bound reader) (ran : Lib.run rpcReadStep reader events = some final)
    (violated : ¬ Meets rpcReadStep OutboundBetweenFrames reader events) :
    ∃ less, less < bound + (arrivedBytes events).length ∧ ReaderAccounted less final := by
  induction events generalizing reader bound with
  | nil => exact absurd trivial violated
  | cons event events ih =>
      obtain ⟨after, taken, rest⟩ := run_cons_some.mp ran
      rw [arrivedBytes_cons, ← Nat.add_assoc]
      by_cases met : OutboundBetweenFrames reader event
      · apply ih (accounted.step taken) rest
        intro meets
        apply violated
        refine ⟨met, fun other same => ?_⟩
        rw [taken] at same
        cases same
        exact meets
      · obtain ⟨positive, short⟩ := accounted.step_short taken met
        exact ⟨_, by omega, ReaderAccounted.run short rest⟩

/-- The loop hands on exactly the written frames if and only if each is within the limit and no request
cuts a length in two, however the bytes are split and interleaved with requests. -/
theorem frames_decoded_iff {written : List (List UInt8)} {events : List ReadEvent} {final : RpcReader}
    (delivered : arrivedBytes events = written.flatMap encodeFrame)
    (ran : run rpcReadStep RpcReader.start events = some final)
    (settled : final.intake.avail = [] ∨ final.intake.closed = true) :
    final.intake.frames = written ↔
      (∀ payload ∈ written, payload.length ≤ maxFrameLen) ∧
        Meets rpcReadStep OutboundBetweenFrames RpcReader.start events := by
  constructor
  · intro same
    have initially : ReaderAccounted 0 RpcReader.start := Intake.accounted_start
    constructor
    · rw [← same]
      exact (initially.run ran).1
    · by_contra violated
      obtain ⟨less, fewer, accounted⟩ := initially.run_short ran violated
      have count := accounted.encodedLength_le
      rw [same] at count
      rw [delivered, Nat.zero_add] at fewer
      exact absurd count (Nat.not_le.mpr fewer)
  · intro ⟨valid, meets⟩
    have initially : Synchronized written (arrivedBytes events) RpcReader.start :=
      ⟨delivered ▸ Intake.aligned_start written, rfl, fun ended => by cases ended⟩
    have synchronized := initially.run valid meets ran
    apply synchronized.aligned.complete rpcDecoder_decodes valid
    rcases settled with drained | closed
    · exact drained
    · exact synchronized.ended (synchronized.closed ▸ closed)

def splitFrame : List ReadEvent :=
  [.outbound, .arrive [0, 0, 0], .poll, .arrive [2, 123], .poll, .arrive [125], .poll, .outbound]

theorem frames_decoded_split : ∃ final,
    run rpcReadStep RpcReader.start splitFrame = some final ∧ final.intake.frames = [[123, 125]] := by
  have ran : run rpcReadStep RpcReader.start splitFrame = some ⟨⟨[], ReadPhase.header [], [[123, 125]], false⟩, false⟩ :=
    rfl
  exact ⟨_, ran, (frames_decoded_iff (by decide) ran (.inl rfl)).mpr ⟨by decide, by decide⟩⟩

/-- Half of a length arrives, a request is taken, and the rest of the frame is read as another length. -/
theorem frame_lost_to_request : ¬ ∀ (written : List (List UInt8)) (events : List ReadEvent) (final : RpcReader),
    (∀ payload ∈ written, payload.length ≤ maxFrameLen) → arrivedBytes events = written.flatMap encodeFrame →
      run rpcReadStep RpcReader.start events = some final → final.intake.avail = [] →
        final.intake.frames = written := by
  intro all
  have same := all [[123, 125]] [.arrive [0, 0], .poll, .outbound, .arrive [0, 2, 123, 125], .poll] _
    (by decide) (by decide) rfl rfl
  exact absurd same (by decide)

end MacMgmt.Proof.Relay
