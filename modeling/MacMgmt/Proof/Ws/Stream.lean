import MacMgmt.Ws.Stream
import Mathlib.Data.List.Infix

/-!
# The bytes of a stream

Nothing is lost or reordered between the socket and the reads, or between the writes and the socket. An empty message looks like
the end of the stream, and the socket may be closed before everything is sent.
-/

namespace MacMgmt.Proof.WsStream
open Lib MacMgmt.Ws

variable {stream after : WsStream} {event : WsEvent}

/-! ## What is on the way -/

def unread (side : ReadSide) : List UInt8 := side.readBuf.drop side.readPos ++ side.readChannel.flatten

def Reader.held : Reader → List UInt8
  | .sending data => data
  | _ => []

def Writer.held : Writer → List (List UInt8)
  | .sending data => [data]
  | _ => []

theorem unread_drained {side : ReadSide} (drained : ¬side.readPos < side.readBuf.length) :
    unread side = side.readChannel.flatten := by
  rw [unread, List.drop_eq_nil_of_le (not_lt.mp drained), List.nil_append]

theorem pollRead_leftover {side after : ReadSide} {ended : Bool} {remaining : Nat} {bytes : List UInt8} (room : remaining ≠ 0)
    (leftover : side.readPos < side.readBuf.length) (read : side.pollRead ended remaining = (.ready bytes, after)) :
    bytes ++ unread after = unread side ∧ bytes ≠ [] := by
  have length : (side.readBuf.drop side.readPos).length = side.readBuf.length - side.readPos := List.length_drop
  rw [ReadSide.pollRead, if_pos leftover] at read
  obtain ⟨given, rfl⟩ := Prod.mk.inj read
  obtain rfl := Poll.ready.inj given
  constructor
  · split_ifs with whole
    · rw [List.take_of_length_le (by omega)]
      rfl
    · simp only [unread, ← List.append_assoc]
      rw [← List.drop_drop, List.take_append_drop]
  · intro empty
    have short := congrArg List.length empty
    rw [List.length_take, List.length_nil] at short
    omega

theorem pollRead_payload {side after : ReadSide} {ended : Bool} {remaining : Nat} {bytes data : List UInt8}
    {channel : List (List UInt8)} (room : remaining ≠ 0) (drained : ¬side.readPos < side.readBuf.length)
    (next : side.readChannel = data :: channel) (read : side.pollRead ended remaining = (.ready bytes, after)) :
    bytes ++ unread after = unread side ∧ (bytes = [] ↔ data = []) := by
  rw [ReadSide.pollRead, if_neg drained, next] at read
  obtain ⟨given, rfl⟩ := Prod.mk.inj read
  obtain rfl := Poll.ready.inj given
  rw [unread_drained drained, next, List.flatten_cons]
  constructor
  · split_ifs with more
    · simp only [unread, List.drop_zero, ← List.append_assoc, List.take_append_drop]
    · have emptied : unread { side with readChannel := channel } = channel.flatten := unread_drained drained
      rw [emptied, List.take_of_length_le (by omega)]
  · rw [List.take_eq_nil_iff]
    constructor
    · rintro (none | empty)
      · exact List.eq_nil_of_length_eq_zero (by omega)
      · exact empty
    · exact .inr

/-- The channel holds an empty payload that comes next, where the stream has not ended or has more bytes. -/
def Exposed (stream : WsStream) : Prop :=
  ¬stream.readSide.readPos < stream.readSide.readBuf.length ∧
    ∃ channel, stream.readSide.readChannel = [] :: channel ∧ ¬(stream.reader = .ended ∧ channel.flatten = [])

theorem pollRead_ready {remaining : Nat} {bytes : List UInt8} {readSide : ReadSide} (room : remaining ≠ 0)
    (read : stream.readSide.pollRead (stream.reader = .ended) remaining = (.ready bytes, readSide)) :
    bytes ++ unread readSide = unread stream.readSide ∧
      (Exposed stream ↔ bytes = [] ∧ ¬(stream.reader = .ended ∧ unread stream.readSide = [])) := by
  by_cases leftover : stream.readSide.readPos < stream.readSide.readBuf.length
  · obtain ⟨split, filled⟩ := pollRead_leftover room leftover read
    exact ⟨split, by simp [Exposed, leftover, filled]⟩
  · cases next : stream.readSide.readChannel with
    | cons data channel =>
        obtain ⟨split, empty⟩ := pollRead_payload room leftover next read
        refine ⟨split, ?_⟩
        rw [unread_drained leftover, next, empty, Exposed, next]
        simp only [leftover, not_false_eq_true, List.cons.injEq, true_and]
        constructor
        · rintro ⟨rest, ⟨rfl, rfl⟩, open_⟩
          exact ⟨rfl, by simpa using open_⟩
        · rintro ⟨rfl, open_⟩
          exact ⟨channel, ⟨rfl, rfl⟩, by simpa using open_⟩
    | nil =>
        rw [ReadSide.pollRead, if_neg leftover, next] at read
        by_cases ended : stream.reader = .ended
        · simp only [ended, decide_true, if_true, Prod.mk.injEq, Poll.ready.injEq] at read
          obtain ⟨rfl, rfl⟩ := read
          exact ⟨rfl, by simp [Exposed, next, ended, unread_drained leftover]⟩
        · simp [ended] at read

theorem pollRead_pending {remaining : Nat} {readSide : ReadSide}
    (read : stream.readSide.pollRead (stream.reader = .ended) remaining = (.pending, readSide)) :
    readSide = stream.readSide ∧ ¬Exposed stream := by
  by_cases leftover : stream.readSide.readPos < stream.readSide.readBuf.length
  · rw [ReadSide.pollRead, if_pos leftover] at read
    cases (Prod.mk.inj read).1
  · rw [ReadSide.pollRead, if_neg leftover] at read
    cases next : stream.readSide.readChannel with
    | cons data channel =>
        rw [next] at read
        cases (Prod.mk.inj read).1
    | nil =>
        rw [next] at read
        by_cases ended : stream.reader = .ended
        · simp [ended] at read
        · simp only [ended, decide_false, Bool.false_eq_true, if_false, Prod.mk.injEq, true_and] at read
          refine ⟨read.symm, ?_⟩
          rintro ⟨-, channel, head, -⟩
          exact List.cons_ne_nil _ _ (head.symm.trans next)

/-! ## Every step -/

/-- The bytes and writes on the way are those that came in and did not come out. A write whose sending fails is lost, but then
the task has ended without closing the socket. -/
structure Conserved (stream : WsStream) : Prop where
  read : stream.delivered ++ unread stream.readSide ++ Reader.held stream.reader = stream.received.flatten
  written : stream.writer ≠ .ended ∨ stream.sinkClosed = true →
    stream.sent ++ Writer.held stream.writer ++ stream.writeChannel = stream.accepted ++ stream.late
  order : stream.sent <+: stream.accepted ++ stream.late
  early : stream.shutdownTx = true → stream.late = []
  closed : stream.sinkClosed = true → stream.writer = .ended ∧ stream.shutdownTx = false

theorem conserved_new : Conserved .new :=
  ⟨rfl, fun _ => rfl, List.nil_prefix, fun _ => rfl, nofun⟩

theorem Conserved.step (conserved : Conserved stream) (taken : stream.step event = some after) : Conserved after := by
  obtain ⟨read, written, order, early, closed⟩ := conserved
  cases event with
  | next incoming =>
      simp only [WsStream.step] at taken
      split_ifs at taken with receiving
      rw [receiving] at read
      cases incoming with
      | binary data =>
          obtain rfl := Option.some.inj taken
          refine ⟨?_, written, order, early, closed⟩
          simp only [Reader.held, List.append_nil] at read
          rw [List.flatten_append, ← read]
          simp [Reader.held]
      | other =>
          obtain rfl := Option.some.inj taken
          exact ⟨receiving ▸ read, written, order, early, closed⟩
      | close | failed | finished =>
          obtain rfl := Option.some.inj taken
          exact ⟨read, written, order, early, closed⟩
  | pushRead =>
      simp only [WsStream.step] at taken
      cases holding : stream.reader with
      | receiving | ended => simp [holding] at taken
      | sending data =>
          simp only [holding] at taken
          split_ifs at taken with room
          obtain rfl := Option.some.inj taken
          refine ⟨?_, written, order, early, closed⟩
          rw [holding] at read
          rw [← read]
          simp [Reader.held, unread]
  | pollRead remaining =>
      simp only [WsStream.step] at taken
      split_ifs at taken with room
      cases polled : stream.readSide.pollRead (stream.reader = .ended) remaining with
      | mk poll readSide =>
          rw [polled] at taken
          cases poll with
          | ready bytes =>
              obtain rfl := Option.some.inj taken
              refine ⟨?_, written, order, early, closed⟩
              rw [← read, ← (pollRead_ready room polled).1]
              simp
          | pending =>
              obtain rfl := Option.some.inj taken
              obtain ⟨rfl, -⟩ := pollRead_pending polled
              exact ⟨read, written, order, early, closed⟩
  | pollWrite buf =>
      rw [WsStream.step, WsStream.pollWrite] at taken
      by_cases ended : stream.writer = .ended
      · rw [if_pos ended] at taken
        obtain rfl := Option.some.inj taken
        exact ⟨read, written, order, early, closed⟩
      · have before := written (.inl ended)
        rw [if_neg ended] at taken
        by_cases room : stream.writeChannel.length < channelCapacity
        · rw [if_pos room] at taken
          dsimp only at taken
          split_ifs at taken with fresh
          · obtain rfl := Option.some.inj taken
            rw [early fresh, List.append_nil] at before order
            refine ⟨read, fun _ => ?_, ?_, early, closed⟩
            · simp only [early fresh, List.append_nil, ← List.append_assoc, before]
            · simpa only [early fresh, List.append_nil] using order.trans (List.prefix_append _ _)
          · obtain rfl := Option.some.inj taken
            refine ⟨read, fun _ => ?_, ?_, fun unused => absurd unused fresh, closed⟩
            · simp only [← List.append_assoc, before]
            · simpa only [← List.append_assoc] using order.trans (List.prefix_append _ _)
        · rw [if_neg room] at taken
          obtain rfl := Option.some.inj taken
          exact ⟨read, written, order, early, closed⟩
  | pollShutdown =>
      obtain rfl := Option.some.inj taken
      exact ⟨read, written, order, fun unused => absurd unused Bool.false_ne_true, fun sinkClosed => ⟨(closed sinkClosed).1, rfl⟩⟩
  | recv =>
      simp only [WsStream.step] at taken
      split at taken
      · next data channel selecting queued =>
          obtain rfl := Option.some.inj taken
          refine ⟨read, fun _ => ?_, order, early, fun sinkClosed => ?_⟩
          · have before := written (.inl (by simp [selecting]))
            rw [selecting, queued] at before
            simpa [Writer.held] using before
          · exact absurd (closed sinkClosed).1 (by simp [selecting])
      · cases taken
  | sinkSent ok =>
      simp only [WsStream.step] at taken
      split at taken
      · next data sending =>
          have before := written (.inl (by simp [sending]))
          rw [sending] at before
          have openSink : stream.sinkClosed ≠ true := fun sinkClosed => by simpa [sending] using (closed sinkClosed).1
          split_ifs at taken with delivered
          · obtain rfl := Option.some.inj taken
            refine ⟨read, fun _ => ?_, ?_, early, fun sinkClosed => absurd sinkClosed openSink⟩
            · simpa [Writer.held] using before
            · rw [← before]
              exact List.prefix_append _ _
          · obtain rfl := Option.some.inj taken
            refine ⟨read, ?_, order, early, fun sinkClosed => absurd sinkClosed openSink⟩
            rintro (running | sinkClosed)
            · exact absurd rfl running
            · exact absurd sinkClosed openSink
      · cases taken
  | shutdown =>
      simp only [WsStream.step] at taken
      split_ifs at taken with ready
      obtain rfl := Option.some.inj taken
      refine ⟨read, fun _ => ?_, order, early, fun _ => ⟨rfl, ready.2⟩⟩
      have before := written (.inl (by simp [ready.1]))
      rw [ready.1] at before
      exact before

/-! ## The stream and the socket -/

/-- Reads give the payloads in order, and nothing only after the socket has closed, when all are read. Writes are sent in order,
those before `poll_shutdown` before the socket is closed. -/
structure Faithful (stream : WsStream) : Prop where
  delivered : stream.delivered <+: stream.received.flatten
  zeroRead : stream.zeroRead = true → stream.reader = .ended ∧ stream.delivered = stream.received.flatten
  order : stream.sent.flatten <+: stream.accepted.flatten ++ stream.late.flatten
  sent : stream.sinkClosed = true → stream.accepted.flatten <+: stream.sent.flatten

def AtEnd (stream : WsStream) : Prop := stream.reader = .ended ∧ unread stream.readSide = []

/-- No more bytes wait to be sent than were accepted after `poll_shutdown`. -/
def Flushed (stream : WsStream) : Prop := stream.writeChannel.flatten.length ≤ stream.late.flatten.length

theorem atEnd_iff (conserved : Conserved stream) :
    AtEnd stream ↔ stream.reader = .ended ∧ stream.delivered = stream.received.flatten := by
  refine and_congr_right fun ended => ?_
  have read := conserved.read
  rw [ended, Reader.held, List.append_nil] at read
  · rw [← read]
    simp
  · simp

theorem flushed_iff (conserved : Conserved stream) (closed : stream.sinkClosed = true) :
    Flushed stream ↔ stream.accepted.flatten <+: stream.sent.flatten := by
  have written := congrArg List.flatten (conserved.written (.inr closed))
  rw [(conserved.closed closed).1] at written
  simp only [Writer.held, List.append_nil, List.flatten_append] at written
  have lengths := congrArg List.length written
  rw [List.length_append, List.length_append] at lengths
  constructor
  · intro flushed
    rw [Flushed] at flushed
    exact List.prefix_of_prefix_length_le (List.prefix_append _ _) (written ▸ List.prefix_append _ _) (by omega)
  · intro within
    have shorter := within.length_le
    rw [Flushed]
    omega

theorem faithful_iff (conserved : Conserved stream) :
    Faithful stream ↔ (stream.zeroRead = true → AtEnd stream) ∧ (stream.sinkClosed = true → Flushed stream) := by
  constructor
  · intro faithful
    exact ⟨fun zero => (atEnd_iff conserved).mpr (faithful.zeroRead zero),
      fun closed => (flushed_iff conserved closed).mpr (faithful.sent closed)⟩
  · rintro ⟨zero, closed⟩
    refine ⟨?_, fun given => (atEnd_iff conserved).mp (zero given), ?_, fun given => (flushed_iff conserved given).mp (closed given)⟩
    · rw [← conserved.read, List.append_assoc]
      exact List.prefix_append _ _
    · obtain ⟨rest, split⟩ := conserved.order
      exact ⟨rest.flatten, by rw [← List.flatten_append, split, List.flatten_append]⟩

/-- No read finds an empty payload before the end, and the socket is closed when the writes before `poll_shutdown` are sent. -/
def Careful (stream : WsStream) : WsEvent → Prop
  | .pollRead _ => ¬Exposed stream
  | .shutdown => Flushed stream
  | _ => True

theorem faithful_step (conserved : Conserved stream) (faithful : Faithful stream) (taken : stream.step event = some after) :
    Faithful after ↔ Careful stream event := by
  have conservedAfter := conserved.step taken
  obtain ⟨zero, closed⟩ := (faithful_iff conserved).mp faithful
  rw [faithful_iff conservedAfter]
  cases event with
  | next incoming =>
      simp only [WsStream.step] at taken
      split_ifs at taken with receiving
      have unfinished : stream.zeroRead ≠ true := fun zeroRead => by simpa [receiving] using (zero zeroRead).1
      refine iff_of_true ?_ trivial
      cases incoming with
      | binary | other | close | failed | finished =>
          obtain rfl := Option.some.inj taken
          exact ⟨fun zeroRead => absurd zeroRead unfinished, closed⟩
  | pushRead =>
      simp only [WsStream.step] at taken
      cases holding : stream.reader with
      | receiving | ended => simp [holding] at taken
      | sending data =>
          have unfinished : stream.zeroRead ≠ true := fun zeroRead => by simpa [holding] using (zero zeroRead).1
          simp only [holding] at taken
          split_ifs at taken with room
          obtain rfl := Option.some.inj taken
          exact iff_of_true ⟨fun zeroRead => absurd zeroRead unfinished, closed⟩ trivial
  | pollRead remaining =>
      simp only [WsStream.step] at taken
      split_ifs at taken with room
      cases polled : stream.readSide.pollRead (stream.reader = .ended) remaining with
      | mk poll readSide =>
          rw [polled] at taken
          cases poll with
          | ready bytes =>
              obtain rfl := Option.some.inj taken
              obtain ⟨split, exposed⟩ := pollRead_ready room polled
              rw [Careful, exposed]
              constructor
              · rintro ⟨zeroAfter, -⟩ ⟨rfl, open_⟩
                obtain ⟨ended, done⟩ := zeroAfter (by simp)
                exact open_ ⟨ended, by rw [← split]; exact done⟩
              · intro careful
                refine ⟨fun zeroRead => ?_, closed⟩
                rcases Bool.or_eq_true_iff.mp zeroRead with before | empty
                · -- After the end every read gives nothing.
                  obtain ⟨ended, done⟩ := zero before
                  rw [done, List.append_eq_nil_iff] at split
                  exact ⟨ended, split.2⟩
                · obtain rfl := List.isEmpty_iff.mp empty
                  have finished : stream.reader = .ended ∧ unread stream.readSide = [] :=
                    not_not.mp fun open_ => careful ⟨rfl, open_⟩
                  exact ⟨finished.1, by rw [← finished.2, ← split]; rfl⟩
          | pending =>
              obtain rfl := Option.some.inj taken
              obtain ⟨rfl, covered⟩ := pollRead_pending polled
              exact iff_of_true ⟨zero, closed⟩ covered
  | pollWrite buf =>
      rw [WsStream.step, WsStream.pollWrite] at taken
      refine iff_of_true ?_ trivial
      by_cases ended : stream.writer = .ended
      · rw [if_pos ended] at taken
        obtain rfl := Option.some.inj taken
        exact ⟨zero, closed⟩
      · have openSink : stream.sinkClosed ≠ true := fun sinkClosed => ended (conserved.closed sinkClosed).1
        rw [if_neg ended] at taken
        by_cases room : stream.writeChannel.length < channelCapacity
        · rw [if_pos room] at taken
          dsimp only at taken
          split_ifs at taken with fresh
          · obtain rfl := Option.some.inj taken
            exact ⟨zero, fun sinkClosed => absurd sinkClosed openSink⟩
          · obtain rfl := Option.some.inj taken
            exact ⟨zero, fun sinkClosed => absurd sinkClosed openSink⟩
        · rw [if_neg room] at taken
          obtain rfl := Option.some.inj taken
          exact ⟨zero, closed⟩
  | pollShutdown =>
      obtain rfl := Option.some.inj taken
      exact iff_of_true ⟨zero, closed⟩ trivial
  | recv =>
      simp only [WsStream.step] at taken
      split at taken
      · next data channel selecting queued =>
          have openSink : stream.sinkClosed ≠ true := fun sinkClosed => by
            simpa [selecting] using (conserved.closed sinkClosed).1
          obtain rfl := Option.some.inj taken
          exact iff_of_true ⟨zero, fun sinkClosed => absurd sinkClosed openSink⟩ trivial
      · cases taken
  | sinkSent ok =>
      simp only [WsStream.step] at taken
      split at taken
      · next data sending =>
          have openSink : stream.sinkClosed ≠ true := fun sinkClosed => by
            simpa [sending] using (conserved.closed sinkClosed).1
          split_ifs at taken with delivered
          · obtain rfl := Option.some.inj taken
            exact iff_of_true ⟨zero, fun sinkClosed => absurd sinkClosed openSink⟩ trivial
          · obtain rfl := Option.some.inj taken
            exact iff_of_true ⟨zero, fun sinkClosed => absurd sinkClosed openSink⟩ trivial
      · cases taken
  | shutdown =>
      simp only [WsStream.step] at taken
      split_ifs at taken with ready
      obtain rfl := Option.some.inj taken
      exact ⟨fun holds => holds.2 rfl, fun flushed => ⟨zero, fun _ => flushed⟩⟩

theorem byte_stream_faithful_iff {events : List WsEvent} {final : WsStream} (ran : run WsStream.step .new events = some final) :
    Always WsStream.step Faithful .new events ↔ Meets WsStream.step Careful .new events := by
  have faithful : Faithful .new := (faithful_iff conserved_new).mpr ⟨nofun, nofun⟩
  have kept : ∀ state event after, Conserved state → WsStream.step state event = some after → Conserved after :=
    fun _ _ _ conserved taken => conserved.step taken
  have one_step : ∀ state event after, Conserved state → Faithful state → WsStream.step state event = some after →
      (Faithful after ↔ Careful state event) :=
    fun _ _ _ conserved faithful taken => faithful_step conserved faithful taken
  exact always_iff_meets kept one_step conserved_new faithful ran

theorem byte_stream_faithful_read :
    (run WsStream.step .new [.next (.binary [1]), .pushRead, .pollRead 16]).isSome = true ∧
      (Always WsStream.step Faithful .new [.next (.binary [1]), .pushRead, .pollRead 16] ↔
        Meets WsStream.step Careful .new [.next (.binary [1]), .pushRead, .pollRead 16]) :=
  ⟨rfl, byte_stream_faithful_iff rfl⟩

/-- An empty message is read as the end of an open socket, and `poll_shutdown` closes the socket before a write is sent. -/
theorem byte_stream_unfaithful :
    (∃ final, run WsStream.step .new [.next (.binary []), .pushRead, .pollRead 16] = some final ∧
      final.zeroRead = true ∧ final.reader ≠ .ended ∧ ¬Faithful final) ∧
    ∃ final, run WsStream.step .new [.pollWrite [1], .pollShutdown, .shutdown] = some final ∧
      final.sinkClosed = true ∧ final.accepted = [[1]] ∧ final.sent = [] ∧ ¬Faithful final := by
  refine ⟨⟨_, rfl, rfl, nofun, fun faithful => ?_⟩, ⟨_, rfl, rfl, rfl, rfl, fun faithful => ?_⟩⟩
  · exact absurd (faithful.zeroRead rfl).1 nofun
  · exact absurd (faithful.sent rfl) (by decide)

end MacMgmt.Proof.WsStream
