import MacMgmt.Tunnel.WebSocket
import MacMgmt.Proof.Relay.RpcRead

/-!
# Messages through the two loops

The bytes between the loops spell the frames that one has taken and the other has not read. As long as one of two writes
fits into the room that is left, the loops do not block each other.
-/

namespace MacMgmt.Proof.Tunnel
open MacMgmt.Tunnel MacMgmt.Relay Lib

/-! ## The decoder -/

def WsFrame.Valid : WsFrame → Prop
  | .text payload | .binary payload => payload.length ≤ maxFrameLen
  | .close => True

theorem poll_tagged (tag : UInt8) (phase : ReadPhase) (bytes : List UInt8) :
    wsDecoder.poll (some (tag, phase)) bytes =
      match rpcDecoder.poll phase bytes with
      | (.more phase, rest) => (.more (some (tag, phase)), rest)
      | (.done payload, rest) => (.done (if tag = tagText then .text payload else .binary payload), rest)
      | (.fail, rest) => (.fail, rest) := by
  induction bytes generalizing phase with
  | nil => rfl
  | cons byte bytes ih =>
      simp only [Decoder.poll, wsDecoder, rpcDecoder, readWsByte]
      cases readByte phase byte with
      | more next => exact ih next
      | done payload => rfl
      | fail => rfl

theorem poll_payload {tag : UInt8} {bytes rest : List UInt8} {frame : WsFrame}
    (polled : wsDecoder.poll (some (tag, .header [])) bytes = (.done frame, rest)) :
    ∃ payload, payload.length ≤ maxFrameLen ∧ bytes = encodeFrame payload ++ rest ∧
      frame = if tag = tagText then .text payload else .binary payload := by
  rw [poll_tagged] at polled
  cases body : rpcDecoder.poll (.header []) bytes with
  | mk progress left =>
      rw [body] at polled
      cases progress with
      | more phase => cases polled
      | fail => cases polled
      | done payload =>
          cases polled
          obtain ⟨short, split⟩ := Relay.encodeFrame_of_poll body
          exact ⟨payload, short, split, rfl⟩

theorem poll_encodeWsFrame {frame : WsFrame} (valid : WsFrame.Valid frame) (rest : List UInt8) :
    wsDecoder.poll none (encodeWsFrame frame ++ rest) = (.done frame, rest) := by
  cases frame with
  | close => rfl
  | text payload =>
      have body := poll_tagged tagText (.header []) (encodeFrame payload ++ rest)
      rw [Relay.poll_encodeFrame rest valid] at body
      exact body
  | binary payload =>
      have body := poll_tagged tagBinary (.header []) (encodeFrame payload ++ rest)
      rw [Relay.poll_encodeFrame rest valid] at body
      exact body

theorem wsDecoder_decodes : wsDecoder.Decodes encodeWsFrame WsFrame.Valid where
  done_iff := by
    intro bytes frame rest
    constructor
    · intro polled
      cases bytes with
      | nil => cases polled
      | cons byte bytes =>
          simp only [Decoder.poll, wsDecoder, readWsByte] at polled
          by_cases text : byte = tagText
          · subst text
            simp only [true_or, if_true] at polled
            obtain ⟨payload, short, rfl, rfl⟩ := poll_payload polled
            exact ⟨short, rfl⟩
          by_cases binary : byte = tagBinary
          · subst binary
            simp only [or_true, if_true] at polled
            obtain ⟨payload, short, rfl, rfl⟩ := poll_payload polled
            exact ⟨short, rfl⟩
          simp only [text, binary, or_self, if_false] at polled
          by_cases close : byte = tagClose
          · subst close
            cases polled
            exact ⟨trivial, rfl⟩
          · simp only [close, if_false] at polled
            cases polled
    · rintro ⟨valid, rfl⟩
      exact poll_encodeWsFrame valid rest
  feed_ne := by
    intro state byte again
    cases state with
    | none =>
        simp only [wsDecoder, readWsByte] at again
        split at again
        · cases again
        · split at again <;> cases again
    | some reading =>
        obtain ⟨tag, phase⟩ := reading
        simp only [wsDecoder, readWsByte] at again
        split at again <;> cases again

/-! ## Steps of one loop -/

section Side
variable {windows : Windows} {party : Party} {me other : Side}

inductive Stepped (windows : Windows) (party : Party) (me other : Side) : Action → Side → Side → Prop where
  | arrive (more : me.arrived < me.script.length) :
      Stepped windows party me other .arrive { me with arrived := me.arrived + 1 } other
  | take {message : WsRead} (next : me.next = some message) :
      Stepped windows party me other .take (me.take windows party message) other
  | written {frame : WsFrame} (loop : me.loop = .writing frame []) :
      Stepped windows party me other .write { me with loop := if frame = .close then .ended else .select } other
  | write {frame : WsFrame} {byte : UInt8} {rest : List UInt8} (loop : me.loop = .writing frame (byte :: rest))
      (room : other.intake.avail.length < windows.tunnelWindow party.other) :
      Stepped windows party me other .write { me with loop := .writing frame rest }
        { other with intake := other.intake.arrive [byte] }
  | read (loop : me.loop = .select) :
      Stepped windows party me other .read
        { me with
          intake := me.intake.poll
          loop := afterRead windows (wsDecoder.poll me.intake.reading me.intake.avail).1 } other
  | sent {message : WsMessage} (loop : me.loop = .sending message 0) :
      Stepped windows party me other .send { me with loop := .select, delivered := me.delivered ++ [message] } other
  | send {message : WsMessage} {left : Nat} (loop : me.loop = .sending message (left + 1))
      (room : me.backlog < windows.socketWindow party) :
      Stepped windows party me other .send { me with loop := .sending message left, backlog := me.backlog + 1 } other
  | drain (some : 0 < me.backlog) : Stepped windows party me other .drain { me with backlog := me.backlog - 1 } other
  | fail : Stepped windows party me other .fail me.fail other

theorem stepped_of_sideStep {action : Action} {me' other' : Side}
    (taken : sideStep windows party me other action = some (me', other')) :
    Stepped windows party me other action me' other' := by
  cases action with
  | arrive =>
      simp only [sideStep, Option.ite_none_right_eq_some, Option.some.injEq, Prod.mk.injEq] at taken
      obtain ⟨more, rfl, rfl⟩ := taken
      exact .arrive more
  | take =>
      simp only [sideStep, Option.map_eq_some_iff, Prod.mk.injEq] at taken
      obtain ⟨message, next, rfl, rfl⟩ := taken
      exact .take next
  | write =>
      simp only [sideStep] at taken
      split at taken
      next frame loop =>
        cases taken
        exact .written loop
      next frame byte rest loop =>
        simp only [Option.ite_none_right_eq_some, Option.some.injEq, Prod.mk.injEq] at taken
        obtain ⟨room, rfl, rfl⟩ := taken
        exact .write loop room
      all_goals cases taken
  | read =>
      simp only [sideStep, Option.ite_none_right_eq_some, Option.some.injEq, Prod.mk.injEq] at taken
      obtain ⟨loop, rfl, rfl⟩ := taken
      exact .read loop
  | send =>
      simp only [sideStep] at taken
      split at taken
      next message loop =>
        cases taken
        exact .sent loop
      next message left loop =>
        simp only [Option.ite_none_right_eq_some, Option.some.injEq, Prod.mk.injEq] at taken
        obtain ⟨room, rfl, rfl⟩ := taken
        exact .send loop room
      all_goals cases taken
  | drain =>
      simp only [sideStep, Option.ite_none_right_eq_some, Option.some.injEq, Prod.mk.injEq] at taken
      obtain ⟨some, rfl, rfl⟩ := taken
      exact .drain some
  | fail =>
      cases taken
      exact .fail

theorem next_eq_some {message : WsRead} (next : me.next = some message) :
    me.loop = .select ∧ me.script[me.taken]? = some message := by
  unfold Side.next at next
  split at next
  next enabled => exact ⟨enabled.1, next⟩
  next => cases next

theorem fail_cases (me : Side) :
    me.fail = { me with loop := .ended } ∨ ∃ data left, me.loop = .sending (.pong data) left ∧ me.fail = { me with loop := .select } := by
  unfold Side.fail
  split
  next data left loop => exact .inr ⟨data, left, loop, rfl⟩
  all_goals exact .inl rfl

/-! ## Room -/

theorem fits_of_select (loop : me.loop = .select) : Fits windows party me other := by
  simp [Fits, Side.left, loop]

theorem fits_fail : Fits windows party me.fail other := by
  obtain same | ⟨data, left, _, same⟩ := fail_cases me <;> rw [same] <;> exact Nat.zero_le _

theorem Stepped.fits_other {action : Action} {me' other' : Side} (stepped : Stepped windows party me other action me' other')
    (fits : Fits windows party.other other me) : Fits windows party.other other' me' := by
  cases stepped with
  | take next =>
      rename_i message
      unfold Side.take
      split <;> exact fits
  | read loop =>
      have shorter := Decoder.poll_rest_length me.intake.reading me.intake.avail
      have avail : me.intake.poll.avail = (wsDecoder.poll me.intake.reading me.intake.avail).2 := by
        unfold Intake.poll
        split <;> rename_i polled <;> rw [polled]
      simp only [Fits, Side.left, room] at fits ⊢
      cases writes : other.loop with
      | writing frame rest =>
          simp only [writes, tunnelRoom, avail] at fits ⊢
          omega
      | sending message left => rwa [writes] at fits
      | select => exact Nat.le_refl 0
      | ended => exact Nat.le_refl 0
  | fail =>
      obtain same | ⟨data, left, _, same⟩ := fail_cases me <;> rw [same] <;> exact fits
  | arrive | written | write | sent | send | drain => exact fits

theorem Stepped.fits {action : Action} {me' other' : Side} (stepped : Stepped windows party me other action me' other')
    (fits : Fits windows party me other)
    (small : ∀ write ∈ begins windows party me other action, write.1 ≤ write.2) : Fits windows party me' other' := by
  cases stepped with
  | arrive more => exact fits
  | take next =>
      rename_i message
      obtain ⟨loop, _⟩ := next_eq_some next
      unfold begins at small
      rw [next, Option.bind_some] at small
      unfold Side.take
      cases taken : onSocket party message with
      | write frame =>
          rw [taken] at small
          exact small _ rfl
      | reply reply =>
          rw [taken] at small
          exact small _ rfl
      | ignore => exact fits_of_select loop
  | written loop =>
      rename_i frame
      by_cases close : frame = .close <;> simp [Fits, Side.left, close]
  | write loop room =>
      simp only [Fits, Side.left, Tunnel.room, loop, tunnelRoom, Intake.arrive, List.length_append, List.length_cons,
        List.length_nil] at fits ⊢
      omega
  | read loop =>
      unfold begins at small
      simp only [Fits, Side.left, room]
      cases after : afterRead windows (wsDecoder.poll me.intake.reading me.intake.avail).1 with
      | sending message left =>
          rw [after] at small
          exact small _ rfl
      | writing frame rest =>
          unfold afterRead at after
          split at after <;> cases after
      | select => exact Nat.le_refl 0
      | ended => exact Nat.le_refl 0
  | sent loop => exact Nat.zero_le _
  | send loop room =>
      simp only [Fits, Side.left, Tunnel.room, loop, socketRoom] at fits ⊢
      omega
  | drain some =>
      simp only [Fits, Side.left, room] at fits ⊢
      cases loop : me.loop with
      | sending message left =>
          simp only [loop, socketRoom] at fits ⊢
          omega
      | writing frame rest => rwa [loop] at fits
      | select => exact Nat.le_refl 0
      | ended => exact Nat.le_refl 0
  | fail => exact fits_fail

/-! ## Frames between the loops -/

def frameOf (party : Party) (read : WsRead) : Option WsFrame :=
  match onSocket party read with
  | .write frame => some frame
  | .reply _ | .ignore => none

def framesTaken (party : Party) (me : Side) : List WsFrame := (me.script.take me.taken).filterMap (frameOf party)

/-- The bytes of the frames taken that are not in the tunnel yet. -/
def Unwritten (loop : LoopState) (future : List UInt8) : Prop :=
  match loop with
  | .writing _ rest => future = rest
  | .select | .sending .. => future = []
  | .ended => True

/-- What `reader` finds in the tunnel spells the frames that `writer` has taken. -/
def Carried (party : Party) (writer reader : Side) : Prop :=
  ∃ future, Intake.Aligned encodeWsFrame (framesTaken party writer) future reader.intake ∧ Unwritten writer.loop future

/-- The frames that were read have been delivered, all but the one in hand. -/
def Relayed (me : Side) : Prop :=
  match me.loop with
  | .sending message _ => me.intake.frames.map toMessage = (me.delivered ++ [message]).filter WsMessage.isData
  | .select | .writing .. => me.intake.frames.map toMessage = me.delivered.filter WsMessage.isData
  | .ended => me.delivered.filter WsMessage.isData <+: me.intake.frames.map toMessage

theorem framesTaken_take {message : WsRead} (next : me.script[me.taken]? = some message) :
    (me.script.take (me.taken + 1)).filterMap (frameOf party) = framesTaken party me ++ (frameOf party message).toList := by
  rw [List.take_add_one, next, List.filterMap_append, Option.toList_some, framesTaken]
  cases same : frameOf party message <;> simp [same]

theorem Stepped.carried {action : Action} {me' other' : Side} (stepped : Stepped windows party me other action me' other')
    (carried : Carried party me other) : Carried party me' other' := by
  obtain ⟨future, aligned, unwritten⟩ := carried
  cases stepped with
  | take next =>
      rename_i message
      obtain ⟨loop, found⟩ := next_eq_some next
      have taken := @framesTaken_take party _ _ found
      rw [loop] at unwritten
      cases unwritten
      unfold Side.take
      cases does : onSocket party message with
      | write frame =>
          rw [frameOf, does] at taken
          refine ⟨encodeWsFrame frame, ?_, rfl⟩
          rw [framesTaken, taken]
          exact aligned.write frame
      | reply reply =>
          rw [frameOf, does] at taken
          refine ⟨[], ?_, rfl⟩
          rw [framesTaken, taken, Option.toList_none, List.append_nil]
          exact aligned
      | ignore =>
          rw [frameOf, does] at taken
          refine ⟨[], ?_, ?_⟩
          · rw [framesTaken, taken, Option.toList_none, List.append_nil]
            exact aligned
          · rw [loop]
            rfl
  | written loop =>
      rename_i frame
      rw [loop] at unwritten
      cases unwritten
      refine ⟨[], aligned, ?_⟩
      by_cases close : frame = .close <;> simp [Unwritten, close]
  | write loop room =>
      rename_i frame byte rest
      rw [loop] at unwritten
      cases unwritten
      exact ⟨rest, aligned.arrive, rfl⟩
  | read loop =>
      rw [loop] at unwritten
      cases unwritten
      refine ⟨[], aligned, ?_⟩
      unfold afterRead Unwritten
      split <;> split at * <;> simp_all
  | sent loop =>
      rw [loop] at unwritten
      exact ⟨future, aligned, unwritten⟩
  | send loop room =>
      rw [loop] at unwritten
      exact ⟨future, aligned, unwritten⟩
  | fail =>
      obtain same | ⟨data, left, loop, same⟩ := fail_cases me
      · rw [same]
        exact ⟨future, aligned, trivial⟩
      · rw [same]
        rw [loop] at unwritten
        exact ⟨future, aligned, unwritten⟩
  | arrive | drain => exact ⟨future, aligned, unwritten⟩

theorem Stepped.carried_other {action : Action} {me' other' : Side}
    (stepped : Stepped windows party me other action me' other')
    (valid : ∀ frame ∈ framesTaken party.other other, WsFrame.Valid frame) (carried : Carried party.other other me) :
    Carried party.other other' me' := by
  obtain ⟨future, aligned, unwritten⟩ := carried
  cases stepped with
  | take next =>
      rename_i message
      unfold Side.take
      split <;> exact ⟨future, aligned, unwritten⟩
  | read loop => exact ⟨future, (aligned.poll wsDecoder_decodes valid).1, unwritten⟩
  | fail =>
      obtain same | ⟨data, left, _, same⟩ := fail_cases me <;> rw [same] <;> exact ⟨future, aligned, unwritten⟩
  | arrive | written | write | sent | send | drain => exact ⟨future, aligned, unwritten⟩

theorem filter_pong (delivered : List WsMessage) (data : List UInt8) :
    (delivered ++ [WsMessage.pong data]).filter WsMessage.isData = delivered.filter WsMessage.isData := by
  rw [List.filter_append]
  exact List.append_nil _

theorem Relayed.prefix (relayed : Relayed me) :
    me.delivered.filter WsMessage.isData <+: me.intake.frames.map toMessage := by
  unfold Relayed at relayed
  split at relayed
  · rw [relayed, List.filter_append]
    exact List.prefix_append _ _
  · exact ⟨[], by rw [relayed, List.append_nil]⟩
  · exact ⟨[], by rw [relayed, List.append_nil]⟩
  · exact relayed

theorem relayed_read (loop : me.loop = .select) (relayed : Relayed me) :
    Relayed { me with
      intake := me.intake.poll
      loop := afterRead windows (wsDecoder.poll me.intake.reading me.intake.avail).1 } := by
  rw [Relayed, loop] at relayed
  unfold Intake.poll
  cases polled : wsDecoder.poll me.intake.reading me.intake.avail with
  | mk progress rest =>
      cases progress with
      | more state => exact relayed
      | fail =>
          simp only [Relayed, afterRead, relayed]
          exact List.prefix_rfl
      | done frame =>
          cases frame with
          | close =>
              simp only [Relayed, afterRead, List.map_append, relayed]
              exact List.prefix_append _ _
          | text payload =>
              simp only [Relayed, afterRead, List.map_append, List.filter_append, relayed]
              rfl
          | binary payload =>
              simp only [Relayed, afterRead, List.map_append, List.filter_append, relayed]
              rfl

theorem Stepped.relayed {action : Action} {me' other' : Side} (stepped : Stepped windows party me other action me' other')
    (relayed : Relayed me) : Relayed me' := by
  cases stepped with
  | arrive | drain => exact relayed
  | take next =>
      rename_i message
      obtain ⟨loop, _⟩ := next_eq_some next
      rw [Relayed, loop] at relayed
      unfold Side.take
      cases does : onSocket party message with
      | write frame => exact relayed
      | ignore =>
          rw [Relayed]
          dsimp only
          rw [loop]
          exact relayed
      | reply reply =>
          have pong : ∃ data, reply = .pong data := by
            unfold onSocket at does
            repeat' split at does
            all_goals cases does
            exact ⟨_, rfl⟩
          obtain ⟨data, rfl⟩ := pong
          exact relayed.trans (filter_pong _ _).symm
  | written loop =>
      rename_i frame
      rw [Relayed, loop] at relayed
      by_cases close : frame = .close
      · simp only [Relayed, close, if_true, relayed]
        exact List.prefix_rfl
      · simp only [Relayed, close, if_false]
        exact relayed
  | write loop room =>
      rw [Relayed, loop] at relayed
      exact relayed
  | read loop => exact relayed_read loop relayed
  | sent loop =>
      rw [Relayed, loop] at relayed
      exact relayed
  | send loop room =>
      rw [Relayed, loop] at relayed
      exact relayed
  | fail =>
      obtain same | ⟨data, left, loop, same⟩ := fail_cases me
      · rw [same]
        exact relayed.prefix
      · rw [same]
        rw [Relayed, loop] at relayed
        exact relayed.trans (filter_pong _ _)

theorem Stepped.relayed_other {action : Action} {me' other' : Side}
    (stepped : Stepped windows party me other action me' other') (relayed : Relayed other) : Relayed other' := by
  cases stepped with
  | write loop room => exact relayed
  | arrive | take | written | read | sent | send | drain | fail => exact relayed

theorem Stepped.script {action : Action} {me' other' : Side}
    (stepped : Stepped windows party me other action me' other') : me'.script = me.script ∧ other'.script = other.script := by
  cases stepped with
  | take next =>
      unfold Side.take
      split <;> exact ⟨rfl, rfl⟩
  | fail =>
      obtain same | ⟨data, left, _, same⟩ := fail_cases me <;> rw [same] <;> exact ⟨rfl, rfl⟩
  | arrive | written | write | read | sent | send | drain => exact ⟨rfl, rfl⟩

/-! ## What is delivered -/

theorem data_frames (party : Party) (script : List WsRead) :
    ((script.filterMap (frameOf party)).map toMessage).filter WsMessage.isData = dataOf script := by
  induction script with
  | nil => rfl
  | cons read script ih =>
      rw [dataOf] at ih ⊢
      rw [List.filterMap_cons, List.filterMap_cons]
      cases read with
      | message message =>
          cases message with
          | text text =>
              simp only [frameOf, onSocket, List.map_cons, toMessage, fromUtf8Lossy_encode, WsMessage.isData,
                List.filter_cons, if_true, ih]
          | binary data =>
              simp only [frameOf, onSocket, List.map_cons, toMessage, WsMessage.isData, List.filter_cons, if_true, ih]
          | ping data | pong data | close => exact ih
      | ended => exact ih
      | failed => cases party <;> exact ih

theorem delivered_prefix {writer reader : Side} (carried : Carried party writer reader) (relayed : Relayed reader) :
    reader.delivered.filter WsMessage.isData <+: dataOf writer.script := by
  obtain ⟨future, aligned, _⟩ := carried
  have framed := relayed.prefix.trans (aligned.frames_prefix.map toMessage)
  have data := framed.filter WsMessage.isData
  rw [List.filter_filter, framesTaken, data_frames] at data
  simp only [Bool.and_self] at data
  refine data.trans ?_
  rw [dataOf, dataOf]
  exact (List.take_prefix _ _).filterMap _

theorem framesTaken_valid (short : ∀ read ∈ me.script, read.Short) : ∀ frame ∈ framesTaken party me, WsFrame.Valid frame := by
  intro frame member
  obtain ⟨read, within, framed⟩ := List.mem_filterMap.mp member
  have limit := short read (List.mem_of_mem_take within)
  unfold frameOf onSocket at framed
  cases read with
  | message message =>
      cases message <;> cases framed
      · exact limit
      · exact limit
      · trivial
  | ended =>
      cases framed
      trivial
  | failed =>
      cases party <;> cases framed
      trivial

end Side

/-! ## Runs of the bridge -/

section Bridge
variable {windows : Windows} {client upstream : List WsRead}

structure Sound (client upstream : List WsRead) (bridge : Bridge) : Prop where
  up : Carried .relay bridge.relay bridge.daemon
  down : Carried .daemon bridge.daemon bridge.relay
  relay : Relayed bridge.relay
  daemon : Relayed bridge.daemon
  client : bridge.relay.script = client
  upstream : bridge.daemon.script = upstream

theorem carried_start (party : Party) (script others : List WsRead) :
    Carried party (Side.start script) (Side.start others) := ⟨[], Intake.aligned_start [], rfl⟩

theorem sound_start (client upstream : List WsRead) : Sound client upstream (Bridge.start client upstream) :=
  ⟨carried_start _ _ _, carried_start _ _ _, rfl, rfl, rfl, rfl⟩

theorem sound_step (clientShort : ∀ read ∈ client, read.Short) (upstreamShort : ∀ read ∈ upstream, read.Short)
    (bridge : Bridge) (event : Party × Action) (after : Bridge) (sound : Sound client upstream bridge)
    (taken : bridgeStep windows bridge event = some after) : Sound client upstream after := by
  obtain ⟨party, action⟩ := event
  cases party with
  | relay =>
      obtain ⟨⟨me, other⟩, stepped, rfl⟩ := Option.map_eq_some_iff.mp taken
      have step := stepped_of_sideStep stepped
      have valid := @framesTaken_valid .daemon bridge.daemon (sound.upstream ▸ upstreamShort)
      exact ⟨step.carried sound.up, step.carried_other valid sound.down, step.relayed sound.relay,
        step.relayed_other sound.daemon, step.script.1.trans sound.client, step.script.2.trans sound.upstream⟩
  | daemon =>
      obtain ⟨⟨me, other⟩, stepped, rfl⟩ := Option.map_eq_some_iff.mp taken
      have step := stepped_of_sideStep stepped
      have valid := @framesTaken_valid .relay bridge.relay (sound.client ▸ clientShort)
      exact ⟨step.carried_other valid sound.up, step.carried sound.down, step.relayed_other sound.relay,
        step.relayed sound.daemon, step.script.2.trans sound.client, step.script.1.trans sound.upstream⟩

theorem Sound.faithful {bridge : Bridge} (sound : Sound client upstream bridge) : bridge.Faithful client upstream := by
  have up := delivered_prefix sound.up sound.daemon
  have down := delivered_prefix sound.down sound.relay
  rw [sound.client] at up
  rw [sound.upstream] at down
  exact ⟨up, down⟩

/-- One of the two writes, if both loops are in one, fits into its room. -/
def OneFits (windows : Windows) (bridge : Bridge) : Prop :=
  Fits windows .relay bridge.relay bridge.daemon ∨ Fits windows .daemon bridge.daemon bridge.relay

instance (windows : Windows) (bridge : Bridge) : Decidable (OneFits windows bridge) :=
  inferInstanceAs (Decidable (_ ∨ _))

theorem oneFits_step (bridge : Bridge) (event : Party × Action) (after : Bridge) (fits : OneFits windows bridge)
    (inTurn : InTurn windows bridge event) (taken : bridgeStep windows bridge event = some after) :
    OneFits windows after := by
  obtain ⟨party, action⟩ := event
  cases party with
  | relay =>
      obtain ⟨⟨me, other⟩, stepped, rfl⟩ := Option.map_eq_some_iff.mp taken
      have step := stepped_of_sideStep stepped
      by_cases theirs : Fits windows .daemon bridge.daemon bridge.relay
      · exact .inr (step.fits_other theirs)
      · refine .inl (step.fits (fits.resolve_right theirs) fun write begun => ?_)
        exact (inTurn write begun).resolve_left theirs
  | daemon =>
      obtain ⟨⟨me, other⟩, stepped, rfl⟩ := Option.map_eq_some_iff.mp taken
      have step := stepped_of_sideStep stepped
      by_cases theirs : Fits windows .relay bridge.relay bridge.daemon
      · exact .inl (step.fits_other theirs)
      · refine .inr (step.fits (fits.resolve_left theirs) fun write begun => ?_)
        exact (inTurn write begun).resolve_left theirs

theorem not_fits_of_blocked {party : Party} {me other : Side} (blocked : Blocked windows party me other) :
    ¬ Fits windows party me other := by
  rw [Fits, blocked.2]
  exact fun fits => blocked.1 (Nat.le_zero.mp fits)

theorem OneFits.not_stuck {bridge : Bridge} (fits : OneFits windows bridge) : ¬ bridge.Stuck windows := by
  rintro ⟨⟨relay, _⟩, ⟨daemon, _⟩⟩
  obtain up | down := fits
  · exact not_fits_of_blocked relay up
  · exact not_fits_of_blocked daemon down

theorem bridge_faithful_and_free (windows : Windows) (client upstream : List WsRead)
    (clientShort : ∀ read ∈ client, read.Short) (upstreamShort : ∀ read ∈ upstream, read.Short)
    (events : List (Party × Action)) (final : Bridge)
    (inTurn : Meets (bridgeStep windows) (InTurn windows) (Bridge.start client upstream) events)
    (ran : run (bridgeStep windows) (Bridge.start client upstream) events = some final) :
    final.Faithful client upstream ∧ ¬ final.Stuck windows := by
  have sound : Sound client upstream final :=
    run_invariant (sound_step clientShort upstreamShort) (sound_start client upstream) ran
  have fits : OneFits windows final := run_invariant_of_meets oneFits_step (.inl (fits_of_select rfl)) inTurn ran
  exact ⟨sound.faithful, fits.not_stuck⟩

/-! ## Writes that do not fit -/

def pairStep (windows : Windows) (party : Party) (sides : Side × Side) (action : Action) : Option (Side × Side) :=
  sideStep windows party sides.1 sides.2 action

theorem run_relay (actions : List Action) (me other : Side) :
    run (bridgeStep windows) ⟨me, other⟩ (actions.map (Party.relay, ·)) =
      (run (pairStep windows .relay) (me, other) actions).map fun after => ⟨after.1, after.2⟩ := by
  induction actions generalizing me other with
  | nil => rfl
  | cons action actions ih =>
      simp only [List.map_cons, run, bridgeStep, pairStep]
      cases sideStep windows .relay me other action with
      | none => rfl
      | some after => exact ih after.1 after.2

theorem run_daemon (actions : List Action) (me other : Side) :
    run (bridgeStep windows) ⟨other, me⟩ (actions.map (Party.daemon, ·)) =
      (run (pairStep windows .daemon) (me, other) actions).map fun after => ⟨after.2, after.1⟩ := by
  induction actions generalizing me other with
  | nil => rfl
  | cons action actions ih =>
      simp only [List.map_cons, run, bridgeStep, pairStep]
      cases sideStep windows .daemon me other action with
      | none => rfl
      | some after => exact ih after.1 after.2

theorem write_fills {party : Party} {me other : Side} {frame : WsFrame} {rest : List UInt8} (count : Nat)
    (loop : me.loop = .writing frame rest) (left : count < rest.length) (space : tunnelRoom windows party other = count) :
    ∃ me' other' byte rest', run (pairStep windows party) (me, other) (List.replicate count .write) = some (me', other') ∧
      me'.loop = .writing frame (byte :: rest') ∧ tunnelRoom windows party other' = 0 ∧ me'.intake = me.intake ∧
      other'.loop = other.loop := by
  induction count generalizing me other rest with
  | zero =>
      obtain ⟨byte, rest', rfl⟩ := List.exists_cons_of_ne_nil (List.ne_nil_of_length_pos left)
      exact ⟨me, other, byte, rest', rfl, loop, space, rfl, rfl⟩
  | succ count ih =>
      cases rest with
      | nil => cases left
      | cons byte rest =>
          unfold tunnelRoom at space
          have free : other.intake.avail.length < windows.tunnelWindow party.other := by omega
          have taken : pairStep windows party (me, other) .write =
              some ({ me with loop := .writing frame rest }, { other with intake := other.intake.arrive [byte] }) := by
            simp only [pairStep, sideStep, loop, free, if_true]
          have space' : tunnelRoom windows party { other with intake := other.intake.arrive [byte] } = count := by
            simp only [tunnelRoom, Intake.arrive, List.length_append, List.length_cons, List.length_nil]
            omega
          obtain ⟨me', other', next, rest', ran, writes, full, same, loops⟩ :=
            @ih { me with loop := .writing frame rest } { other with intake := other.intake.arrive [byte] } rest rfl
              (Nat.lt_of_succ_lt_succ left) space'
          refine ⟨me', other', next, rest', ?_, writes, full, same, loops⟩
          rw [List.replicate_succ, run, taken, Option.bind_some]
          exact ran

theorem blocked_of_writing {party : Party} {me other : Side} {frame : WsFrame} {byte : UInt8} {rest : List UInt8}
    (loop : me.loop = .writing frame (byte :: rest)) (full : tunnelRoom windows party other = 0) :
    Blocked windows party me other := by
  refine ⟨?_, ?_⟩
  · rw [Side.left, loop]
    exact Nat.succ_ne_zero _
  · rw [room, loop]
    exact full

theorem waiting_of_full {party : Party} {other : Side} (open_ : 0 < windows.tunnelWindow party.other)
    (full : tunnelRoom windows party other = 0) : other.Waiting := by
  unfold tunnelRoom at full
  exact .inl (List.ne_nil_of_length_pos (by omega))

theorem lt_of_not_fits {party : Party} {me other : Side} {frame : WsFrame} {rest : List UInt8}
    (loop : me.loop = .writing frame rest) (unfit : ¬ Fits windows party me other) :
    tunnelRoom windows party other < rest.length := by
  rw [Fits, Side.left, room, loop] at unfit
  exact not_le.mp unfit

/-- Two writes to the tunnel that do not fit come to block each other. -/
theorem unfit_writes_block {bridge : Bridge} {up down : WsFrame} {upRest downRest : List UInt8}
    (open_ : ∀ party, 0 < windows.tunnelWindow party)
    (relay : bridge.relay.loop = .writing up upRest) (daemon : bridge.daemon.loop = .writing down downRest)
    (unfit : ¬ OneFits windows bridge) :
    ∃ events final, run (bridgeStep windows) bridge events = some final ∧ final.Stuck windows := by
  obtain ⟨upUnfit, downUnfit⟩ := not_or.mp unfit
  obtain ⟨relay₁, daemon₁, byte, rest, first, relayWrites, upFull, relaySame, daemonLoop⟩ :=
    write_fills _ relay (lt_of_not_fits relay upUnfit) rfl
  have space : tunnelRoom windows .daemon relay₁ = tunnelRoom windows .daemon bridge.relay := by
    rw [tunnelRoom, relaySame, tunnelRoom]
  obtain ⟨daemon₂, relay₂, byte', rest', second, daemonWrites, downFull, daemonSame, relayLoop⟩ :=
    write_fills _ (daemonLoop.trans daemon) (space ▸ lt_of_not_fits daemon downUnfit) rfl
  have upStill : tunnelRoom windows .relay daemon₂ = 0 := by rw [tunnelRoom, daemonSame, ← tunnelRoom, upFull]
  have relayStill := relayLoop.trans relayWrites
  have ran : run (bridgeStep windows) bridge
      ((List.replicate (tunnelRoom windows .relay bridge.daemon) Action.write).map (Party.relay, ·) ++
        (List.replicate (tunnelRoom windows .daemon relay₁) Action.write).map (Party.daemon, ·)) =
      some ⟨relay₂, daemon₂⟩ := by
    rw [run_append, run_relay _ bridge.relay bridge.daemon, first, Option.map_some, Option.bind_some, run_daemon, second]
    rfl
  exact ⟨_, _, ran, ⟨blocked_of_writing relayStill upStill, waiting_of_full (open_ .relay) downFull⟩,
    blocked_of_writing daemonWrites downFull, waiting_of_full (open_ .daemon) upStill⟩

end Bridge

/-! ## Two messages that cross -/

def narrow : Windows := ⟨fun _ => 4, fun _ => 64, fun _ => 8⟩

def sixBytes : List WsRead := [.message (.binary [1, 2, 3, 4, 5, 6])]

theorem crossed_messages_block :
    ∃ events final, run (bridgeStep narrow) (Bridge.start sixBytes sixBytes) events = some final ∧ final.Stuck narrow := by
  let taken : List (Party × Action) := [(.relay, .arrive), (.daemon, .arrive), (.relay, .take), (.daemon, .take)]
  let writes (party : Party) : List (Party × Action) := List.replicate 4 (party, .write)
  have stuck : (run (bridgeStep narrow) (Bridge.start sixBytes sixBytes) (taken ++ writes .relay ++ writes .daemon)).any
      (fun final => decide (final.Stuck narrow)) = true := by decide +kernel
  obtain ⟨final, ran, blocked⟩ := (Option.any_eq_true _ _).mp stuck
  exact ⟨taken ++ writes .relay ++ writes .daemon, final, ran, of_decide_eq_true blocked⟩

theorem unfit_writes_block_crossed : ∃ bridge, run (bridgeStep narrow) (Bridge.start sixBytes sixBytes)
    [(.relay, .arrive), (.daemon, .arrive), (.relay, .take), (.daemon, .take)] = some bridge ∧
      ∃ events final, run (bridgeStep narrow) bridge events = some final ∧ final.Stuck narrow := by
  have open_ : ∀ party, 0 < narrow.tunnelWindow party := fun _ => Nat.succ_pos 3
  exact ⟨_, rfl, unfit_writes_block open_ rfl rfl (by decide +kernel)⟩

theorem message_in_turn :
    ∃ final, run (bridgeStep narrow) (Bridge.start sixBytes sixBytes)
        [(.relay, .arrive), (.daemon, .arrive), (.relay, .take), (.relay, .write), (.daemon, .read)] = some final ∧
      final.Faithful sixBytes sixBytes ∧ ¬ final.Stuck narrow := by
  have short : ∀ read ∈ sixBytes, read.Short := by
    intro read member
    rw [List.mem_singleton.mp member]
    exact Nat.le_of_ble_eq_true rfl
  have inTurn : Meets (bridgeStep narrow) (InTurn narrow) (Bridge.start sixBytes sixBytes)
      [(.relay, .arrive), (.daemon, .arrive), (.relay, .take), (.relay, .write), (.daemon, .read)] := by decide +kernel
  have runs : (run (bridgeStep narrow) (Bridge.start sixBytes sixBytes)
      [(.relay, .arrive), (.daemon, .arrive), (.relay, .take), (.relay, .write), (.daemon, .read)]).isSome = true := by
    decide +kernel
  obtain ⟨final, ran⟩ := Option.isSome_iff_exists.mp runs
  exact ⟨final, ran, bridge_faithful_and_free narrow sixBytes sixBytes short short _ final inTurn ran⟩

end MacMgmt.Proof.Tunnel
