import MacMgmt.Lib.Utf8
import MacMgmt.Relay.RpcCalls

/-!
# WebSocket messages over a tunnel stream

`bridge_ws_to_stream` of `relay/src/ws_bridge.rs` and the WebSocket loop of `handle_streamed_proxy` in
`mac-mgmt-agent/src/p2p/mod.rs`. Each is one `select!` loop between a socket and its end of the tunnel stream. A write
moves one byte at a time into a window of bounded size; while it lasts, the loop reads nothing. The payload of a frame has
the length prefix of an RPC frame, with the same limit.
-/

namespace MacMgmt.Tunnel
open MacMgmt.Relay Lib

inductive WsMessage where
  | text (text : List Char)
  | binary (data : List UInt8)
  | ping (data : List UInt8)
  | pong (data : List UInt8)
  | close
deriving DecidableEq

inductive WsRead where
  | message (message : WsMessage)
  | failed
  | ended
deriving DecidableEq

/-! ## Frames -/

inductive WsFrame where
  | text (payload : List UInt8)
  | binary (payload : List UInt8)
  | close
deriving DecidableEq

def tagText : UInt8 := 1

def tagBinary : UInt8 := 2

def tagClose : UInt8 := 3

def encodeWsFrame : WsFrame → List UInt8
  | .text payload => tagText :: encodeFrame payload
  | .binary payload => tagBinary :: encodeFrame payload
  | .close => [tagClose]

/-- The tag, once it is read, and how far the payload is. -/
def readWsByte : Option (UInt8 × ReadPhase) → UInt8 → Progress (Option (UInt8 × ReadPhase)) WsFrame
  | none, byte =>
      if byte = tagText ∨ byte = tagBinary then .more (some (byte, .header []))
      else if byte = tagClose then .done .close
      else .fail
  | some (tag, phase), byte =>
      match readByte phase byte with
      | .more phase => .more (some (tag, phase))
      | .done payload => .done (if tag = tagText then .text payload else .binary payload)
      | .fail => .fail

def wsDecoder : Decoder UInt8 WsFrame where
  State := Option (UInt8 × ReadPhase)
  fresh := none
  feed := readWsByte

/-! ## The two loops -/

inductive Party where
  | relay
  | daemon
deriving DecidableEq

inductive Taken where
  | write (frame : WsFrame)
  | reply (message : WsMessage)
  | ignore
deriving DecidableEq

def onSocket (party : Party) : WsRead → Taken
  | .message (.text text) => .write (.text (utf8Encode text))
  | .message (.binary data) => .write (.binary data)
  | .message (.ping data) => .reply (.pong data)
  | .message (.pong _) => .ignore
  | .message .close | .ended => .write .close
  | .failed =>
      match party with
      | .relay => .write .close
      | .daemon => .ignore

def toMessage : WsFrame → WsMessage
  | .text payload => .text (fromUtf8Lossy payload)
  | .binary payload => .binary payload
  | .close => .close

/-- In `select` a read of the tunnel may have begun. `rest` and `left` have not found room yet. -/
inductive LoopState where
  | select
  | writing (frame : WsFrame) (rest : List UInt8)
  | sending (message : WsMessage) (left : Nat)
  | ended
deriving DecidableEq

/-- `script` is all that the endpoint sends, of which `arrived` are there and `taken` are read. The bytes that wait in the
tunnel for this side are in its intake; `backlog` bytes wait for its endpoint. -/
structure Side where
  script : List WsRead
  arrived : Nat
  taken : Nat
  loop : LoopState
  intake : Intake wsDecoder
  delivered : List WsMessage
  backlog : Nat

def Side.start (script : List WsRead) : Side := ⟨script, 0, 0, .select, Intake.start wsDecoder, [], 0⟩

/-- The windows are those towards a party's tunnel end and towards its endpoint. -/
structure Windows where
  tunnelWindow : Party → Nat
  socketWindow : Party → Nat
  wireLength : WsMessage → Nat

structure Bridge where
  relay : Side
  daemon : Side

inductive Action where
  | arrive
  | take
  | write
  | read
  | send
  | drain
  | fail
deriving DecidableEq

def Party.other : Party → Party
  | .relay => .daemon
  | .daemon => .relay

section Loops
variable (windows : Windows) (party : Party)

def Side.next (me : Side) : Option WsRead :=
  if me.loop = .select ∧ me.intake.reading.isNone ∧ me.taken < me.arrived then me.script[me.taken]? else none

def Side.take (me : Side) (message : WsRead) : Side :=
  match onSocket party message with
  | .write frame => { me with taken := me.taken + 1, loop := .writing frame (encodeWsFrame frame) }
  | .reply reply => { me with taken := me.taken + 1, loop := .sending reply (windows.wireLength reply) }
  | .ignore => { me with taken := me.taken + 1 }

def afterRead : Progress wsDecoder.State WsFrame → LoopState
  | .more _ => .select
  | .done .close | .fail => .ended
  | .done (.text payload) => .sending (toMessage (.text payload)) (windows.wireLength (toMessage (.text payload)))
  | .done (.binary payload) => .sending (toMessage (.binary payload)) (windows.wireLength (toMessage (.binary payload)))

def Side.fail (me : Side) : Side :=
  match me.loop with
  | .sending (.pong _) _ => { me with loop := .select }
  | .select | .writing .. | .sending .. | .ended => { me with loop := .ended }

def sideStep (me other : Side) : Action → Option (Side × Side)
  | .arrive => if me.arrived < me.script.length then some ({ me with arrived := me.arrived + 1 }, other) else none
  | .take => me.next.map fun message => (me.take windows party message, other)
  | .write =>
      match me.loop with
      | .writing frame [] => some ({ me with loop := if frame = .close then .ended else .select }, other)
      | .writing frame (byte :: rest) =>
          if other.intake.avail.length < windows.tunnelWindow party.other then
            some ({ me with loop := .writing frame rest }, { other with intake := other.intake.arrive [byte] })
          else none
      | .select | .sending .. | .ended => none
  | .read =>
      if me.loop = .select then
        some ({ me with
          intake := me.intake.poll
          loop := afterRead windows (wsDecoder.poll me.intake.reading me.intake.avail).1 }, other)
      else none
  | .send =>
      match me.loop with
      | .sending message 0 => some ({ me with loop := .select, delivered := me.delivered ++ [message] }, other)
      | .sending message (left + 1) =>
          if me.backlog < windows.socketWindow party then
            some ({ me with loop := .sending message left, backlog := me.backlog + 1 }, other)
          else none
      | .select | .writing .. | .ended => none
  | .drain => if 0 < me.backlog then some ({ me with backlog := me.backlog - 1 }, other) else none
  | .fail => some (me.fail, other)

def bridgeStep (bridge : Bridge) : Party × Action → Option Bridge
  | (.relay, action) => (sideStep windows .relay bridge.relay bridge.daemon action).map fun after => ⟨after.1, after.2⟩
  | (.daemon, action) => (sideStep windows .daemon bridge.daemon bridge.relay action).map fun after => ⟨after.2, after.1⟩

def Bridge.start (client upstream : List WsRead) : Bridge := ⟨Side.start client, Side.start upstream⟩

end Loops

/-! ## Fidelity and deadlock -/

/-- Text and binary messages; pings and pongs are between an endpoint and its loop, and `close` ends the bridge. -/
def WsMessage.isData : WsMessage → Bool
  | .text _ | .binary _ => true
  | .ping _ | .pong _ | .close => false

def dataOf (script : List WsRead) : List WsMessage :=
  script.filterMap fun
    | .message message => if message.isData then some message else none
    | .failed | .ended => none

/-- Each endpoint has got a prefix of the other's messages. -/
def Bridge.Faithful (client upstream : List WsRead) (bridge : Bridge) : Prop :=
  bridge.daemon.delivered.filter WsMessage.isData <+: dataOf client ∧
  bridge.relay.delivered.filter WsMessage.isData <+: dataOf upstream

section Room
variable (windows : Windows) (party : Party)

def tunnelRoom (other : Side) : Nat := windows.tunnelWindow party.other - other.intake.avail.length

def socketRoom (me : Side) : Nat := windows.socketWindow party - me.backlog

def Side.left (me : Side) : Nat :=
  match me.loop with
  | .writing _ rest => rest.length
  | .sending _ left => left
  | .select | .ended => 0

def room (me other : Side) : Nat :=
  match me.loop with
  | .writing .. => tunnelRoom windows party other
  | .sending .. => socketRoom windows party me
  | .select | .ended => 0

def Blocked (me other : Side) : Prop := me.left ≠ 0 ∧ room windows party me other = 0

/-- Something is there to be read, from the tunnel or from the socket. -/
def Side.Waiting (me : Side) : Prop := me.intake.avail ≠ [] ∨ me.taken < me.arrived

def Bridge.Stuck (bridge : Bridge) : Prop :=
  (Blocked windows .relay bridge.relay bridge.daemon ∧ bridge.relay.Waiting) ∧
  (Blocked windows .daemon bridge.daemon bridge.relay ∧ bridge.daemon.Waiting)

instance (bridge : Bridge) : Decidable (bridge.Stuck windows) :=
  inferInstanceAs (Decidable (
    ((bridge.relay.left ≠ 0 ∧ room windows .relay bridge.relay bridge.daemon = 0) ∧
      (bridge.relay.intake.avail ≠ [] ∨ bridge.relay.taken < bridge.relay.arrived)) ∧
    ((bridge.daemon.left ≠ 0 ∧ room windows .daemon bridge.daemon bridge.relay = 0) ∧
      (bridge.daemon.intake.avail ≠ [] ∨ bridge.daemon.taken < bridge.daemon.arrived))))

def Fits (me other : Side) : Prop := me.left ≤ room windows party me other

instance (me other : Side) : Decidable (Fits windows party me other) :=
  inferInstanceAs (Decidable (me.left ≤ room windows party me other))

/-- The size of the write that a step begins, and the room for it. -/
def begins (me other : Side) : Action → Option (Nat × Nat)
  | .take => me.next.bind fun message =>
      match onSocket party message with
      | .write frame => some ((encodeWsFrame frame).length, tunnelRoom windows party other)
      | .reply reply => some (windows.wireLength reply, socketRoom windows party me)
      | .ignore => none
  | .read =>
      match afterRead windows (wsDecoder.poll me.intake.reading me.intake.avail).1 with
      | .sending _ left => some (left, socketRoom windows party me)
      | .select | .writing .. | .ended => none
  | .arrive | .write | .send | .drain | .fail => none

/-- While the rest of one loop's write does not fit, the other loop only begins writes that fit. -/
def InTurn (bridge : Bridge) (event : Party × Action) : Prop :=
  match event.1 with
  | .relay => ∀ write ∈ begins windows .relay bridge.relay bridge.daemon event.2,
      Fits windows .daemon bridge.daemon bridge.relay ∨ write.1 ≤ write.2
  | .daemon => ∀ write ∈ begins windows .daemon bridge.daemon bridge.relay event.2,
      Fits windows .relay bridge.relay bridge.daemon ∨ write.1 ≤ write.2

instance (bridge : Bridge) : (event : Party × Action) → Decidable (InTurn windows bridge event)
  | (.relay, action) => inferInstanceAs (Decidable (∀ write ∈ begins windows .relay bridge.relay bridge.daemon action,
      Fits windows .daemon bridge.daemon bridge.relay ∨ write.1 ≤ write.2))
  | (.daemon, action) => inferInstanceAs (Decidable (∀ write ∈ begins windows .daemon bridge.daemon bridge.relay action,
      Fits windows .relay bridge.relay bridge.daemon ∨ write.1 ≤ write.2))

end Room

def WsRead.Short : WsRead → Prop
  | .message (.text text) => (utf8Encode text).length ≤ maxFrameLen
  | .message (.binary data) => data.length ≤ maxFrameLen
  | .message (.ping _) | .message (.pong _) | .message .close | .failed | .ended => True

end MacMgmt.Tunnel
