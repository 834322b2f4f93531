import MacMgmt.Lib.Framing
import MacMgmt.Lib.Run
import MacMgmt.Lib.Table

/-!
# Requests in both directions of an RPC stream

One stream between a daemon (`RpcStream` in `mac-mgmt-agent/src/p2p/rpc.rs`, driven by the swarm loop) and the relay
(`handle_daemon_rpc` in `relay/src/p2p.rs`). Each end numbers its own requests from 1. The relay takes a frame for the
answer to a request of its own when the id is pending, the daemon takes any frame with the id of its call. A frame here
also says what its sender meant by it, which neither end can see.
-/

namespace MacMgmt.Relay
open Lib

/-- What a daemon means by a frame. The swarm loop only logs the relay's requests and never answers one. -/
inductive DaemonIntent where
  | register
  | tunnelAdvertisement
  | answer (outboundId : Nat)
deriving DecidableEq

structure DaemonFrame where
  id : Nat
  intent : DaemonIntent
deriving DecidableEq

inductive RelayIntent where
  | request (outboundId : Nat)
  | answer (callId : Nat)
deriving DecidableEq

structure RelayFrame where
  id : Nat
  intent : RelayIntent
deriving DecidableEq

/-- `calling` is the id that `call` waits for. A pending entry says whether its caller still waits. `toRelay` and
`toDaemon` are the frames on the way. `lastRead`, `handed` and `returned` are history: the number of frames the relay has
read, the frames it gave to pending requests, and those that calls returned. -/
structure RpcLink where
  nextId : Nat
  calling : Option Nat
  connected : Bool
  nextOutboundId : Nat
  pendingOutbound : Table Nat Bool
  toRelay : List DaemonFrame
  toDaemon : List RelayFrame
  lastRead : Nat
  handed : List (Nat × DaemonFrame)
  returned : List (Nat × RelayFrame)

def RpcLink.start : RpcLink := ⟨1, none, true, 1, ∅, [], [], 0, [], []⟩

/-- `call` registers, `send` advertises, `recv` is the daemon's next read (inside `call` or by the swarm loop), `drop` a
daemon that gives the stream up, as it does when a call times out. `outbound` is a request on `req_rx`, `oversized` when
its frame is too large to send, `expire` the time limit of its caller, and `read` the relay's next frame. -/
inductive RpcEvent where
  | call
  | send
  | recv
  | drop
  | outbound (oversized : Bool)
  | expire (outboundId : Nat)
  | read
deriving DecidableEq

namespace RpcLink
variable (link : RpcLink)

def submit (intent : DaemonIntent) : RpcLink :=
  { link with nextId := link.nextId + 1, toRelay := link.toRelay ++ [⟨link.nextId, intent⟩] }

def step : RpcEvent → Option RpcLink
  | .call => if link.connected ∧ link.calling = none then some { link.submit .register with calling := some link.nextId } else none
  | .send => if link.connected ∧ link.calling = none then some (link.submit .tunnelAdvertisement) else none
  | .recv =>
      match link.connected, link.toDaemon with
      | true, frame :: rest =>
          if link.calling = some frame.id then
            some { link with toDaemon := rest, calling := none, returned := link.returned ++ [(frame.id, frame)] }
          -- `call` drops a frame with another id, the swarm loop drops them all.
          else some { link with toDaemon := rest }
      | _, _ => none
  | .drop => if link.connected then some { link with connected := false, calling := none } else none
  | .outbound oversized =>
      let id := link.nextOutboundId
      if oversized then some { link with nextOutboundId := id + 1 }
      else some { link with
        nextOutboundId := id + 1
        toDaemon := link.toDaemon ++ [⟨id, .request id⟩]
        pendingOutbound := link.pendingOutbound.insert id true }
  | .expire outboundId => some { link with pendingOutbound := link.pendingOutbound.modify outboundId fun _ => false }
  | .read =>
      match link.toRelay with
      | [] => none
      | frame :: rest =>
          let read := { link with toRelay := rest, lastRead := link.lastRead + 1 }
          if frame.id > 0 ∧ frame.id ∈ link.pendingOutbound then
            some { read with
              pendingOutbound := link.pendingOutbound.erase frame.id
              handed := link.handed ++ [(frame.id, frame)] }
          else some { read with toDaemon := link.toDaemon ++ [⟨frame.id, .answer frame.id⟩] }

end RpcLink

/-! ## Reading RPC frames on the relay

The read side of the loop in `handle_daemon_rpc` (`relay/src/p2p.rs`). Each turn of the loop makes a new
`len_buf` and a `read_exact` future for it, and waits in `select!` for that future or for a request on
`req_rx`. Once the length is there the body is read inside the arm, where nothing can cancel it. A request that
wins drops the future, and with it the bytes it had put into `len_buf`. -/

def maxFrameLen : Nat := 16 * 1024 * 1024

def u32FromBeBytes (bytes : List UInt8) : Nat := bytes.foldl (fun value byte => value * 256 + byte.toNat) 0

def u32ToBeBytes (value : Nat) : List UInt8 :=
  [UInt8.ofNat (value / 2 ^ 24), UInt8.ofNat (value / 2 ^ 16), UInt8.ofNat (value / 2 ^ 8), UInt8.ofNat value]

/-- How a daemon writes a frame; `len as u32` wraps. -/
def encodeFrame (payload : List UInt8) : List UInt8 := u32ToBeBytes payload.length ++ payload

/-- What `read_exact` has put into `len_buf`, or into `buf` once the length is known. -/
inductive ReadPhase where
  | header (lenBuf : List UInt8)
  | body (len : Nat) (buf : List UInt8)
deriving DecidableEq

def readByte : ReadPhase → UInt8 → Progress ReadPhase (List UInt8)
  | .header lenBuf, byte =>
      if (lenBuf ++ [byte]).length < 4 then .more (.header (lenBuf ++ [byte]))
      else
        let len := u32FromBeBytes (lenBuf ++ [byte])
        if len > maxFrameLen then .fail
        -- `read_exact` into an empty buffer is ready at once.
        else if len = 0 then .done []
        else .more (.body len [])
  | .body len buf, byte =>
      if (buf ++ [byte]).length < len then .more (.body len (buf ++ [byte])) else .done (buf ++ [byte])

def rpcDecoder : Decoder UInt8 (List UInt8) where
  State := ReadPhase
  fresh := .header []
  feed := readByte

/-- `ended` is whether the transport has reported the end of the stream. -/
structure RpcReader where
  intake : Intake rpcDecoder
  ended : Bool

def RpcReader.start : RpcReader := ⟨Intake.start rpcDecoder, false⟩

inductive ReadEvent where
  | arrive (chunk : List UInt8)
  | poll
  | outbound
  | eof
deriving DecidableEq

def rpcReadStep (reader : RpcReader) : ReadEvent → Option RpcReader
  | .arrive chunk =>
      if reader.ended then none else some { reader with intake := reader.intake.arrive chunk }
  | .poll => if reader.intake.closed then none else some { reader with intake := reader.intake.poll }
  | .outbound =>
      if reader.intake.closed then none
      else
        match reader.intake.reading with
        | .header _ => some { reader with intake := reader.intake.cancel }
        | .body _ _ => none
  | .eof =>
      if reader.intake.closed || !reader.intake.avail.isEmpty then none
      else some { intake := reader.intake.close, ended := true }

def arrivedBytes (events : List ReadEvent) : List UInt8 :=
  events.flatMap fun
    | .arrive chunk => chunk
    | _ => []

end MacMgmt.Relay
