import MacMgmt.Lib.Run

/-!
# A byte stream over a WebSocket

`WsStream` of `mac-mgmt-ws/src/stream.rs` with its two tasks and their channels, while the stream is held.
-/

namespace MacMgmt.Ws
open Lib

/-- What `ws_stream.next()` gives. `other` is a message without payload for the stream, `failed` an error. -/
inductive Incoming where
  | binary (data : List UInt8)
  | close
  | other
  | failed
  | finished

/-- The task that reads the socket; `sending` has a payload for the read channel. -/
inductive Reader where
  | receiving
  | sending (data : List UInt8)
  | ended
deriving DecidableEq

inductive Writer where
  | selecting
  | sending (data : List UInt8)
  | ended
deriving DecidableEq

inductive Poll (T : Type) where
  | ready (value : T)
  | pending

/-- What `poll_read` reads from. -/
structure ReadSide where
  readChannel : List (List UInt8)
  readBuf : List UInt8
  readPos : Nat

/-- `ended` says that the reading task has dropped its end of the channel. -/
def ReadSide.pollRead (side : ReadSide) (ended : Bool) (remaining : Nat) : Poll (List UInt8) × ReadSide :=
  if side.readPos < side.readBuf.length then
    let rest := side.readBuf.drop side.readPos
    let n := min rest.length remaining
    (.ready (rest.take n),
      if side.readPos + n ≥ side.readBuf.length then { side with readBuf := [], readPos := 0 }
      else { side with readPos := side.readPos + n })
  else
    match side.readChannel with
    | data :: channel =>
        let n := min data.length remaining
        (.ready (data.take n), if n < data.length then ⟨channel, data.drop n, 0⟩ else { side with readChannel := channel })
    | [] => if ended then (.ready [], side) else (.pending, side)

/-- `shutdownTx` says that `poll_shutdown` was not called yet. The rest is history: the payloads received, the bytes read, and
whether a read gave none; the writes accepted before and after `poll_shutdown`, those sent, and whether the sink was closed. -/
structure WsStream where
  readSide : ReadSide
  reader : Reader
  writeChannel : List (List UInt8)
  writer : Writer
  shutdownTx : Bool
  received : List (List UInt8)
  delivered : List UInt8
  zeroRead : Bool
  accepted : List (List UInt8)
  late : List (List UInt8)
  sent : List (List UInt8)
  sinkClosed : Bool

inductive WsEvent where
  | next (incoming : Incoming)
  | pushRead
  | pollRead (remaining : Nat)
  | pollWrite (buf : List UInt8)
  | pollShutdown
  | recv
  | sinkSent (ok : Bool)
  | shutdown

def channelCapacity : Nat := 32

namespace WsStream

def new : WsStream := ⟨⟨[], [], 0⟩, .receiving, [], .selecting, true, [], [], false, [], [], [], false⟩

variable (stream : WsStream)

def pollWrite (buf : List UInt8) : Poll (Except Unit Nat) × WsStream :=
  if stream.writer = .ended then (.ready (.error ()), stream)
  else if stream.writeChannel.length < channelCapacity then
    (.ready (.ok buf.length), { stream with writeChannel := stream.writeChannel ++ [buf] })
  else (.pending, stream)

def step : WsEvent → Option WsStream
  | .next incoming =>
      if stream.reader = .receiving then
        match incoming with
        | .binary data => some { stream with reader := .sending data, received := stream.received ++ [data] }
        | .other => some stream
        | .close | .failed | .finished => some { stream with reader := .ended }
      else none
  | .pushRead =>
      match stream.reader with
      | .sending data =>
          if stream.readSide.readChannel.length < channelCapacity then
            some { stream with
              reader := .receiving
              readSide := { stream.readSide with readChannel := stream.readSide.readChannel ++ [data] } }
          else none
      | _ => none
  | .pollRead remaining =>
      if remaining = 0 then none
      else
        match stream.readSide.pollRead (stream.reader = .ended) remaining with
        | (.ready bytes, readSide) =>
            some { stream with
              readSide, delivered := stream.delivered ++ bytes, zeroRead := stream.zeroRead || bytes.isEmpty }
        | (.pending, readSide) => some { stream with readSide }
  | .pollWrite buf =>
      match stream.pollWrite buf with
      | (.ready (.ok _), after) =>
          if stream.shutdownTx then some { after with accepted := after.accepted ++ [buf] }
          else some { after with late := after.late ++ [buf] }
      | (_, after) => some after
  | .pollShutdown => some { stream with shutdownTx := false }
  -- `select!` picks any branch that is ready.
  | .recv =>
      match stream.writer, stream.writeChannel with
      | .selecting, data :: channel => some { stream with writer := .sending data, writeChannel := channel }
      | _, _ => none
  | .shutdown =>
      if stream.writer = .selecting ∧ stream.shutdownTx = false then
        some { stream with writer := .ended, sinkClosed := true }
      else none
  | .sinkSent ok =>
      match stream.writer with
      | .sending data =>
          if ok then some { stream with writer := .selecting, sent := stream.sent ++ [data] }
          else some { stream with writer := .ended }
      | _ => none

end WsStream
end MacMgmt.Ws
