import MacMgmt.Lib.Run
import Mathlib.Logic.Function.Basic

/-!
# Bridged WebSockets

`client_ws` and `axum_ws` of `mac-mgmt-ws/src/bridge.rs`. Two loops forward what one side sends to the sink of the other, under
one `select!`: the loop that ends first drops the other one where it waits, and a close goes out to the side that it has read.
-/

namespace MacMgmt.Ws
open Lib

inductive BridgeMessage where
  | text (text : String)
  | binary (data : List UInt8)
  | ping (data : List UInt8)
  | pong (data : List UInt8)
  | close (frame : Option (Nat × String))

def BridgeMessage.isClose : BridgeMessage → Bool
  | .close _ => true
  | _ => false

inductive Side where
  | a
  | b
deriving DecidableEq

def Side.other : Side → Side
  | .a => .b
  | .b => .a

/-- Only a client's stream gives raw frames. -/
inductive StreamItem where
  | message (message : BridgeMessage)
  | frame
  | failed
  | ended

inductive Loop where
  | reading
  | sending (message : BridgeMessage)
  | ended

/-- The loop that reads one side, and what has gone out on the sink of the other. `received` is history, without the closes. -/
structure Direction where
  loop : Loop
  received : List BridgeMessage
  sink : List BridgeMessage

/-- The side is that of the loop that has ended. -/
inductive Phase where
  | running
  | selected (side : Side)
  | closing (side : Side)
  | over

/-- Each direction is named after the side that is read. -/
structure WsBridge where
  phase : Phase
  directions : Side → Direction

/-- A message whose send is dropped may already be `flushed`, or lie where the next send will flush it. -/
inductive BridgeEvent where
  | next (side : Side) (item : StreamItem)
  | sent (side : Side) (ok : Bool)
  | dropped (flushed : Bool)
  | closed (ok : Bool)

def Direction.puts (direction : Direction) (message : BridgeMessage) (ok : Bool) : Direction :=
  if ok then { direction with sink := direction.sink ++ [message] } else direction

namespace WsBridge

def start : WsBridge := ⟨.running, fun _ => ⟨.reading, [], []⟩⟩

def withDirection (bridge : WsBridge) (side : Side) (phase : Phase) (direction : Direction) : WsBridge :=
  ⟨phase, Function.update bridge.directions side direction⟩

def next (bridge : WsBridge) (side : Side) (direction : Direction) : StreamItem → WsBridge
  | .message message => bridge.withDirection side .running { direction with
      loop := .sending message
      received := if message.isClose then direction.received else direction.received ++ [message] }
  | .frame => bridge
  | .failed => bridge.withDirection side .running { direction with loop := .sending (.close none) }
  | .ended => bridge.withDirection side (.selected side) { direction with loop := .ended }

def sent (bridge : WsBridge) (side : Side) (direction : Direction) (message : BridgeMessage) (ok : Bool) : WsBridge :=
  if ok && !message.isClose then bridge.withDirection side .running { direction.puts message ok with loop := .reading }
  else bridge.withDirection side (.selected side) { direction.puts message ok with loop := .ended }

def step (bridge : WsBridge) : BridgeEvent → Option WsBridge
  | .next side item =>
      match bridge.phase, (bridge.directions side).loop with
      | .running, .reading => some (bridge.next side (bridge.directions side) item)
      | _, _ => none
  | .sent side ok =>
      match bridge.phase, (bridge.directions side).loop with
      | .running, .sending message => some (bridge.sent side (bridge.directions side) message ok)
      | _, _ => none
  | .dropped flushed =>
      match bridge.phase with
      | .selected side =>
          let direction := bridge.directions side.other
          let left := match direction.loop with
            | .sending message => direction.puts message flushed
            | _ => direction
          some (bridge.withDirection side.other (.closing side) { left with loop := .ended })
      | _ => none
  | .closed ok =>
      match bridge.phase with
      | .closing side => some (bridge.withDirection side.other .over ((bridge.directions side.other).puts (.close none) ok))
      | _ => none

end WsBridge

end MacMgmt.Ws
