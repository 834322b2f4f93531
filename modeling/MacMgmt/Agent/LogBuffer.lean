import MacMgmt.Lib.Run
import Mathlib.Data.List.Infix

/-!
# The log buffer and its readers

`LogBuffer` of `mac-mgmt-agent/src/log_buffer.rs`, the endpoint `/logs` of `daemon/src/metrics_server.rs` and a client that
follows it as `daemon/src/logs.rs` does. The endpoint takes the lock of the buffer once in a poll, and twice in a request
without an index, so that lines can arrive in between.
-/

namespace MacMgmt.Agent
open Lib

@[irreducible] def maxLines : Nat := 10000

structure LogBuffer where
  lines : List String
deriving DecidableEq

namespace LogBuffer

def new : LogBuffer := ⟨[]⟩

def push (buf : LogBuffer) (line : String) : LogBuffer :=
  ⟨(if maxLines ≤ buf.lines.length then buf.lines.tail else buf.lines) ++ [line]⟩

def tail (buf : LogBuffer) (n : Nat) : List String := buf.lines.drop (buf.lines.length - n)

def all (buf : LogBuffer) : List String := buf.lines

def since (buf : LogBuffer) (after : Nat) : Nat × List String :=
  if buf.lines.length ≤ after then (buf.lines.length, []) else (buf.lines.length, buf.lines.drop after)

end LogBuffer

/-- The lines an answer keeps: all, or those with the name of the service in brackets. -/
def forService (service : Option String) (lines : List String) : List String :=
  match service with
  | some svc => lines.filter fun line => decide (("[" ++ svc ++ "]").toList <:+: line.toList)
  | none => lines

/-- A client of the endpoint. `index` is the index of the last answer, 0 before the first one, and `asked` the lines
that `tail` gave for a first request whose answer is not ready. `pushed`, `covered`, `shown` and `due` are history: every
line pushed so far, how many of them had been pushed at the client's last reading of lines, the lines of all answers, and
the lines that should be in them. -/
structure Follower where
  buffer : LogBuffer
  service : Option String
  started : Bool
  index : Nat
  asked : Option (List String)
  pushed : List String
  covered : Nat
  shown : List String
  due : List String
deriving DecidableEq

/-- `request` and `answer` are the two locks of a first request with `n`. `poll` passes the index; a client without one
polls from 0. A poll that fails, or whose answer cannot be read, leaves the index as it is. -/
inductive LogEvent where
  | push (line : String)
  | request (n : Nat)
  | answer
  | poll
  | failedPoll
deriving DecidableEq

namespace Follower

def start (service : Option String) : Follower := ⟨.new, service, false, 0, none, [], 0, [], []⟩

def evicted (follower : Follower) : Nat := follower.pushed.length - follower.buffer.lines.length

/-- The lines pushed since the client last read lines that are still in the buffer. -/
def unread (follower : Follower) : List String := follower.pushed.drop (max follower.covered follower.evicted)

def push (follower : Follower) (line : String) : Follower :=
  { follower with buffer := follower.buffer.push line, pushed := follower.pushed ++ [line] }

def request (follower : Follower) (n : Nat) : Follower :=
  { follower with started := true, asked := some (follower.buffer.tail n), covered := follower.pushed.length }

def answer (follower : Follower) (lines : List String) : Follower :=
  { follower with
    asked := none
    index := follower.buffer.all.length
    shown := follower.shown ++ forService follower.service lines
    due := follower.due ++ forService follower.service lines }

def poll (follower : Follower) : Follower :=
  let (idx, lines) := follower.buffer.since follower.index
  { follower with
    started := true
    index := idx
    covered := follower.pushed.length
    shown := follower.shown ++ forService follower.service lines
    due := follower.due ++ forService follower.service follower.unread }

def step (follower : Follower) : LogEvent → Option Follower
  | .push line => some (follower.push line)
  | .request n => if follower.started then none else some (follower.request n)
  | .answer => follower.asked.map follower.answer
  | .poll => if follower.asked.isSome then none else some follower.poll
  | .failedPoll => if follower.asked.isSome then none else some follower

/-- Every answer so far had the lines it should have, once each and in the order in which they were pushed. -/
def Complete (follower : Follower) : Prop := follower.shown = follower.due

instance (follower : Follower) : Decidable follower.Complete := inferInstanceAs (Decidable (_ = _))

def skipped (follower : Follower) : List String :=
  follower.unread.take (follower.evicted + follower.index - max follower.covered follower.evicted)

/-- The index counts from the oldest line the buffer had when it was returned, so each line dropped since then moves it
one line further. A poll is served in full when the index is 0, when it still names no line after the first one the
client lacks, or when all lines in between are of other services. -/
def Stands (follower : Follower) : LogEvent → Prop
  | .poll => follower.index = 0 ∨ follower.evicted + follower.index ≤ follower.covered ∨
      forService follower.service follower.skipped = []
  | .push _ | .request _ | .answer | .failedPoll => True

end Follower
end MacMgmt.Agent
