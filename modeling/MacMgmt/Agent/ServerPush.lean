import MacMgmt.Lib.Utf8
import Mathlib.Data.List.TakeDrop
import Mathlib.Data.List.TakeWhile

/-!
# Push commands from the server

`connect_sse` of `mac-mgmt-agent/src/server_push.rs`: the chunks of the response are decoded one by one, collected in a
text buffer and taken from it line by line. `parse` is `serde_json::from_str` for `PushEvent` of `mac_mgmt_common`.
-/

namespace MacMgmt.Agent
open Lib

inductive PushCommand where
  | ping
  | targeted (instanceId : String) (event : PushCommand)
  | syncConfig
  | syncSkills
  | syncMcpServers
  | syncPackages
  | syncSshKeys
  | selfUpdate
  | syncNixpkgs
  | requestAssessment
deriving DecidableEq

/-- What Rust's `char::is_whitespace` accepts. -/
def isWhitespace (c : Char) : Bool :=
  let code := c.toNat
  (9 ≤ code && code ≤ 13) || code = 0x20 || code = 0x85 || code = 0xa0 || code = 0x1680 ||
    (0x2000 ≤ code && code ≤ 0x200a) || code = 0x2028 || code = 0x2029 || code = 0x202f || code = 0x205f || code = 0x3000

def trimWhitespace (text : List Char) : List Char := ((text.dropWhile isWhitespace).reverse.dropWhile isWhitespace).reverse

/-- `forwarded` has each command with the number of the line it came in. That number and `lines` are history. -/
structure SseState where
  buffer : List Char
  lines : Nat
  forwarded : List (Nat × PushCommand)
deriving DecidableEq

section Sse
variable (parse : List Char → Option PushCommand) (instanceId : String)

def lineCommand (line : List Char) : Option PushCommand :=
  if (trimWhitespace line).isEmpty then none
  else ((trimWhitespace line).dropPrefix? "data:".toList).bind fun data => parse (trimWhitespace data)

def isPing : PushCommand → Bool
  | .ping => true
  | _ => false

/-- A targeted event for this daemon is unwrapped once, one for another is dropped, and so are pings. -/
def forwardable (cmd : PushCommand) : Option PushCommand :=
  match cmd with
  | .targeted target event =>
      if target ≠ instanceId then none else if isPing event then none else some event
  | other => if isPing other then none else some other

def nextLine (buffer : List Char) : Option (List Char × List Char) :=
  match buffer.span (· ≠ '\n') with
  | (_, []) => none
  | (line, newline :: rest) => some (line ++ [newline], rest)

theorem nextLine_some {buffer line rest : List Char} (found : nextLine buffer = some (line, rest)) :
    ∃ before, '\n' ∉ before ∧ line = before ++ ['\n'] ∧ buffer = before ++ '\n' :: rest := by
  have whole := List.takeWhile_append_dropWhile (p := (· ≠ '\n')) (l := buffer)
  rw [nextLine, List.span_eq_takeWhile_dropWhile] at found
  split at found
  next => cases found
  next before newline after both =>
    cases found
    rw [Prod.mk.injEq] at both
    obtain ⟨rfl, later⟩ := both
    have first := List.head?_dropWhile_not (· ≠ '\n') buffer
    rw [later] at first
    obtain rfl : newline = '\n' := by simpa using first
    refine ⟨_, fun member => ?_, rfl, by rw [← later, whole]⟩
    simpa using List.mem_takeWhile_imp member

theorem nextLine_length {buffer line rest : List Char} (found : nextLine buffer = some (line, rest)) :
    rest.length < buffer.length := by
  obtain ⟨before, _, _, rfl⟩ := nextLine_some found
  rw [List.length_append, List.length_cons]
  omega

def processLines (sse : SseState) : SseState :=
  match found : nextLine sse.buffer with
  | none => sse
  | some (line, rest) =>
      have : rest.length < sse.buffer.length := nextLine_length found
      processLines
        { buffer := rest
          lines := sse.lines + 1
          forwarded := sse.forwarded ++
            (((lineCommand parse line).bind (forwardable instanceId)).map fun cmd => (sse.lines, cmd)).toList }
termination_by sse.buffer.length

def receiveChunk (sse : SseState) (chunk : List UInt8) : SseState :=
  processLines parse instanceId { sse with buffer := sse.buffer ++ fromUtf8Lossy chunk }

def connectSse (chunks : List (List UInt8)) : SseState := chunks.foldl (receiveChunk parse instanceId) ⟨[], 0, []⟩

end Sse

/-! ## What the server meant -/

structure SseStream where
  text : List Char
  chunks : List (List UInt8)
  split : chunks.flatten = utf8Encode text

def linesFrom (start : List Char) : List Char → List (List Char)
  | [] => []
  | c :: rest => if c = '\n' then (start ++ [c]) :: linesFrom [] rest else linesFrom (start ++ [c]) rest

def numbered {A B : Type} (read : A → Option B) : Nat → List A → List (Nat × B)
  | _, [] => []
  | n, a :: rest => ((read a).map fun b => (n, b)).toList ++ numbered read (n + 1) rest

/-- The command that an event for this daemon carries, whatever it is wrapped in. -/
def meant (instanceId : String) : PushCommand → Option PushCommand
  | .ping => none
  | .targeted target event => if target = instanceId then meant instanceId event else none
  | cmd => some cmd

namespace SseStream
variable (parse : List Char → Option PushCommand) (instanceId : String) (stream : SseStream)

def received : List Char := stream.chunks.flatMap fromUtf8Lossy

/-- Each event of the text is forwarded once and in order, and nothing that `handle_push_cmd` has no case for. -/
def Delivered : Prop :=
  (connectSse parse instanceId stream.chunks).forwarded =
      numbered (fun line => (lineCommand parse line).bind (meant instanceId)) 0 (linesFrom [] stream.text) ∧
    ∀ entry ∈ (connectSse parse instanceId stream.chunks).forwarded,
      entry.2 ≠ .ping ∧ ∀ target event, entry.2 ≠ .targeted target event

def Nested (cmd : PushCommand) : Prop := ∃ target event, cmd = .targeted instanceId (.targeted target event)

/-- A line that comes as it was sent must not hold a nested event. A character that is split between two chunks comes as
U+FFFD, and a line with such a character must give the command that was meant all the same. -/
def LineStands (i : Nat) : Prop :=
  if (linesFrom [] stream.received)[i]? = (linesFrom [] stream.text)[i]? then
    ∀ line cmd, (linesFrom [] stream.text)[i]? = some line → lineCommand parse line = some cmd → ¬ Nested instanceId cmd
  else
    ((linesFrom [] stream.received)[i]?.bind fun line => (lineCommand parse line).bind (forwardable instanceId)) =
      (linesFrom [] stream.text)[i]?.bind fun line => (lineCommand parse line).bind (meant instanceId)

end SseStream
end MacMgmt.Agent
