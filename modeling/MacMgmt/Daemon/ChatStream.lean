import MacMgmt.Agent.EnvFiles

/-!
# Streamed answers of the AI proxy

The stream of `chat_completions` of `daemon/src/ai_proxy/server.rs`: the chunks of the backend's answer are decoded one by one and
collected in a text buffer, from which events are cut at blank lines. `parse` is `serde_json::from_str` for
`ChatCompletionChunk`, and `usage` the field of a chunk. A stream that breaks off ends there.
-/

namespace MacMgmt.Daemon.ChatStream
open Lib MacMgmt.Agent

structure Usage where
  promptTokens : Int
  completionTokens : Int
deriving DecidableEq

inductive StreamEvent (Chunk : Type) where
  | finished
  | chunk (chunk : Chunk)
  | raw (data : List Char)
deriving DecidableEq

structure StreamState (Chunk : Type) where
  buffer : List Char
  yielded : List (StreamEvent Chunk)
  lastUsage : Option Usage

/-- `buf.find("\n\n")` with the text before it and the text after it. -/
def cutEvent : List Char → Option (List Char × List Char)
  | [] => none
  | '\n' :: '\n' :: rest => some ([], rest)
  | c :: rest => (cutEvent rest).map fun cut => (c :: cut.1, cut.2)

theorem cutEvent_length {buffer event rest : List Char} (found : cutEvent buffer = some (event, rest)) :
    rest.length < buffer.length := by
  fun_induction cutEvent buffer generalizing event with
  | case1 => cases found
  | case2 tail =>
      cases found
      simp only [List.length_cons]
      omega
  | case3 c tail _ ih =>
      obtain ⟨cut, inner, same⟩ := Option.map_eq_some_iff.mp found
      obtain ⟨rfl, rfl⟩ := Prod.mk.inj same
      exact Nat.lt_succ_of_lt (ih inner)

def dataOf (line : List Char) : Option (List Char) := line.dropPrefix? "data: ".toList

section Stream
variable {Chunk : Type} (parse : List Char → Option Chunk) (usage : Chunk → Option Usage)

def readData (data : List Char) : StreamEvent Chunk :=
  if trimWhitespace data = "[DONE]".toList then .finished
  else match parse data with
    | some chunk => .chunk chunk
    | none => .raw data

def usageOf : StreamEvent Chunk → Option Usage
  | .chunk chunk => usage chunk
  | .finished | .raw _ => none

def onLine (state : StreamState Chunk) (line : List Char) : StreamState Chunk :=
  match dataOf line with
  | some data =>
      let event := readData parse data
      { state with yielded := state.yielded ++ [event], lastUsage := (usageOf usage event).or state.lastUsage }
  | none => state

def processEvents (state : StreamState Chunk) : StreamState Chunk :=
  match found : cutEvent state.buffer with
  | none => state
  | some (event, rest) =>
      have : rest.length < state.buffer.length := cutEvent_length found
      processEvents { (lines event).foldl (onLine parse usage) state with buffer := rest }
termination_by state.buffer.length

def receiveChunk (state : StreamState Chunk) (bytes : List UInt8) : StreamState Chunk :=
  processEvents parse usage { state with buffer := state.buffer ++ fromUtf8Lossy bytes }

def chatStream (chunks : List (List UInt8)) : StreamState Chunk := chunks.foldl (receiveChunk parse usage) ⟨[], [], none⟩

/-- The input and output tokens that are recorded when the stream is over. -/
def recordedTokens (lastUsage : Option Usage) : Int × Int :=
  match lastUsage with
  | some used => (used.promptTokens, used.completionTokens)
  | none => (0, 0)

end Stream

/-! ## What the backend sent -/

/-- The lines of a stream end in a line feed, with or without a carriage return before it, or with the stream. -/
def streamLines (text : List Char) : List (List Char) := (text.splitOn '\n').map stripCarriageReturn

/-- The value of a `data` field: one blank after the colon is not part of it. -/
def sentData (line : List Char) : Option (List Char) :=
  (line.dropPrefix? "data:".toList).map fun rest => (rest.dropPrefix? [' ']).getD rest

section Sent
variable {Chunk : Type} (parse : List Char → Option Chunk) (usage : Chunk → Option Usage)

def sentEvents (text : List Char) : List (StreamEvent Chunk) := (streamLines text).filterMap fun line => (sentData line).map (readData parse)

def lastUsageOf (events : List (StreamEvent Chunk)) : Option Usage := (events.filterMap (usageOf usage)).getLast?

/-- The client gets an event for each data line, and the last usage is recorded. -/
def Faithful (chunks : List (List UInt8)) : Prop :=
  let sent := sentEvents parse (fromUtf8Lossy chunks.flatten)
  (chatStream parse usage chunks).yielded = sent ∧
    recordedTokens (chatStream parse usage chunks).lastUsage = recordedTokens (lastUsageOf usage sent)

end Sent

/-! ## What becomes of a line -/

/-- A blank line comes after the first of these lines or a later one, and the text goes on after it. -/
def blankFollows : List (List Char) → Bool
  | _ :: [] :: _ :: _ => true
  | _ :: rest => blankFollows rest
  | [] => false

/-- The lines as the proxy reads them: a line right before a blank one keeps a carriage return, and what no blank line follows
is not read. -/
def readLines : List (List Char) → List (Option (List Char))
  | line :: [] :: next :: rest => some line :: none :: readLines (next :: rest)
  | line :: rest => (if blankFollows rest then some (stripCarriageReturn line) else none) :: readLines rest
  | [] => []

/-- The proxy reads each data line, and what it reads is the same to it as what was sent: a blank line comes after it, a blank
after its colon, and a carriage return or a character in two chunks makes no difference. -/
def LinesStand {Chunk : Type} (parse : List Char → Option Chunk) (chunks : List (List UInt8)) : Prop :=
  List.Forall₂ (fun read sent => ∀ data, sentData sent = some data → (read.bind dataOf).map (readData parse) = some (readData parse data))
    (readLines ((chunks.flatMap fromUtf8Lossy).splitOn '\n')) (streamLines (fromUtf8Lossy chunks.flatten))

end MacMgmt.Daemon.ChatStream
