import MacMgmt.Cleaner.Sessions

/-!
# Chunks of a document

`chunk_document` of `plan-ai-cleaner/src/chunker.rs`. A slice that is out of range, or not between two characters, is a panic.
-/

namespace MacMgmt.Cleaner

def targetChunkChars : Nat := 8000

/-- `str::split` at two line feeds. -/
def paragraphs : Text → List Text
  | [] => [[]]
  | '\n' :: '\n' :: rest => [] :: paragraphs rest
  | c :: rest => (paragraphs rest).modifyHead (c :: ·)

def dropBytes : Text → Nat → Option Text
  | text, 0 => some text
  | [], _ + 1 => none
  | c :: rest, count + 1 => if c.utf8Size ≤ count + 1 then dropBytes rest (count + 1 - c.utf8Size) else none

def takeBytes : Text → Nat → Option Text
  | _, 0 => some []
  | [], _ + 1 => none
  | c :: rest, count + 1 =>
      if c.utf8Size ≤ count + 1 then (takeBytes rest (count + 1 - c.utf8Size)).map (c :: ·) else none

/-- `&text[start..stop]`. -/
def slice (text : Text) (start stop : Nat) : Option Text :=
  if start ≤ stop then (dropBytes text start).bind fun rest => takeBytes rest (stop - start) else none

structure ChunkState where
  chunks : List Text
  currentStart : Nat
  currentLen : Nat
  offset : Nat

def ChunkState.emit (text : Text) (state : ChunkState) (sepLen : Nat) : Option ChunkState :=
  (slice text state.currentStart state.offset).map fun chunk =>
    { state with chunks := state.chunks ++ [chunk], currentStart := state.offset + sepLen, currentLen := 0 }

def ChunkState.add (text : Text) (state : ChunkState) (i : Nat) (para : Text) : Option ChunkState :=
  let sepLen := if i > 0 then 2 else 0
  let emitted :=
    if state.currentLen + sepLen + byteLength para > targetChunkChars ∧ state.currentLen > 0 then state.emit text sepLen
    else some state
  emitted.map fun state =>
    { state with
      currentLen := state.currentLen + (sepLen + byteLength para)
      offset := state.offset + sepLen + byteLength para }

def addParagraphs (text : Text) : ChunkState → Nat → List Text → Option ChunkState
  | state, _, [] => some state
  | state, i, para :: rest => (state.add text i para).bind fun state => addParagraphs text state (i + 1) rest

def chunkDocument (text : Text) : Option (List Text) :=
  if byteLength text ≤ targetChunkChars then some [text]
  else
    (addParagraphs text ⟨[], 0, 0, 0⟩ 0 (paragraphs text)).bind fun state =>
      if state.currentStart < byteLength text then
        (slice text state.currentStart (byteLength text)).map fun chunk => state.chunks ++ [chunk]
      else some state.chunks

/-! ## What should hold -/

def separator : Text := ['\n', '\n']

/-- The pieces with the separators between them, one of which may be left at the end. -/
def Consecutive (text : Text) (chunks : List Text) : Prop :=
  text = separator.intercalate chunks ∨ text = separator.intercalate chunks ++ separator

/-- No paragraph is too long, nor the first one that is not empty with the separator before it. -/
def ParagraphsFit (text : Text) : Prop :=
  (∀ para ∈ paragraphs text, byteLength para ≤ targetChunkChars) ∧
    ∀ para rest, paragraphs text = [] :: para :: rest → byteLength para + 2 ≤ targetChunkChars

end MacMgmt.Cleaner
