import Mathlib.Algebra.BigOperators.Group.List.Basic
import Mathlib.Data.List.Basic
import Mathlib.Data.List.TakeWhile
import Mathlib.Algebra.Ring.Int.Defs
import Mathlib.Algebra.Ring.Nat

/-!
# The words of a shell command

How a shell splits a text into words and removes the quotes. A text of which the words depend on variables, files or commands,
or that is more than one command, has none.
-/

namespace Lib.Shell

abbrev Text := List Char

def apostrophe : Char := Char.ofNat 39
def quotationMark : Char := Char.ofNat 34
def backquote : Char := Char.ofNat 96

def isBlank (c : Char) : Bool := c = ' ' || c = '\t'

def isQuoting (c : Char) : Bool := c = apostrophe || c = quotationMark || c = '\\'

def operators : List Char := ['|', '&', ';', '(', ')', '<', '>', '\n']

def occurs (piece text : Text) : Bool := text.tails.any piece.isPrefixOf

/-- The character begins a parameter after a dollar sign. -/
def startsParameter (c : Char) : Bool := c.isAlphanum || ('_' :: "\x7b(*@#?$!-".toList).contains c || isQuoting c

/-- The shell expands the word at this character, or ends it there. `word` is what it has read of the word. -/
def expands (word : Option Text) (c : Char) (rest : Text) : Bool :=
  let ahead := rest.takeWhile fun d => !isBlank d
  if operators.contains c || c = '*' || c = '?' || c = backquote then true
  else if c = '[' then ahead.contains ']'
  else if c = '{' then ahead.contains '}' && (ahead.contains ',' || occurs ['.', '.'] ahead)
  else if c = '$' then rest.head?.any startsParameter
  else if c = '~' then word.all fun read => read.getLast?.any fun d => d = '=' || d = ':'
  else if c = '#' then word.isNone
  else false

inductive Mode where
  | bare
  | escaped
  | quoted (quote : Char)

def lex (mode : Mode) (word : Option Text) (text : Text) : Option (List Text) :=
  match mode, text with
  | .bare, [] => some word.toList
  | .escaped, [] | .quoted _, [] => none
  | .bare, c :: rest =>
      if isBlank c then (lex .bare none rest).map fun words => word.toList ++ words
      else if c = '\\' then lex .escaped word rest
      else if isQuoting c then lex (.quoted c) (some (word.getD [])) rest
      else if expands word c rest then none
      else lex .bare (some (word.getD [] ++ [c])) rest
  | .escaped, c :: rest =>
      if c = '\n' then lex .bare word rest else lex .bare (some (word.getD [] ++ [c])) rest
  | .quoted quote, c :: rest =>
      if c = quote then lex .bare word rest
      else if quote = quotationMark && (c = '$' || c = backquote || c = '\\') then none
      else lex (.quoted quote) (some (word.getD [] ++ [c])) rest

def reservedWords : List String :=
  ["!", "\x7b", "\x7d", "[[", "]]", "case", "coproc", "do", "done", "elif", "else", "esac", "fi", "for", "function", "if", "in",
    "select", "then", "time", "until", "while"]

def isNameChar (c : Char) : Bool := c.isAlphanum || c = '_'

def isName (text : Text) : Bool := text.all isNameChar && text.head?.any fun c => !c.isDigit

/-- `name=` or `name+=`, also for an element of an array. -/
def isAssignment (word : Text) : Bool :=
  let after := word.dropWhile isNameChar
  isName (word.takeWhile isNameChar) &&
    (after.head? = some '=' || ['+', '='].isPrefixOf after || (after.head? = some '[' && occurs [']', '='] after))

def command (text : Text) : Option (List Text) :=
  match lex .bare none text with
  | some (first :: words) =>
      if reservedWords.contains (String.ofList first) || isAssignment first then none else some (first :: words)
  | _ => none

def joined (words : List Text) : Text := [' '].intercalate words

/-! ## Plain words -/

def begun (read : Text) : Option Text := if read = [] then none else some read

structure PlainWord (word : Text) : Prop where
  nonempty : word ≠ []
  unquoted : ∀ c ∈ word, isBlank c = false ∧ isQuoting c = false
  literal : ∀ read c rest, word = read ++ c :: rest → expands (begun read) c rest = false

def Ends (tail : Text) : Prop := ∀ c ∈ tail.head?, isBlank c = true

theorem takeWhile_append_ends {rest tail : Text} (unblank : ∀ c ∈ rest, isBlank c = false) (ends : Ends tail) :
    (rest ++ tail).takeWhile (fun d => !isBlank d) = rest.takeWhile fun d => !isBlank d := by
  have all : ∀ c ∈ rest, (!isBlank c) = true := fun c member => by simp [unblank c member]
  have stop : tail.takeWhile (fun d => !isBlank d) = [] := by
    cases tail with
    | nil => rfl
    | cons d tail => simp [ends d rfl]
  rw [List.takeWhile_append_of_pos all, stop, List.append_nil, List.takeWhile_eq_self_iff.mpr all]

theorem startsParameter_blank {c : Char} (blank : isBlank c = true) : startsParameter c = false := by
  rcases Bool.or_eq_true_iff.mp blank with space | tab
  · rw [of_decide_eq_true space]
    decide
  · rw [of_decide_eq_true tab]
    decide

theorem expands_append {word : Option Text} {c : Char} {rest tail : Text} (unblank : ∀ c ∈ rest, isBlank c = false)
    (ends : Ends tail) : expands word c (rest ++ tail) = expands word c rest := by
  have next : (rest ++ tail).head?.any startsParameter = rest.head?.any startsParameter := by
    cases rest with
    | cons d rest => rfl
    | nil =>
        cases tail with
        | nil => rfl
        | cons d tail => simpa using startsParameter_blank (ends d rfl)
  rw [expands, expands, takeWhile_append_ends unblank ends, next]

theorem isQuoting_backslash : isQuoting '\\' = true := by decide

theorem lex_bare_plain {word : Option Text} {c : Char} {rest : Text} (unblank : isBlank c = false)
    (unquoted : isQuoting c = false) (literal : expands word c rest = false) :
    lex .bare word (c :: rest) = lex .bare (some (word.getD [] ++ [c])) rest := by
  have other : c ≠ '\\' := by
    rintro rfl
    rw [isQuoting_backslash] at unquoted
    cases unquoted
  rw [lex, unblank, unquoted, literal]
  simp [other]

theorem begun_next (read : Text) (c : Char) : some ((begun read).getD [] ++ [c]) = begun (read ++ [c]) := by
  rw [begun, begun]
  split
  · rename_i empty
    rw [empty]
    rfl
  · simp

theorem lex_plain_word {read rest tail : Text} (plain : PlainWord (read ++ rest)) (ends : Ends tail) :
    lex .bare (begun read) (rest ++ tail) = lex .bare (begun (read ++ rest)) tail := by
  induction rest generalizing read with
  | nil => rw [List.append_nil, List.nil_append]
  | cons c rest ih =>
      have regroup : read ++ c :: rest = (read ++ [c]) ++ rest := by simp
      obtain ⟨unblank, unquoted⟩ := plain.unquoted c (by simp)
      have unblankRest : ∀ d ∈ rest, isBlank d = false := fun d member => (plain.unquoted d (by simp [member])).1
      have literal := plain.literal read c rest rfl
      rw [← expands_append unblankRest ends] at literal
      rw [List.cons_append, lex_bare_plain unblank unquoted literal, begun_next, regroup, ih (regroup ▸ plain)]

theorem lex_joined {words : List Text} (plain : ∀ word ∈ words, PlainWord word) :
    lex .bare none (joined words) = some words := by
  induction words with
  | nil => rfl
  | cons word words ih =>
      obtain ⟨plainWord, plainRest⟩ := List.forall_mem_cons.mp plain
      have started : begun word = some word := if_neg plainWord.nonempty
      cases words with
      | nil =>
          have read := @lex_plain_word [] word [] plainWord (by simp [Ends])
          rw [List.append_nil, List.nil_append, started] at read
          rw [joined, List.intercalate_singleton]
          exact read
      | cons second words =>
          have text : joined (word :: second :: words) = word ++ ' ' :: joined (second :: words) := by
            simp [joined, List.intercalate_cons_cons]
          have read := @lex_plain_word [] word (' ' :: joined (second :: words)) plainWord
            (by simp [Ends, isBlank])
          rw [List.nil_append, started] at read
          rw [text]
          refine read.trans ?_
          have blank : isBlank ' ' = true := by decide
          rw [lex, blank, ih plainRest]
          rfl

/-! ## Only plain words are read as they stand -/

theorem mem_of_lex {mode : Mode} {word : Option Text} {text : Text} {words : List Text}
    (found : lex mode word text = some words) : ∀ read ∈ words, ∀ c ∈ read, c ∈ word.getD [] ∨ c ∈ text := by
  induction text generalizing mode word words with
  | nil =>
      cases mode with
      | bare =>
          obtain rfl := Option.some.inj found
          intro read member c within
          rw [Option.mem_toList.mp member]
          exact .inl within
      | escaped | quoted quote => cases found
  | cons d rest ih =>
      have grown {word : Option Text} {words : List Text}
          (later : ∀ read ∈ words, ∀ c ∈ read, c ∈ (some (word.getD [] ++ [d])).getD [] ∨ c ∈ rest) :
          ∀ read ∈ words, ∀ c ∈ read, c ∈ word.getD [] ∨ c ∈ d :: rest := by
        intro read member c within
        have := later read member c within
        simp only [Option.getD_some, List.mem_append, List.mem_singleton] at this
        rw [List.mem_cons]
        tauto
      have kept {word : Option Text} {words : List Text}
          (later : ∀ read ∈ words, ∀ c ∈ read, c ∈ word.getD [] ∨ c ∈ rest) :
          ∀ read ∈ words, ∀ c ∈ read, c ∈ word.getD [] ∨ c ∈ d :: rest :=
        fun read member c within => (later read member c within).imp_right (List.mem_cons_of_mem d)
      rw [lex.eq_def] at found
      cases mode with
      | bare =>
          simp only at found
          split at found
          · obtain ⟨later, foundLater, rfl⟩ := Option.map_eq_some_iff.mp found
            intro read member c within
            rcases List.mem_append.mp member with first | second
            · rw [Option.mem_toList.mp first]
              exact .inl within
            · exact .inr (List.mem_cons_of_mem d ((ih foundLater read second c within).resolve_left (by simp)))
          split at found
          · exact kept (ih found)
          split at found
          · have opened := kept (ih found)
            exact opened
          split at found
          · cases found
          · exact grown (ih found)
      | escaped =>
          simp only at found
          split at found
          · exact kept (ih found)
          · exact grown (ih found)
      | quoted quote =>
          simp only at found
          split at found
          · exact kept (ih found)
          split at found
          · cases found
          · exact grown (ih found)

def size (words : List Text) : Nat := (words.map fun word => word.length + 1).sum

def room : Option Text → Nat
  | none => 1
  | some read => read.length + 1

theorem size_append (words others : List Text) : size (words ++ others) = size words + size others := by
  simp [size]

theorem size_toList (word : Option Text) : size word.toList ≤ room word := by
  cases word <;> simp [size, room]

theorem room_read (word : Option Text) (c : Char) : room (some (word.getD [] ++ [c])) ≤ room word + 1 := by
  cases word <;> simp [room]

theorem room_started (word : Option Text) : room (some (word.getD [])) ≤ room word := by
  cases word <;> simp [room]

theorem lex_size {mode : Mode} {word : Option Text} {text : Text} {words : List Text} (found : lex mode word text = some words) :
    size words ≤ text.length + room word := by
  induction text generalizing mode word words with
  | nil =>
      cases mode with
      | bare =>
          obtain rfl := Option.some.inj found
          simpa using size_toList word
      | escaped | quoted quote => cases found
  | cons c rest ih =>
      rw [List.length_cons]
      have longer := room_read word c
      cases mode with
      | bare =>
          rw [lex] at found
          split at found
          · obtain ⟨later, foundLater, rfl⟩ := Option.map_eq_some_iff.mp found
            have before := size_toList word
            have after : size later ≤ rest.length + 1 := ih foundLater
            rw [size_append]
            omega
          split at found
          · have := ih found
            omega
          split at found
          · have := ih found
            have started := room_started word
            omega
          split at found
          · cases found
          · have := ih found
            omega
      | escaped =>
          rw [lex] at found
          split at found <;> have := ih found <;> omega
      | quoted quote =>
          rw [lex] at found
          split at found
          · have := ih found
            omega
          split at found
          · cases found
          · have := ih found
            omega

theorem lex_size_lt {word : Option Text} {text : Text} {words : List Text} (found : lex .bare word text = some words)
    (quoting : ∃ c ∈ text, isQuoting c = true) : size words < text.length + room word := by
  induction text generalizing word words with
  | nil =>
      obtain ⟨c, member, -⟩ := quoting
      cases member
  | cons c rest ih =>
      rw [List.length_cons]
      have longer := room_read word c
      rw [lex] at found
      split at found
      · rename_i blank
        have later : ∃ d ∈ rest, isQuoting d = true := by
          obtain ⟨d, member, quote⟩ := quoting
          rcases List.mem_cons.mp member with rfl | within
          · rcases Bool.or_eq_true_iff.mp blank with space | tab
            · rw [of_decide_eq_true space] at quote
              exact absurd quote (by decide)
            · rw [of_decide_eq_true tab] at quote
              exact absurd quote (by decide)
          · exact ⟨d, within, quote⟩
        obtain ⟨words, foundLater, rfl⟩ := Option.map_eq_some_iff.mp found
        have before := size_toList word
        have after : size words < rest.length + 1 := ih foundLater later
        rw [size_append]
        omega
      split at found
      · have := lex_size found
        omega
      split at found
      · have := lex_size found
        have started := room_started word
        omega
      split at found
      · cases found
      · rename_i unquoted _
        obtain ⟨d, member, quote⟩ := quoting
        have later : d ∈ rest := by
          rcases List.mem_cons.mp member with rfl | within
          · exact absurd quote unquoted
          · exact within
        have := ih found ⟨d, later, quote⟩
        omega

/-- What has been read of a word, with the text after it. -/
structure PartialWord (read text : Text) : Prop where
  unquoted : ∀ c ∈ read, isBlank c = false ∧ isQuoting c = false
  literal : ∀ before c rest, read = before ++ c :: rest → expands (begun before) c (rest ++ text) = false

theorem PartialWord.plain {read text : Text} (part : PartialWord read text) (nonempty : read ≠ []) (ends : Ends text) :
    PlainWord read where
  nonempty := nonempty
  unquoted := part.unquoted
  literal := fun before c rest split => by
    have unblank : ∀ d ∈ rest, isBlank d = false := fun d member => (part.unquoted d (by simp [split, member])).1
    rw [← expands_append unblank ends]
    exact part.literal before c rest split

theorem PartialWord.next {read rest : Text} {c : Char} (part : PartialWord read (c :: rest)) (unblank : isBlank c = false)
    (unquoted : isQuoting c = false) (literal : expands (begun read) c rest = false) : PartialWord (read ++ [c]) rest where
  unquoted := by
    intro d member
    rcases List.mem_append.mp member with within | last
    · exact part.unquoted d within
    · rw [List.mem_singleton.mp last]
      exact ⟨unblank, unquoted⟩
  literal := by
    intro before d after split
    rcases List.eq_nil_or_concat after with rfl | ⟨front, last, rfl⟩
    · obtain ⟨rfl, same⟩ := List.append_inj' split rfl
      obtain ⟨rfl, -⟩ := List.cons.inj same
      exact literal
    · have regroup : before ++ d :: (front ++ [last]) = (before ++ d :: front) ++ [last] := by simp
      rw [List.concat_eq_append, regroup] at split
      obtain ⟨same, single⟩ := List.append_inj' split rfl
      obtain ⟨rfl, -⟩ := List.cons.inj single
      have kept := part.literal before d front same
      simpa using kept

theorem PartialWord.finished {read tail : Text} (part : PartialWord read tail) (ends : Ends tail) :
    ∀ word ∈ (begun read).toList, PlainWord word := by
  intro word member
  rw [begun] at member
  split at member
  · cases member
  · rename_i nonempty
    obtain rfl := List.mem_singleton.mp member
    exact part.plain nonempty ends

theorem PartialWord.start (text : Text) : PartialWord [] text where
  unquoted := fun _ member => absurd member List.not_mem_nil
  literal := fun before c rest split => absurd split.symm (by simp)

theorem plain_of_lex {read text : Text} {words : List Text} (unquoted : ∀ c ∈ text, isQuoting c = false)
    (part : PartialWord read text) (found : lex .bare (begun read) text = some words) : ∀ word ∈ words, PlainWord word := by
  induction text generalizing read words with
  | nil =>
      obtain rfl := Option.some.inj found
      exact part.finished (by simp [Ends])
  | cons c rest ih =>
      obtain ⟨first, later⟩ := List.forall_mem_cons.mp unquoted
      have other : c ≠ '\\' := by
        rintro rfl
        exact absurd first (by decide)
      rw [lex, if_neg other, first] at found
      split at found
      · rename_i blank
        obtain ⟨tail, foundTail, rfl⟩ := Option.map_eq_some_iff.mp found
        refine List.forall_mem_append.mpr ⟨part.finished ?_, ih later (.start rest) foundTail⟩
        intro d head
        obtain rfl := Option.some.inj head
        exact blank
      · rename_i unblank
        split at found
        · rename_i never
          cases never
        split at found
        · cases found
        · rename_i literal
          rw [begun_next] at found
          exact ih later (part.next (Bool.not_eq_true _ ▸ unblank) first (Bool.not_eq_true _ ▸ literal)) found

theorem size_eq_length {words : List Text} (nonempty : words ≠ []) : size words = (joined words).length + 1 := by
  induction words with
  | nil => exact absurd rfl nonempty
  | cons word words ih =>
      cases words with
      | nil => simp [size, joined]
      | cons second words =>
          have later := ih (List.cons_ne_nil _ _)
          have text : joined (word :: second :: words) = word ++ ' ' :: joined (second :: words) := by
            simp [joined, List.intercalate_cons_cons]
          rw [text, List.length_append, List.length_cons, Nat.add_assoc, ← Nat.add_assoc _ 1 1, ← later]
          simp [size]
          omega

theorem lex_joined_iff {words : List Text} (nonempty : words ≠ []) :
    lex .bare none (joined words) = some words ↔ ∀ word ∈ words, PlainWord word := by
  refine ⟨fun found => ?_, lex_joined⟩
  have unquoted : ∀ c ∈ joined words, isQuoting c = false := by
    intro c member
    refine Bool.eq_false_iff.mpr fun quote => ?_
    have small := lex_size_lt found ⟨c, member, quote⟩
    rw [size_eq_length nonempty] at small
    exact absurd small (lt_irrefl _)
  exact plain_of_lex unquoted (.start _) found

/-! ## Commands -/

theorem lex_of_command {text : Text} {words : List Text} (found : command text = some words) :
    lex .bare none text = some words := by
  rw [command] at found
  split at found
  · split at found
    · cases found
    · rename_i read _
      exact read.trans found
  · cases found

theorem command_iff {text first : Text} {words : List Text} : command text = some (first :: words) ↔
    lex .bare none text = some (first :: words) ∧
      reservedWords.contains (String.ofList first) = false ∧ isAssignment first = false := by
  constructor
  · intro found
    have read := lex_of_command found
    rw [command, read] at found
    refine ⟨read, Bool.or_eq_false_iff.mp (Bool.eq_false_iff.mpr fun special => ?_)⟩
    simp only [if_pos special] at found
    cases found
  · rintro ⟨read, reserved, assignment⟩
    rw [command, read]
    simp only [reserved, assignment, Bool.or_self, Bool.false_eq_true, if_false]

theorem mem_of_command {text : Text} {words : List Text} (found : command text = some words) {word : Text}
    (member : word ∈ words) {c : Char} (within : c ∈ word) : c ∈ text :=
  (mem_of_lex (lex_of_command found) word member c within).resolve_left List.not_mem_nil

end Lib.Shell
