import Mathlib.Data.List.Basic

/-!
# Lossy decoding of UTF-8

The decoder reads one byte at a time and writes U+FFFD for every maximal part of its input that starts a character and
does not end it, and for every byte that starts none.
-/

namespace Lib

/-- Inside a character: the number of bytes it lacks after the next one, the range of the next one, and the value of the
bytes read. -/
inductive Utf8State where
  | start
  | within (owed low high value : Nat)
deriving DecidableEq

def replacement : Char := Char.ofNat 0xFFFD

namespace Utf8State

def begin (byte : Nat) : List Char × Utf8State :=
  if byte < 0x80 then ([Char.ofNat byte], .start)
  else if byte < 0xC2 then ([replacement], .start)
  else if byte < 0xE0 then ([], .within 0 0x80 0xBF (byte - 0xC0))
  else if byte < 0xF0 then
    ([], .within 1 (if byte = 0xE0 then 0xA0 else 0x80) (if byte = 0xED then 0x9F else 0xBF) (byte - 0xE0))
  else if byte < 0xF5 then
    ([], .within 2 (if byte = 0xF0 then 0x90 else 0x80) (if byte = 0xF4 then 0x8F else 0xBF) (byte - 0xF0))
  else ([replacement], .start)

def feed : Utf8State → Nat → List Char × Utf8State
  | .start, byte => begin byte
  | .within owed low high value, byte =>
      if low ≤ byte ∧ byte ≤ high then
        match owed with
        | 0 => ([Char.ofNat (value * 64 + (byte - 0x80))], .start)
        | owed + 1 => ([], .within owed 0x80 0xBF (value * 64 + (byte - 0x80)))
      else (replacement :: (begin byte).1, (begin byte).2)

def decode : Utf8State → List UInt8 → List Char
  | .start, [] => []
  | .within .., [] => [replacement]
  | state, byte :: bytes => (state.feed byte.toNat).1 ++ decode (state.feed byte.toNat).2 bytes

end Utf8State

def fromUtf8Lossy (bytes : List UInt8) : List Char := Utf8State.start.decode bytes

def utf8Encode (text : List Char) : List UInt8 := text.flatMap String.utf8EncodeChar

namespace Utf8State

theorem decode_cons (state : Utf8State) (byte : UInt8) (bytes : List UInt8) :
    state.decode (byte :: bytes) = (state.feed byte.toNat).1 ++ (state.feed byte.toNat).2.decode bytes := by
  cases state <;> rfl

theorem decode_begin {byte : Nat} {bytes : List UInt8} (small : byte < 256) {written : List Char} {after : Utf8State}
    (first : begin byte = (written, after)) :
    start.decode (UInt8.ofNat byte :: bytes) = written ++ after.decode bytes := by
  rw [decode_cons, UInt8.toNat_ofNat_of_lt' small, feed, first]

theorem decode_last {low high value byte : Nat} {bytes : List UInt8} (small : byte < 256) (fits : low ≤ byte ∧ byte ≤ high) :
    (within 0 low high value).decode (UInt8.ofNat byte :: bytes) =
      Char.ofNat (value * 64 + (byte - 0x80)) :: start.decode bytes := by
  rw [decode_cons, UInt8.toNat_ofNat_of_lt' small, feed, if_pos fits]
  rfl

theorem decode_next {owed low high value byte : Nat} {bytes : List UInt8} (small : byte < 256)
    (fits : low ≤ byte ∧ byte ≤ high) :
    (within (owed + 1) low high value).decode (UInt8.ofNat byte :: bytes) =
      (within owed 0x80 0xBF (value * 64 + (byte - 0x80))).decode bytes := by
  rw [decode_cons, UInt8.toNat_ofNat_of_lt' small, feed, if_pos fits]
  rfl

theorem begin_two {byte : Nat} (low : 0xC2 ≤ byte) (high : byte < 0xE0) :
    begin byte = ([], within 0 0x80 0xBF (byte - 0xC0)) := by
  rw [begin, if_neg (by omega), if_neg (by omega), if_pos high]

theorem begin_three {byte : Nat} (low : 0xE0 ≤ byte) (high : byte < 0xF0) :
    begin byte = ([], within 1 (if byte = 0xE0 then 0xA0 else 0x80) (if byte = 0xED then 0x9F else 0xBF) (byte - 0xE0)) := by
  rw [begin, if_neg (by omega), if_neg (by omega), if_neg (by omega), if_pos high]

theorem begin_four {byte : Nat} (low : 0xF0 ≤ byte) (high : byte < 0xF5) :
    begin byte = ([], within 2 (if byte = 0xF0 then 0x90 else 0x80) (if byte = 0xF4 then 0x8F else 0xBF) (byte - 0xF0)) := by
  rw [begin, if_neg (by omega), if_neg (by omega), if_neg (by omega), if_neg (by omega), if_pos high]

theorem decode_char (c : Char) (bytes : List UInt8) :
    start.decode (String.utf8EncodeChar c ++ bytes) = c :: start.decode bytes := by
  have valid : c.val.toNat < 0xD800 ∨ (0xDFFF < c.val.toNat ∧ c.val.toNat < 0x110000) := c.valid
  have same {value : Nat} (equal : value = c.val.toNat) : Char.ofNat value = c := equal ▸ Char.ofNat_toNat c
  unfold String.utf8EncodeChar
  dsimp only
  generalize c.val.toNat = v at valid same
  split
  next one =>
    rw [List.cons_append, decode_begin (by omega) (if_pos (by omega)), same rfl]
    rfl
  split
  next notOne two =>
    rw [List.cons_append, decode_begin (by omega) (begin_two (by omega) (by omega)), List.nil_append, List.cons_append,
      decode_last (by omega) (by omega), same (by omega)]
    rfl
  split
  next notTwo three =>
    rw [List.cons_append, decode_begin (by omega) (begin_three (by omega) (by omega)), List.nil_append, List.cons_append,
      decode_next (by omega) (by split <;> split <;> omega), List.cons_append, decode_last (by omega) (by omega),
      same (by omega)]
    rfl
  next notThree =>
    rw [List.cons_append, decode_begin (by omega) (begin_four (by omega) (by omega)), List.nil_append, List.cons_append,
      decode_next (by omega) (by split <;> split <;> omega), List.cons_append, decode_next (by omega) (by omega),
      List.cons_append, decode_last (by omega) (by omega), same (by omega)]
    rfl

end Utf8State

theorem fromUtf8Lossy_encode (text : List Char) : fromUtf8Lossy (utf8Encode text) = text := by
  induction text with
  | nil => rfl
  | cons c text ih =>
      rw [utf8Encode, List.flatMap_cons, fromUtf8Lossy, Utf8State.decode_char]
      exact congrArg (c :: ·) ih

theorem utf8Encode_injective : Function.Injective utf8Encode := by
  intro first second same
  have decoded := congrArg fromUtf8Lossy same
  rw [fromUtf8Lossy_encode, fromUtf8Lossy_encode] at decoded
  exact decoded

/-! ## Bytes below 0x80

Such a byte stands for itself wherever it is, and no other byte writes a character below U+0080.
-/

namespace Utf8State

/-- Whatever bytes follow, the character that they end is none below U+0080. -/
def Wide : Nat → Nat → Nat → Nat → Prop
  | 0, low, high, value =>
      0x80 ≤ low ∧ ∀ byte, low ≤ byte → byte ≤ high → 0x80 ≤ (Char.ofNat (value * 64 + (byte - 0x80))).toNat
  | owed + 1, low, high, value =>
      0x80 ≤ low ∧ ∀ byte, low ≤ byte → byte ≤ high → Wide owed 0x80 0xBF (value * 64 + (byte - 0x80))

def Sound : Utf8State → Prop
  | .start => True
  | .within owed low high value => Wide owed low high value

theorem Wide.low {owed low high value : Nat} (wide : Wide owed low high value) : 0x80 ≤ low := by
  cases owed with
  | zero => exact wide.1
  | succ owed => exact wide.1

theorem toNat_ofNat {value : Nat} (valid : value.isValidChar) : (Char.ofNat value).toNat = value := by
  rw [Char.ofNat, dif_pos valid]
  rfl

theorem toNat_ofNat_ge {value : Nat} (low : 0x80 ≤ value) (valid : value < 0xD800 ∨ (0xDFFF < value ∧ value < 0x110000)) :
    0x80 ≤ (Char.ofNat value).toNat := by
  rw [toNat_ofNat valid]
  exact low

theorem sound_begin (byte : Nat) : (begin byte).2.Sound := by
  unfold begin
  split
  · trivial
  split
  · trivial
  split
  · exact ⟨by omega, fun next low high => toNat_ofNat_ge (by omega) (by omega)⟩
  split
  · refine ⟨by split <;> omega, fun next low high => ⟨by omega, fun last low' high' => ?_⟩⟩
    refine toNat_ofNat_ge ?_ ?_ <;> split at low <;> split at high <;> omega
  split
  · refine ⟨by split <;> omega, fun next low high => ⟨by omega, fun third low' high' => ⟨by omega, fun last low'' high'' => ?_⟩⟩⟩
    refine toNat_ofNat_ge ?_ ?_ <;> split at low <;> split at high <;> omega
  · trivial

theorem replacement_wide : 0x80 ≤ replacement.toNat := by decide

theorem mem_begin {byte : Nat} {c : Char} (member : c ∈ (begin byte).1) : 0x80 ≤ c.toNat ∨ (byte < 0x80 ∧ c = Char.ofNat byte) := by
  unfold begin at member
  split at member
  · rename_i small
    exact .inr ⟨small, List.mem_singleton.mp member⟩
  split at member
  · exact .inl (List.mem_singleton.mp member ▸ replacement_wide)
  split at member
  · cases member
  split at member
  · cases member
  split at member
  · cases member
  · exact .inl (List.mem_singleton.mp member ▸ replacement_wide)

theorem sound_feed {state : Utf8State} (sound : state.Sound) (byte : Nat) :
    (state.feed byte).2.Sound ∧ ∀ c ∈ (state.feed byte).1, 0x80 ≤ c.toNat ∨ (byte < 0x80 ∧ c = Char.ofNat byte) := by
  cases state with
  | start => exact ⟨sound_begin byte, fun c member => mem_begin member⟩
  | within owed low high value =>
      unfold feed
      dsimp only
      split
      · rename_i fits
        cases owed with
        | zero => exact ⟨trivial, fun c member => .inl (List.mem_singleton.mp member ▸ sound.2 byte fits.1 fits.2)⟩
        | succ owed => exact ⟨sound.2 byte fits.1 fits.2, nofun⟩
      · refine ⟨sound_begin byte, fun c member => ?_⟩
        rcases List.mem_cons.mp member with rfl | later
        · exact .inl replacement_wide
        · exact mem_begin later

theorem feed_ascii {state : Utf8State} (sound : state.Sound) {byte : Nat} (ascii : byte < 0x80) :
    state.feed byte = (state.decode [] ++ [Char.ofNat byte], .start) := by
  have begins : begin byte = ([Char.ofNat byte], .start) := if_pos ascii
  cases state with
  | start => exact begins
  | within owed low high value =>
      have above : 0x80 ≤ low := Wide.low sound
      unfold feed
      dsimp only
      rw [if_neg (by omega), begins]
      rfl

theorem decode_ascii {state : Utf8State} (sound : state.Sound) (before : List UInt8) {byte : UInt8} (ascii : byte.toNat < 0x80)
    (after : List UInt8) :
    state.decode (before ++ byte :: after) = state.decode before ++ Char.ofNat byte.toNat :: start.decode after := by
  induction before generalizing state with
  | nil =>
      rw [List.nil_append, decode_cons, feed_ascii sound ascii, List.append_assoc]
      rfl
  | cons first before ih =>
      rw [List.cons_append, decode_cons, ih (sound_feed sound first.toNat).1, decode_cons, List.append_assoc]

theorem mem_decode {state : Utf8State} (sound : state.Sound) {bytes : List UInt8} {c : Char} (member : c ∈ state.decode bytes)
    (ascii : c.toNat < 0x80) : ∃ byte ∈ bytes, c = Char.ofNat byte.toNat ∧ byte.toNat < 0x80 := by
  induction bytes generalizing state with
  | nil =>
      cases state with
      | start => cases member
      | within =>
          rw [List.mem_singleton.mp member] at ascii
          exact absurd ascii (by decide)
  | cons byte bytes ih =>
      rw [decode_cons] at member
      obtain ⟨soundAfter, written⟩ := sound_feed sound byte.toNat
      rcases List.mem_append.mp member with here | later
      · rcases written c here with wide | ⟨small, same⟩
        · omega
        · exact ⟨byte, List.mem_cons_self, same, small⟩
      · obtain ⟨found, within, same, small⟩ := ih soundAfter later
        exact ⟨found, List.mem_cons_of_mem _ within, same, small⟩

theorem decode_within {owed low high value : Nat} (wide : Wide owed low high value) (bytes : List UInt8) :
    ∃ c rest, (within owed low high value).decode bytes = c :: rest ∧ 0x80 ≤ c.toNat := by
  induction bytes generalizing owed low high value with
  | nil => exact ⟨replacement, [], rfl, replacement_wide⟩
  | cons byte bytes ih =>
      rw [decode_cons]
      unfold feed
      dsimp only
      split
      · rename_i fits
        cases owed with
        | zero => exact ⟨_, _, rfl, wide.2 _ fits.1 fits.2⟩
        | succ owed => exact ih (wide.2 _ fits.1 fits.2)
      · exact ⟨replacement, _, rfl, replacement_wide⟩

theorem decode_wide {byte : UInt8} (wide : ¬ byte.toNat < 0x80) (bytes : List UInt8) :
    ∃ c rest, start.decode (byte :: bytes) = c :: rest ∧ 0x80 ≤ c.toNat := by
  rw [decode_cons, feed]
  have sound := sound_begin byte.toNat
  cases begins : begin byte.toNat with
  | mk written state =>
      rw [begins] at sound
      cases written with
      | cons c written =>
          have first : c ∈ (begin byte.toNat).1 := by
            rw [begins]
            exact List.mem_cons_self
          rcases mem_begin first with above | ⟨small, _⟩
          · exact ⟨c, _, rfl, above⟩
          · exact absurd small wide
      | nil =>
          cases state with
          | start =>
              unfold begin at begins
              split_ifs at begins <;> cases begins
          | within owed low high value => exact decode_within sound bytes

end Utf8State

theorem fromUtf8Lossy_append_ascii (before : List UInt8) {byte : UInt8} (ascii : byte.toNat < 0x80) (after : List UInt8) :
    fromUtf8Lossy (before ++ byte :: after) = fromUtf8Lossy before ++ Char.ofNat byte.toNat :: fromUtf8Lossy after :=
  Utf8State.decode_ascii (show Utf8State.start.Sound from trivial) before ascii after

theorem fromUtf8Lossy_eq_nil {bytes : List UInt8} : fromUtf8Lossy bytes = [] ↔ bytes = [] := by
  refine ⟨fun decoded => ?_, fun empty => empty ▸ rfl⟩
  cases bytes with
  | nil => rfl
  | cons byte tail =>
      by_cases small : byte.toNat < 0x80
      · cases (fromUtf8Lossy_append_ascii [] small tail).symm.trans decoded
      · obtain ⟨c, rest, whole, _⟩ := Utf8State.decode_wide small tail
        cases whole.symm.trans decoded

theorem fromUtf8Lossy_cons_iff {bytes : List UInt8} {c : Char} {rest : List Char} (ascii : c.toNat < 0x80) :
    fromUtf8Lossy bytes = c :: rest ↔
      ∃ byte tail, bytes = byte :: tail ∧ c = Char.ofNat byte.toNat ∧ byte.toNat < 0x80 ∧ rest = fromUtf8Lossy tail := by
  constructor
  · intro decoded
    cases bytes with
    | nil => cases decoded
    | cons byte tail =>
        by_cases small : byte.toNat < 0x80
        · have whole := fromUtf8Lossy_append_ascii [] small tail
          rw [List.nil_append, decoded] at whole
          obtain ⟨rfl, rfl⟩ := List.cons.inj whole
          exact ⟨byte, tail, rfl, rfl, small, rfl⟩
        · obtain ⟨d, more, whole, wide⟩ := Utf8State.decode_wide small tail
          obtain ⟨rfl, _⟩ := List.cons.inj (decoded.symm.trans whole)
          omega
  · rintro ⟨byte, tail, rfl, rfl, small, rfl⟩
    exact fromUtf8Lossy_append_ascii [] small tail

def fromUtf8 (bytes : List UInt8) : Option (List Char) :=
  if utf8Encode (fromUtf8Lossy bytes) = bytes then some (fromUtf8Lossy bytes) else none

theorem fromUtf8_eq_some_iff {bytes : List UInt8} {text : List Char} : fromUtf8 bytes = some text ↔ utf8Encode text = bytes := by
  rw [fromUtf8]
  constructor
  · intro read
    split_ifs at read with whole
    obtain rfl := Option.some.inj read
    exact whole
  · rintro rfl
    rw [fromUtf8Lossy_encode, if_pos rfl]

/-! ## Whole characters -/

theorem utf8Encode_cons (c : Char) (text : List Char) : utf8Encode (c :: text) = String.utf8EncodeChar c ++ utf8Encode text :=
  List.flatMap_cons

theorem utf8Encode_append (first second : List Char) : utf8Encode (first ++ second) = utf8Encode first ++ utf8Encode second :=
  List.flatMap_append

def IsContinuation (b : UInt8) : Prop := 0x80 ≤ b.toNat ∧ b.toNat < 0xC0

theorem utf8EncodeChar_shape (c : Char) :
    (∃ b, String.utf8EncodeChar c = [b] ∧ b.toNat < 0x80) ∨
      ∃ lead next tail, String.utf8EncodeChar c = lead :: next :: tail ∧ 0xC0 ≤ lead.toNat ∧
        ∀ b ∈ next :: tail, IsContinuation b := by
  have valid : c.val.toNat < 0xD800 ∨ (0xDFFF < c.val.toNat ∧ c.val.toNat < 0x110000) := c.valid
  have value {n : Nat} (small : n < 256) : (UInt8.ofNat n).toNat = n := UInt8.toNat_ofNat_of_lt' small
  have continuation (n : Nat) : IsContinuation (UInt8.ofNat (n % 0x40 + 0x80)) := by
    rw [IsContinuation, value (by omega)]
    omega
  unfold String.utf8EncodeChar
  dsimp only
  generalize c.val.toNat = v at valid
  split
  next one =>
    refine .inl ⟨_, rfl, ?_⟩
    rw [value (by omega)]
    omega
  split
  next notOne two =>
    refine .inr ⟨_, _, _, rfl, ?_, ?_⟩
    · rw [value (by omega)]
      omega
    · simp only [List.mem_singleton, forall_eq, continuation]
  split
  next notTwo three =>
    refine .inr ⟨_, _, _, rfl, ?_, ?_⟩
    · rw [value (by omega)]
      omega
    · simp only [List.mem_cons, List.not_mem_nil, or_false, forall_eq_or_imp, forall_eq, continuation, and_self]
  next notThree =>
    refine .inr ⟨_, _, _, rfl, ?_, ?_⟩
    · rw [value (by omega)]
      omega
    · simp only [List.mem_cons, List.not_mem_nil, or_false, forall_eq_or_imp, forall_eq, continuation, and_self]

def IsUtf8 (bytes : List UInt8) : Prop := ∃ text, utf8Encode text = bytes

namespace IsUtf8

variable {before after : List UInt8}

theorem nil : IsUtf8 [] := ⟨[], rfl⟩

theorem append (first : IsUtf8 before) (second : IsUtf8 after) : IsUtf8 (before ++ after) := by
  obtain ⟨start, rfl⟩ := first
  obtain ⟨rest, rfl⟩ := second
  exact ⟨start ++ rest, utf8Encode_append start rest⟩

theorem cancel (first : IsUtf8 before) (whole : IsUtf8 (before ++ after)) : IsUtf8 after := by
  obtain ⟨start, rfl⟩ := first
  obtain ⟨text, encoded⟩ := whole
  induction start generalizing text with
  | nil => exact ⟨text, encoded⟩
  | cons c start ih =>
      have decoded := congrArg fromUtf8Lossy encoded
      rw [fromUtf8Lossy_encode, utf8Encode_cons, List.append_assoc, fromUtf8Lossy, Utf8State.decode_char] at decoded
      rw [decoded, utf8Encode_cons, utf8Encode_cons, List.append_assoc] at encoded
      exact ih _ (List.append_cancel_left encoded)

theorem not_continuation {b : UInt8} (continuation : IsContinuation b) : ¬IsUtf8 (b :: after) := by
  rintro ⟨text, encoded⟩
  obtain ⟨wide, short⟩ := continuation
  cases text with
  | nil => cases encoded
  | cons c text =>
      rw [utf8Encode_cons] at encoded
      rcases utf8EncodeChar_shape c with ⟨only, shape, small⟩ | ⟨lead, next, tail, shape, large, -⟩
      · rw [shape] at encoded
        obtain rfl := (List.cons.inj encoded).1
        omega
      · rw [shape] at encoded
        obtain rfl := (List.cons.inj encoded).1
        omega

theorem exists_continuation {b : UInt8} (wide : 0x80 ≤ b.toNat) (whole : IsUtf8 (b :: after)) :
    ∃ next rest, after = next :: rest ∧ IsContinuation next := by
  obtain ⟨text, encoded⟩ := whole
  cases text with
  | nil => cases encoded
  | cons c text =>
      rw [utf8Encode_cons] at encoded
      rcases utf8EncodeChar_shape c with ⟨only, shape, small⟩ | ⟨lead, next, tail, shape, -, continuations⟩
      · rw [shape] at encoded
        obtain rfl := (List.cons.inj encoded).1
        omega
      · rw [shape] at encoded
        exact ⟨next, _, (List.cons.inj encoded).2.symm, continuations next List.mem_cons_self⟩

theorem split {b : UInt8} (ascii : b.toNat < 0x80) (whole : IsUtf8 (before ++ b :: after)) : IsUtf8 before ∧ IsUtf8 after := by
  obtain ⟨text, encoded⟩ := whole
  induction text generalizing before with
  | nil => cases before <;> cases encoded
  | cons c text ih =>
      rw [utf8Encode_cons] at encoded
      rcases List.append_eq_append_iff.mp encoded with ⟨rest, later, tail⟩ | ⟨rest, here, tail⟩
      · obtain ⟨first, second⟩ := ih tail
        exact ⟨later ▸ append ⟨[c], by simp [utf8Encode]⟩ first, second⟩
      · cases rest with
        | nil =>
            obtain ⟨first, second⟩ := ih (show utf8Encode text = [] ++ b :: after from tail.symm)
            rw [List.append_nil] at here
            exact ⟨⟨[c], by simp [utf8Encode, here]⟩, second⟩
        | cons first rest =>
            obtain ⟨rfl, rfl⟩ := List.cons.inj tail
            rcases utf8EncodeChar_shape c with ⟨only, shape, small⟩ | ⟨lead, next, tail, shape, large, continuations⟩
            · have lengths := congrArg List.length (shape.symm.trans here)
              simp only [List.length_cons, List.length_nil, List.length_append] at lengths
              obtain rfl := List.eq_nil_of_length_eq_zero (show before.length = 0 by omega)
              obtain rfl := List.eq_nil_of_length_eq_zero (show rest.length = 0 by omega)
              exact ⟨nil, text, rfl⟩
            · have member : b ∈ lead :: next :: tail := by
                rw [← shape, here]
                simp
              rcases List.mem_cons.mp member with rfl | later
              · omega
              · exact absurd (continuations b later).1 (by omega)

end IsUtf8
end Lib
