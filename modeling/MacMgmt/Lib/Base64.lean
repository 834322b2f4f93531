import Mathlib.Data.List.Basic

/-!
# Base64 and hexadecimal texts

The standard alphabet with padding. The decoder refuses a text whose padding or whose unused bits are not those that the
encoder writes.
-/

namespace Lib

def base64Alphabet : List Char := "ABCDEFGHIJKLMNOPQRSTUVWXYZabcdefghijklmnopqrstuvwxyz0123456789+/".toList

def base64Char (value : Nat) : Char := base64Alphabet.getD value '='

def base64Value (c : Char) : Option Nat := base64Alphabet.findIdx? (· = c)

def base64Encode : List UInt8 → List Char
  | [] => []
  | [a] => [base64Char (a.toNat / 4), base64Char (a.toNat % 4 * 16), '=', '=']
  | [a, b] =>
      [base64Char (a.toNat / 4), base64Char (a.toNat % 4 * 16 + b.toNat / 16), base64Char (b.toNat % 16 * 4), '=']
  | a :: b :: c :: bytes =>
      base64Char (a.toNat / 4) :: base64Char (a.toNat % 4 * 16 + b.toNat / 16) ::
        base64Char (b.toNat % 16 * 4 + c.toNat / 64) :: base64Char (c.toNat % 64) :: base64Encode bytes

/-- Four characters; only the last four of a text may be padded. -/
def base64Group (w x y z : Char) (last : Bool) : Option (List UInt8) :=
  match base64Value w, base64Value x, base64Value y, base64Value z with
  | some a, some b, some c, some d =>
      some [UInt8.ofNat (a * 4 + b / 16), UInt8.ofNat (b % 16 * 16 + c / 4), UInt8.ofNat (c % 4 * 64 + d)]
  | some a, some b, some c, none =>
      if z = '=' ∧ last ∧ c % 4 = 0 then some [UInt8.ofNat (a * 4 + b / 16), UInt8.ofNat (b % 16 * 16 + c / 4)] else none
  | some a, some b, none, none =>
      if y = '=' ∧ z = '=' ∧ last ∧ b % 16 = 0 then some [UInt8.ofNat (a * 4 + b / 16)] else none
  | _, _, _, _ => none

def base64Decode : List Char → Option (List UInt8)
  | [] => some []
  | w :: x :: y :: z :: text =>
      (base64Group w x y z text.isEmpty).bind fun group => (base64Decode text).map (group ++ ·)
  | _ => none

theorem base64Value_char {value : Nat} (small : value < 64) : base64Value (base64Char value) = some value := by
  have all : ∀ value : Fin 64, base64Value (base64Char value) = some value.val := by decide +kernel
  exact all ⟨value, small⟩

theorem base64Value_padding : base64Value '=' = none := by decide +kernel

theorem ofNat_eq_of_toNat {value : Nat} (byte : UInt8) (same : value = byte.toNat) : UInt8.ofNat value = byte := by
  rw [same, UInt8.ofNat_toNat]

theorem base64Group_full (a b c : UInt8) (last : Bool) :
    base64Group (base64Char (a.toNat / 4)) (base64Char (a.toNat % 4 * 16 + b.toNat / 16))
      (base64Char (b.toNat % 16 * 4 + c.toNat / 64)) (base64Char (c.toNat % 64)) last = some [a, b, c] := by
  have first := a.toNat_lt
  have second := b.toNat_lt
  have third := c.toNat_lt
  rw [base64Group, base64Value_char (by omega), base64Value_char (by omega), base64Value_char (by omega),
    base64Value_char (by omega)]
  dsimp only
  rw [ofNat_eq_of_toNat a (by omega), ofNat_eq_of_toNat b (by omega),
    ofNat_eq_of_toNat c (by omega)]

theorem base64Group_two (a b : UInt8) :
    base64Group (base64Char (a.toNat / 4)) (base64Char (a.toNat % 4 * 16 + b.toNat / 16))
      (base64Char (b.toNat % 16 * 4)) '=' true = some [a, b] := by
  have first := a.toNat_lt
  have second := b.toNat_lt
  rw [base64Group, base64Value_char (by omega), base64Value_char (by omega), base64Value_char (by omega),
    base64Value_padding]
  dsimp only
  rw [if_pos ⟨rfl, rfl, by omega⟩, ofNat_eq_of_toNat a (by omega), ofNat_eq_of_toNat b (by omega)]

theorem base64Group_one (a : UInt8) :
    base64Group (base64Char (a.toNat / 4)) (base64Char (a.toNat % 4 * 16)) '=' '=' true = some [a] := by
  have first := a.toNat_lt
  rw [base64Group, base64Value_char (by omega), base64Value_char (by omega), base64Value_padding]
  dsimp only
  rw [if_pos ⟨rfl, rfl, rfl, by omega⟩, ofNat_eq_of_toNat a (by omega)]

theorem base64Decode_encode (bytes : List UInt8) : base64Decode (base64Encode bytes) = some bytes := by
  fun_induction base64Encode bytes with
  | case1 => rfl
  | case2 a => rw [base64Decode, List.isEmpty_nil, base64Group_one]; rfl
  | case3 a b => rw [base64Decode, List.isEmpty_nil, base64Group_two]; rfl
  | case4 a b c bytes ih => rw [base64Decode, base64Group_full, ih]; rfl

/-! ## The alphabet for URLs, without padding -/

def base64UrlChar (c : Char) : Option Char :=
  if c = '=' then none else if c = '+' then some '-' else if c = '/' then some '_' else some c

def base64UrlEncode (bytes : List UInt8) : List Char := (base64Encode bytes).filterMap base64UrlChar

def base64UrlDecode (text : List Char) : Option (List UInt8) :=
  if text.any (fun c => c = '+' || c = '/' || c = '=') then none
  else
    let standard := text.map fun c => if c = '-' then '+' else if c = '_' then '/' else c
    base64Decode (standard ++ List.replicate ((4 - text.length % 4) % 4) '=')

theorem slash_not_mem_base64UrlEncode (bytes : List UInt8) : '/' ∉ base64UrlEncode bytes := by
  intro member
  obtain ⟨c, _, written⟩ := List.mem_filterMap.mp member
  unfold base64UrlChar at written
  grind

/-! ## Hexadecimal texts

Two digits for each byte, written in lower case and read in either. -/

def hexDigit (value : Nat) : Char := Char.ofNat (if value < 10 then 48 + value else 87 + value)

def hexValue (digit : Char) : Option Nat :=
  if '0' ≤ digit ∧ digit ≤ '9' then some (digit.toNat - 48)
  else if 'a' ≤ digit ∧ digit ≤ 'f' then some (digit.toNat - 87)
  else if 'A' ≤ digit ∧ digit ≤ 'F' then some (digit.toNat - 55)
  else none

def hexEncode (bytes : List UInt8) : List Char :=
  bytes.flatMap fun byte => [hexDigit (byte.toNat / 16), hexDigit (byte.toNat % 16)]

def hexDecode : List Char → Option (List UInt8)
  | [] => some []
  | [_] => none
  | high :: low :: rest =>
      match hexValue high, hexValue low, hexDecode rest with
      | some high, some low, some bytes => some (UInt8.ofNat (16 * high + low) :: bytes)
      | _, _, _ => none

theorem hexValue_hexDigit : ∀ value < 16, hexValue (hexDigit value) = some value := by
  decide

theorem hexDecode_hexEncode (bytes : List UInt8) : hexDecode (hexEncode bytes) = some bytes := by
  induction bytes with
  | nil => rfl
  | cons byte bytes ih =>
      have high : byte.toNat / 16 < 16 := Nat.div_lt_of_lt_mul byte.toNat_lt
      have low : byte.toNat % 16 < 16 := Nat.mod_lt _ (by decide)
      have split : hexEncode (byte :: bytes) =
          hexDigit (byte.toNat / 16) :: hexDigit (byte.toNat % 16) :: hexEncode bytes := rfl
      rw [split, hexDecode, hexValue_hexDigit _ high, hexValue_hexDigit _ low, ih]
      simp only [Nat.div_add_mod, UInt8.ofNat_toNat]

theorem hexEncode_injective : Function.Injective hexEncode := by
  intro first second same
  have decoded := congrArg hexDecode same
  rw [hexDecode_hexEncode, hexDecode_hexEncode] at decoded
  exact Option.some.inj decoded

end Lib
