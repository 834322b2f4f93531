import MacMgmt.Server.Signatures
import Mathlib.Tactic.Common

/-!
# What a signature is checked for

The time is compared after a subtraction and an absolute value of 64 bits. The key is found behind a type name of any length, and what
follows the key is not looked at.
-/

namespace MacMgmt.Proof.Server.Signatures
open Lib MacMgmt.Server

/-! ## The time -/

/-- The check of the time is passed exactly within `maxAge` seconds. -/
def FreshExactly (result : Option (Except SignatureError Unit)) (now signedAt : Int64) (maxAge : Nat) : Prop :=
  result ≠ some (.error .signedAt) ↔ (now.toInt - signedAt.toInt).natAbs ≤ maxAge

theorem toInt_abs (value : Int64) :
    value.abs.toInt = if value.toInt = -9223372036854775808 then -9223372036854775808 else (value.toInt.natAbs : Int) := by
  have lowest : value.toBitVec = BitVec.intMin 64 ↔ value.toInt = -9223372036854775808 := by
    rw [← BitVec.toInt_inj]
    rfl
  have whole := BitVec.toInt_abs_eq_natAbs (x := value.toBitVec)
  simp only [lowest] at whole
  exact whole

theorem distance_cases (now signedAt : Int64) :
    ((now.toInt - signedAt.toInt).natAbs < 9223372036854775808 ∧
      (now - signedAt).toInt = now.toInt - signedAt.toInt) ∨
    (9223372036854775808 ≤ (now.toInt - signedAt.toInt).natAbs ∧ (now.toInt - signedAt.toInt).natAbs < 18446744073709551616 ∧
      (now - signedAt).toInt.natAbs = 18446744073709551616 - (now.toInt - signedAt.toInt).natAbs ∧
      (now - signedAt).toInt < 9223372036854775808) := by
  have := now.toInt_lt
  have := now.le_toInt
  have := signedAt.toInt_lt
  have := signedAt.le_toInt
  have wrapped := Int64.toInt_sub now signedAt
  rw [wrapped]
  simp only [Int.bmod]
  omega

theorem exact_iff (now signedAt : Int64) :
    (now - signedAt).abs.toInt = (now.toInt - signedAt.toInt).natAbs ↔
      (now.toInt - signedAt.toInt).natAbs < 9223372036854775808 := by
  rw [toInt_abs]
  obtain ⟨small, same⟩ | ⟨large, whole, wrapped, bounded⟩ := distance_cases now signedAt
  · rw [same]
    split <;> omega
  · split <;> omega

theorem passes_iff {maxAge : Int64} {bound : Nat} (age : maxAge.toInt = bound) (small : bound < 9223372036854775808) (now signedAt : Int64) :
    (¬ maxAge < (now - signedAt).abs ↔ (now.toInt - signedAt.toInt).natAbs ≤ bound) ↔
      (now.toInt - signedAt.toInt).natAbs ≠ 9223372036854775808 ∧
        (now.toInt - signedAt.toInt).natAbs < 18446744073709551616 - bound := by
  rw [Int64.lt_iff_toInt_lt, toInt_abs, age]
  obtain ⟨near, same⟩ | ⟨far, whole, wrapped, bounded⟩ := distance_cases now signedAt
  · rw [same]
    split <;> omega
  · split <;> omega

theorem verifyWith_ne {crypto : Crypto} {publicKey : List UInt8} {signature message : String} :
    crypto.verifyWith publicKey signature message ≠ some (.error .signedAt) := by
  intro stale
  obtain ⟨extracted, -, verified⟩ := Option.map_eq_some_iff.mp stale
  match extracted with
  | none => cases verified
  | some rawPk =>
      dsimp only at verified
      split at verified
      · cases verified
      · split at verified
        · cases verified
        · split at verified
          · cases verified
          · split at verified <;> cases verified

theorem verifySignature_signedAt {crypto : Crypto} {maxAge now signedAt : Int64} {instanceId publicKey signature : String}
    (given : ¬ (publicKey.isEmpty ∨ signature.isEmpty)) :
    crypto.verifySignature maxAge now instanceId signedAt publicKey signature = some (.error .signedAt) ↔
      maxAge < (now - signedAt).abs := by
  unfold Crypto.verifySignature
  rw [if_neg given]
  constructor
  · intro refused
    by_contra near
    rw [if_neg near] at refused
    split at refused
    · cases refused
    · split at refused
      · cases refused
      · exact verifyWith_ne refused
  · intro far
    rw [if_pos far]

theorem fresh_iff (crypto : Crypto) {maxAge now signedAt : Int64} {bound : Nat} {instanceId publicKey signature : String}
    (age : maxAge.toInt = bound) (small : bound < 9223372036854775808) (given : ¬ (publicKey.isEmpty ∨ signature.isEmpty)) :
    FreshExactly (crypto.verifySignature maxAge now instanceId signedAt publicKey signature) now signedAt bound ↔
      (now.toInt - signedAt.toInt).natAbs ≠ 9223372036854775808 ∧
        (now.toInt - signedAt.toInt).natAbs < 18446744073709551616 - bound := by
  rw [← passes_iff age small, ← verifySignature_signedAt given]
  rfl

/-! ## The key -/

def u32ToBeBytes (value : Nat) : List UInt8 :=
  [UInt8.ofNat (value / 16777216), UInt8.ofNat (value / 65536), UInt8.ofNat (value / 256), UInt8.ofNat value]

def sshEd25519 : List UInt8 := [115, 115, 104, 45, 101, 100, 50, 53, 53, 49, 57]

def wire (typeName key : List UInt8) : List UInt8 :=
  u32ToBeBytes typeName.length ++ typeName ++ u32ToBeBytes key.length ++ key

theorem u32_of_bytes {bytes : List UInt8} (four : bytes.length = 4) : u32ToBeBytes (u32FromBeBytes bytes) = bytes := by
  match bytes, four with
  | [a, b, c, d], _ =>
      have := a.toNat_lt
      have := b.toNat_lt
      have := c.toNat_lt
      have := d.toNat_lt
      simp only [u32ToBeBytes, u32FromBeBytes, List.foldl_cons, List.foldl_nil, List.cons.injEq, and_true]
      refine ⟨?_, ?_, ?_, ?_⟩ <;>
        (apply UInt8.toNat_inj.mp
         rw [UInt8.toNat_ofNat']
         omega)

theorem bytes_of_u32 {value : Nat} (small : value < 4294967296) : u32FromBeBytes (u32ToBeBytes value) = value := by
  simp only [u32FromBeBytes, u32ToBeBytes, List.foldl_cons, List.foldl_nil, UInt8.toNat_ofNat']
  omega

theorem u32_lt {bytes : List UInt8} (four : bytes.length = 4) : u32FromBeBytes bytes < 4294967296 := by
  match bytes, four with
  | [a, b, c, d], _ =>
      have := a.toNat_lt
      have := b.toNat_lt
      have := c.toNat_lt
      have := d.toNat_lt
      simp only [u32FromBeBytes, List.foldl_cons, List.foldl_nil]
      omega

theorem slice_after {before rest middle : List UInt8} {start stop width : Nat} (here : before.length = start) (there : start + width = stop) :
    slice (before ++ rest) start stop = some middle ↔ middle.length = width ∧ ∃ after, rest = middle ++ after := by
  subst here there
  unfold slice
  rw [List.take_length_add_append, List.drop_left, List.length_append]
  constructor
  · intro sliced
    split at sliced
    · rename_i within
      cases sliced
      refine ⟨?_, rest.drop width, (List.take_append_drop _ _).symm⟩
      rw [List.length_take]
      omega
    · cases sliced
  · rintro ⟨rfl, after, rfl⟩
    rw [List.take_left, List.length_append, if_pos (by omega)]

theorem slice_first {data first : List UInt8} {width : Nat} :
    slice data 0 width = some first ↔ first.length = width ∧ ∃ after, data = first ++ after :=
  slice_after (show ([] : List UInt8).length = 0 from rfl) (Nat.zero_add width)

theorem slice_of_le {data : List UInt8} {start stop : Nat} (ordered : start ≤ stop) (within : stop ≤ data.length) :
    ∃ middle, slice data start stop = some middle ∧ middle.length = stop - start := by
  refine ⟨_, if_pos ⟨ordered, within⟩, ?_⟩
  rw [List.length_drop, List.length_take]
  omega

theorem split_at {data : List UInt8} {width : Nat} (within : width ≤ data.length) :
    ∃ first rest, data = first ++ rest ∧ first.length = width :=
  ⟨data.take width, data.drop width, (List.take_append_drop _ _).symm, List.length_take_of_le within⟩

theorem extract_bounds (data : List UInt8) : ∃ result, extractEd25519Pubkey data = some result := by
  unfold extractEd25519Pubkey
  split
  · exact ⟨_, rfl⟩
  · rename_i long
    obtain ⟨typeLen, first, -⟩ := slice_of_le (Nat.zero_le 4) (Nat.not_lt.mp long)
    rw [first, Option.bind_some]
    dsimp only
    split
    · exact ⟨_, rfl⟩
    · rename_i longer
      obtain ⟨keyLen, second, -⟩ := slice_of_le (Nat.le_add_right _ 4) (Nat.not_lt.mp longer)
      rw [second, Option.bind_some]
      split
      · exact ⟨_, rfl⟩
      · rename_i longest
        obtain ⟨key, third, -⟩ := slice_of_le (Nat.le_add_right _ 32) (Nat.not_lt.mp (not_or.mp longest).2)
        rw [third]
        exact ⟨_, rfl⟩

theorem extract_eq_some_iff {data key : List UInt8} :
    extractEd25519Pubkey data = some (some key) ↔
      ∃ typeName rest, typeName.length < 4294967296 ∧ key.length = 32 ∧ data = wire typeName key ++ rest := by
  constructor
  · intro extracted
    unfold extractEd25519Pubkey at extracted
    split at extracted
    · cases extracted
    · obtain ⟨typeLen, first, extracted⟩ := Option.bind_eq_some_iff.mp extracted
      dsimp only at extracted
      split at extracted
      · cases extracted
      · rename_i longer
        obtain ⟨keyLen, second, extracted⟩ := Option.bind_eq_some_iff.mp extracted
        split at extracted
        · cases extracted
        · rename_i fits
          obtain ⟨keyBytes, third, extracted⟩ := Option.map_eq_some_iff.mp extracted
          split at extracted
          · rename_i whole
            cases extracted
            obtain ⟨four, named, rfl⟩ := slice_first.mp first
            rw [List.length_append, four] at longer
            obtain ⟨typeName, named, rfl, name⟩ := split_at (show u32FromBeBytes typeLen ≤ named.length by omega)
            rw [← List.append_assoc] at second third
            have before : (typeLen ++ typeName).length = 4 + u32FromBeBytes typeLen := by rw [List.length_append, four, name]
            obtain ⟨fourKey, keyed, afterName⟩ := (slice_after before rfl).mp second
            rw [afterName, ← List.append_assoc] at third
            obtain ⟨-, rest, afterLen⟩ := (slice_after (by rw [List.length_append, before, fourKey]) rfl).mp third
            refine ⟨typeName, rest, name ▸ u32_lt four, whole, ?_⟩
            rw [wire, name, whole, u32_of_bytes four, ← not_not.mp (not_or.mp fits).1, u32_of_bytes fourKey, afterName, afterLen]
            simp only [List.append_assoc]
          · cases extracted
  · rintro ⟨typeName, rest, small, whole, rfl⟩
    have typeLen : slice (wire typeName key ++ rest) 0 4 = some (u32ToBeBytes typeName.length) :=
      slice_first.mpr ⟨rfl, _, by simp only [wire, List.append_assoc]; rfl⟩
    have keyLen : slice (wire typeName key ++ rest) (4 + typeName.length) (4 + typeName.length + 4) = some (u32ToBeBytes 32) := by
      rw [wire, whole, List.append_assoc, List.append_assoc]
      exact (slice_after (by rw [List.length_append]; rfl) rfl).mpr ⟨rfl, _, rfl⟩
    have keyBytes : slice (wire typeName key ++ rest) (4 + typeName.length + 4) (4 + typeName.length + 4 + 32) = some key := by
      rw [wire, List.append_assoc]
      refine (slice_after ?_ rfl).mpr ⟨whole, _, rfl⟩
      rw [List.length_append, List.length_append]
      rfl
    have long : (wire typeName key ++ rest).length = 4 + typeName.length + 4 + 32 + rest.length := by
      simp only [wire, u32ToBeBytes, List.length_append, List.length_cons, List.length_nil, whole]
    unfold extractEd25519Pubkey
    rw [if_neg (by omega), typeLen, Option.bind_some, bytes_of_u32 small]
    dsimp only
    rw [if_neg (by omega), keyLen, Option.bind_some, bytes_of_u32 (by decide), if_neg (by omega), keyBytes, Option.map_some, if_pos whole]

def Foreign (data : List UInt8) : Prop :=
  ∃ typeName key rest, typeName.length < 4294967296 ∧ key.length = 32 ∧ data = wire typeName key ++ rest ∧
    (typeName ≠ sshEd25519 ∨ rest ≠ [])

theorem wire_unique {typeName key rest : List UInt8} (small : typeName.length < 4294967296)
    (same : wire typeName key ++ rest = wire sshEd25519 key) : typeName = sshEd25519 ∧ rest = [] := by
  simp only [wire, List.append_assoc] at same
  obtain ⟨lengths, same⟩ := List.append_inj same rfl
  have eleven := congrArg u32FromBeBytes lengths
  rw [bytes_of_u32 small, bytes_of_u32 (by decide)] at eleven
  obtain ⟨names, same⟩ := List.append_inj same eleven
  have nothing := congrArg List.length same
  rw [List.length_append, List.length_append, List.length_append] at nothing
  exact ⟨names, List.length_eq_zero_iff.mp (by omega)⟩

structure SignaturesChecked (crypto : Crypto) (now signedAt : Int64) (data : List UInt8) : Prop where
  heartbeat : ∀ body : HeartbeatBody, body.signedAt = signedAt → ¬ (body.publicKey.isEmpty ∨ body.signature.isEmpty) →
    FreshExactly (crypto.verifyHeartbeatSignature now body) now signedAt 120
  assessment : ∀ instanceId publicKey signature : String, ¬ (publicKey.isEmpty ∨ signature.isEmpty) →
    FreshExactly (crypto.verifyAssessmentSignature now instanceId signedAt publicKey signature) now signedAt 300
  exact : (now - signedAt).abs.toInt = (now.toInt - signedAt.toInt).natAbs
  key : ∃ result, extractEd25519Pubkey data = some result ∧
    ∀ key, result = some key ↔ key.length = 32 ∧ data = wire sshEd25519 key

theorem key_iff (data : List UInt8) :
    (∃ result, extractEd25519Pubkey data = some result ∧ ∀ key, result = some key ↔ key.length = 32 ∧ data = wire sshEd25519 key) ↔
      ¬ Foreign data := by
  constructor
  · rintro ⟨result, extracted, exactly⟩ ⟨typeName, key, rest, small, whole, split, foreign⟩
    have found := extract_eq_some_iff.mpr ⟨typeName, rest, small, whole, split⟩
    rw [extracted] at found
    obtain ⟨-, plain⟩ := (exactly key).mp (Option.some.inj found)
    obtain ⟨rfl, rfl⟩ := wire_unique small (split.symm.trans plain)
    exact foreign.elim (absurd rfl) (absurd rfl)
  · intro own
    obtain ⟨result, extracted⟩ := extract_bounds data
    refine ⟨result, extracted, fun key => ⟨fun found => ?_, fun ⟨whole, split⟩ => ?_⟩⟩
    · subst found
      obtain ⟨typeName, rest, small, whole, split⟩ := extract_eq_some_iff.mp extracted
      have plain := not_or.mp fun foreign => own ⟨typeName, key, rest, small, whole, split, foreign⟩
      rw [not_not.mp plain.1, not_not.mp plain.2, List.append_nil] at split
      exact ⟨whole, split⟩
    · have found := extract_eq_some_iff.mpr ⟨sshEd25519, [], by decide, whole, split.trans (List.append_nil _).symm⟩
      rw [extracted] at found
      exact Option.some.inj found

/-- Both checks of the time and the key are as they should be iff nothing overflows and the type name is the right one, with nothing
after the key. -/
theorem signatures_iff (crypto : Crypto) (now signedAt : Int64) (data : List UInt8) :
    SignaturesChecked crypto now signedAt data ↔
      (now.toInt - signedAt.toInt).natAbs < 9223372036854775808 ∧ ¬ Foreign data := by
  constructor
  · rintro ⟨-, -, exact, key⟩
    exact ⟨(exact_iff now signedAt).mp exact, (key_iff data).mp key⟩
  · rintro ⟨near, own⟩
    refine ⟨?_, ?_, (exact_iff now signedAt).mpr near, (key_iff data).mpr own⟩
    · rintro body rfl given
      exact (fresh_iff crypto rfl (by decide) given).mpr ⟨by omega, by omega⟩
    · intro instanceId publicKey signature given
      exact (fresh_iff crypto rfl (by decide) given).mpr ⟨by omega, by omega⟩

def zeroKey : List UInt8 :=
  [0, 0, 0, 11, 115, 115, 104, 45, 101, 100, 50, 53, 53, 49, 57, 0, 0, 0, 32] ++ List.replicate 32 0

/-- A heartbeat that was signed `2 ^ 63` seconds ago is accepted. -/
theorem longAgo_accepted :
    ∃ (crypto : Crypto) (body : HeartbeatBody), body.signedAt = -9223372035087550208 ∧
      crypto.verifyHeartbeatSignature 1767225600 body = some (.ok ()) ∧
      ¬ SignaturesChecked crypto 1767225600 (-9223372035087550208) [] := by
  refine ⟨⟨Unit, Unit, fun _ => [], fun _ => some (), fun _ => some (), fun _ _ _ => true⟩,
    ⟨"", -9223372035087550208, String.ofList (base64Encode zeroKey), String.ofList (base64Encode [0])⟩, rfl, ?_,
    fun checked => ?_⟩
  · have filled (bytes : List UInt8) (some : bytes ≠ []) : (String.ofList (base64Encode bytes)).isEmpty = false := by
      rw [Bool.eq_false_iff, ne_eq, String.isEmpty_iff, ← String.toList_inj, String.toList_ofList]
      intro empty
      have decoded := base64Decode_encode bytes
      rw [empty] at decoded
      cases decoded
      exact some rfl
    rw [Crypto.verifyHeartbeatSignature, Crypto.verifySignature, if_neg (by rw [filled _ (by decide), filled _ (by decide)]; decide),
      if_neg (by decide), String.toList_ofList, base64Decode_encode]
    dsimp only
    rw [if_neg (by decide), Crypto.verifyWith, String.toList_ofList, base64Decode_encode]
    decide
  · have near := checked.exact
    revert near
    decide

end MacMgmt.Proof.Server.Signatures
