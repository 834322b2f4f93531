import MacMgmt.Lib.SortedEntries

/-!
# JSON values

The values of `serde_json`, whose maps are iterated in the order of their keys.
-/

namespace Lib

structure NumberText where
  text : String
  shape : ∀ c ∈ text.toList, c.isDigit ∨ c ∈ ['+', '-', '.', 'e', 'E']

inductive JsonValue where
  | null
  | bool (value : Bool)
  | number (value : NumberText)
  | string (value : String)
  | array (items : List JsonValue)
  | object (fields : List (String × JsonValue))

namespace JsonValue

def field (value : JsonValue) (key : String) : Option JsonValue :=
  match value with
  | .object fields => fields.lookup key
  | _ => none

def asBool : JsonValue → Option Bool
  | .bool value => some value
  | _ => none

def asStr : JsonValue → Option String
  | .string value => some value
  | _ => none

def asArray : JsonValue → Option (List JsonValue)
  | .array items => some items
  | _ => none

def asObject : JsonValue → Option (List (String × JsonValue))
  | .object fields => some fields
  | _ => none

def isObject : JsonValue → Bool
  | .object _ => true
  | _ => false

/-- `as_u64`. Only a number without sign, fraction and exponent is read as an unsigned one. -/
def asU64 : JsonValue → Option Nat
  | .number value =>
      let digits := value.text.toList
      if digits ≠ [] ∧ digits.all Char.isDigit ∧ Nat.ofDigitChars 10 digits 0 < 2 ^ 64 then some (Nat.ofDigitChars 10 digits 0)
      else none
  | _ => none

def ofNat (value : Nat) : JsonValue :=
  .number {
    text := String.ofList (Nat.toDigits 10 value)
    shape := fun c member =>
      .inl (Nat.isDigit_of_mem_toDigits (by decide) (by decide) (String.toList_ofList ▸ member)) }

theorem asU64_ofNat {value : Nat} (fits : value < 2 ^ 64) : (ofNat value).asU64 = some value := by
  have digits : (Nat.toDigits 10 value).all Char.isDigit = true :=
    List.all_eq_true.mpr fun c member => Nat.isDigit_of_mem_toDigits (by decide) (by decide) member
  simp only [ofNat, asU64, String.toList_ofList, Nat.ofDigitChars_ten_toDigits, digits]
  exact if_pos ⟨Nat.toDigits_ne_nil, trivial, fits⟩

def valueAt (value : JsonValue) : List String → Option JsonValue
  | [] => some value
  | key :: path => (value.field key).bind fun member => member.valueAt path

theorem field_of_not_object {value : JsonValue} (nonObject : value.isObject = false) (key : String) :
    value.field key = none := by
  cases value with
  | object fields => simp [isObject] at nonObject
  | null | bool | number | string | array => rfl

end JsonValue

/-! ## Merge patches

`MergePatch` of RFC 7386. A member of a patch replaces the member of the target, or is merged into it where it is an object;
a null removes the member. A target that is no object counts as an empty one. -/

namespace JsonValue

/-- The members of every object stand in the order of their keys. -/
inductive Sorted : JsonValue → Prop where
  | null : Sorted .null
  | bool (value : Bool) : Sorted (.bool value)
  | number (value : NumberText) : Sorted (.number value)
  | string (value : String) : Sorted (.string value)
  | array {items : List JsonValue} (each : ∀ item ∈ items, Sorted item) : Sorted (.array items)
  | object {fields : List (String × JsonValue)} (sorted : KeySorted fields) (each : ∀ entry ∈ fields, Sorted entry.2) :
      Sorted (.object fields)

def isNull : JsonValue → Bool
  | .null => true
  | _ => false

def members : JsonValue → List (String × JsonValue)
  | .object fields => fields
  | _ => []

mutual

/-- No member of the value is null, nor one of its members' members. -/
def noNullMember : JsonValue → Bool
  | .object fields => noNullMembers fields
  | _ => true

def noNullMembers : List (String × JsonValue) → Bool
  | [] => true
  | (_, value) :: rest => !value.isNull && noNullMember value && noNullMembers rest

end

mutual

def mergePatch (target : JsonValue) : JsonValue → JsonValue
  | .object patch => .object (mergePatchMembers target.members patch)
  | patch => patch

def mergePatchMembers (fields : List (String × JsonValue)) : List (String × JsonValue) → List (String × JsonValue)
  | [] => fields
  | (key, value) :: rest =>
      mergePatchMembers
        (if value.isNull then eraseKey fields key
        else insertSorted fields key (mergePatch ((fields.lookup key).getD .null) value)) rest

end

/-- The value that a member has after the patch, from the one before. -/
def patched (merge : JsonValue → JsonValue → JsonValue) (old : Option JsonValue) (value : JsonValue) : Option JsonValue :=
  if value.isNull then none else some (merge (old.getD .null) value)

theorem noNullMembers_iff {fields : List (String × JsonValue)} :
    noNullMembers fields = true ↔ ∀ entry ∈ fields, entry.2.isNull = false ∧ entry.2.noNullMember = true := by
  induction fields with
  | nil => simp [noNullMembers]
  | cons entry rest ih => simp [noNullMembers, ih, and_assoc]

theorem mergePatchMembers_eq (fields patch : List (String × JsonValue)) :
    mergePatchMembers fields patch = mergeEntries (patched mergePatch) fields patch := by
  induction patch generalizing fields with
  | nil => rfl
  | cons entry rest ih =>
      obtain ⟨key, value⟩ := entry
      rw [mergePatchMembers, mergeEntries, ih, patched]
      cases value.isNull <;> rfl

theorem mergePatch_eq_self_iff {target value : JsonValue} (empty : target.members = []) (sorted : value.Sorted) :
    target.mergePatch value = value ↔ value.noNullMember = true := by
  induction sorted generalizing target with
  | null | bool | number | string | array => simp [mergePatch, noNullMember]
  | @object fields sorted _ ih =>
      rw [mergePatch, noNullMember, noNullMembers_iff, empty, object.injEq, mergePatchMembers_eq,
        mergeEntries_nil_eq_iff sorted]
      refine forall₂_congr fun entry member => ?_
      rw [patched]
      cases null : entry.2.isNull with
      | true => simp
      | false => simpa using ih entry member rfl

theorem keySorted_members {value : JsonValue} (sorted : value.Sorted) : KeySorted value.members := by
  cases sorted with
  | object sorted _ => exact sorted
  | null | bool | number | string | array => exact List.Pairwise.nil

theorem sorted_getD {value : JsonValue} (sorted : value.Sorted) (key : String) :
    ((value.members.lookup key).getD .null).Sorted := by
  cases sorted with
  | @object fields sorted each =>
      cases found : fields.lookup key with
      | none => simpa [members, found] using Sorted.null
      | some member =>
          have within := each (key, member) ((lookup_eq_some_iff sorted key member).mp found)
          simpa [members, found] using within
  | null | bool | number | string | array => exact Sorted.null

theorem Sorted.field {value : JsonValue} (sorted : value.Sorted) {key : String} {member : JsonValue}
    (found : value.field key = some member) : member.Sorted := by
  cases sorted with
  | object sorted each => exact each (key, member) ((lookup_eq_some_iff sorted key member).mp found)
  | null | bool | number | string | array => cases found

theorem Sorted.getD_field {value : JsonValue} (sorted : value.Sorted) (key : String) : ((value.field key).getD .null).Sorted := by
  cases sorted with
  | object sorted each => exact sorted_getD (.object sorted each) key
  | null | bool | number | string | array => exact Sorted.null

theorem ext_fields {first second : JsonValue} (sortedFirst : first.Sorted) (sortedSecond : second.Sorted)
    (firstObject : first.isObject = true) (secondObject : second.isObject = true) (same : ∀ key, first.field key = second.field key) :
    first = second := by
  cases sortedFirst with
  | null | bool | number | string | array => simp [isObject] at firstObject
  | object sortedFirst _ =>
      cases sortedSecond with
      | null | bool | number | string | array => simp [isObject] at secondObject
      | object sortedSecond _ => exact congrArg object (sortedFirst.ext sortedSecond same)

theorem mergePatch_idem {target patch : JsonValue} (sortedTarget : target.Sorted) (sortedPatch : patch.Sorted) :
    (target.mergePatch patch).mergePatch patch = target.mergePatch patch := by
  induction sortedPatch generalizing target with
  | null | bool | number | string | array => simp only [mergePatch]
  | @object fields sorted _ ih =>
      rw [mergePatch, mergePatch, object.injEq, members, mergePatchMembers_eq, mergePatchMembers_eq]
      refine mergeEntries_idem (keySorted_members sortedTarget) sorted fun entry member => ?_
      cases null : entry.2.isNull with
      | true => simp [patched, null]
      | false =>
          have again := ih entry member (sorted_getD sortedTarget entry.1)
          simpa [patched, null] using again

end JsonValue

end Lib
