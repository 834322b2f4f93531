import MacMgmt.Lib.JsonValue

/-!
# The patch of a config

`json_merge_patch` of `mac-mgmt-healer/src/settings_tools.rs`.
-/

namespace MacMgmt.Healer
open Lib JsonValue

mutual

def jsonMergePatch (target : JsonValue) : JsonValue → JsonValue
  | .object patch =>
      match target with
      | .object fields => .object (jsonMergePatchMembers fields patch)
      | _ => .object patch
  | patch => patch

/-- A member that is missing is added as null before its value is merged into it. -/
def jsonMergePatchMembers (fields : List (String × JsonValue)) : List (String × JsonValue) → List (String × JsonValue)
  | [] => fields
  | (key, value) :: rest =>
      jsonMergePatchMembers
        (if value.isNull then eraseKey fields key
        else insertSorted fields key (jsonMergePatch ((fields.lookup key).getD .null) value)) rest

end

/-! ## Where the patch is copied -/

mutual

/-- Where the patch has an object and the target none, that object has no null members. -/
def copiesNoNull (target : JsonValue) : JsonValue → Bool
  | .object patch =>
      match target with
      | .object fields => membersCopyNoNull fields patch
      | _ => noNullMembers patch
  | _ => true

def membersCopyNoNull (fields : List (String × JsonValue)) : List (String × JsonValue) → Bool
  | [] => true
  | (key, value) :: rest => copiesNoNull ((fields.lookup key).getD .null) value && membersCopyNoNull fields rest

end

/-- Where the patch has a null member the result has no member, to any depth. -/
inductive NullsGone : JsonValue → JsonValue → Prop where
  | plain {result patch : JsonValue} (plain : ∀ members, patch ≠ .object members) : NullsGone result patch
  | object {result : JsonValue} {patch : List (String × JsonValue)}
      (removed : ∀ entry ∈ patch, entry.2.isNull = true → result.field entry.1 = none)
      (merged : ∀ entry ∈ patch, entry.2.isNull = false → ∀ member, result.field entry.1 = some member →
        NullsGone member entry.2) :
      NullsGone result (.object patch)

end MacMgmt.Healer
