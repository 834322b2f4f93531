import MacMgmt.Healer.SettingsTools

/-!
# The patch of a config as a merge patch

An object of the patch is copied as it is, nulls included, where the target has no object.
-/

namespace MacMgmt.Proof.SettingsTools
open Lib JsonValue Healer

theorem jsonMergePatchMembers_eq (fields patch : List (String × JsonValue)) :
    jsonMergePatchMembers fields patch = mergeEntries (patched jsonMergePatch) fields patch := by
  induction patch generalizing fields with
  | nil => rfl
  | cons entry rest ih =>
      obtain ⟨key, value⟩ := entry
      rw [jsonMergePatchMembers, mergeEntries, ih, patched]
      cases value.isNull <;> rfl

theorem membersCopyNoNull_iff {fields patch : List (String × JsonValue)} :
    membersCopyNoNull fields patch = true ↔
      ∀ entry ∈ patch, copiesNoNull ((fields.lookup entry.1).getD .null) entry.2 = true := by
  induction patch with
  | nil => simp [membersCopyNoNull]
  | cons entry rest ih => simp [membersCopyNoNull, ih]

theorem patched_eq_iff {merge merge' : JsonValue → JsonValue → JsonValue} {old : Option JsonValue} {value : JsonValue} :
    patched merge old value = patched merge' old value ↔
      (value.isNull = false → merge (old.getD .null) value = merge' (old.getD .null) value) := by
  cases null : value.isNull <;> simp [patched, null]

theorem copiesNoNull_null {value : JsonValue} (null : value.isNull = true) (target : JsonValue) :
    copiesNoNull target value = true := by
  cases value with
  | null => rfl
  | bool | number | string | array | object => cases null

theorem jsonMergePatch_eq_iff {target patch : JsonValue} (sorted : patch.Sorted) :
    jsonMergePatch target patch = target.mergePatch patch ↔ copiesNoNull target patch = true := by
  induction sorted generalizing target with
  | null | bool | number | string | array => simp [jsonMergePatch, mergePatch, copiesNoNull]
  | @object patch sorted each ih =>
      cases target with
      | object fields =>
          rw [jsonMergePatch, mergePatch, copiesNoNull, object.injEq, members, jsonMergePatchMembers_eq,
            mergePatchMembers_eq, mergeEntries_eq_iff fields sorted, membersCopyNoNull_iff]
          refine forall₂_congr fun entry member => ?_
          rw [patched_eq_iff, ih entry member]
          cases null : entry.2.isNull with
          | true => simp [copiesNoNull_null null]
          | false => simp
      | null | bool | number | string | array =>
          simp only [jsonMergePatch, copiesNoNull]
          rw [eq_comm, mergePatch_eq_self_iff rfl (.object sorted each), noNullMember]

theorem field_mergePatch (target : JsonValue) {patch : List (String × JsonValue)} (sorted : KeySorted patch)
    {entry : String × JsonValue} (member : entry ∈ patch) :
    (target.mergePatch (.object patch)).field entry.1 = patched mergePatch (target.members.lookup entry.1) entry.2 := by
  rw [mergePatch, field, mergePatchMembers_eq, lookup_mergeEntries _ sorted,
    (lookup_eq_some_iff sorted entry.1 entry.2).mpr member]

theorem nullsGone_mergePatch {target patch : JsonValue} (sorted : patch.Sorted) :
    NullsGone (target.mergePatch patch) patch := by
  induction sorted generalizing target with
  | null | bool | number | string | array => exact .plain fun _ same => by cases same
  | @object patch sorted each ih =>
      refine .object (fun entry member null => ?_) fun entry member null value found => ?_
      · rw [field_mergePatch target sorted member, patched, if_pos null]
      · rw [field_mergePatch target sorted member, patched, null] at found
        obtain rfl := Option.some.inj found
        exact ih entry member

theorem sorted_mergePatch_copies {target patch : JsonValue} (sorted : patch.Sorted) :
    copiesNoNull (target.mergePatch patch) patch = true := by
  induction sorted generalizing target with
  | null | bool | number | string | array => rfl
  | @object patch sorted each ih =>
      rw [mergePatch, copiesNoNull, membersCopyNoNull_iff]
      intro entry member
      have found := field_mergePatch target sorted member
      rw [mergePatch, field] at found
      rw [found, patched]
      cases null : entry.2.isNull with
      | true => exact copiesNoNull_null null _
      | false => exact ih entry member

/-- The result is that of the reference, has none of the patch's nulls, and is unchanged by the same patch. -/
structure MergesAsRfc (target patch : JsonValue) : Prop where
  same : jsonMergePatch target patch = target.mergePatch patch
  nullsGone : NullsGone (jsonMergePatch target patch) patch
  twice : jsonMergePatch (jsonMergePatch target patch) patch = jsonMergePatch target patch

theorem merges_as_rfc_iff (target patch : JsonValue) (sortedTarget : target.Sorted) (sortedPatch : patch.Sorted) :
    MergesAsRfc target patch ↔ copiesNoNull target patch = true := by
  constructor
  · intro merges
    exact (jsonMergePatch_eq_iff sortedPatch).mp merges.same
  · intro copies
    have same := (jsonMergePatch_eq_iff sortedPatch).mpr copies
    have copied : copiesNoNull (target.mergePatch patch) patch = true := sorted_mergePatch_copies sortedPatch
    have again := (jsonMergePatch_eq_iff sortedPatch).mpr copied
    refine ⟨same, same ▸ nullsGone_mergePatch sortedPatch, ?_⟩
    rw [same, again, mergePatch_idem sortedTarget sortedPatch]

theorem sorted_single {key : String} {value : JsonValue} (sorted : value.Sorted) : (JsonValue.object [(key, value)]).Sorted :=
  .object (List.pairwise_singleton _ _) (List.forall_mem_singleton.mpr sorted)

theorem merges_as_rfc_removed :
    MergesAsRfc (.object [("ollama", .object [("port", .string "1")])]) (.object [("ollama", .object [("port", .null)])]) :=
  (merges_as_rfc_iff _ _ (sorted_single (sorted_single (.string "1"))) (sorted_single (sorted_single .null))).mpr (by decide)

/-- The target has no `ollama`: the object of the patch is copied with its null. -/
theorem new_object_keeps_null :
    ¬ ∀ target patch : JsonValue, target.Sorted → patch.Sorted → MergesAsRfc target patch := by
  intro merges
  have sorted : (JsonValue.object [("ollama", .object [("port", .null)])]).Sorted := sorted_single (sorted_single .null)
  have empty : (JsonValue.object []).Sorted := .object List.Pairwise.nil (by simp)
  have copies := (jsonMergePatch_eq_iff sorted).mp (merges _ _ empty sorted).same
  exact absurd copies (by decide)

end MacMgmt.Proof.SettingsTools
