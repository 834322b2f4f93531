import MacMgmt.Agent.EnvFiles

/-!
# Merging configurations

What `merge_json` leaves at a path, and patches that are merged one after the other.
-/

namespace MacMgmt.Proof.MergeJson
open Lib MacMgmt.Agent

variable {target patch later : JsonValue}

/-! ## One member -/

def mergedMember (old : Option JsonValue) (value : JsonValue) : Option JsonValue := some (mergeJson (old.getD .null) value)

theorem mergeFields_eq (fields source : List (String × JsonValue)) :
    mergeFields fields source = mergeEntries mergedMember fields source := by
  induction source generalizing fields with
  | nil => rfl
  | cons entry rest ih => rw [mergeFields, mergeEntries, ih, mergedMember]

theorem mergeJson_null (patch : JsonValue) : mergeJson .null patch = patch := by
  cases patch <;> rfl

theorem mergeJson_of_not_object (target : JsonValue) (nonObject : patch.isObject = false) :
    mergeJson target patch = patch := by
  cases patch with
  | object source => simp [JsonValue.isObject] at nonObject
  | null | bool | number | string | array => simp only [mergeJson]

theorem mergeJson_into_not_object (nonObject : target.isObject = false) : mergeJson target patch = patch := by
  cases patch with
  | object source =>
      cases target with
      | object fields => simp [JsonValue.isObject] at nonObject
      | null | bool | number | string | array => simp only [mergeJson]
  | null | bool | number | string | array => simp only [mergeJson]

theorem isObject_mergeJson (target patch : JsonValue) : (mergeJson target patch).isObject = patch.isObject := by
  cases patch with
  | object source => cases target <;> simp [mergeJson, JsonValue.isObject]
  | null | bool | number | string | array => simp only [mergeJson]

theorem field_mergeJson (target : JsonValue) (sorted : patch.Sorted) (object : patch.isObject = true) (key : String) :
    (mergeJson target patch).field key =
      match patch.field key with
      | none => target.field key
      | some value => some (mergeJson ((target.field key).getD .null) value) := by
  cases sorted with
  | null | bool | number | string | array => simp [JsonValue.isObject] at object
  | @object source sorted _ =>
      cases target with
      | object fields =>
          have merged : (mergeEntries mergedMember fields source).lookup key = _ := lookup_mergeEntries fields sorted key
          rw [mergeJson, mergeFields_eq]
          refine Eq.trans merged ?_
          simp only [JsonValue.field]
          cases source.lookup key <;> rfl
      | null | bool | number | string | array =>
          simp only [mergeJson, JsonValue.field, Option.getD_none, mergeJson_null]
          cases source.lookup key <;> rfl

theorem sorted_mergeJson (sortedTarget : target.Sorted) (sortedPatch : patch.Sorted) : (mergeJson target patch).Sorted := by
  induction sortedPatch generalizing target with
  | null | bool | number | string => simpa only [mergeJson] using by constructor
  | array each => simpa only [mergeJson] using .array each
  | @object source sorted each ih =>
      cases sortedTarget with
      | null | bool | number | string | array => simpa only [mergeJson] using .object sorted each
      | @object fields sortedFields eachField =>
          have sortedMerged : KeySorted (mergeFields fields source) := mergeFields_eq fields source ▸ sortedFields.mergeEntries source
          rw [mergeJson]
          refine .object sortedMerged fun entry member => ?_
          have found := field_mergeJson (.object fields) (.object sorted each) rfl entry.1
          simp only [mergeJson, JsonValue.field] at found
          rw [(lookup_eq_some_iff sortedMerged entry.1 entry.2).mpr member] at found
          cases given : source.lookup entry.1 with
          | none =>
              rw [given] at found
              exact eachField entry ((lookup_eq_some_iff sortedFields entry.1 entry.2).mp found.symm)
          | some value =>
              rw [given] at found
              rw [Option.some.inj found]
              exact ih (entry.1, value) ((lookup_eq_some_iff sorted entry.1 value).mp given)
                (JsonValue.sorted_getD (.object sortedFields eachField) entry.1)

/-! ## The two implementations -/

mutual

theorem config_mergeJson : ∀ base overlay, Config.mergeJson base overlay = mergeJson base overlay
  | base, .object source => by
      cases base with
      | object fields => rw [Config.mergeJson, mergeJson, config_mergeMembers fields source]
      | null | bool | number | string | array => simp only [Config.mergeJson, mergeJson]
  | _, .null | _, .bool _ | _, .number _ | _, .string _ | _, .array _ => by simp only [Config.mergeJson, mergeJson]

theorem config_mergeMembers : ∀ fields source, Config.mergeMembers fields source = mergeFields fields source
  | _, [] => rfl
  | fields, (key, value) :: rest => by
      rw [Config.mergeMembers, mergeFields, config_mergeJson _ value, config_mergeMembers _ rest]

end

/-! ## Paths -/

def Cut (patch : JsonValue) (path : List String) : Prop :=
  ∃ front value, front <+: path ∧ patch.valueAt front = some value ∧ value.isObject = false

theorem cut_cons {key : String} {path : List String} (object : patch.isObject = true) :
    Cut patch (key :: path) ↔ ∃ member, patch.field key = some member ∧ Cut member path := by
  constructor
  · rintro ⟨front, value, within, found, nonObject⟩
    cases front with
    | nil =>
        obtain rfl := Option.some.inj found
        simp [object] at nonObject
    | cons head front =>
        obtain ⟨rfl, under⟩ := List.cons_prefix_cons.mp within
        obtain ⟨member, given, found⟩ := Option.bind_eq_some_iff.mp found
        exact ⟨member, given, front, value, under, found, nonObject⟩
  · rintro ⟨member, given, front, value, within, found, nonObject⟩
    refine ⟨key :: front, value, List.cons_prefix_cons.mpr ⟨rfl, within⟩, ?_, nonObject⟩
    rw [JsonValue.valueAt, given, Option.bind_some, found]

theorem valueAt_getD_null (old : Option JsonValue) {path : List String} (below : path ≠ []) :
    (old.getD .null).valueAt path = old.bind fun member => member.valueAt path := by
  cases path with
  | nil => exact absurd rfl below
  | cons key path => cases old <;> rfl

theorem getD_valueAt_getD (old : Option JsonValue) (path : List String) :
    ((old.getD .null).valueAt path).getD .null = (old.bind fun member => member.valueAt path).getD .null := by
  cases old with
  | some member => rfl
  | none => cases path <;> rfl

theorem valueAt_mergeJson (sorted : patch.Sorted) (target : JsonValue) (path : List String) :
    (∀ value, patch.valueAt path = some value →
      (mergeJson target patch).valueAt path = some (mergeJson ((target.valueAt path).getD .null) value)) ∧
    (patch.valueAt path = none → Cut patch path → (mergeJson target patch).valueAt path = none) ∧
    (patch.valueAt path = none → ¬Cut patch path → (mergeJson target patch).valueAt path = target.valueAt path) := by
  induction path generalizing target patch with
  | nil => simp [JsonValue.valueAt]
  | cons key path ih =>
      cases object : patch.isObject with
      | false =>
          have cut : Cut patch (key :: path) := ⟨[], patch, List.nil_prefix, rfl, object⟩
          have nothing : patch.valueAt (key :: path) = none := by
            rw [JsonValue.valueAt, JsonValue.field_of_not_object object, Option.bind_none]
          rw [mergeJson_of_not_object target object, nothing]
          exact ⟨by simp, fun _ _ => rfl, fun _ uncut => absurd cut uncut⟩
      | true =>
          rw [cut_cons object]
          simp only [JsonValue.valueAt, field_mergeJson target sorted object]
          cases given : patch.field key with
          | none => simp
          | some member =>
              have below := ih (sorted.field given) ((target.field key).getD .null)
              rw [getD_valueAt_getD] at below
              refine ⟨below.1, fun nothing cut => ?_, fun nothing uncut => ?_⟩
              · obtain ⟨_, same, cut⟩ := cut
                exact below.2.1 nothing (Option.some.inj same ▸ cut)
              · have deeper : path ≠ [] := by
                  rintro rfl
                  cases nothing
                rw [← valueAt_getD_null (target.field key) deeper]
                exact below.2.2 nothing fun cut => uncut ⟨member, rfl, cut⟩

/-! ## Patches one after the other -/

theorem mergeJson_idem (sortedTarget : target.Sorted) (sortedPatch : patch.Sorted) :
    mergeJson (mergeJson target patch) patch = mergeJson target patch := by
  induction sortedPatch generalizing target with
  | null | bool | number | string | array => simp only [mergeJson]
  | @object source sorted each ih =>
      have sortedSource := JsonValue.Sorted.object sorted each
      have sortedOnce := sorted_mergeJson sortedTarget sortedSource
      refine JsonValue.ext_fields (sorted_mergeJson sortedOnce sortedSource) sortedOnce (isObject_mergeJson _ _)
        (isObject_mergeJson _ _) fun key => ?_
      rw [field_mergeJson _ sortedSource rfl, field_mergeJson _ sortedSource rfl]
      simp only [JsonValue.field]
      cases given : source.lookup key with
      | none => rfl
      | some value =>
          have again := ih (key, value) ((lookup_eq_some_iff sorted key value).mp given) (sortedTarget.getD_field key)
          exact congrArg some again

/-- No path leads to a value that is no object in the first patch and to an object in the later one. -/
def Composable (patch later : JsonValue) : Prop :=
  ∀ path value after, patch.valueAt path = some value → value.isObject = false → later.valueAt path = some after →
    after.isObject = false

theorem Composable.member (composable : Composable patch later) {key : String} {value after : JsonValue}
    (given : patch.field key = some value) (givenLater : later.field key = some after) : Composable value after := by
  intro path old new found nonObject foundLater
  refine composable (key :: path) old new ?_ nonObject ?_
  · rw [JsonValue.valueAt, given, Option.bind_some, found]
  · rw [JsonValue.valueAt, givenLater, Option.bind_some, foundLater]

theorem mergeJson_comp (sortedTarget : target.Sorted) (sortedPatch : patch.Sorted) (sortedLater : later.Sorted)
    (composable : Composable patch later) :
    mergeJson (mergeJson target patch) later = mergeJson target (mergeJson patch later) := by
  induction sortedLater generalizing target patch with
  | null | bool | number | string | array => simp only [mergeJson]
  | @object source sorted each ih =>
      have sortedSource := JsonValue.Sorted.object sorted each
      have object : patch.isObject = true := by
        by_contra nonObject
        exact absurd (composable [] _ _ rfl (by simpa using nonObject) rfl) (by simp [JsonValue.isObject])
      refine JsonValue.ext_fields (sorted_mergeJson (sorted_mergeJson sortedTarget sortedPatch) sortedSource)
        (sorted_mergeJson sortedTarget (sorted_mergeJson sortedPatch sortedSource)) (isObject_mergeJson _ _)
        ((isObject_mergeJson _ _).trans (isObject_mergeJson _ _)) fun key => ?_
      rw [field_mergeJson _ sortedSource rfl, field_mergeJson _ sortedPatch object,
        field_mergeJson _ (sorted_mergeJson sortedPatch sortedSource) (isObject_mergeJson _ _),
        field_mergeJson _ sortedSource rfl]
      simp only [show (JsonValue.object source).field key = source.lookup key from rfl]
      cases given : source.lookup key with
      | none => rfl
      | some after =>
          cases old : patch.field key with
          | none => simp only [Option.getD_none, mergeJson_null]
          | some value =>
              have below := ih (key, after) ((lookup_eq_some_iff sorted key after).mp given) (sortedTarget.getD_field key)
                (sortedPatch.field old) (composable.member old given)
              exact congrArg some below

/-! ## The merge as a whole -/

theorem readOpentelemetry_merged {Section : Type} (fromValue : JsonValue → Option Section) (unset : Section)
    (cachedRemote : Option JsonValue) {localFile : JsonValue} (sorted : localFile.Sorted) (object : localFile.isObject = true) :
    Config.readOpentelemetry fromValue unset cachedRemote (some localFile) =
      ((match localFile.field "opentelemetry" with
        | none => (cachedRemote.getD (.object [])).field "opentelemetry"
        | some overlay =>
            some (mergeJson (((cachedRemote.getD (.object [])).field "opentelemetry").getD .null) overlay)).bind fromValue).getD
        unset := by
  simp only [Config.readOpentelemetry, config_mergeJson, field_mergeJson _ sorted object]

structure MergedAt (target patch : JsonValue) (path : List String) : Prop where
  replaced : ∀ value, patch.valueAt path = some value → value.isObject = false →
    (mergeJson target patch).valueAt path = some value
  merged : ∀ old value, target.valueAt path = some old → old.isObject = true → patch.valueAt path = some value →
    value.isObject = true → (mergeJson target patch).valueAt path = some (mergeJson old value)
  added : ∀ value, (∀ old, target.valueAt path = some old → old.isObject = false) → patch.valueAt path = some value →
    (mergeJson target patch).valueAt path = some value
  cut : patch.valueAt path = none → Cut patch path → (mergeJson target patch).valueAt path = none
  kept : patch.valueAt path = none → ¬Cut patch path → (mergeJson target patch).valueAt path = target.valueAt path

theorem mergedAt (sorted : patch.Sorted) (target : JsonValue) (path : List String) : MergedAt target patch path where
  replaced value given nonObject := by
    rw [(valueAt_mergeJson sorted target path).1 value given, mergeJson_of_not_object _ nonObject]
  merged old value found _ given _ := by
    rw [(valueAt_mergeJson sorted target path).1 value given, found, Option.getD_some]
  added value nonObject given := by
    rw [(valueAt_mergeJson sorted target path).1 value given]
    cases found : target.valueAt path with
    | none => rw [Option.getD_none, mergeJson_null]
    | some old => rw [Option.getD_some, mergeJson_into_not_object (nonObject old found)]
  cut := (valueAt_mergeJson sorted target path).2.1
  kept := (valueAt_mergeJson sorted target path).2.2

theorem merges_agree {target patch later : JsonValue} (sortedTarget : target.Sorted) (sortedPatch : patch.Sorted)
    (sortedLater : later.Sorted) :
    Config.mergeJson target patch = mergeJson target patch ∧ (∀ path, MergedAt target patch path) ∧
      mergeJson (mergeJson target patch) patch = mergeJson target patch ∧
      (Composable patch later → mergeJson (mergeJson target patch) later = mergeJson target (mergeJson patch later)) :=
  ⟨config_mergeJson target patch, mergedAt sortedPatch target, mergeJson_idem sortedTarget sortedPatch,
    mergeJson_comp sortedTarget sortedPatch sortedLater⟩

theorem merges_agree_flags :
    let target := JsonValue.object [("a", .object [("x", .null)])]
    let patch := JsonValue.object [("a", .object [("y", .bool true)])]
    let later := JsonValue.object [("a", .bool false)]
    mergeJson (mergeJson target patch) patch = mergeJson target patch ∧
      mergeJson (mergeJson target patch) later = mergeJson target (mergeJson patch later) := by
  intro target patch later
  have single : ∀ {key : String} {value : JsonValue}, value.Sorted → (JsonValue.object [(key, value)]).Sorted := fun sorted =>
    .object (List.pairwise_singleton _ _) (by simpa using sorted)
  have agree := @merges_agree target patch later (single (single .null)) (single (single (.bool true))) (single (.bool false))
  refine ⟨agree.2.2.1, agree.2.2.2 fun path value after given nonObject givenLater => ?_⟩
  cases path with
  | nil =>
      obtain rfl := Option.some.inj given
      cases nonObject
  | cons key path =>
      obtain ⟨member, found, below⟩ := Option.bind_eq_some_iff.mp givenLater
      obtain ⟨rfl, rfl⟩ : key = "a" ∧ .bool false = member := by simpa [later, JsonValue.field, lookup_cons_ite] using found
      cases path with
      | nil => exact Option.some.inj below ▸ rfl
      | cons _ _ => cases below

end MacMgmt.Proof.MergeJson
