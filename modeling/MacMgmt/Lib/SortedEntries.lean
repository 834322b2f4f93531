import Mathlib.Data.List.Sort
import Mathlib.Data.String.Basic

/-!
# Sorted entries

The entries of a map that is iterated in the order of its keys.
-/

namespace Lib
variable {K V W : Type*} [LinearOrder K]

def KeySorted (entries : List (K × V)) : Prop := entries.Pairwise fun first second => first.1 < second.1

/-- Replace the value of a key, or add the key at its place. -/
def insertSorted (entries : List (K × V)) (key : K) (value : V) : List (K × V) :=
  match entries with
  | [] => [(key, value)]
  | (head, old) :: rest =>
      if head < key then (head, old) :: insertSorted rest key value
      else if head = key then (key, value) :: rest
      else (key, value) :: (head, old) :: rest

theorem lookup_cons_ite (head other : K) (value : V) (rest : List (K × V)) :
    ((head, value) :: rest).lookup other = if other = head then some value else rest.lookup other := by
  by_cases same : other = head
  · subst same
    simp
  · have unequal : (other == head) = false := beq_eq_false_iff_ne.mpr same
    rw [List.lookup_cons, unequal, if_neg same]

theorem lookup_insertSorted (entries : List (K × V)) (key other : K) (value : V) :
    (insertSorted entries key value).lookup other = if other = key then some value else entries.lookup other := by
  induction entries with
  | nil => exact lookup_cons_ite key other value []
  | cons entry rest ih =>
      obtain ⟨head, old⟩ := entry
      by_cases before : head < key
      · rw [insertSorted, if_pos before, lookup_cons_ite, lookup_cons_ite, ih]
        by_cases isHead : other = head
        · rw [if_pos isHead, if_pos isHead, if_neg (isHead ▸ before.ne)]
        · rw [if_neg isHead, if_neg isHead]
      by_cases isKey : head = key
      · subst isKey
        rw [insertSorted, if_neg before, if_pos rfl, lookup_cons_ite, lookup_cons_ite]
        split_ifs <;> rfl
      · rw [insertSorted, if_neg before, if_neg isKey, lookup_cons_ite]

theorem insertSorted_append {entries : List (K × V)} {key : K} (last : ∀ entry ∈ entries, entry.1 < key) (value : V) :
    insertSorted entries key value = entries ++ [(key, value)] := by
  induction entries with
  | nil => rfl
  | cons first rest ih =>
      obtain ⟨head, old⟩ := first
      obtain ⟨before, lastRest⟩ := List.forall_mem_cons.mp last
      rw [insertSorted, if_pos before, ih lastRest]
      rfl

theorem mem_insertSorted {entries : List (K × V)} {key : K} {value : V} {entry : K × V}
    (member : entry ∈ insertSorted entries key value) : entry = (key, value) ∨ entry ∈ entries := by
  induction entries with
  | nil => exact .inl (List.mem_singleton.mp member)
  | cons first rest ih =>
      obtain ⟨head, old⟩ := first
      rw [insertSorted] at member
      split_ifs at member with before same
      · rcases List.mem_cons.mp member with rfl | later
        · exact .inr List.mem_cons_self
        · exact (ih later).imp_right (List.mem_cons_of_mem _)
      · exact (List.mem_cons.mp member).imp_right (List.mem_cons_of_mem _)
      · exact List.mem_cons.mp member

theorem KeySorted.insertSorted {entries : List (K × V)} (sorted : KeySorted entries) (key : K) (value : V) :
    KeySorted (insertSorted entries key value) := by
  induction entries with
  | nil => exact List.pairwise_singleton _ _
  | cons first rest ih =>
      obtain ⟨head, old⟩ := first
      obtain ⟨above, sortedRest⟩ := List.pairwise_cons.mp sorted
      rw [Lib.insertSorted]
      split_ifs with before same
      · refine List.pairwise_cons.mpr ⟨fun entry member => ?_, ih sortedRest⟩
        rcases mem_insertSorted member with rfl | later
        · exact before
        · exact above entry later
      · exact List.pairwise_cons.mpr ⟨same ▸ above, sortedRest⟩
      · have below : key < head := lt_of_le_of_ne (not_lt.mp before) (Ne.symm same)
        refine List.pairwise_cons.mpr ⟨fun entry member => ?_, sorted⟩
        rcases List.mem_cons.mp member with rfl | later
        · exact below
        · exact below.trans (above entry later)

theorem lookup_eq_some_iff {entries : List (K × V)} (sorted : KeySorted entries) (key : K) (value : V) :
    entries.lookup key = some value ↔ (key, value) ∈ entries := by
  induction entries with
  | nil => simp
  | cons first rest ih =>
      obtain ⟨head, old⟩ := first
      obtain ⟨above, sortedRest⟩ := List.pairwise_cons.mp sorted
      rw [lookup_cons_ite, List.mem_cons]
      split_ifs with same
      · subst same
        have absent : (key, value) ∉ rest := fun member => lt_irrefl key (above _ member)
        simp [absent, eq_comm]
      · simp [same, ih sortedRest]

def mapValues (change : V → Option W) (entries : List (K × V)) : List (K × W) :=
  entries.filterMap fun entry => (change entry.2).map (Prod.mk entry.1)

theorem KeySorted.mapValues {entries : List (K × V)} (sorted : KeySorted entries) (change : V → Option W) :
    KeySorted (mapValues change entries) := by
  refine List.Pairwise.filterMap _ ?_ sorted
  intro first second below changed present other kept
  obtain ⟨_, _, rfl⟩ := Option.map_eq_some_iff.mp present
  obtain ⟨_, _, rfl⟩ := Option.map_eq_some_iff.mp kept
  exact below

theorem lookup_mapValues {entries : List (K × V)} (sorted : KeySorted entries) (change : V → Option W) (key : K) :
    (mapValues change entries).lookup key = (entries.lookup key).bind change := by
  ext value
  rw [lookup_eq_some_iff (sorted.mapValues change), mapValues, List.mem_filterMap, Option.bind_eq_some_iff]
  constructor
  · rintro ⟨⟨other, old⟩, member, changed⟩
    obtain ⟨new, found, same⟩ := Option.map_eq_some_iff.mp changed
    obtain ⟨rfl, rfl⟩ := Prod.mk.inj same
    exact ⟨old, (lookup_eq_some_iff sorted _ old).mpr member, found⟩
  · rintro ⟨old, found, new⟩
    exact ⟨(key, old), (lookup_eq_some_iff sorted key old).mp found, by simp [new]⟩

omit [LinearOrder K] in
theorem map_mapValues {U : Type*} (change : V → Option W) (next : W → U) (entries : List (K × V)) :
    (mapValues change entries).map (fun entry => (entry.1, next entry.2)) =
      mapValues (fun value => (change value).map next) entries := by
  rw [mapValues, List.map_filterMap, mapValues]
  simp only [Option.map_map]
  rfl

/-! ## Removing and merging -/

def eraseKey (entries : List (K × V)) (key : K) : List (K × V) := entries.filter fun entry => entry.1 ≠ key

theorem lookup_eraseKey (entries : List (K × V)) (key other : K) :
    (eraseKey entries key).lookup other = if other = key then none else entries.lookup other := by
  induction entries with
  | nil => simp [eraseKey]
  | cons entry rest ih =>
      obtain ⟨head, value⟩ := entry
      rw [eraseKey, List.filter_cons]
      by_cases same : head = key
      · subst same
        rw [if_neg (by simp), ← eraseKey, ih, lookup_cons_ite]
        split_ifs <;> rfl
      · rw [if_pos (by simpa using same), ← eraseKey, lookup_cons_ite, lookup_cons_ite, ih]
        by_cases isHead : other = head
        · rw [if_pos isHead, if_pos isHead, if_neg (isHead ▸ same)]
        · rw [if_neg isHead, if_neg isHead]

theorem KeySorted.eraseKey {entries : List (K × V)} (sorted : KeySorted entries) (key : K) : KeySorted (eraseKey entries key) :=
  List.Pairwise.filter _ sorted

theorem KeySorted.ext {first second : List (K × V)} (sortedFirst : KeySorted first) (sortedSecond : KeySorted second)
    (same : ∀ key, first.lookup key = second.lookup key) : first = second := by
  have distinct : ∀ {entries : List (K × V)}, KeySorted entries → entries.Nodup := fun sorted =>
    List.Pairwise.imp (fun below equal => below.ne (congrArg Prod.fst equal)) sorted
  have perm : first.Perm second := by
    rw [List.perm_ext_iff_of_nodup (distinct sortedFirst) (distinct sortedSecond)]
    rintro ⟨key, value⟩
    rw [← lookup_eq_some_iff sortedFirst, ← lookup_eq_some_iff sortedSecond, same]
  refine List.Perm.eq_of_pairwise ?_ sortedFirst sortedSecond perm
  intro first second _ _ below above
  exact absurd below above.asymm

/-- Entries are merged in one after the other: `change` says what becomes of a key, from its value so far and the new one. -/
def mergeEntries (change : Option V → W → Option V) (entries : List (K × V)) : List (K × W) → List (K × V)
  | [] => entries
  | (key, value) :: rest =>
      mergeEntries change
        (match change (entries.lookup key) value with
          | none => eraseKey entries key
          | some new => insertSorted entries key new) rest

variable {change change' : Option V → W → Option V}

theorem lookup_changed (entries : List (K × V)) (key other : K) (new : Option V) :
    (match new with
      | none => eraseKey entries key
      | some new => insertSorted entries key new).lookup other = if other = key then new else entries.lookup other := by
  cases new with
  | none => exact lookup_eraseKey entries key other
  | some new => exact lookup_insertSorted entries key other new

theorem lookup_mergeEntries (entries : List (K × V)) {merged : List (K × W)} (sorted : KeySorted merged) (key : K) :
    (mergeEntries change entries merged).lookup key =
      match merged.lookup key with
      | none => entries.lookup key
      | some value => change (entries.lookup key) value := by
  induction merged generalizing entries with
  | nil => rfl
  | cons first rest ih =>
      obtain ⟨head, value⟩ := first
      obtain ⟨above, sortedRest⟩ := List.pairwise_cons.mp sorted
      rw [mergeEntries, ih _ sortedRest, lookup_changed, lookup_cons_ite]
      split_ifs with same
      · subst same
        have absent : rest.lookup key = none :=
          List.lookup_eq_none_iff.mpr fun entry member => by simpa using (above entry member).ne
        simp only [absent]
      · rfl

theorem KeySorted.mergeEntries {entries : List (K × V)} (sorted : KeySorted entries) (merged : List (K × W)) :
    KeySorted (mergeEntries change entries merged) := by
  induction merged generalizing entries with
  | nil => exact sorted
  | cons first rest ih =>
      obtain ⟨head, value⟩ := first
      rw [Lib.mergeEntries]
      split
      · exact ih (sorted.eraseKey head)
      · exact ih (sorted.insertSorted head _)

theorem mergeEntries_eq_iff (entries : List (K × V)) {merged : List (K × W)} (sorted : KeySorted merged) :
    mergeEntries change entries merged = mergeEntries change' entries merged ↔
      ∀ entry ∈ merged, change (entries.lookup entry.1) entry.2 = change' (entries.lookup entry.1) entry.2 := by
  constructor
  · rintro same ⟨key, value⟩ member
    have found := congrArg (List.lookup key) same
    rw [lookup_mergeEntries entries sorted, lookup_mergeEntries entries sorted,
      (lookup_eq_some_iff sorted key value).mpr member] at found
    exact found
  · intro same
    induction merged generalizing entries with
    | nil => rfl
    | cons first rest ih =>
        obtain ⟨head, value⟩ := first
        obtain ⟨above, sortedRest⟩ := List.pairwise_cons.mp sorted
        obtain ⟨sameFirst, sameRest⟩ := List.forall_mem_cons.mp same
        rw [mergeEntries, mergeEntries, sameFirst]
        refine ih _ sortedRest fun entry member => ?_
        rw [lookup_changed, if_neg (above entry member).ne']
        exact sameRest entry member

theorem mergeEntries_nil_eq_iff {change : Option V → V → Option V} {merged : List (K × V)} (sorted : KeySorted merged) :
    mergeEntries change [] merged = merged ↔ ∀ entry ∈ merged, change none entry.2 = some entry.2 := by
  have copied : mergeEntries (fun _ value => some value) [] merged = merged := by
    refine KeySorted.ext (KeySorted.mergeEntries List.Pairwise.nil merged) sorted fun key => ?_
    rw [lookup_mergeEntries [] sorted]
    cases merged.lookup key <;> rfl
  have iff : mergeEntries change [] merged = mergeEntries (fun _ value => some value) [] merged ↔ _ := mergeEntries_eq_iff [] sorted
  rw [copied] at iff
  exact iff

theorem mergeEntries_idem {entries : List (K × V)} {merged : List (K × W)} (sortedEntries : KeySorted entries)
    (sorted : KeySorted merged)
    (idem : ∀ entry ∈ merged,
      change (change (entries.lookup entry.1) entry.2) entry.2 = change (entries.lookup entry.1) entry.2) :
    mergeEntries change (mergeEntries change entries merged) merged = mergeEntries change entries merged := by
  have sortedOnce : KeySorted (mergeEntries change entries merged) := sortedEntries.mergeEntries merged
  refine (sortedOnce.mergeEntries merged).ext sortedOnce fun key => ?_
  rw [lookup_mergeEntries _ sorted, lookup_mergeEntries _ sorted]
  cases found : merged.lookup key with
  | none => rfl
  | some value => exact idem (key, value) ((lookup_eq_some_iff sorted key value).mp found)

end Lib
