import Mathlib.Data.List.AList
import Mathlib.Data.List.Sort
import Mathlib.Algebra.Ring.Int.Defs
import Mathlib.Algebra.Ring.Nat

/-!
# Finite tables

A table is an association list without repeated keys. Mathlib's `AList` has lookup, insertion and
removal; this file adds the operations of a hash map that it lacks, each with its lookup equation.
-/

namespace Lib

instance lawfulBEq_bits : LawfulBEq (BitVec 128) := inferInstance

instance lawfulBEq_chars : LawfulBEq (List Char) := inferInstance

abbrev Table (K V : Type*) := AList (fun _ : K => V)

namespace Table
variable {K V : Type*} [DecidableEq K]

theorem lookup_insert_ite (table : Table K V) (key other : K) (value : V) :
    (table.insert key value).lookup other = if other = key then some value else table.lookup other := by
  split
  · rename_i same
    rw [same, AList.lookup_insert]
  · rename_i different
    exact AList.lookup_insert_ne different

theorem lookup_singleton_some {key other : K} {value found : V}
    (present : (AList.singleton key value : Table K V).lookup other = some found) : other = key ∧ found = value := by
  rw [← AList.insert_empty, lookup_insert_ite] at present
  split at present
  · rename_i same
    exact ⟨same, (Option.some.inj present).symm⟩
  · cases present

theorem lookup_erase_ite (table : Table K V) (key other : K) :
    (table.erase key).lookup other = if other = key then none else table.lookup other := by
  split
  · rename_i same
    rw [same, AList.lookup_erase]
  · rename_i different
    exact AList.lookup_erase_ne different

def modify (table : Table K V) (key : K) (change : V → V) : Table K V :=
  match table.lookup key with
  | none => table
  | some value => table.insert key (change value)

theorem lookup_modify (table : Table K V) (key other : K) (change : V → V) :
    (table.modify key change).lookup other =
      if other = key then (table.lookup key).map change else table.lookup other := by
  cases found : table.lookup key with
  | none =>
      simp only [modify, found, Option.map_none]
      by_cases same : other = key
      · subst same
        simpa using found
      · simp [same]
  | some value => simp only [modify, found, lookup_insert_ite, Option.map_some]

theorem mem_modify {table : Table K V} {key other : K} {change : V → V} :
    other ∈ table.modify key change ↔ other ∈ table := by
  rw [← AList.lookup_isSome, ← AList.lookup_isSome, lookup_modify]
  split
  · rename_i same
    rw [same, Option.isSome_map]
  · rfl

def retain (table : Table K V) (keep : K → V → Bool) : Table K V :=
  ⟨table.entries.filter fun entry => keep entry.1 entry.2,
    table.nodupKeys.sublist List.filter_sublist⟩

theorem lookup_retain (table : Table K V) (keep : K → V → Bool) (key : K) :
    (table.retain keep).lookup key = (table.lookup key).filter (keep key) := by
  ext value
  rw [Option.mem_def.symm, AList.mem_lookup_iff, Option.mem_def.symm, Option.mem_filter_iff,
    AList.mem_lookup_iff]
  simp [retain]

theorem lookup_retain_some {table : Table K V} {keep : K → V → Bool} {key : K} {value : V} :
    (table.retain keep).lookup key = some value ↔ table.lookup key = some value ∧ keep key value = true := by
  rw [lookup_retain, Option.filter_eq_some_iff]

/-- Change every entry that is selected, as a database's `UPDATE … WHERE` does. -/
def update (table : Table K V) (selects : K → V → Bool) (change : V → V) : Table K V :=
  ⟨table.entries.map fun entry => ⟨entry.1, if selects entry.1 entry.2 then change entry.2 else entry.2⟩, by
    have keys : (table.entries.map fun entry => (⟨entry.1, if selects entry.1 entry.2 then change entry.2 else entry.2⟩ :
        Σ _ : K, V)).keys = table.entries.keys := by
      simp [List.keys, Function.comp_def]
    rw [List.NodupKeys, keys]
    exact table.nodupKeys⟩

theorem lookup_update (table : Table K V) (selects : K → V → Bool) (change : V → V) (key : K) :
    (table.update selects change).lookup key =
      (table.lookup key).map fun value => if selects key value then change value else value := by
  exact List.dlookup_map₂ (f := fun key value => if selects key value then change value else value) key

theorem lookup_update_some {table : Table K V} {selects : K → V → Bool} {change : V → V} {key : K} {value : V} :
    (table.update selects change).lookup key = some value ↔
      ∃ old, table.lookup key = some old ∧ (if selects key old then change old else old) = value := by
  rw [lookup_update, Option.map_eq_some_iff]

theorem mem_update {table : Table K V} {selects : K → V → Bool} {change : V → V} {key : K} :
    key ∈ table.update selects change ↔ key ∈ table := by
  rw [← AList.lookup_isSome, ← AList.lookup_isSome, lookup_update, Option.isSome_map]

theorem update_eq_update_iff {table : Table K V} {selects : K → V → Bool} {change other : V → V} :
    table.update selects change = table.update selects other ↔
      ∀ key value, table.lookup key = some value → selects key value = true → change value = other value := by
  constructor
  · intro same key value found selected
    have looked := congrArg (AList.lookup key) same
    rw [lookup_update, lookup_update, found] at looked
    simpa [selected] using looked
  · intro same
    apply AList.ext
    apply List.map_congr_left
    intro entry member
    congr 1
    split
    · rename_i selected
      exact same entry.1 entry.2 (AList.mem_lookup_iff.mpr member) selected
    · rfl

def mapValues {W : Type*} (table : Table K V) (change : V → W) : Table K W :=
  ⟨table.entries.map fun entry => ⟨entry.1, change entry.2⟩, by
    have keys : (table.entries.map fun entry => (⟨entry.1, change entry.2⟩ : Σ _ : K, W)).keys = table.entries.keys := by
      simp [List.keys, Function.comp_def]
    rw [List.NodupKeys, keys]
    exact table.nodupKeys⟩

theorem lookup_mapValues {W : Type*} (table : Table K V) (change : V → W) (key : K) :
    (table.mapValues change).lookup key = (table.lookup key).map change := by
  exact List.dlookup_map₂ (f := fun _ => change) key

def size (table : Table K V) : Nat := table.entries.length

def values (table : Table K V) : List V := table.entries.map Sigma.snd

theorem mem_values {table : Table K V} {value : V} :
    value ∈ table.values ↔ ∃ key, table.lookup key = some value := by
  simp only [values, List.mem_map]
  constructor
  · rintro ⟨⟨key, other⟩, member, rfl⟩
    exact ⟨key, AList.mem_lookup_iff.mpr member⟩
  · rintro ⟨key, found⟩
    exact ⟨⟨key, value⟩, AList.mem_lookup_iff.mp found, rfl⟩

theorem forall_lookup_iff (table : Table K V) (property : K → V → Prop) :
    (∀ key value, table.lookup key = some value → property key value) ↔
      ∀ entry ∈ table.entries, property entry.1 entry.2 := by
  constructor
  · intro all entry member
    exact all entry.1 entry.2 (AList.mem_lookup_iff.mpr member)
  · intro all key value found
    exact all ⟨key, value⟩ (AList.mem_lookup_iff.mp found)

/-! ## Filling a table from a list -/

/-- Insert one item after another. Where the key is present, `keeps` says of the old and the new value whether the old
one stays. -/
def fill (keeps : V → V → Bool) (table : Table K V) (items : List (K × V)) : Table K V :=
  items.foldl (fun table item =>
    match table.lookup item.1 with
    | some old => if keeps old item.2 then table else table.insert item.1 item.2
    | none => table.insert item.1 item.2) table

section Fill
variable {keeps : V → V → Bool} {table : Table K V} {items : List (K × V)} {key : K} {value : V}

theorem fill_cons (item : K × V) :
    fill keeps table (item :: items) =
      fill keeps (if (table.lookup item.1).any (keeps · item.2) then table else table.insert item.1 item.2) items := by
  cases found : table.lookup item.1 <;> simp [fill, found]

theorem fill_append (more : List (K × V)) : fill keeps table (items ++ more) = fill keeps (fill keeps table items) more :=
  List.foldl_append

theorem mem_fill : key ∈ fill keeps table items ↔ key ∈ table ∨ ∃ item ∈ items, item.1 = key := by
  induction items generalizing table with
  | nil => simp [fill]
  | cons item items ih =>
      rw [fill_cons, ih, List.exists_mem_cons_iff, ← or_assoc]
      refine or_congr ?_ Iff.rfl
      split
      · rename_i kept
        obtain ⟨old, found, -⟩ := (Option.any_eq_true _ _).mp kept
        have present : item.1 ∈ table := AList.lookup_isSome.mp (by rw [found]; rfl)
        exact ⟨Or.inl, Or.rec id fun same => same ▸ present⟩
      · rw [AList.mem_insert, or_comm, eq_comm]

theorem lookup_fill (found : (fill keeps table items).lookup key = some value) :
    table.lookup key = some value ∨ (key, value) ∈ items := by
  induction items generalizing table with
  | nil => exact Or.inl found
  | cons item items ih =>
      rw [fill_cons] at found
      obtain held | member := ih found
      · split at held
        · exact Or.inl held
        · rw [lookup_insert_ite] at held
          split at held
          · rename_i same
            cases held
            exact Or.inr (same ▸ List.mem_cons_self)
          · exact Or.inl held
      · exact Or.inr (List.mem_cons_of_mem _ member)

theorem lookup_fill_keys {keys : List K} (given : K → V) (listed : key ∈ keys) :
    (fill keeps ∅ (keys.map fun key => (key, given key))).lookup key = some (given key) := by
  have present : key ∈ fill keeps ∅ (keys.map fun key => (key, given key)) :=
    mem_fill.mpr (Or.inr ⟨_, List.mem_map_of_mem listed, rfl⟩)
  obtain ⟨held, found⟩ := Option.isSome_iff_exists.mp (AList.lookup_isSome.mpr present)
  obtain none | member := lookup_fill found
  · cases none
  · obtain ⟨other, -, same⟩ := List.mem_map.mp member
    cases same
    exact found

theorem lookup_fill_kept (found : table.lookup key = some value) (kept : ∀ item ∈ items, item.1 = key → keeps value item.2) :
    (fill keeps table items).lookup key = some value := by
  induction items generalizing table with
  | nil => exact found
  | cons item items ih =>
      rw [fill_cons]
      apply ih
      · split
        · exact found
        · rename_i displaced
          rw [lookup_insert_ite, if_neg]
          · exact found
          · rintro rfl
            rw [found] at displaced
            exact displaced (kept item List.mem_cons_self rfl)
      · exact fun other member => kept other (List.mem_cons_of_mem _ member)

theorem lookup_fill_map {W : Type*} {keepsMapped : W → W → Bool} {mapped : Table K W} (change : V → W)
    (same : ∀ old new, keepsMapped (change old) (change new) = keeps old new)
    (agree : ∀ key, mapped.lookup key = (table.lookup key).map change) (key : K) :
    (fill keepsMapped mapped (items.map fun item => (item.1, change item.2))).lookup key =
      ((fill keeps table items).lookup key).map change := by
  induction items generalizing table mapped with
  | nil => exact agree key
  | cons item items ih =>
      rw [List.map_cons, fill_cons, fill_cons]
      apply ih
      intro other
      have kept : (mapped.lookup item.1).any (keepsMapped · (change item.2)) =
          (table.lookup item.1).any (keeps · item.2) := by
        rw [agree, Option.any_map]
        simp only [same]
      rw [kept]
      split
      · exact agree other
      · rw [lookup_insert_ite, lookup_insert_ite, agree]
        split <;> rfl
end Fill

theorem lookup_union_or (above below : Table K V) (key : K) :
    (above ∪ below).lookup key = (above.lookup key).or (below.lookup key) := by
  by_cases present : key ∈ above
  · obtain ⟨value, found⟩ := Option.isSome_iff_exists.mp (AList.lookup_isSome.mpr present)
    rw [AList.lookup_union_left present, found, Option.some_or]
  · rw [AList.lookup_union_right present, AList.lookup_eq_none.mpr present, Option.none_or]

def layers (tables : List (Table K V)) : Table K V :=
  tables.foldl (fun below above => above ∪ below) ∅

theorem lookup_layers (tables : List (Table K V)) (key : K) :
    (layers tables).lookup key = tables.reverse.findSome? (·.lookup key) := by
  have laid (below : Table K V) : (tables.foldl (fun below above => above ∪ below) below).lookup key =
      (tables.reverse.findSome? (·.lookup key)).or (below.lookup key) := by
    induction tables generalizing below with
    | nil => simp
    | cons first rest ih =>
        rw [List.foldl_cons, ih, lookup_union_or, List.reverse_cons, List.findSome?_append, Option.or_assoc]
        simp
  simpa [layers] using laid ∅

theorem lookup_layers_map_iff {α : Type*} {list : List α} {table : α → Table K V} {key : K} {value : V} :
    (layers (list.map table)).lookup key = some value ↔
      ∃ before item after, list = before ++ item :: after ∧ (table item).lookup key = some value ∧
        ∀ other ∈ after, (table other).lookup key = none := by
  rw [lookup_layers, ← List.map_reverse, List.findSome?_map, List.findSome?_eq_some_iff]
  constructor
  · rintro ⟨after, item, before, split, found, later⟩
    refine ⟨before.reverse, item, after.reverse, ?_, found, fun other member => later other (List.mem_reverse.mp member)⟩
    rw [← List.reverse_reverse list, split]
    simp
  · rintro ⟨before, item, after, rfl, found, later⟩
    exact ⟨after.reverse, item, before.reverse, by simp, found, fun other member => later other (List.mem_reverse.mp member)⟩

theorem lookup_layers_map_eq_none {α : Type*} {list : List α} {table : α → Table K V} {key : K} :
    (layers (list.map table)).lookup key = none ↔ ∀ item ∈ list, (table item).lookup key = none := by
  rw [lookup_layers, List.findSome?_eq_none_iff]
  simp

omit [DecidableEq K] in
theorem nodup_filterMap {R : Type*} (table : Table K V) {row : (Σ _ : K, V) → Option R} (key : R → K)
    (keeps : ∀ entry made, row entry = some made → key made = entry.1) : (table.entries.filterMap row).Nodup := by
  refine List.pairwise_filterMap.mpr ((List.nodupKeys_iff_pairwise.mp table.nodupKeys).imp ?_)
  intro first second apart one ofFirst other ofSecond same
  apply apart
  rw [← keeps first one ofFirst, ← keeps second other ofSecond, same]

/-! ## Collecting the values of a key -/

/-- Append to the list at the key, as `entry(key).or_default().push(value)` does. -/
def push (table : Table K (List V)) (key : K) (value : V) : Table K (List V) :=
  table.insert key ((table.lookup key).getD [] ++ [value])

def group (items : List (K × V)) : Table K (List V) :=
  items.foldl (fun table item => table.push item.1 item.2) ∅

def ofKey (items : List (K × V)) (key : K) : List V :=
  items.filterMap fun item => if item.1 = key then some item.2 else none

theorem ofKey_cons (item : K × V) (items : List (K × V)) (key : K) :
    ofKey (item :: items) key = if item.1 = key then item.2 :: ofKey items key else ofKey items key := by
  unfold ofKey
  rw [List.filterMap_cons]
  split <;> simp_all

theorem lookup_foldl_push (table : Table K (List V)) (items : List (K × V)) (key : K) :
    (items.foldl (fun table item => table.push item.1 item.2) table).lookup key =
      if ofKey items key = [] then table.lookup key else some ((table.lookup key).getD [] ++ ofKey items key) := by
  induction items generalizing table with
  | nil => simp [ofKey]
  | cons item items ih =>
      rw [List.foldl_cons, ih, push, lookup_insert_ite, ofKey_cons]
      by_cases same : item.1 = key
      · subst same
        by_cases none : ofKey items item.1 = [] <;> simp [none]
      · simp only [if_neg same, if_neg (Ne.symm same)]

theorem lookup_group (items : List (K × V)) (key : K) :
    (group items).lookup key = if ofKey items key = [] then none else some (ofKey items key) := by
  simpa [group] using lookup_foldl_push ∅ items key

theorem getD_lookup_group (items : List (K × V)) (key : K) : ((group items).lookup key).getD [] = ofKey items key := by
  rw [lookup_group]
  split
  · rename_i empty
    exact empty.symm
  · rfl

theorem mem_ofKey {items : List (K × V)} {key : K} {value : V} : value ∈ ofKey items key ↔ (key, value) ∈ items := by
  simp only [ofKey, List.mem_filterMap, Option.ite_none_right_eq_some, Option.some.injEq]
  constructor
  · rintro ⟨⟨_, _⟩, member, rfl, rfl⟩
    exact member
  · intro member
    exact ⟨_, member, rfl, rfl⟩

theorem ofKey_filter {items : List (K × V)} {keep : K → Prop} [DecidablePred keep] {key : K} (kept : keep key) :
    ofKey (items.filter fun item => keep item.1) key = ofKey items key := by
  unfold ofKey
  rw [List.filterMap_filter]
  refine List.filterMap_congr fun item _ => ?_
  by_cases same : item.1 = key
  · subst same
    rw [if_pos (decide_eq_true kept)]
  · rw [if_neg same, ite_self]

theorem ofKey_filter_not {items : List (K × V)} {keep : K → Prop} [DecidablePred keep] {key : K} (kept : keep key) :
    ofKey (items.filter fun item => ¬ keep item.1) key = [] := by
  unfold ofKey
  rw [List.filterMap_eq_nil_iff]
  intro item member
  refine if_neg ?_
  rintro rfl
  exact of_decide_eq_true (List.mem_filter.mp member).2 kept

theorem exists_perm_ofKey {items rows others : List (K × V)} {shown : K → Prop} (perm : items.Perm rows) (one : rows.Nodup)
    (two : others.Nodup) (same : ∀ item : K × V, shown item.1 → (item ∈ rows ↔ item ∈ others)) :
    ∃ read : List (K × V), read.Perm others ∧ ∀ key, shown key → ofKey read key = ofKey items key := by
  classical
  refine ⟨items.filter (fun item => shown item.1) ++ others.filter (fun item => ¬ shown item.1), ?_, ?_⟩
  · have agree : (rows.filter fun item => shown item.1).Perm (others.filter fun item => shown item.1) := by
      refine (List.perm_ext_iff_of_nodup (one.filter _) (two.filter _)).mpr fun item => ?_
      rw [List.mem_filter, List.mem_filter]
      constructor
      · rintro ⟨member, shows⟩
        exact ⟨(same item (of_decide_eq_true shows)).mp member, shows⟩
      · rintro ⟨member, shows⟩
        exact ⟨(same item (of_decide_eq_true shows)).mpr member, shows⟩
    refine (((perm.filter _).trans agree).append_right _).trans ?_
    simpa using List.filter_append_perm (fun item => decide (shown item.1)) others
  · intro key shows
    have split (first second : List (K × V)) : ofKey (first ++ second) key = ofKey first key ++ ofKey second key :=
      List.filterMap_append
    rw [split, ofKey_filter shows, ofKey_filter_not shows, List.append_nil]

/-! ## Counting the entries with a property -/

def tally (table : Table K V) (counted : K → V → Bool) : Nat :=
  table.entries.countP fun entry => counted entry.1 entry.2

theorem countP_kerase (entries : List (Σ _ : K, V)) (key : K) (counted : K → V → Bool) :
    entries.countP (fun entry => counted entry.1 entry.2) =
      (entries.kerase key).countP (fun entry => counted entry.1 entry.2) +
        if (entries.dlookup key).any (counted key) then 1 else 0 := by
  induction entries with
  | nil => simp
  | cons entry entries ih =>
      by_cases same : entry.1 = key
      · subst same
        obtain ⟨head, value⟩ := entry
        simp [List.countP_cons]
      · rw [List.kerase_cons_ne (Ne.symm same), List.dlookup_cons_ne _ _ (Ne.symm same), List.countP_cons, List.countP_cons, ih]
        omega

theorem tally_erase (table : Table K V) (key : K) (counted : K → V → Bool) :
    table.tally counted =
      tally (table.erase key) counted + if (table.lookup key).any (counted key) then 1 else 0 :=
  countP_kerase table.entries key counted

theorem tally_insert (table : Table K V) (key : K) (value : V) (counted : K → V → Bool) :
    tally (table.insert key value) counted + (if (table.lookup key).any (counted key) then 1 else 0) =
      table.tally counted + if counted key value then 1 else 0 := by
  have inserted : tally (table.insert key value) counted =
      tally (table.erase key) counted + if counted key value then 1 else 0 := by
    unfold tally
    rw [AList.entries_insert, List.countP_cons]
    rfl
  rw [inserted, tally_erase table key]
  omega

theorem tally_congr (table : Table K V) {counted other : K → V → Bool}
    (same : ∀ key value, table.lookup key = some value → counted key value = other key value) :
    table.tally counted = table.tally other := by
  apply List.countP_congr
  intro entry member
  rw [same entry.1 entry.2 (AList.mem_lookup_iff.mpr member)]

theorem tally_pos_iff {table : Table K V} {counted : K → V → Bool} :
    0 < table.tally counted ↔ ∃ key value, table.lookup key = some value ∧ counted key value = true := by
  rw [tally, List.countP_pos_iff]
  constructor
  · rintro ⟨⟨key, value⟩, member, holds⟩
    exact ⟨key, value, AList.mem_lookup_iff.mpr member, holds⟩
  · rintro ⟨key, value, found, holds⟩
    exact ⟨⟨key, value⟩, AList.mem_lookup_iff.mp found, holds⟩
end Table

/-- The order in which a hash map is traversed, which may be any. -/
structure Traversal (K : Type) where
  entries {V : Type} : Table K V → List (Σ _ : K, V)
  perm {V : Type} (table : Table K V) : (entries table).Perm table.entries

namespace Traversal
variable {K V : Type}

theorem mem_entries [DecidableEq K] (order : Traversal K) {table : Table K V} {key : K} {value : V} :
    ⟨key, value⟩ ∈ order.entries table ↔ table.lookup key = some value := by
  rw [(order.perm table).mem_iff, ← AList.mem_lookup_iff, Option.mem_def]

def stored : Traversal K := ⟨fun table => table.entries, fun _ => .refl _⟩

def lastly [DecidableEq K] (key : K) : Traversal K where
  entries table := table.entries.filter (·.1 ≠ key) ++ table.entries.filter (·.1 = key)
  perm table := by
    have split := List.filter_append_perm (fun entry => decide (entry.1 ≠ key)) table.entries
    simpa using split

theorem not_sublist_swap {α : Type*} {list : List α} {first second : α} (nodup : list.Nodup)
    (forward : [first, second].Sublist list) : ¬ [second, first].Sublist list := by
  intro backward
  induction list with
  | nil => cases forward
  | cons head rest ih =>
      obtain ⟨fresh, nodup⟩ := List.nodup_cons.mp nodup
      cases forward with
      | cons _ forward =>
          cases backward with
          | cons _ backward => exact ih nodup forward backward
          | cons_cons _ _ => exact fresh (forward.subset (by simp))
      | cons_cons _ forward =>
          cases backward with
          | cons _ backward => exact fresh (backward.subset (by simp))
          | cons_cons _ _ => exact fresh (forward.subset (by simp))

theorem rank_lt_of_lastly [DecidableEq K] (rank : K → Int) {table : Table K V} {key : K} {value : V}
    {before after : List (Σ _ : K, V)} {other : Σ _ : K, V}
    (sorted : ((lastly key).entries table).insertionSort (fun first second => rank first.1 ≤ rank second.1) =
      before ++ ⟨key, value⟩ :: after)
    (later : other ∈ after) : rank key < rank other.1 := by
  let ranked (first second : Σ _ : K, V) := rank first.1 ≤ rank second.1
  have same := (List.perm_insertionSort ranked ((lastly key).entries table)).trans ((lastly key).perm table)
  have keys : (before ++ ⟨key, value⟩ :: after).NodupKeys :=
    sorted ▸ (List.perm_nodupKeys same).mpr table.nodupKeys
  have nodup := keys.nodup
  have forward : [⟨key, value⟩, other].Sublist (before ++ ⟨key, value⟩ :: after) :=
    ((List.singleton_sublist.mpr later).cons_cons _).trans (List.sublist_append_right _ _)
  have different : other.1 ≠ key := by
    intro equal
    have fresh : other ≠ ⟨key, value⟩ := by
      rintro rfl
      exact (List.nodup_cons.mp (List.nodup_append.mp nodup).2.1).1 later
    obtain ⟨head, held⟩ := other
    cases equal
    have twice : held = value :=
      keys.eq_of_mk_mem (forward.subset (by simp)) (forward.subset List.mem_cons_self)
    exact fresh (by rw [twice])
  by_contra lower
  have backward : [other, ⟨key, value⟩].Sublist ((lastly key).entries table) := by
    have members (entry : Σ _ : K, V) (member : entry ∈ before ++ ⟨key, value⟩ :: after) : entry ∈ table.entries :=
      same.subset (sorted ▸ member)
    have others : [other].Sublist (table.entries.filter (·.1 ≠ key)) := by
      simp [different, members other (by simp [later])]
    have one : [⟨key, value⟩].Sublist (table.entries.filter (·.1 = key)) := by
      simp [members ⟨key, value⟩ (by simp)]
    exact others.append one
  have swapped := List.pair_sublist_insertionSort (r := ranked) (not_lt.mp lower) backward
  rw [sorted] at swapped
  exact not_sublist_swap nodup forward swapped

theorem entries_lastly [DecidableEq K] {table : Table K V} {key : K} {value : V} (found : table.lookup key = some value) :
    ∃ before, (lastly key).entries table = before ++ [⟨key, value⟩] := by
  obtain ⟨before, after, split⟩ := List.append_of_mem ((lastly key).mem_entries.mpr found)
  have sorted : ((lastly key).entries table).insertionSort (fun _ _ => (0 : Int) ≤ 0) = before ++ ⟨key, value⟩ :: after := by
    rw [List.Pairwise.insertionSort_eq, split]
    exact List.pairwise_of_forall fun _ _ => le_rfl
  have last : after = [] := by
    apply List.eq_nil_iff_forall_not_mem.mpr
    intro other later
    exact lt_irrefl _ (rank_lt_of_lastly (fun _ => 0) sorted later)
  exact ⟨before, by rw [split, last]⟩
end Traversal
end Lib
