import Mathlib.Data.List.Sort

/-!
# Sorting a list whose order is not known

A query reads its rows in any order. Sorted, they are one list where the order tells the members apart.
-/

namespace Lib

/-- The order in which a store hands out what it holds, which may be any. -/
structure Reading (α : Type*) where
  read : List α → List α
  perm (items : List α) : (read items).Perm items

def Reading.stored {α : Type*} : Reading α := ⟨id, fun _ => .refl _⟩

section Sorting
variable {α : Type*} {items others : List α}

theorem Reading.mem_read {reading : Reading α} {item : α} : item ∈ reading.read items ↔ item ∈ items :=
  (reading.perm items).mem_iff

theorem Reading.nodup_read {reading : Reading α} (nodup : items.Nodup) : (reading.read items).Nodup :=
  (reading.perm items).nodup_iff.mpr nodup

variable (before : α → α → Prop) [DecidableRel before] [Std.Total before] [IsTrans α before]

theorem insertionSort_eq_of_perm (perm : items.Perm others)
    (apart : ∀ first ∈ items, ∀ second ∈ items, before first second → before second first → first = second) :
    items.insertionSort before = others.insertionSort before := by
  have sorted : (items.insertionSort before).Perm (others.insertionSort before) :=
    (List.perm_insertionSort before items).trans (perm.trans (List.perm_insertionSort before others).symm)
  refine sorted.eq_of_pairwise (fun first second one two => ?_) (List.pairwise_insertionSort before items)
    (List.pairwise_insertionSort before others)
  have listed := sorted.mem_iff.mpr two
  exact apart first ((List.mem_insertionSort before).mp one) second ((List.mem_insertionSort before).mp listed)

theorem insertionSort_eq_of_mem (one : items.Nodup) (two : others.Nodup) (same : ∀ item, item ∈ items ↔ item ∈ others)
    (apart : ∀ first ∈ items, ∀ second ∈ items, before first second → before second first → first = second) :
    items.insertionSort before = others.insertionSort before :=
  insertionSort_eq_of_perm before ((List.perm_ext_iff_of_nodup one two).mpr same) apart

end Sorting

/-! ## By a key -/

section OrderBy
variable {α β κ : Type*} [LinearOrder κ]

def orderBy (key : α → κ) (rows : List α) : List α := rows.insertionSort fun first second => key first ≤ key second

theorem orderBy_perm (key : α → κ) (rows : List α) : (orderBy key rows).Perm rows := List.perm_insertionSort _ rows

theorem mem_orderBy {key : α → κ} {rows : List α} {row : α} : row ∈ orderBy key rows ↔ row ∈ rows :=
  (orderBy_perm key rows).mem_iff

local instance total_key (key : α → κ) : Std.Total fun first second : α => key first ≤ key second :=
  ⟨fun first second => le_total (key first) (key second)⟩

local instance isTrans_key (key : α → κ) : IsTrans α fun first second => key first ≤ key second := ⟨fun _ _ _ => le_trans⟩

theorem orderBy_pairwise (key : α → κ) (rows : List α) :
    (orderBy key rows).Pairwise fun first second => key first ≤ key second := List.pairwise_insertionSort _ rows

theorem orderBy_eq_of_mem {key : α → κ} {rows others : List α} (one : rows.Nodup) (two : others.Nodup)
    (same : ∀ row, row ∈ orderBy key rows ↔ row ∈ orderBy key others)
    (apart : ∀ first ∈ orderBy key rows, ∀ second ∈ orderBy key rows, key first = key second → first = second) :
    orderBy key rows = orderBy key others := by
  refine insertionSort_eq_of_mem _ one two (fun row => ?_) fun first left second right below above => ?_
  · exact mem_orderBy.symm.trans ((same row).trans mem_orderBy)
  · exact apart first (mem_orderBy.mpr left) second (mem_orderBy.mpr right) (le_antisymm below above)

theorem map_orderBy (change : α → β) (key : β → κ) (rows : List α) :
    (orderBy (fun row => key (change row)) rows).map change = orderBy key (rows.map change) :=
  List.map_insertionSort _ _ change rows fun _ _ _ _ => Iff.rfl

/-! ## The first rows

Rows that tie are sorted as they were read. Which rows come first, and in which order, is the same for all readings if the rows
that tie come too late. -/

variable {key : α → κ} {rows others : List α} {bound : κ}

def below (key : α → κ) (rows : List α) (bound : κ) : Nat := (rows.filter fun row => key row < bound).length

theorem below_perm (perm : rows.Perm others) (bound : κ) : below key rows bound = below key others bound :=
  (perm.filter _).length_eq

theorem takeWhile_eq_filter (sorted : rows.Pairwise fun first second => key first ≤ key second) (bound : κ) :
    rows.takeWhile (fun row => key row < bound) = rows.filter fun row => key row < bound := by
  induction rows with
  | nil => rfl
  | cons first rest ih =>
      obtain ⟨least, sortedRest⟩ := List.pairwise_cons.mp sorted
      by_cases before : key first < bound
      · rw [List.takeWhile_cons_of_pos (by simpa using before), List.filter_cons_of_pos (by simpa using before), ih sortedRest]
      · rw [List.takeWhile_cons_of_neg (by simpa using before)]
        symm
        rw [List.filter_eq_nil_iff]
        intro row member early
        rcases List.mem_cons.mp member with rfl | later
        · exact before (by simpa using early)
        · exact before ((least row later).trans_lt (by simpa using early))

theorem getElem?_orderBy_cons (row : α) (rows : List α) :
    (orderBy key (row :: rows))[below key rows (key row)]? = some row := by
  have front : ((orderBy key rows).takeWhile fun other => ¬key row ≤ key other).length = below key rows (key row) := by
    simp only [not_le]
    rw [takeWhile_eq_filter (orderBy_pairwise key rows)]
    exact below_perm (orderBy_perm key rows) _
  rw [orderBy, List.insertionSort_cons_eq_take_drop, ← orderBy, List.getElem?_append_right front.le, front]
  simp

theorem below_le_of_getElem? (sorted : rows.Pairwise fun first second => key first ≤ key second) {i : Nat} {row : α}
    (found : rows[i]? = some row) : below key rows (key row) ≤ i := by
  induction rows generalizing i with
  | nil => cases found
  | cons first rest ih =>
      obtain ⟨least, sortedRest⟩ := List.pairwise_cons.mp sorted
      cases i with
      | zero =>
          obtain rfl := Option.some.inj found
          have noneBefore : (first :: rest).filter (fun row => key row < key first) = [] := by
            rw [List.filter_eq_nil_iff]
            intro row member
            rcases List.mem_cons.mp member with rfl | later
            · simp
            · simpa using least row later
          rw [below, noneBefore]
          exact le_rfl
      | succ i =>
          have later := ih sortedRest found
          rw [below, List.filter_cons]
          split
          · rw [List.length_cons]
            exact Nat.succ_le_succ later
          · exact later.trans (Nat.le_succ i)

theorem getElem?_orderBy_eq (perm : rows.Perm others) {i : Nat}
    (apart : ∀ first ∈ rows, ∀ second ∈ rows, key first = key second → first ≠ second → i < below key rows (key first)) :
    (orderBy key rows)[i]? = (orderBy key others)[i]? := by
  have permSorted : (orderBy key rows).Perm (orderBy key others) :=
    (orderBy_perm key rows).trans (perm.trans (orderBy_perm key others).symm)
  have keys : (orderBy key rows).map key = (orderBy key others).map key := by
    refine (permSorted.map key).eq_of_pairwise (fun _ _ _ _ => le_antisymm) ?_ ?_ <;>
      exact List.pairwise_map.mpr (orderBy_pairwise key _)
  have keyAt := congrArg (fun keys => keys[i]?) keys
  simp only [List.getElem?_map] at keyAt
  cases found : (orderBy key rows)[i]? with
  | none => simpa [found, eq_comm] using keyAt
  | some row =>
      cases found' : (orderBy key others)[i]? with
      | none => simp [found, found'] at keyAt
      | some other =>
          rw [found, found', Option.map_some, Option.map_some, Option.some.injEq] at keyAt
          by_contra unequal
          have listed := mem_orderBy.mp (List.mem_of_getElem? found)
          have listed' := perm.mem_iff.mpr (mem_orderBy.mp (List.mem_of_getElem? found'))
          have late := apart row listed other listed' keyAt fun same => unequal (congrArg some same)
          have early := below_le_of_getElem? (orderBy_pairwise key rows) found
          rw [below_perm (orderBy_perm key rows)] at early
          exact absurd late (not_lt.mpr early)

theorem exists_reading (perm : others.Perm rows) : ∃ reading : Reading α, reading.read rows = others := by
  classical
  refine ⟨⟨fun items => if items = rows then others else items, fun items => ?_⟩, if_pos rfl⟩
  split_ifs with same
  · exact same ▸ perm
  · rfl

theorem getElem?_orderBy_tie {first second : α} (tie : key second = key first) (rest : List α) :
    (orderBy key (first :: second :: rest))[below key rest (key first)]? = some first := by
  have level : below key (second :: rest) (key first) = below key rest (key first) := by
    rw [below, List.filter_cons_of_neg (by simp [tie]), ← below]
  exact level ▸ getElem?_orderBy_cons first (second :: rest)

theorem take_orderBy_eq_iff (n : Nat) :
    (∀ first second : Reading α, (orderBy key (first.read rows)).take n = (orderBy key (second.read rows)).take n) ↔
      ∀ first ∈ rows, ∀ second ∈ rows, key first = key second → first ≠ second → n ≤ below key rows (key first) := by
  constructor
  · intro same first listed second listed' tie unequal
    by_contra early
    obtain ⟨rest, perm⟩ : ∃ rest, rows.Perm (first :: second :: rest) := by
      classical
      have listedRest : second ∈ rows.erase first := (List.mem_erase_of_ne unequal.symm).mpr listed'
      exact ⟨_, (List.perm_cons_erase listed).trans ((List.perm_cons_erase listedRest).cons first)⟩
    obtain ⟨one, readOne⟩ := exists_reading perm.symm
    obtain ⟨two, readTwo⟩ := exists_reading ((List.Perm.swap first second _).trans perm.symm)
    have before : below key rows (key first) = below key rest (key first) := by
      rw [below_perm perm, below, List.filter_cons_of_neg (by simp), List.filter_cons_of_neg (by simp [tie]), ← below]
    rw [before, not_le] at early
    have place := congrArg (fun sorted => sorted[below key rest (key first)]?) (same one two)
    have secondFirst := getElem?_orderBy_tie tie rest
    rw [readOne, readTwo, List.getElem?_take_of_lt early, List.getElem?_take_of_lt early,
      getElem?_orderBy_tie tie.symm] at place
    rw [← tie] at secondFirst
    exact unequal (Option.some.inj (place.trans secondFirst))
  · intro apart first second
    refine List.ext_getElem? fun i => ?_
    by_cases within : i < n
    · rw [List.getElem?_take_of_lt within, List.getElem?_take_of_lt within]
      refine getElem?_orderBy_eq ((first.perm rows).trans (second.perm rows).symm) fun one listed two listed' tie unequal => ?_
      rw [below_perm (first.perm rows)]
      exact within.trans_le (apart one (first.mem_read.mp listed) two (first.mem_read.mp listed') tie unequal)
    · rw [List.getElem?_take_eq_none (not_lt.mp within), List.getElem?_take_eq_none (not_lt.mp within)]

end OrderBy
end Lib
