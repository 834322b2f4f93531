import Mathlib.Data.List.DropRight
import Mathlib.Data.List.Infix
import Mathlib.Algebra.Ring.Int.Defs
import Mathlib.Algebra.Ring.Nat

/-!
# Finding and replacing

A text is read through a key, so that its items can carry more than what the pattern is compared with. The occurrences are
taken from left to right and do not overlap. An empty pattern stands before every item and at the end.
-/

namespace Lib
variable {A B K : Type*} [DecidableEq K]

/-- The number is how much of the last occurrence is left. -/
def replaceFrom (key : A → K) (pattern : List K) (replacement : List A) : Nat → List A → List A
  | _, [] => []
  | left + 1, _ :: rest => replaceFrom key pattern replacement left rest
  | 0, item :: rest =>
      if pattern <+: (item :: rest).map key then
        replacement ++ replaceFrom key pattern replacement (pattern.length - 1) rest
      else item :: replaceFrom key pattern replacement 0 rest

def between (replacement : List A) : List A → List A
  | [] => replacement
  | item :: rest => replacement ++ item :: between replacement rest

def replace (key : A → K) (pattern : List K) (replacement text : List A) : List A :=
  if pattern = [] then between replacement text else replaceFrom key pattern replacement 0 text

theorem map_replaceFrom {key : A → K} {other : B → K} {change : A → B} (same : other ∘ change = key) (pattern : List K)
    (replacement : List A) (left : Nat) (text : List A) :
    (replaceFrom key pattern replacement left text).map change =
      replaceFrom other pattern (replacement.map change) left (text.map change) := by
  subst same
  induction text generalizing left with
  | nil => rfl
  | cons item rest ih =>
      cases left with
      | succ left => exact ih left
      | zero =>
          rw [List.map_cons, replaceFrom, replaceFrom, ← List.map_cons, List.map_map]
          split
          · rw [List.map_append, ih]
          · rw [List.map_cons, ih]

theorem map_between (replacement : List A) (change : A → B) (text : List A) :
    (between replacement text).map change = between (replacement.map change) (text.map change) := by
  induction text with
  | nil => rfl
  | cons item rest ih => rw [between, List.map_append, List.map_cons, ih, List.map_cons, between]

theorem map_replace {key : A → K} {other : B → K} {change : A → B} (same : other ∘ change = key) (pattern : List K)
    (replacement text : List A) :
    (replace key pattern replacement text).map change = replace other pattern (replacement.map change) (text.map change) := by
  unfold replace
  split
  · exact map_between replacement change text
  · exact map_replaceFrom same pattern replacement 0 text

/-! ## The scan as a relation -/

inductive Scan (key : A → K) (pattern : List K) (replacement : List A) : List A → List A → Prop where
  | done : Scan key pattern replacement [] []
  | hit {found rest out : List A} : found.map key = pattern → Scan key pattern replacement rest out →
      Scan key pattern replacement (found ++ rest) (replacement ++ out)
  | miss {item : A} {rest out : List A} : ¬ pattern <+: (item :: rest).map key → Scan key pattern replacement rest out →
      Scan key pattern replacement (item :: rest) (item :: out)

section Scan
variable {key : A → K} {pattern : List K} {replacement text out : List A}

theorem replaceFrom_drop (found rest : List A) :
    replaceFrom key pattern replacement found.length (found ++ rest) = replaceFrom key pattern replacement 0 rest := by
  induction found with
  | nil => rfl
  | cons item found ih => exact ih

theorem replace_of_scan (present : pattern ≠ []) (scan : Scan key pattern replacement text out) :
    replace key pattern replacement text = out := by
  rw [replace, if_neg present]
  induction scan with
  | done => rfl
  | @hit found rest out matched scan ih =>
      cases found with
      | nil => exact absurd matched.symm present
      | cons item found =>
          have occurs : pattern <+: (item :: (found ++ rest)).map key := by
            rw [← List.cons_append, List.map_append, matched]
            exact List.prefix_append _ _
          have length : pattern.length - 1 = found.length := by
            rw [← matched, List.length_map, List.length_cons, Nat.add_sub_cancel]
          rw [List.cons_append, replaceFrom, if_pos occurs, length, replaceFrom_drop, ih]
  | miss absent scan ih => rw [replaceFrom, if_neg absent, ih]

omit [DecidableEq K] in
theorem Scan.pass {stretch : List A}
    (absent : ∀ before after, stretch = before ++ after → after ≠ [] → ¬ pattern <+: (after ++ text).map key)
    (scan : Scan key pattern replacement text out) :
    Scan key pattern replacement (stretch ++ text) (stretch ++ out) := by
  induction stretch with
  | nil => exact scan
  | cons item stretch ih =>
      refine .miss (absent [] (item :: stretch) rfl (List.cons_ne_nil _ _)) (ih fun before after whole => ?_)
      exact absent (item :: before) after (by rw [whole, List.cons_append])

end Scan

/-! ## Pieces between separators

What `splitOn` leaves and what `intercalate` puts together; trimming. -/

section Pieces
variable {α : Type*}

theorem mem_intercalate_of_mem {separator piece : List α} {pieces : List (List α)} (member : piece ∈ pieces) {a : α}
    (within : a ∈ piece) : a ∈ separator.intercalate pieces := by
  induction pieces with
  | nil => cases member
  | cons first pieces ih =>
      cases pieces with
      | nil =>
          rw [List.mem_singleton.mp member] at within
          rwa [List.intercalate_singleton]
      | cons second pieces =>
          rw [List.intercalate_cons_cons, List.mem_append, List.mem_append]
          rcases List.mem_cons.mp member with rfl | later
          · exact .inl (.inl within)
          · exact .inr (ih later)

theorem mem_of_mem_intercalate {separator : List α} {pieces : List (List α)} {a : α} (member : a ∈ separator.intercalate pieces) :
    a ∈ separator ∨ ∃ piece ∈ pieces, a ∈ piece := by
  induction pieces with
  | nil => cases member
  | cons first pieces ih =>
      cases pieces with
      | nil =>
          rw [List.intercalate_singleton] at member
          exact .inr ⟨first, List.mem_cons_self, member⟩
      | cons second pieces =>
          rw [List.intercalate_cons_cons, List.mem_append, List.mem_append] at member
          rcases member with (here | between) | later
          · exact .inr ⟨first, List.mem_cons_self, here⟩
          · exact .inl between
          · exact (ih later).imp_right fun ⟨piece, within, found⟩ => ⟨piece, List.mem_cons_of_mem _ within, found⟩

/-! ## Trimming -/

theorem dropWhile_start {p : α → Bool} {kept text : List α} (start : kept <+: text) (bare : text.dropWhile p = text) :
    kept.dropWhile p = kept := by
  obtain ⟨rest, rfl⟩ := start
  cases kept with
  | nil => rfl
  | cons c kept =>
      cases drops : p c with
      | false => rw [List.dropWhile_cons, if_neg (by simp [drops])]
      | true =>
          have shorter := (List.dropWhile_suffix p (l := kept ++ rest)).length_le
          rw [List.cons_append, List.dropWhile_cons, if_pos drops] at bare
          rw [bare, List.length_cons] at shorter
          omega

theorem trim_idem (p : α → Bool) (text : List α) :
    (((text.dropWhile p).rdropWhile p).dropWhile p).rdropWhile p = (text.dropWhile p).rdropWhile p := by
  have bare := List.dropWhile_idempotent (p := p) (l := text)
  rw [dropWhile_start (List.rdropWhile_prefix p (text.dropWhile p)) bare, List.rdropWhile_idempotent]

/-! ## Splitting -/

variable [BEq α] [LawfulBEq α]

theorem not_mem_of_mem_splitOn {a : α} (text : List α) : ∀ piece ∈ text.splitOn a, a ∉ piece := by
  induction text with
  | nil => simp
  | cons b text ih =>
      rw [List.splitOn_cons_eq_if_modifyHead]
      split
      next => simpa using ih
      next other =>
        obtain ⟨first, pieces, split⟩ := List.exists_cons_of_ne_nil (List.splitOn_ne_nil a text)
        rw [split] at ih ⊢
        simp only [List.modifyHead_cons, List.mem_cons, forall_eq_or_imp, not_or] at ih ⊢
        exact ⟨⟨fun same => other (by simp [same]), ih.1⟩, ih.2⟩

theorem splitOn_around {a : α} {front back : List (List α)} (middle : List α) (bareFront : ∀ piece ∈ front, a ∉ piece)
    (bareBack : ∀ piece ∈ back, a ∉ piece) (nonempty : back ≠ []) :
    ([a].intercalate (front ++ middle :: back)).splitOn a = front ++ middle.splitOn a ++ back := by
  induction front with
  | nil =>
      obtain ⟨first, rest, rfl⟩ := List.exists_cons_of_ne_nil nonempty
      rw [List.nil_append, List.nil_append, List.intercalate_cons_cons, List.append_assoc, List.singleton_append,
        List.splitOn_append_cons_self, List.splitOn_intercalate a bareBack nonempty]
  | cons piece front ih =>
      obtain ⟨barePiece, bareRest⟩ := List.forall_mem_cons.mp bareFront
      obtain ⟨first, rest, more⟩ : ∃ first rest, front ++ middle :: back = first :: rest := by
        cases front with
        | nil => exact ⟨middle, back, rfl⟩
        | cons first front => exact ⟨first, front ++ middle :: back, rfl⟩
      rw [List.cons_append, more, List.intercalate_cons_cons, List.append_assoc, List.singleton_append,
        List.splitOn_append_cons_self, List.splitOn_eq_singleton barePiece, ← more, ih bareRest]
      rfl

end Pieces

end Lib
