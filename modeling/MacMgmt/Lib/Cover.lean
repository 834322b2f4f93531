import MacMgmt.Lib.Replace
import Mathlib.Data.List.Sort
import Mathlib.Algebra.Ring.Int.Defs
import Mathlib.Algebra.Ring.Nat

/-!
# Covering a text by patterns

Patterns that are replaced one after the other, the heaviest first. As long as overlapping occurrences lie in one occurrence and
no pattern meets what was put in for an earlier one, this is what one reading from left to right gives that takes the heaviest
pattern wherever one begins. The characters of the text carry their positions, so that one sees which of them are left.
-/

namespace Lib

abbrev Cell (K : Type*) := K × Option Nat

section Cells
variable {K : Type*}

def number (text : List K) : List (Cell K) := text.zipIdx.map fun numbered => (numbered.1, some numbered.2)

def unnumbered (text : List K) : List (Cell K) := text.map fun item => (item, none)

theorem map_fst_number (text : List K) : (number text).map Prod.fst = text := by
  rw [number, List.map_map]
  exact List.zipIdx_map_fst 0 text

theorem map_fst_unnumbered (text : List K) : (unnumbered text).map Prod.fst = text := by
  rw [unnumbered, List.map_map]
  exact List.map_id text

theorem length_number (text : List K) : (number text).length = text.length := by
  rw [number, List.length_map, List.length_zipIdx]

theorem snd_of_mem_unnumbered {text : List K} {cell : Cell K} (member : cell ∈ unnumbered text) : cell.2 = none := by
  obtain ⟨item, -, rfl⟩ := List.mem_map.mp member
  rfl

theorem isSome_of_mem_number {text : List K} {cell : Cell K} (member : cell ∈ number text) : cell.2.isSome = true := by
  obtain ⟨numbered, -, rfl⟩ := List.mem_map.mp member
  rfl

theorem map_fst_drop_number (text : List K) (start : Nat) : ((number text).drop start).map Prod.fst = text.drop start := by
  rw [List.map_drop, map_fst_number]

theorem drop_number {text : List K} {start : Nat} (inside : start < text.length) :
    (number text).drop start = (text[start], some start) :: (number text).drop (start + 1) := by
  rw [List.drop_eq_getElem_cons (by rwa [length_number])]
  congr 1
  simp [number]

end Cells

/-! ## Occurrences -/

section Occurrences
variable {K : Type*} {text inner outer : List K} {start next : Nat}

def Occurs (text pattern : List K) (start : Nat) : Prop := pattern <+: text.drop start

instance [DecidableEq K] (text pattern : List K) (start : Nat) : Decidable (Occurs text pattern start) :=
  inferInstanceAs (Decidable (_ <+: _))

theorem Occurs.within (occurs : Occurs text inner start) (some_ : inner ≠ []) : start + inner.length ≤ text.length := by
  have length := occurs.length_le
  rw [List.length_drop] at length
  have positive := List.length_pos_of_ne_nil some_
  omega

theorem Occurs.map_take {pattern : List K} (occurs : Occurs text pattern start) :
    (((number text).drop start).take pattern.length).map Prod.fst = pattern := by
  rw [List.map_take, map_fst_drop_number]
  exact (List.prefix_iff_eq_take.mp occurs).symm

theorem Occurs.infix_of_within (one : Occurs text outer start) (two : Occurs text inner next) (after : start ≤ next)
    (ends : next + inner.length ≤ start + outer.length) : inner <:+: outer := by
  have rest : outer.drop (next - start) <+: text.drop next := by
    have dropped := one.drop (next - start)
    rwa [List.drop_drop, show start + (next - start) = next by omega] at dropped
  have shorter : inner.length ≤ (outer.drop (next - start)).length := by
    rw [List.length_drop]
    omega
  exact (List.prefix_of_prefix_length_le two rest shorter).isInfix.trans (List.drop_suffix _ _).isInfix

/-- An occurrence of one pattern ends within an occurrence of another that goes on behind it. -/
structure Overlapping (text first second : List K) (start next : Nat) : Prop where
  here : Occurs text first start
  there : Occurs text second next
  after : start < next
  overlaps : next < start + first.length
  ends : start + first.length < next + second.length

instance [DecidableEq K] (text first second : List K) (start next : Nat) : Decidable (Overlapping text first second start next) :=
  decidable_of_iff
    (Occurs text first start ∧ Occurs text second next ∧ start < next ∧ next < start + first.length ∧
      start + first.length < next + second.length)
    ⟨fun ⟨here, there, after, overlaps, ends⟩ => ⟨here, there, after, overlaps, ends⟩,
      fun ⟨here, there, after, overlaps, ends⟩ => ⟨here, there, after, overlaps, ends⟩⟩

theorem Overlapping.next_lt {first second : List K} (overlapping : Overlapping text first second start next) :
    next < text.length := by
  obtain ⟨-, there, -, overlaps, ends⟩ := overlapping
  have some_ : second ≠ [] := by
    rintro rfl
    rw [List.length_nil] at ends
    omega
  have within := there.within some_
  have positive := List.length_pos_of_ne_nil some_
  omega

end Occurrences

section Weight
variable {K : Type*} (weigh : K → Nat)

def weight (text : List K) : Nat := (text.map weigh).sum

theorem length_le_weight (positive : ∀ item, 0 < weigh item) (text : List K) : text.length ≤ weight weigh text := by
  induction text with
  | nil => exact Nat.zero_le _
  | cons item rest ih =>
      have one := positive item
      rw [weight, List.map_cons, List.sum_cons, List.length_cons]
      exact Nat.add_comm _ _ ▸ Nat.add_le_add one ih

theorem weight_lt_of_infix (positive : ∀ item, 0 < weigh item) {inner outer : List K} (contained : inner <:+: outer)
    (shorter : inner.length < outer.length) : weight weigh inner < weight weigh outer := by
  obtain ⟨before, after, rfl⟩ := contained
  have left := length_le_weight weigh positive before
  have right := length_le_weight weigh positive after
  simp only [List.length_append] at shorter
  simp only [weight, List.map_append, List.sum_append] at left right ⊢
  omega

end Weight

/-! ## The cover -/

inductive Piece (P K : Type*) where
  | kept (cell : Cell K)
  | hole (pattern : P) (found : List (Cell K))

section Cover
variable {P K : Type*} (body mark : P → List K)

/-- The holes of the patterns that are shown stay as they were. -/
def Piece.cells (shown : P → Bool) : Piece P K → List (Cell K)
  | .kept cell => [cell]
  | .hole pattern found => if shown pattern then found else unnumbered (mark pattern)

def cellsOf (shown : P → Bool) (pieces : List (Piece P K)) : List (Cell K) := pieces.flatMap (Piece.cells mark shown)

def CoveredAt (text : List K) (patterns : List P) (position : Nat) : Prop :=
  ∃ pattern ∈ patterns, ∃ start, Occurs text (body pattern) start ∧
    start ≤ position ∧ position < start + (body pattern).length

def LiesIn (text : List K) (patterns : List P) (start stop : Nat) : Prop :=
  ∃ outer ∈ patterns, ∃ opening ≤ start, Occurs text (body outer) opening ∧ stop ≤ opening + (body outer).length

def Nested (text : List K) (patterns : List P) : Prop :=
  ∀ first ∈ patterns, ∀ second ∈ patterns, ∀ start next, Overlapping text (body first) (body second) start next →
    LiesIn body text patterns start (next + (body second).length)

variable [DecidableEq K]

def coverFrom (patterns : List P) : Nat → List (Cell K) → List (Piece P K)
  | _, [] => []
  | left + 1, _ :: rest => coverFrom patterns left rest
  | 0, cell :: rest =>
      match patterns.find? fun pattern => body pattern <+: (cell :: rest).map Prod.fst with
      | some pattern =>
          .hole pattern ((cell :: rest).take (body pattern).length) ::
            coverFrom patterns ((body pattern).length - 1) rest
      | none => .kept cell :: coverFrom patterns 0 rest

def cover (patterns : List P) (text : List K) (start : Nat) : List (Piece P K) :=
  coverFrom body patterns 0 ((number text).drop start)

def firstAt (patterns : List P) (text : List K) (start : Nat) : Option P :=
  patterns.find? fun pattern => Occurs text (body pattern) start

/-- No occurrence begins before a position and ends behind it. -/
def Clear (patterns : List P) (text : List K) (position : Nat) : Prop :=
  ∀ pattern ∈ patterns, ∀ start, Occurs text (body pattern) start → start < position →
    start + (body pattern).length ≤ position

def EachOccurrence (good : List (Cell K) → Prop) (cells : List (Cell K)) (pattern : List K) : Prop :=
  ∀ position < cells.length, Occurs (cells.map Prod.fst) pattern position →
    good ((cells.drop position).take pattern.length)

def Undisturbed (cells : List (Cell K)) (pattern : List K) : Prop :=
  EachOccurrence (fun found => ∀ cell ∈ found, cell.2.isSome = true) cells pattern

def Unforged (cells : List (Cell K)) (pattern : List K) : Prop :=
  EachOccurrence (fun found => ∃ cell ∈ found, cell.2 = none) cells pattern

variable {body mark} {patterns : List P} {text : List K} {start : Nat}

instance (stop : Nat) : Decidable (LiesIn body text patterns start stop) :=
  inferInstanceAs (Decidable (∃ outer ∈ patterns, ∃ opening ≤ start,
    Occurs text (body outer) opening ∧ stop ≤ opening + (body outer).length))

instance : Decidable (Nested body text patterns) :=
  decidable_of_iff
    (∀ first ∈ patterns, ∀ second ∈ patterns, ∀ start < text.length, ∀ next < text.length,
      Overlapping text (body first) (body second) start next →
        LiesIn body text patterns start (next + (body second).length))
    ⟨fun bounded first one second two start next overlapping =>
      bounded first one second two start (overlapping.after.trans overlapping.next_lt) next overlapping.next_lt overlapping,
    fun nested first one second two start _ next _ => nested first one second two start next⟩

instance (good : List (Cell K) → Prop) [DecidablePred good] (cells : List (Cell K)) (pattern : List K) :
    Decidable (EachOccurrence good cells pattern) :=
  inferInstanceAs (Decidable (∀ position < cells.length, _ → _))

instance (cells : List (Cell K)) (pattern : List K) : Decidable (Undisturbed cells pattern) :=
  inferInstanceAs (Decidable (EachOccurrence _ cells pattern))

instance (cells : List (Cell K)) (pattern : List K) : Decidable (Unforged cells pattern) :=
  inferInstanceAs (Decidable (EachOccurrence _ cells pattern))

section EachOccurrence
variable {good : List (Cell K) → Prop} {before cells : List (Cell K)} {pattern : List K}

omit [DecidableEq K] in
theorem EachOccurrence.of_append (each : EachOccurrence good (before ++ cells) pattern) :
    EachOccurrence good cells pattern := by
  intro position inside occurs
  have dropped : (before ++ cells).drop (before.length + position) = cells.drop position := by
    rw [← List.drop_drop, List.drop_left]
  have there := each (before.length + position) (by rw [List.length_append]; omega) (by
    rwa [Occurs, ← List.map_drop, dropped, List.map_drop])
  rwa [dropped] at there

omit [DecidableEq K] in
theorem EachOccurrence.of_prefix (each : EachOccurrence good cells pattern) (some_ : pattern ≠ [])
    (leads : pattern <+: cells.map Prod.fst) : ∃ found, found <+: cells ∧ found.map Prod.fst = pattern ∧ good found := by
  have positive := List.length_pos_of_ne_nil some_
  have length := leads.length_le
  rw [List.length_map] at length
  refine ⟨cells.take pattern.length, List.take_prefix _ _, ?_, each 0 (by omega) leads⟩
  rw [List.map_take]
  exact (List.prefix_iff_eq_take.mp leads).symm

end EachOccurrence

theorem coverFrom_drop (left : Nat) (cells : List (Cell K)) :
    coverFrom body patterns left cells = coverFrom body patterns 0 (cells.drop left) := by
  induction left generalizing cells with
  | zero => rfl
  | succ left ih =>
      cases cells with
      | nil => rfl
      | cons cell rest => exact ih rest

theorem cover_end (ended : text.length ≤ start) : cover body patterns text start = [] := by
  rw [cover, List.drop_eq_nil_of_le (by rwa [length_number]), coverFrom]

theorem firstAt_some {pattern : P} (found : firstAt body patterns text start = some pattern) :
    pattern ∈ patterns ∧ Occurs text (body pattern) start :=
  ⟨List.mem_of_find?_eq_some found, by simpa using List.find?_some found⟩

theorem firstAt_none (absent : firstAt body patterns text start = none) {pattern : P} (member : pattern ∈ patterns) :
    ¬ Occurs text (body pattern) start := by
  simpa using List.find?_eq_none.mp absent pattern member

theorem find_eq_firstAt (inside : start < text.length) :
    (patterns.find? fun pattern => body pattern <+:
      ((text[start], some start) :: (number text).drop (start + 1) : List (Cell K)).map Prod.fst) =
      firstAt body patterns text start := by
  rw [← drop_number inside, map_fst_drop_number]
  rfl

theorem cover_hole {pattern : P} (some_ : body pattern ≠ []) (found : firstAt body patterns text start = some pattern) :
    cover body patterns text start =
      .hole pattern (((number text).drop start).take (body pattern).length) ::
        cover body patterns text (start + (body pattern).length) := by
  have length := (firstAt_some found).2.within some_
  have positive := List.length_pos_of_ne_nil some_
  have inside : start < text.length := by omega
  rw [cover, drop_number inside, coverFrom, find_eq_firstAt inside, found]
  dsimp only
  rw [coverFrom_drop, List.drop_drop, ← drop_number inside, cover,
    show start + 1 + ((body pattern).length - 1) = start + (body pattern).length by omega]

theorem cover_kept (inside : start < text.length) (absent : firstAt body patterns text start = none) :
    cover body patterns text start =
      .kept (text[start], some start) :: cover body patterns text (start + 1) := by
  rw [cover, drop_number inside, coverFrom, find_eq_firstAt inside, absent]
  rfl

/-! ## Reading from left to right -/

structure Coverable (weigh : K → Nat) (body : P → List K) (text : List K) (all : List P) : Prop where
  positive : ∀ item, 0 < weigh item
  some_ : ∀ pattern ∈ all, body pattern ≠ []
  sorted : all.Pairwise fun first second => weight weigh (body second) ≤ weight weigh (body first)
  nested : Nested body text all

section Coverable
variable {weigh : K → Nat} {all rest : List P} {position : Nat}

omit [DecidableEq K] in
theorem Coverable.mem_of_heavier (coverable : Coverable weigh body text all) (split : all = patterns ++ rest)
    {light heavy : P} (member : light ∈ patterns) (among : heavy ∈ all)
    (heavier : weight weigh (body light) < weight weigh (body heavy)) : heavy ∈ patterns := by
  subst split
  rcases List.mem_append.mp among with early | late
  · exact early
  · have lighter := (List.pairwise_append.mp coverable.sorted).2.2 light member heavy late
    omega

theorem Coverable.longest_first (coverable : Coverable weigh body text all) (split : all = patterns ++ rest)
    {pattern other : P} (found : firstAt body patterns text position = some pattern) (member : other ∈ patterns)
    (occurs : Occurs text (body other) position) : (body other).length ≤ (body pattern).length := by
  by_contra longer
  have inside : body pattern <:+: body other :=
    occurs.infix_of_within (firstAt_some found).2 (Nat.le_refl _) (by omega)
  have heavier := weight_lt_of_infix weigh coverable.positive inside (by omega)
  obtain ⟨-, before, after, whole, earlier⟩ := List.find?_eq_some_iff_append.mp found
  subst split whole
  have sorted := (List.pairwise_append.mp (List.pairwise_append.mp coverable.sorted).1).2.1
  rcases List.mem_append.mp member with early | late
  · simpa [occurs] using earlier other early
  · rcases List.mem_cons.mp late with rfl | later
    · omega
    · have lighter := (List.pairwise_cons.mp sorted).1 other later
      omega

omit [DecidableEq K] in
theorem Coverable.exists_opening (coverable : Coverable weigh body text all) (split : all = patterns ++ rest)
    (clear : Clear body patterns text position) {first second : P} {next : Nat} (one : first ∈ all) (two : second ∈ patterns)
    (overlapping : Overlapping text (body first) (body second) position next) :
    ∃ outer ∈ patterns, Occurs text (body outer) position ∧
      next + (body second).length ≤ position + (body outer).length := by
  have after := overlapping.after
  have overlaps := overlapping.overlaps
  have ends := overlapping.ends
  have among : second ∈ all := split ▸ List.mem_append_left rest two
  obtain ⟨outer, member, opening, before, occurs, stop⟩ :=
    coverable.nested first one second among position next overlapping
  have inside := occurs.infix_of_within overlapping.there (by omega) stop
  have heavier := weight_lt_of_infix weigh coverable.positive inside (by omega)
  have early := coverable.mem_of_heavier split two member heavier
  have here : opening = position := by
    by_contra different
    have closed := clear outer early opening occurs (by omega)
    omega
  subst here
  exact ⟨outer, early, occurs, stop⟩

omit [DecidableEq K] in
theorem Clear.begin (patterns : List P) (text : List K) : Clear body patterns text 0 :=
  fun _ _ _ _ negative => absurd negative (Nat.not_lt_zero _)

theorem Clear.kept (clear : Clear body patterns text position) (absent : firstAt body patterns text position = none) :
    Clear body patterns text (position + 1) := by
  intro pattern member start occurs before
  rcases Nat.lt_succ_iff_lt_or_eq.mp before with earlier | rfl
  · exact (clear pattern member start occurs earlier).trans (Nat.le_succ _)
  · exact absurd occurs (firstAt_none absent member)

theorem Clear.hole (clear : Clear body patterns text position) (coverable : Coverable weigh body text all)
    (split : all = patterns ++ rest) {pattern : P} (found : firstAt body patterns text position = some pattern) :
    Clear body patterns text (position + (body pattern).length) := by
  intro other member start occurs before
  obtain ⟨early, here⟩ := firstAt_some found
  have among : pattern ∈ all := split ▸ List.mem_append_left rest early
  rcases Nat.lt_trichotomy start position with earlier | rfl | later
  · exact (clear other member start occurs earlier).trans (Nat.le_add_right _ _)
  · have shorter := coverable.longest_first split found member occurs
    omega
  · by_contra beyond
    obtain ⟨outer, member, opens, stop⟩ := coverable.exists_opening split clear among member
      ⟨here, occurs, later, before, by omega⟩
    have shorter := coverable.longest_first split found member opens
    omega

theorem Clear.run (clear : Clear body patterns text position) (coverable : Coverable weigh body text all)
    {pattern : P} (split : all = patterns ++ pattern :: rest) (absent : firstAt body patterns text position = none)
    (here : Occurs text (body pattern) position) :
    (∀ start, position ≤ start → start < position + (body pattern).length →
      firstAt body patterns text start = none) ∧
    Clear body patterns text (position + (body pattern).length) := by
  have among : pattern ∈ all := split ▸ List.mem_append_right patterns (List.mem_cons_self ..)
  have apart : ∀ other ∈ patterns, ∀ start, position ≤ start → start < position + (body pattern).length →
      ¬ Occurs text (body other) start := by
    intro other member start after before occurs
    rcases Nat.lt_or_eq_of_le after with later | rfl
    · rcases Nat.lt_or_ge (position + (body pattern).length) (start + (body other).length) with beyond | within
      · obtain ⟨outer, early, opens, -⟩ := coverable.exists_opening split clear among member
          ⟨here, occurs, later, before, beyond⟩
        exact firstAt_none absent early opens
      · have inside := here.infix_of_within occurs after within
        have heavier := weight_lt_of_infix weigh coverable.positive inside (by omega)
        have sorted := coverable.sorted
        rw [split] at sorted
        have lighter := (List.pairwise_append.mp sorted).2.2 other member pattern (List.mem_cons_self ..)
        omega
    · exact firstAt_none absent member occurs
  constructor
  · intro start after before
    exact List.find?_eq_none.mpr fun other member => by simpa using apart other member start after before
  · intro other member start occurs before
    rcases Nat.lt_or_ge start position with earlier | after
    · exact (clear other member start occurs earlier).trans (Nat.le_add_right _ _)
    · exact absurd occurs (apart other member start after before)

end Coverable

/-! ## One replacement after the other -/

section Replacement
variable {shown : P → Bool} {weigh : K → Nat} {all rest : List P}

@[elab_as_elim]
theorem cover_induction (text : List K) {property : Nat → Prop} (some_ : ∀ pattern ∈ patterns, body pattern ≠ [])
    (ended : ∀ start, text.length ≤ start → property start)
    (hole : ∀ start pattern, firstAt body patterns text start = some pattern →
      property (start + (body pattern).length) → property start)
    (kept : ∀ start, start < text.length → firstAt body patterns text start = none → property (start + 1) → property start)
    (start : Nat) : property start := by
  induction left : text.length - start using Nat.strong_induction_on generalizing start with
  | _ size ih =>
  subst left
  rcases Nat.lt_or_ge start text.length with inside | out
  · cases found : firstAt body patterns text start with
    | none => exact kept start inside found (ih _ (by omega) (start + 1) rfl)
    | some pattern =>
        have positive := List.length_pos_of_ne_nil (some_ pattern (firstAt_some found).1)
        exact hole start pattern found (ih _ (by omega) (start + (body pattern).length) rfl)
  · exact ended start out

omit [DecidableEq K] in
theorem cellsOf_cons (piece : Piece P K) (pieces : List (Piece P K)) :
    cellsOf mark shown (piece :: pieces) = piece.cells mark shown ++ cellsOf mark shown pieces :=
  List.flatMap_cons

theorem cellsOf_run {count : Nat} (absent : ∀ next, start ≤ next → next < start + count →
    firstAt body patterns text next = none) (within : start + count ≤ text.length) :
    cellsOf mark shown (cover body patterns text start) =
      ((number text).drop start).take count ++ cellsOf mark shown (cover body patterns text (start + count)) := by
  induction count generalizing start with
  | zero => rfl
  | succ count ih =>
      have inside : start < text.length := by omega
      have later := @ih (start + 1) (fun next after before => absent next (by omega) (by omega)) (by omega)
      rw [cover_kept inside (absent start (Nat.le_refl _) (by omega)), cellsOf_cons, later, drop_number inside,
        List.take_succ_cons, show start + 1 + count = start + (count + 1) by omega]
      rfl

theorem map_prefix_of_numbered (some_ : ∀ pattern ∈ patterns, body pattern ≠ [])
    (marked : ∀ pattern ∈ patterns, mark pattern ≠ []) {found : List (Cell K)}
    (leads : found <+: cellsOf mark (fun _ => false) (cover body patterns text start))
    (numbered : ∀ cell ∈ found, cell.2.isSome = true) : found.map Prod.fst <+: text.drop start := by
  induction start using cover_induction text some_ generalizing found with
  | ended start out =>
      rw [cover_end out] at leads
      rw [List.prefix_nil.mp leads]
      exact List.nil_prefix
  | hole start pattern here _ =>
      obtain ⟨member, -⟩ := firstAt_some here
      rw [cover_hole (some_ pattern member) here, cellsOf_cons] at leads
      cases found with
      | nil => exact List.nil_prefix
      | cons cell found =>
          obtain ⟨item, others, whole⟩ := List.exists_cons_of_ne_nil (marked pattern member)
          have first : cell = (item, none) := by
            rw [Piece.cells, if_neg Bool.false_ne_true, whole] at leads
            exact (List.cons_prefix_cons.mp leads).1
          have isSome := numbered cell (List.mem_cons_self ..)
          rw [first] at isSome
          cases isSome
  | kept start inside absent ih =>
      rw [cover_kept inside absent, cellsOf_cons] at leads
      cases found with
      | nil => exact List.nil_prefix
      | cons cell found =>
          obtain ⟨rfl, others⟩ := List.cons_prefix_cons.mp leads
          rw [List.drop_eq_getElem_cons inside, List.map_cons]
          exact List.cons_prefix_cons.mpr
            ⟨rfl, ih others fun other member => numbered other (List.mem_cons_of_mem _ member)⟩

theorem firstAt_append (pattern : P) (start : Nat) :
    firstAt body (patterns ++ [pattern]) text start =
      (firstAt body patterns text start).or (if Occurs text (body pattern) start then some pattern else none) := by
  rw [firstAt, List.find?_append]
  congr 1
  by_cases here : Occurs text (body pattern) start
  · rw [if_pos here, List.find?_cons_of_pos (by simpa using here)]
  · rw [if_neg here, List.find?_cons_of_neg (by simpa using here), List.find?_nil]

theorem scan_cover (coverable : Coverable weigh body text all) (marked : ∀ pattern ∈ all, mark pattern ≠ []) {pattern : P}
    (split : all = patterns ++ pattern :: rest) (clear : Clear body patterns text start)
    (undisturbed : Undisturbed (cellsOf mark (fun _ => false) (cover body patterns text start)) (body pattern)) :
    Scan Prod.fst (body pattern) (unnumbered (mark pattern))
      (cellsOf mark (fun _ => false) (cover body patterns text start))
      (cellsOf mark (fun _ => false) (cover body (patterns ++ [pattern]) text start)) := by
  have early : ∀ other ∈ patterns, other ∈ all := fun other member => split ▸ List.mem_append_left _ member
  have among : pattern ∈ all := split ▸ List.mem_append_right patterns (List.mem_cons_self ..)
  have some_ : ∀ other ∈ patterns ++ [pattern], body other ≠ [] := by
    intro other member
    rcases List.mem_append.mp member with before | same
    · exact coverable.some_ other (early other before)
    · rw [List.mem_singleton.mp same]
      exact coverable.some_ pattern among
  induction start using cover_induction text some_ with
  | ended start out =>
      rw [cover_end out, cover_end out]
      exact .done
  | hole start other found ih =>
      rw [cover_hole (some_ other (firstAt_some found).1) found, cellsOf_cons]
      rw [firstAt_append] at found
      cases before : firstAt body patterns text start with
      | some earlier =>
          rw [before, Option.some_or] at found
          cases found
          have member := (firstAt_some before).1
          rw [cover_hole (coverable.some_ _ (early _ member)) before, cellsOf_cons] at undisturbed ⊢
          refine .pass (fun front after whole some_ leads => ?_)
            (ih (clear.hole coverable split before) undisturbed.of_append)
          -- the first character of such an occurrence is one that has been put in
          rw [Piece.cells, if_neg Bool.false_ne_true] at whole undisturbed
          rw [whole, List.append_assoc] at undisturbed
          obtain ⟨found, inside, same, numbered⟩ :=
            undisturbed.of_append.of_prefix (coverable.some_ pattern among) leads
          obtain ⟨cell, later, rfl⟩ := List.exists_cons_of_ne_nil some_
          cases found with
          | nil => exact coverable.some_ pattern among same.symm
          | cons first found =>
              have isSome := numbered first (List.mem_cons_self ..)
              have put : cell ∈ unnumbered (mark other) := whole ▸ List.mem_append_right front (List.mem_cons_self ..)
              rw [(List.cons_prefix_cons.mp inside).1, snd_of_mem_unnumbered put] at isSome
              cases isSome
      | none =>
          rw [before, Option.none_or, Option.ite_none_right_eq_some] at found
          obtain ⟨here, same⟩ := found
          cases same
          obtain ⟨absent, later⟩ := clear.run coverable split before here
          have within := here.within (coverable.some_ pattern among)
          rw [cellsOf_run absent within] at undisturbed ⊢
          exact .hit here.map_take (ih later undisturbed.of_append)
  | kept start inside absent ih =>
      rw [firstAt_append, Option.or_eq_none_iff] at absent
      obtain ⟨before, here⟩ := absent
      have elsewhere : ¬ Occurs text (body pattern) start := by simpa using here
      have absent : firstAt body (patterns ++ [pattern]) text start = none := by
        rw [firstAt_append, before, if_neg elsewhere, Option.none_or]
      rw [cover_kept inside absent, cellsOf_cons]
      have run : cellsOf mark (fun _ => false) (cover body patterns text start) =
          (text[start], some start) :: cellsOf mark (fun _ => false) (cover body patterns text (start + 1)) := by
        rw [cover_kept inside before, cellsOf_cons]
        rfl
      rw [run]
      refine .miss (fun leads => elsewhere ?_) (ih (clear.kept before) ?_)
      · rw [← run] at leads
        obtain ⟨found, front, same, numbered⟩ := undisturbed.of_prefix (coverable.some_ pattern among) leads
        rw [Occurs, ← same]
        exact map_prefix_of_numbered (fun other member => coverable.some_ other (early other member))
          (fun other member => marked other (early other member)) front numbered
      · rw [run] at undisturbed
        exact (show EachOccurrence _ ([_] ++ _) _ from undisturbed).of_append

theorem foldl_replace_eq_cover (coverable : Coverable weigh body text all) (marked : ∀ pattern ∈ all, mark pattern ≠ [])
    (undisturbed : ∀ before pattern after, all = before ++ pattern :: after →
      Undisturbed (cellsOf mark (fun _ => false) (cover body before text 0)) (body pattern)) :
    all.foldl (fun cells pattern => replace Prod.fst (body pattern) (unnumbered (mark pattern)) cells) (number text) =
      cellsOf mark (fun _ => false) (cover body all text 0) := by
  have steps : ∀ before after, all = before ++ after →
      after.foldl (fun cells pattern => replace Prod.fst (body pattern) (unnumbered (mark pattern)) cells)
        (cellsOf mark (fun _ => false) (cover body before text 0)) =
      cellsOf mark (fun _ => false) (cover body all text 0) := by
    intro before after split
    induction after generalizing before with
    | nil => rw [split, List.append_nil, List.foldl_nil]
    | cons pattern after ih =>
        have member : pattern ∈ all := split ▸ List.mem_append_right before (List.mem_cons_self ..)
        rw [List.foldl_cons, replace_of_scan (coverable.some_ pattern member)
          (scan_cover coverable marked split (.begin before text) (undisturbed before pattern after split))]
        exact ih (before ++ [pattern]) (by rw [split, List.append_assoc, List.singleton_append])
  have plain : cellsOf mark (fun _ => false) (cover body [] text 0) = number text := by
    have run : cellsOf mark (fun _ => false) (cover body [] text 0) =
        ((number text).drop 0).take text.length ++
          cellsOf mark (fun _ => false) (cover body [] text (0 + text.length)) :=
      cellsOf_run (fun _ _ _ => rfl) (by omega)
    rw [run, cover_end (by omega)]
    simp [length_number, cellsOf]
  rw [← plain]
  exact steps [] all rfl

theorem not_coveredAt (coverable : Coverable weigh body text all) (clear : Clear body all text start) {cell : Cell K}
    {position : Nat} (left : cell ∈ cellsOf mark (fun _ => false) (cover body all text start))
    (numbered : cell.2 = some position) : ¬ CoveredAt body text all position := by
  induction start using cover_induction text coverable.some_ with
  | ended start out =>
      rw [cover_end out] at left
      cases left
  | hole start pattern found ih =>
      rw [cover_hole (coverable.some_ pattern (firstAt_some found).1) found, cellsOf_cons] at left
      rcases List.mem_append.mp left with put | later
      · rw [Piece.cells, if_neg Bool.false_ne_true] at put
        rw [snd_of_mem_unnumbered put] at numbered
        cases numbered
      · exact ih (clear.hole coverable (List.append_nil all).symm found) later
  | kept start inside absent ih =>
      rw [cover_kept inside absent, cellsOf_cons] at left
      rcases List.mem_append.mp left with here | later
      · cases List.mem_singleton.mp here
        cases numbered
        rintro ⟨pattern, member, opening, occurs, before, behind⟩
        rcases Nat.lt_or_eq_of_le before with earlier | rfl
        · have closed := clear pattern member opening occurs earlier
          omega
        · exact firstAt_none absent member occurs
      · exact ih (clear.kept absent) later

theorem cellsOf_shown (some_ : ∀ pattern ∈ patterns, body pattern ≠ []) (all : ∀ pattern ∈ patterns, shown pattern = true)
    (start : Nat) : cellsOf mark shown (cover body patterns text start) = (number text).drop start := by
  induction start using cover_induction text some_ with
  | ended start out => rw [cover_end out, List.drop_eq_nil_of_le (by rwa [length_number]), cellsOf, List.flatMap_nil]
  | hole start pattern found ih =>
      have member := (firstAt_some found).1
      rw [cover_hole (some_ pattern member) found, cellsOf_cons, ih, Piece.cells, if_pos (all pattern member),
        ← List.drop_drop, List.take_append_drop]
  | kept start inside absent ih =>
      rw [cover_kept inside absent, cellsOf_cons, ih, drop_number inside]
      rfl

end Replacement
end Cover

end Lib
