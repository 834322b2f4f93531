import Mathlib.Data.List.Forall2

/-!
# Lists related element by element

Rules for `List.Forall₂` when the second list comes from the first by a change of its elements.
-/

namespace Lib

section Two
variable {A B C D : Type*}

theorem forall₂_comp {R : A → B → Prop} {S : B → C → Prop} {T : A → C → Prop} {before : List A} {middle : List B}
    {after : List C} (composed : ∀ a b c, R a b → S b c → T a c) (one : List.Forall₂ R before middle)
    (two : List.Forall₂ S middle after) : List.Forall₂ T before after := by
  induction one generalizing after with
  | nil =>
      cases two
      exact .nil
  | cons first rest ih =>
      cases two with
      | cons second more => exact .cons (composed _ _ _ first second) (ih more)

theorem forall₂_getElem? {R : A → B → Prop} {before : List A} {after : List B} {i : Nat} {b : B}
    (related : List.Forall₂ R before after) (found : after[i]? = some b) :
    ∃ a, before[i]? = some a ∧ R a b := by
  induction related generalizing i with
  | nil => simp at found
  | cons first rest ih =>
      cases i with
      | zero =>
          cases found
          exact ⟨_, rfl, first⟩
      | succ i =>
          obtain ⟨a, earlier, holds⟩ := ih (by simpa using found)
          exact ⟨a, by simpa using earlier, holds⟩

theorem forall₂_mem {R : A → B → Prop} {before : List A} {after : List B} {b : B} (related : List.Forall₂ R before after)
    (member : b ∈ after) : ∃ a ∈ before, R a b := by
  obtain ⟨i, found⟩ := List.getElem?_of_mem member
  obtain ⟨a, earlier, holds⟩ := forall₂_getElem? related found
  exact ⟨a, List.mem_of_getElem? earlier, holds⟩

theorem mapM_eq_some_iff {f : A → Option B} {list : List A} {images : List B} :
    list.mapM f = some images ↔ List.Forall₂ (fun a b => f a = some b) list images := by
  induction list generalizing images with
  | nil => simp [eq_comm]
  | cons a list ih =>
      simp only [List.mapM_cons, Option.pure_def, Option.bind_eq_bind, Option.bind_eq_some_iff, Option.some.injEq, ih]
      constructor
      · rintro ⟨b, found, rest, others, rfl⟩
        exact .cons found others
      · rintro (_ | ⟨found, others⟩)
        exact ⟨_, found, _, others, rfl⟩

theorem length_flatten_le_of_sublists {before after : List (List A)} (shorter : List.Forall₂ List.Sublist before after) :
    before.flatten.length ≤ after.flatten.length := by
  induction shorter with
  | nil => exact Nat.le_refl _
  | cons first rest ih =>
      rw [List.flatten_cons, List.flatten_cons, List.length_append, List.length_append]
      exact Nat.add_le_add first.length_le ih

theorem eq_of_sublists {before after : List (List A)} (shorter : List.Forall₂ List.Sublist before after)
    (lengths : before.flatten.length = after.flatten.length) : before = after := by
  induction shorter with
  | nil => rfl
  | cons first rest ih =>
      have one := first.length_le
      have others := length_flatten_le_of_sublists rest
      rw [List.flatten_cons, List.flatten_cons, List.length_append, List.length_append] at lengths
      rw [first.eq_of_length (by omega), ih (by omega)]

variable {f : A → Option D} {g : B → Option D} {first : List A} {second : List B}

theorem length_filterMap_le (fewer : List.Forall₂ (fun a b => (f a).isSome → (g b).isSome) first second) :
    (first.filterMap f).length ≤ (second.filterMap g).length := by
  induction fewer with
  | nil => exact Nat.le_refl _
  | @cons a b _ _ one _ ih =>
      cases left : f a with
      | none =>
          rw [List.filterMap_cons_none left]
          cases right : g b with
          | none => rwa [List.filterMap_cons_none right]
          | some d =>
              rw [List.filterMap_cons_some right, List.length_cons]
              omega
      | some d =>
          obtain ⟨e, right⟩ := Option.isSome_iff_exists.mp (one (left ▸ rfl))
          rw [List.filterMap_cons_some left, List.filterMap_cons_some right, List.length_cons, List.length_cons]
          omega

theorem filterMap_eq_iff (fewer : List.Forall₂ (fun a b => (f a).isSome → (g b).isSome) first second) :
    first.filterMap f = second.filterMap g ↔ List.Forall₂ (fun a b => f a = g b) first second := by
  induction fewer with
  | nil => simp
  | @cons a b rest more one others ih =>
      rw [List.forall₂_cons, ← ih]
      cases left : f a with
      | none =>
          cases right : g b with
          | none => simp [List.filterMap_cons_none left, List.filterMap_cons_none right]
          | some d =>
              have shorter := length_filterMap_le others
              refine iff_of_false (fun same => ?_) (by simp)
              rw [List.filterMap_cons_none left, List.filterMap_cons_some right] at same
              rw [same, List.length_cons] at shorter
              omega
      | some d =>
          obtain ⟨e, right⟩ := Option.isSome_iff_exists.mp (one (left ▸ rfl))
          rw [List.filterMap_cons_some left, List.filterMap_cons_some right, right, List.cons.injEq, Option.some.injEq]

end Two

variable {A : Type*} {R : A → A → Prop} {before after : List A}

theorem forall₂_trans {middle : List A} (composed : ∀ {a b c}, R a b → R b c → R a c)
    (one : List.Forall₂ R before middle) (two : List.Forall₂ R middle after) : List.Forall₂ R before after :=
  forall₂_comp (R := R) (S := R) (fun _ _ _ first second => composed first second) one two

theorem forall₂_map {change : A → A} (all : ∀ a ∈ before, R a (change a)) :
    List.Forall₂ R before (before.map change) := by
  rw [List.forall₂_map_right_iff]
  exact List.forall₂_same.mpr all

theorem forall₂_modify {change : A → A} {i : Nat} (reflexive : ∀ a, R a a)
    (one : ∀ a, before[i]? = some a → R a (change a)) : List.Forall₂ R before (before.modify i change) := by
  induction before generalizing i with
  | nil => simp
  | cons a rest ih =>
      cases i with
      | zero => exact .cons (one a rfl) (List.forall₂_same.mpr fun other _ => reflexive other)
      | succ i => exact .cons (reflexive a) (ih fun other found => one other (by simpa using found))

end Lib
