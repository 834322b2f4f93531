import Mathlib.Algebra.BigOperators.Group.List.Basic
import Mathlib.Order.Basic
import Mathlib.Algebra.Ring.Int.Defs
import Mathlib.Algebra.Ring.Nat

/-!
# Checked arithmetic

Natural numbers below a bound. A checked operation has no value where the machine's would wrap or panic. A loop of
checked steps has a value exactly if the unchecked loop ends within the bounds, as long as later steps do not undo a failure.
-/

namespace Lib

def checkedAdd (bound first second : Nat) : Option Nat := if first + second < bound then some (first + second) else none

def checkedSub (first second : Nat) : Option Nat := if second ≤ first then some (first - second) else none

def saturatingMul (bound first second : Nat) : Nat := min (first * second) (bound - 1)

section Results
variable {A : Type*} {bound first second : Nat} {result : A}

theorem checkedAdd_bind_eq_some_iff {next : Nat → Option A} :
    (checkedAdd bound first second).bind next = some result ↔ first + second < bound ∧ next (first + second) = some result := by
  unfold checkedAdd
  split <;> simp [*]

theorem checkedAdd_map_eq_some_iff {next : Nat → A} :
    (checkedAdd bound first second).map next = some result ↔ first + second < bound ∧ next (first + second) = result := by
  unfold checkedAdd
  split <;> simp [*]

theorem checkedSub_map_eq_some_iff {next : Nat → A} :
    (checkedSub first second).map next = some result ↔ second ≤ first ∧ next (first - second) = result := by
  unfold checkedSub
  split <;> simp [*]

end Results

section Folds
variable {S A : Type*} {items : List A} {state after : S} {step : S → A → Option S} {next : S → A → S} {accepts : A → Prop}
  {fits : S → Prop}

theorem foldlM_eq_some_iff (start : fits state) (narrows : ∀ old item, fits (next old item) → fits old)
    (steps : ∀ old item new, fits old → (step old item = some new ↔ accepts item ∧ fits (next old item) ∧ new = next old item)) :
    items.foldlM step state = some after ↔
      (∀ item ∈ items, accepts item) ∧ fits (items.foldl next state) ∧ after = items.foldl next state := by
  induction items generalizing state with
  | nil => simp [start, eq_comm]
  | cons item items ih =>
      have ends (old : S) (fitting : fits (items.foldl next old)) : fits old := by
        clear ih start
        induction items generalizing old with
        | nil => exact fitting
        | cons other rest earlier => exact narrows old other (earlier _ fitting)
      rw [List.foldlM_cons, Option.bind_eq_bind, Option.bind_eq_some_iff, List.foldl_cons, List.forall_mem_cons]
      constructor
      · rintro ⟨middle, first, rest⟩
        obtain ⟨accepted, fitting, rfl⟩ := (steps state item middle start).mp first
        obtain ⟨others, last⟩ := (ih fitting).mp rest
        exact ⟨⟨accepted, others⟩, last⟩
      · rintro ⟨⟨accepted, others⟩, last⟩
        have fitting := ends _ last.1
        exact ⟨next state item, (steps state item _ start).mpr ⟨accepted, fitting, rfl⟩, (ih fitting).mpr ⟨others, last⟩⟩

theorem foldl_sum (get : S → Nat) (amount : A → Nat) (adds : ∀ old item, get (next old item) = get old + amount item) :
    get (items.foldl next state) = get state + (items.map amount).sum := by
  induction items generalizing state with
  | nil => simp
  | cons item items ih => rw [List.foldl_cons, ih, adds, List.map_cons, List.sum_cons, Nat.add_assoc]

end Folds
end Lib
