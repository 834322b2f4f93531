import Mathlib.Logic.Basic
import Mathlib.Algebra.Ring.Int.Defs
import Mathlib.Algebra.Ring.Nat

/-!
# Runs of a partial step function

A system is a function `step : State → Event → Option State`; an event that is not enabled gives
`none`. A run is a list of events. `Meets` says that every step of a run satisfies a condition on the
state before it and the event, `Always` that every state the run goes through has a property.
-/

namespace Lib

section Run
variable {State Event : Type*} (step : State → Event → Option State)

def run : State → List Event → Option State
  | state, [] => some state
  | state, event :: events => (step state event).bind fun after => run after events

def Meets (condition : State → Event → Prop) : State → List Event → Prop
  | _, [] => True
  | state, event :: events =>
      condition state event ∧ ∀ after, step state event = some after → Meets condition after events

def Always (property : State → Prop) : State → List Event → Prop
  | state, [] => property state
  | state, event :: events =>
      property state ∧ ∀ after, step state event = some after → Always property after events

variable {step}

theorem run_cons_some {state final : State} {event : Event} {events : List Event} :
    run step state (event :: events) = some final ↔
      ∃ after, step state event = some after ∧ run step after events = some final := by
  simp only [run, Option.bind_eq_some_iff]

theorem run_append (state : State) (first second : List Event) :
    run step state (first ++ second) = (run step state first).bind fun middle => run step middle second := by
  induction first generalizing state with
  | nil => rfl
  | cons event first ih =>
      rw [List.cons_append, run, run, Option.bind_assoc]
      exact congrArg _ (funext ih)

/-- A system that no event stops has a state at the end of every run. -/
theorem exists_run (total : ∀ state event, ∃ after, step state event = some after) (state : State) (events : List Event) :
    ∃ final, run step state events = some final := by
  induction events generalizing state with
  | nil => exact ⟨state, rfl⟩
  | cons event events ih =>
      obtain ⟨after, taken⟩ := total state event
      obtain ⟨final, ran⟩ := ih after
      exact ⟨final, run_cons_some.mpr ⟨after, taken, ran⟩⟩

/-- An invariant that every step meeting the condition preserves holds at the end of every run whose
steps all meet it. A prefix of a run is a run, so this speaks about every state the run reaches. -/
theorem run_invariant_of_meets {condition : State → Event → Prop} {invariant : State → Prop}
    (preserved : ∀ state event after, invariant state → condition state event →
      step state event = some after → invariant after)
    {state final : State} {events : List Event} (initially : invariant state)
    (meets : Meets step condition state events) (ran : run step state events = some final) :
    invariant final := by
  induction events generalizing state with
  | nil =>
      cases ran
      exact initially
  | cons event events ih =>
      obtain ⟨after, taken, rest⟩ := run_cons_some.mp ran
      exact ih (preserved state event after initially meets.1 taken) (meets.2 after taken) rest

theorem meets_cons_iff {condition : State → Event → Prop} {state after : State} {event : Event} {events : List Event}
    (taken : step state event = some after) :
    Meets step condition state (event :: events) ↔ condition state event ∧ Meets step condition after events := by
  simp only [Meets, taken, Option.some.injEq, forall_eq']

theorem meets_append_iff {condition : State → Event → Prop} {state middle : State} {first second : List Event}
    (ran : run step state first = some middle) :
    Meets step condition state (first ++ second) ↔
      Meets step condition state first ∧ Meets step condition middle second := by
  induction first generalizing state with
  | nil =>
      cases ran
      exact ⟨fun meets => ⟨trivial, meets⟩, And.right⟩
  | cons event events ih =>
      obtain ⟨after, taken, rest⟩ := run_cons_some.mp ran
      rw [List.cons_append, meets_cons_iff taken, meets_cons_iff taken, ih rest, and_assoc]

theorem meets_true (state : State) (events : List Event) : Meets step (fun _ _ => True) state events := by
  induction events generalizing state with
  | nil => trivial
  | cons event events ih => exact ⟨trivial, fun after _ => ih after⟩

theorem run_invariant {invariant : State → Prop}
    (preserved : ∀ state event after, invariant state → step state event = some after → invariant after)
    {state final : State} {events : List Event} (initially : invariant state)
    (ran : run step state events = some final) : invariant final :=
  run_invariant_of_meets (fun state event after holds _ => preserved state event after holds) initially
    (meets_true state events) ran

/-- Where each step is one of another system, or none, so is each run. -/
theorem run_simulated {Other Seen : Type*} {other : Other → Seen → Option Other} (view : State → Other)
    (simulated : ∀ state event after, step state event = some after →
      view after = view state ∨ ∃ seen, other (view state) seen = some (view after))
    {state final : State} {events : List Event} (ran : run step state events = some final) :
    ∃ seen, run other (view state) seen = some (view final) := by
  induction events generalizing state with
  | nil =>
      cases ran
      exact ⟨[], rfl⟩
  | cons event events ih =>
      obtain ⟨after, taken, rest⟩ := run_cons_some.mp ran
      obtain ⟨later, onward⟩ := ih rest
      rcases simulated state event after taken with same | ⟨seen, first⟩
      · exact ⟨later, same ▸ onward⟩
      · exact ⟨seen :: later, run_cons_some.mpr ⟨_, first, onward⟩⟩

/-- An invariant of the steps by allowed events that gives the condition at each of them. -/
theorem meets_of_invariant {condition : State → Event → Prop} {invariant : State → Prop} {allowed : Event → Prop}
    (preserved : ∀ state event after, allowed event → invariant state → step state event = some after →
      invariant after)
    (enough : ∀ state event, allowed event → invariant state → condition state event)
    {state : State} {events : List Event} (initially : invariant state) (all : ∀ event ∈ events, allowed event) :
    Meets step condition state events := by
  induction events generalizing state with
  | nil => trivial
  | cons event events ih =>
      obtain ⟨first, later⟩ := List.forall_mem_cons.mp all
      refine ⟨enough state event first initially, fun after taken => ?_⟩
      exact ih (preserved state event after first initially taken) later

/-- Under an invariant that its steps preserve, one condition gives another all along a run. -/
theorem Meets.imp_of_invariant {condition goal : State → Event → Prop} {invariant : State → Prop}
    (preserved : ∀ state event after, invariant state → condition state event →
      step state event = some after → invariant after)
    (enough : ∀ state event, invariant state → condition state event → goal state event)
    {state : State} {events : List Event} (initially : invariant state)
    (meets : Meets step condition state events) : Meets step goal state events := by
  induction events generalizing state with
  | nil => trivial
  | cons event events ih =>
      refine ⟨enough state event initially meets.1, fun after taken => ?_⟩
      exact ih (preserved state event after initially meets.1 taken) (meets.2 after taken)

theorem always_of_meets {condition : State → Event → Prop} {invariant : State → Prop}
    (preserved : ∀ state event after, invariant state → condition state event →
      step state event = some after → invariant after)
    {state : State} {events : List Event} (initially : invariant state)
    (meets : Meets step condition state events) : Always step invariant state events := by
  induction events generalizing state with
  | nil => exact initially
  | cons event events ih =>
      refine ⟨initially, fun after taken => ?_⟩
      exact ih (preserved state event after initially meets.1 taken) (meets.2 after taken)

theorem Always.imp {first second : State → Prop} (imp : ∀ state, first state → second state) {state : State}
    {events : List Event} (always : Always step first state events) : Always step second state events := by
  induction events generalizing state with
  | nil => exact imp state always
  | cons event events ih => exact ⟨imp state always.1, fun after taken => ih (always.2 after taken)⟩

theorem Always.final {property : State → Prop} {state final : State} {events : List Event}
    (always : Always step property state events) (ran : run step state events = some final) : property final := by
  induction events generalizing state with
  | nil =>
      cases ran
      exact always
  | cons event events ih =>
      obtain ⟨after, taken, rest⟩ := run_cons_some.mp ran
      exact ih (always.2 after taken) rest

instance Meets.decidable {condition : State → Event → Prop} [∀ state event, Decidable (condition state event)] :
    (state : State) → (events : List Event) → Decidable (Meets step condition state events)
  | _, [] => .isTrue trivial
  | state, event :: events =>
      match taken : step state event with
      | none => decidable_of_iff (condition state event)
          ⟨fun met => ⟨met, fun after same => by rw [taken] at same; cases same⟩, And.left⟩
      | some after =>
          have : Decidable (Meets step condition after events) := Meets.decidable after events
          decidable_of_iff (condition state event ∧ Meets step condition after events)
            ⟨fun both => ⟨both.1, fun other same => by rw [taken] at same; cases same; exact both.2⟩,
              fun both => ⟨both.1, both.2 after taken⟩⟩

/-- When, under an invariant, one step keeps a property exactly if it meets a condition, a run keeps
the property throughout exactly if all its steps meet the condition. -/
theorem always_iff_meets {invariant property : State → Prop} {condition : State → Event → Prop}
    (preserved : ∀ state event after, invariant state → step state event = some after → invariant after)
    (exact_step : ∀ state event after, invariant state → property state →
      step state event = some after → (property after ↔ condition state event))
    {state final : State} {events : List Event} (initially : invariant state)
    (holds : property state) (ran : run step state events = some final) :
    Always step property state events ↔ Meets step condition state events := by
  induction events generalizing state with
  | nil => exact ⟨fun _ => trivial, fun _ => holds⟩
  | cons event events ih =>
      obtain ⟨after, taken, rest⟩ := run_cons_some.mp ran
      have kept := preserved state event after initially taken
      have one := exact_step state event after initially holds taken
      constructor
      · rintro ⟨-, later⟩
        have reached : property after := by
          cases events with
          | nil => exact later after taken
          | cons next more => exact (later after taken).1
        refine ⟨one.mp reached, fun other same => ?_⟩
        rw [taken] at same
        cases same
        exact (ih kept reached rest).mp (later after taken)
      · rintro ⟨met, later⟩
        refine ⟨holds, fun other same => ?_⟩
        rw [taken] at same
        cases same
        exact (ih kept (one.mpr met) rest).mpr (later after taken)

end Run
end Lib
