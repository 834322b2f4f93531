import Mathlib.Logic.Basic

/-!
# Async functions that can be dropped

An async function over a state either runs to its end or is dropped at one of its awaits, with the state as it
stands there. `finish` is the first outcome and `drops` lists the states of the second, one for each await.
`wp` bounds both by a postcondition and by what holds wherever the function is dropped.
-/

namespace Lib

structure Async (State Result : Type) where
  finish : State → Result × State
  drops : State → List State

namespace Async
variable {State Item A B : Type}

instance : Monad (Async State) where
  pure result := ⟨fun state => (result, state), fun _ => []⟩
  bind first next :=
    { finish := fun state =>
        match first.finish state with
        | (result, after) => (next result).finish after
      drops := fun state =>
        match first.finish state with
        | (result, after) => first.drops state ++ (next result).drops after }

def read : Async State State := ⟨fun state => (state, state), fun _ => []⟩

def modify (change : State → State) : Async State Unit := ⟨fun state => ((), change state), fun _ => []⟩

def await : Async State Unit := ⟨fun state => ((), state), fun state => [state]⟩

def when (condition : Bool) (body : Async State Unit) : Async State Unit := if condition then body else pure ()

def forEach (body : Item → Async State Unit) : List Item → Async State Unit
  | [] => pure ()
  | item :: items => do
      body item
      forEach body items

section Finish

@[simp] theorem finish_pure (result : A) (state : State) :
    (pure result : Async State A).finish state = (result, state) := rfl

@[simp] theorem finish_bind (first : Async State A) (next : A → Async State B) (state : State) :
    (first >>= next).finish state = (next (first.finish state).1).finish (first.finish state).2 := rfl

@[simp] theorem finish_read (state : State) : (read : Async State State).finish state = (state, state) := rfl

@[simp] theorem finish_modify (change : State → State) (state : State) :
    (modify change).finish state = ((), change state) := rfl

@[simp] theorem finish_when (condition : Bool) (body : Async State Unit) (state : State) :
    (when condition body).finish state = if condition then body.finish state else ((), state) := by
  cases condition <;> rfl

theorem finish_forEach_cons (body : Item → Async State Unit) (item : Item) (items : List Item)
    (state : State) :
    (forEach body (item :: items)).finish state = (forEach body items).finish ((body item).finish state).2 := rfl

end Finish

/-! ## Weakest preconditions -/

/-- From `state` the program ends as `post` says, and wherever it is dropped `dropped` holds. -/
def wp (program : Async State A) (post : A → State → Prop) (dropped : State → Prop) (state : State) : Prop :=
  post (program.finish state).1 (program.finish state).2 ∧ ∀ cut ∈ program.drops state, dropped cut

section Wp
variable {post : A → State → Prop} {dropped : State → Prop} {state : State}

@[simp] theorem wp_pure {result : A} : wp (pure result) post dropped state ↔ post result state := by
  constructor
  · intro holds
    exact holds.1
  · intro holds
    exact ⟨holds, fun cut member => by cases member⟩

@[simp] theorem wp_bind {first : Async State B} {next : B → Async State A} :
    wp (first >>= next) post dropped state ↔
      wp first (fun result after => wp (next result) post dropped after) dropped state := by
  constructor
  · intro ⟨finished, drops⟩
    exact ⟨⟨finished, fun cut member => drops cut (List.mem_append_right _ member)⟩,
      fun cut member => drops cut (List.mem_append_left _ member)⟩
  · intro ⟨⟨finished, nextDrops⟩, firstDrops⟩
    refine ⟨finished, fun cut member => ?_⟩
    cases List.mem_append.mp member with
    | inl inFirst => exact firstDrops cut inFirst
    | inr inNext => exact nextDrops cut inNext

@[simp] theorem wp_read {post : State → State → Prop} : wp read post dropped state ↔ post state state := wp_pure

@[simp] theorem wp_modify {change : State → State} {post : Unit → State → Prop} :
    wp (modify change) post dropped state ↔ post () (change state) := by
  constructor
  · intro holds
    exact holds.1
  · intro holds
    exact ⟨holds, fun cut member => by cases member⟩

@[simp] theorem wp_await {post : Unit → State → Prop} :
    wp await post dropped state ↔ post () state ∧ dropped state := by
  simp [wp, await]

theorem wp_when {condition : Bool} {body : Async State Unit} {post : Unit → State → Prop}
    (taken : condition = true → wp body post dropped state) (skipped : condition = false → post () state) :
    wp (when condition body) post dropped state := by
  cases condition with
  | true => exact taken rfl
  | false => exact wp_pure.mpr (skipped rfl)

theorem wp_mono {program : Async State A} {weaker : A → State → Prop} (holds : wp program post dropped state)
    (after : ∀ result state, post result state → weaker result state) : wp program weaker dropped state :=
  ⟨after _ _ holds.1, holds.2⟩

theorem wp_weaken_dropped {program : Async State A} {weaker : State → Prop} (holds : wp program post dropped state)
    (cut : ∀ state, dropped state → weaker state) : wp program post weaker state :=
  ⟨holds.1, fun state member => cut state (holds.2 state member)⟩

theorem wp_forEach {body : Item → Async State Unit} {invariant : State → Prop} {items : List Item}
    (preserved : ∀ item ∈ items, ∀ state, invariant state → wp (body item) (fun _ => invariant) dropped state)
    (initially : invariant state) : wp (forEach body items) (fun _ => invariant) dropped state := by
  induction items generalizing state with
  | nil => exact wp_pure.mpr initially
  | cons item items ih =>
      have one := preserved item List.mem_cons_self state initially
      refine wp_bind.mpr (wp_mono one fun _ after reached => ?_)
      exact ih (fun other member => preserved other (List.mem_cons_of_mem item member)) reached

end Wp
end Async
end Lib
