import Mathlib.Logic.Basic

/-!
# Tasks that take turns

A task is a sequence of atomic steps over a shared state; each step may use an answer from outside, and between two steps
others may change the state. `Holds` is the rule of reasoning: what others do is bounded by `rely`, what the task does is a
`guarantee`, and a state that is `assumed` and kept before a step is kept after it.
-/

namespace Lib

inductive Task (State Answer Result : Type) where
  | done (result : Result)
  | step (change : State → Answer → State) (next : State → Answer → Task State Answer Result)

namespace Task
variable {State Answer Item A B : Type}

def bind : Task State Answer A → (A → Task State Answer B) → Task State Answer B
  | .done result, rest => rest result
  | .step change next, rest => .step change fun state answer => (next state answer).bind rest

instance : Monad (Task State Answer) where
  pure := .done
  bind := bind

/-- One step; the result may depend on the state before it. -/
def act (change : State → Answer → State) (result : State → Answer → A) : Task State Answer A :=
  .step change fun state answer => .done (result state answer)

def look (view : State → A) : Task State Answer A := act (fun state _ => state) fun state _ => view state

def alter (change : State → State) : Task State Answer Unit := act (fun state _ => change state) fun _ _ => ()

def forEach (body : Item → Task State Answer Unit) : List Item → Task State Answer Unit
  | [] => pure ()
  | item :: items => do
      body item
      forEach body items

structure Contract (State Answer : Type) where
  rely : State → State → Prop
  guarantee : State → State → Prop
  allowed : Answer → Prop
  assumes : State → Prop
  keeps : State → Prop

variable {contract : Contract State Answer} {post : A → State → Prop} {state : State}

def Holds (contract : Contract State Answer) (post : A → State → Prop) : Task State Answer A → State → Prop
  | .done result, state => post result state
  | .step change next, state =>
      ∀ now, contract.rely state now → contract.assumes now → contract.keeps now → ∀ answer, contract.allowed answer →
        contract.guarantee now (change now answer) ∧ contract.keeps (change now answer) ∧
          Holds contract post (next now answer) (change now answer)

theorem holds_pure {result : A} (reached : post result state) :
    Holds contract post (pure result : Task State Answer A) state := reached

theorem holds_act {change : State → Answer → State} {result : State → Answer → A}
    (steps : ∀ now, contract.rely state now → contract.assumes now → contract.keeps now →
      ∀ answer, contract.allowed answer → contract.guarantee now (change now answer) ∧ contract.keeps (change now answer) ∧
        post (result now answer) (change now answer)) :
    Holds contract post (act change result) state := steps

theorem holds_look {view : State → A} (idle : ∀ now, contract.guarantee now now)
    (sees : ∀ now, contract.rely state now → contract.assumes now → contract.keeps now → post (view now) now) :
    Holds contract post (look view : Task State Answer A) state :=
  fun now relied assumed kept _ _ => ⟨idle now, kept, sees now relied assumed kept⟩

theorem holds_bind {first : Task State Answer B} {rest : B → Task State Answer A}
    (holds : Holds contract (fun result after => Holds contract post (rest result) after) first state) :
    Holds contract post (first >>= rest) state := by
  induction first generalizing state with
  | done result => exact holds
  | step change next ih =>
      intro now relied assumed kept answer allowed
      obtain ⟨guarantee, keeps, onward⟩ := holds now relied assumed kept answer allowed
      exact ⟨guarantee, keeps, ih now answer onward⟩

theorem Holds.imp {task : Task State Answer A} {weaker : A → State → Prop} (holds : Holds contract post task state)
    (after : ∀ result state, post result state → weaker result state) : Holds contract weaker task state := by
  induction task generalizing state with
  | done result => exact after result state holds
  | step change next ih =>
      intro now relied assumed kept answer allowed
      obtain ⟨guarantee, keeps, onward⟩ := holds now relied assumed kept answer allowed
      exact ⟨guarantee, keeps, ih now answer onward⟩

theorem holds_seq {first : Task State Answer B} {rest : B → Task State Answer A} {middle : B → State → Prop}
    (holds : Holds contract middle first state)
    (onward : ∀ result after, middle result after → Holds contract post (rest result) after) :
    Holds contract post (first >>= rest) state := holds_bind (holds.imp onward)

theorem holds_forEach_rest {body : Item → Task State Answer Unit} {invariant : List Item → State → Prop} {items : List Item}
    (preserved : ∀ item rest, ∀ state, invariant (item :: rest) state →
      Holds contract (fun _ => invariant rest) (body item) state)
    (initially : invariant items state) : Holds contract (fun _ => invariant []) (forEach body items) state := by
  induction items generalizing state with
  | nil => exact holds_pure initially
  | cons item items ih =>
      apply holds_seq (preserved item items state initially)
      intro _ after reached
      exact ih reached

theorem holds_forEach {body : Item → Task State Answer Unit} {invariant : State → Prop} {items : List Item}
    (preserved : ∀ item ∈ items, ∀ state, invariant state → Holds contract (fun _ => invariant) (body item) state)
    (initially : invariant state) : Holds contract (fun _ => invariant) (forEach body items) state := by
  induction items generalizing state with
  | nil => exact holds_pure initially
  | cons item items ih =>
      apply holds_seq (preserved item List.mem_cons_self state initially)
      intro _ after reached
      exact ih (fun other member => preserved other (List.mem_cons_of_mem item member)) reached

theorem Holds.since {task : Task State Answer A} (holds : Holds contract post task state)
    (refl : ∀ state, contract.rely state state)
    (trans : ∀ first second third, contract.rely first second → contract.rely second third → contract.rely first third)
    (own : ∀ before now, contract.guarantee before now → contract.rely before now) :
    Holds contract (fun result after => contract.rely state after ∧ post result after) task state := by
  have from_ {origin : State} (since : contract.rely origin state) :
      Holds contract (fun result after => contract.rely origin after ∧ post result after) task state := by
    induction task generalizing state with
    | done result => exact ⟨since, holds⟩
    | step change next ih =>
        intro now relied assumed kept answer allowed
        obtain ⟨guarantee, keeps, onward⟩ := holds now relied assumed kept answer allowed
        have reached := trans _ _ _ (trans _ _ _ since relied) (own _ _ guarantee)
        exact ⟨guarantee, keeps, ih now answer onward reached⟩
  exact from_ (refl state)

theorem Holds.weaken {first second : Contract State Answer} {task : Task State Answer A} (holds : Holds first post task state)
    (relies : ∀ before now, second.rely before now → first.rely before now)
    (allows : ∀ answer, second.allowed answer → first.allowed answer)
    (assumes : ∀ now, second.assumes now → second.keeps now → first.assumes now ∧ first.keeps now)
    (guarantees : ∀ before now, first.guarantee before now → second.guarantee before now)
    (keeps : ∀ now, first.keeps now → second.keeps now) : Holds second post task state := by
  induction task generalizing state with
  | done result => exact holds
  | step change next ih =>
      intro now relied assumed kept answer allowed
      obtain ⟨firstAssumed, firstKept⟩ := assumes now assumed kept
      obtain ⟨guarantee, kept', onward⟩ := holds now (relies _ _ relied) firstAssumed firstKept answer (allows answer allowed)
      exact ⟨guarantees _ _ guarantee, keeps _ kept', ih now answer onward⟩

end Task
end Lib
