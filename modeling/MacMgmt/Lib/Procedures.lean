import Mathlib.Logic.Basic

/-!
# Procedures that may crash between any two actions

A script is a program cut at its actions: it is done, or asks for an action and goes on with the outcome. A procedure is a
script with a memory of its own that a crash loses, and with errors, which keep the memory. `Ensures` is a triple with three
conditions: one after a result, one after an error, and one that holds of the world after every action, as a crash may come.
-/

namespace Lib

inductive Script (Action Outcome Result : Type) where
  | done (result : Result)
  | ask (action : Action) (next : Outcome → Script Action Outcome Result)

/-- What an action does to the world, which outcomes are allowed, and what is safe to crash in. -/
structure Machine (World Action Outcome : Type) where
  perform : World → Action → Outcome → World
  allowed : World → Action → Outcome → Prop
  safe : World → Prop

namespace Script
variable {World Action Outcome A B : Type}

def bind : Script Action Outcome A → (A → Script Action Outcome B) → Script Action Outcome B
  | .done result, rest => rest result
  | .ask action next, rest => .ask action fun outcome => (next outcome).bind rest

instance : Monad (Script Action Outcome) where
  pure := .done
  bind := bind

def Holds (machine : Machine World Action Outcome) (post : A → World → Prop) : Script Action Outcome A → World → Prop
  | .done result, world => post result world
  | .ask action next, world =>
      ∀ outcome, machine.allowed world action outcome →
        machine.safe (machine.perform world action outcome) ∧
          Holds machine post (next outcome) (machine.perform world action outcome)

variable {machine : Machine World Action Outcome} {post : A → World → Prop} {world : World}

theorem holds_bind_iff {first : Script Action Outcome B} {rest : B → Script Action Outcome A} :
    Holds machine post (first.bind rest) world ↔
      Holds machine (fun result after => Holds machine post (rest result) after) first world := by
  induction first generalizing world with
  | done result => exact Iff.rfl
  | ask action next ih => exact forall₂_congr fun outcome _ => and_congr_right fun _ => ih outcome

theorem holds_bind {first : Script Action Outcome B} {rest : B → Script Action Outcome A}
    (holds : Holds machine (fun result after => Holds machine post (rest result) after) first world) :
    Holds machine post (first.bind rest) world := holds_bind_iff.mpr holds

theorem Holds.imp {script : Script Action Outcome A} {weaker : A → World → Prop} (holds : Holds machine post script world)
    (after : ∀ result world, post result world → weaker result world) : Holds machine weaker script world := by
  induction script generalizing world with
  | done result => exact after result world holds
  | ask action next ih =>
      intro outcome allowed
      obtain ⟨safe, onward⟩ := holds outcome allowed
      exact ⟨safe, ih outcome onward⟩

/-- Every action that the script may come to ask for is permitted. -/
def Asks (permitted : Action → Prop) : Script Action Outcome A → Prop
  | .done _ => True
  | .ask action next => permitted action ∧ ∀ outcome, Asks permitted (next outcome)

variable {permitted : Action → Prop}

theorem asks_bind {first : Script Action Outcome B} {rest : B → Script Action Outcome A} (begins : Asks permitted first)
    (onward : ∀ result, Asks permitted (rest result)) : Asks permitted (first.bind rest) := by
  induction first with
  | done result => exact onward result
  | ask action next ih => exact ⟨begins.1, fun outcome => ih outcome (begins.2 outcome)⟩

theorem holds_of_asks
    (kept : ∀ world action outcome, machine.safe world → permitted action → machine.allowed world action outcome →
      machine.safe (machine.perform world action outcome))
    {script : Script Action Outcome A} (asks : Asks permitted script) (safe : machine.safe world) :
    Holds machine (fun _ after => machine.safe after) script world := by
  induction script generalizing world with
  | done result => exact safe
  | ask action next ih =>
      intro outcome allowed
      have safeAfter := kept world action outcome safe asks.1 allowed
      exact ⟨safeAfter, ih outcome (asks.2 outcome) safeAfter⟩

end Script

def Procedure (Memory Action Outcome Error A : Type) := Memory → Script Action Outcome (Except Error A × Memory)

namespace Procedure
variable {World Memory Action Outcome Error A B : Type}

def bind (first : Procedure Memory Action Outcome Error A) (rest : A → Procedure Memory Action Outcome Error B) :
    Procedure Memory Action Outcome Error B := fun memory =>
  (first memory).bind fun finished =>
    match finished with
    | (.ok result, after) => rest result after
    | (.error error, after) => .done (.error error, after)

instance : Monad (Procedure Memory Action Outcome Error) where
  pure result := fun memory => .done (.ok result, memory)
  bind := bind

def fail (error : Error) : Procedure Memory Action Outcome Error A := fun memory => .done (.error error, memory)

def recalled : Procedure Memory Action Outcome Error Memory := fun memory => .done (.ok memory, memory)

def remember (change : Memory → Memory) : Procedure Memory Action Outcome Error Unit := fun memory =>
  .done (.ok (), change memory)

def act (action : Action) : Procedure Memory Action Outcome Error Outcome := fun memory =>
  .ask action fun outcome => .done (.ok outcome, memory)

def whenever (condition : Prop) [Decidable condition] (procedure : Procedure Memory Action Outcome Error Unit) :
    Procedure Memory Action Outcome Error Unit := if condition then procedure else pure ()

/-- What a caller finds, with the memory that the procedure leaves. -/
def Finished (post : A → Memory → World → Prop) (failed : Memory → World → Prop) :
    Except Error A × Memory → World → Prop
  | (.ok result, memory), world => post result memory world
  | (.error _, memory), world => failed memory world

variable (machine : Machine World Action Outcome)

def Ensures (pre : Memory → World → Prop) (procedure : Procedure Memory Action Outcome Error A)
    (post : A → Memory → World → Prop) (failed : Memory → World → Prop) : Prop :=
  ∀ memory world, pre memory world → (procedure memory).Holds machine (Finished post failed) world

variable {machine} {pre middle : Memory → World → Prop} {post : A → Memory → World → Prop} {failed : Memory → World → Prop}

theorem ensures_pure {result : A} (reached : ∀ memory world, pre memory world → post result memory world) :
    Ensures machine pre (pure result : Procedure Memory Action Outcome Error A) post failed := reached

theorem ensures_fail {error : Error} (reached : ∀ memory world, pre memory world → failed memory world) :
    Ensures machine pre (fail error : Procedure Memory Action Outcome Error A) post failed := reached

theorem ensures_remember {change : Memory → Memory} {post : Unit → Memory → World → Prop}
    (reached : ∀ memory world, pre memory world → post () (change memory) world) :
    Ensures machine pre (remember change : Procedure Memory Action Outcome Error Unit) post failed := reached

theorem ensures_act {action : Action} {post : Outcome → Memory → World → Prop}
    (steps : ∀ memory world, pre memory world → ∀ outcome, machine.allowed world action outcome →
      machine.safe (machine.perform world action outcome) ∧ post outcome memory (machine.perform world action outcome)) :
    Ensures machine pre (act action : Procedure Memory Action Outcome Error Outcome) post failed := steps

theorem ensures_bind {first : Procedure Memory Action Outcome Error B} {rest : B → Procedure Memory Action Outcome Error A}
    {between : B → Memory → World → Prop} (begins : Ensures machine pre first between failed)
    (onward : ∀ result, Ensures machine (between result) (rest result) post failed) :
    Ensures machine pre (first >>= rest) post failed := by
  intro memory world start
  apply Script.holds_bind
  apply (begins memory world start).imp
  intro finished after reached
  obtain ⟨result | result, left⟩ := finished
  · exact reached
  · exact onward result left after reached

theorem ensures_recalled {rest : Memory → Procedure Memory Action Outcome Error A}
    (onward : ∀ known, Ensures machine (fun memory world => memory = known ∧ pre memory world) (rest known) post failed) :
    Ensures machine pre (recalled >>= rest) post failed := by
  intro memory world start
  exact onward memory memory world ⟨rfl, start⟩

theorem Ensures.imp {procedure : Procedure Memory Action Outcome Error A} {weaker : A → Memory → World → Prop}
    {worse : Memory → World → Prop} (ensures : Ensures machine pre procedure post failed)
    (after : ∀ result memory world, post result memory world → weaker result memory world)
    (broken : ∀ memory world, failed memory world → worse memory world) :
    Ensures machine pre procedure weaker worse := by
  intro memory world start
  apply (ensures memory world start).imp
  intro finished after' reached
  obtain ⟨result | result, left⟩ := finished
  · exact broken left after' reached
  · exact after result left after' reached

theorem Ensures.of {procedure : Procedure Memory Action Outcome Error A} (ensures : Ensures machine middle procedure post failed)
    (before : ∀ memory world, pre memory world → middle memory world) : Ensures machine pre procedure post failed :=
  fun memory world start => ensures memory world (before memory world start)

theorem ensures_ite {condition : Prop} [Decidable condition] {yes no : Procedure Memory Action Outcome Error A}
    (holds : condition → Ensures machine pre yes post failed) (fails : ¬condition → Ensures machine pre no post failed) :
    Ensures machine pre (if condition then yes else no) post failed := by
  by_cases decided : condition
  · rw [if_pos decided]
    exact holds decided
  · rw [if_neg decided]
    exact fails decided

theorem ensures_whenever {condition : Prop} [Decidable condition] {procedure : Procedure Memory Action Outcome Error Unit}
    {post : Unit → Memory → World → Prop} (holds : condition → Ensures machine pre procedure post failed)
    (fails : ¬condition → ∀ memory world, pre memory world → post () memory world) :
    Ensures machine pre (whenever condition procedure) post failed := ensures_ite holds fails

/-- Where a failure is caught, the procedure goes on with what it left. -/
def caught (procedure : Procedure Memory Action Outcome Error A) : Procedure Memory Action Outcome Error (Except Error A) :=
  fun memory => (procedure memory).bind fun finished => .done (.ok finished.1, finished.2)

theorem ensures_caught {procedure : Procedure Memory Action Outcome Error A}
    (ensures : Ensures machine pre procedure post failed) {broken : Memory → World → Prop} :
    Ensures machine pre (caught procedure)
      (fun result memory world => match result with
        | .ok result => post result memory world
        | .error _ => failed memory world) broken := by
  intro memory world start
  apply Script.holds_bind
  apply (ensures memory world start).imp
  intro finished after reached
  obtain ⟨result | result, left⟩ := finished <;> exact reached

end Procedure
end Lib
