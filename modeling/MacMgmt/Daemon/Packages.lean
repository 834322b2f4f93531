import MacMgmt.Lib.Run
import MacMgmt.Lib.Table
import Mathlib.Data.Finset.Basic

/-!
# Package sync

`sync_packages` of `daemon/src/packages.rs`. A run has its response before it waits for the lock; then it works through the
packages, one nix command after another, in whatever order the sets are traversed, and last writes the state file. Runs are
known by the number of their response, in the order in which the server issues them. Of a response only the names matter.
-/

namespace MacMgmt.Daemon
open Lib

def isValidPackageName (name : String) : Bool :=
  name.toList ≠ [] && name.toList.head? ≠ some '-' &&
    name.toList.all fun c => c.isAlphanum || c ∈ ['+', '.', '_', '-']

inductive SyncStage where
  | reinstall
  | install
  | remove
  | upgrade
deriving DecidableEq

/-- A run that holds the lock. `current` are the names of the state it has read, `todo` those left in its stage. -/
structure SyncWork where
  number : Nat
  desired : List String
  current : List String
  stage : SyncStage
  todo : List String
deriving DecidableEq

/-- A command that fails may still have removed packages: an install removes what it conflicts with, an upgrade may remove the
package before it adds it again. -/
structure ProfileOutcome where
  ok : Bool
  removed : Finset String
deriving DecidableEq

/-- A write that fails leaves the old file or a broken one. -/
inductive StateWrite where
  | written
  | kept
  | broken
deriving DecidableEq

/-- `stateFile` is `none` where it is missing or broken. The fields from `issued` on are not in the source: the number of
responses, the last of them, the number of the run that took the lock last, the highest number of a finished run, and the
packages that package sync has installed. -/
structure PackageSync where
  profile : Finset String
  stateFile : Option (List String)
  legacyFile : List String
  waiting : Table Nat (List String)
  holder : Option SyncWork
  issued : Nat
  lastDesired : List String
  lastLocked : Nat
  newestFinished : Nat
  synced : Finset String

/-- `lists` is whether the elements of the profile could be listed. -/
inductive PackageEvent where
  | issue (packages : List String)
  | lock (number : Nat) (lists : Bool)
  | command (package : String) (outcome : ProfileOutcome)
  | advance (upgradable : List String)
  | write (result : StateWrite)
  | restart

namespace PackageSync

def readState (stateFile : Option (List String)) (legacyFile : List String) : List String := stateFile.getD legacyFile

def recorded (state : PackageSync) : List String := readState state.stateFile state.legacyFile

/-- What an earlier version has recorded counts as synced. -/
def start (profile : Finset String) (stateFile : Option (List String)) (legacyFile : List String) : PackageSync where
  profile := profile
  stateFile := stateFile
  legacyFile := legacyFile
  waiting := ∅
  holder := none
  issued := 0
  lastDesired := []
  lastLocked := 0
  newestFinished := 0
  synced := (readState stateFile legacyFile).toFinset

def lock (state : PackageSync) (number : Nat) (desired : List String) (lists : Bool) : PackageSync :=
  let current := state.recorded
  let installed := if lists then state.profile else ∅
  let missing := if installed = ∅ then [] else desired.filter fun package => package ∈ current ∧ package ∉ installed
  { state with
    waiting := state.waiting.erase number
    holder := some ⟨number, desired, current, .reinstall, missing⟩
    lastLocked := number }

def command (state : PackageSync) (work : SyncWork) (package : String) (outcome : ProfileOutcome) : PackageSync :=
  let holder := some { work with todo := work.todo.erase package }
  match work.stage with
  | .remove => { state with holder := holder, profile := if outcome.ok then state.profile.erase package else state.profile }
  | .reinstall | .install | .upgrade =>
      let left := state.profile \ outcome.removed
      if outcome.ok then
        { state with holder := holder, profile := insert package left, synced := insert package state.synced }
      else { state with holder := holder, profile := left }

def nextStage (work : SyncWork) (upgradable : List String) : Option SyncWork :=
  match work.stage with
  | .reinstall => some { work with stage := .install, todo := work.desired.filter (· ∉ work.current) }
  | .install => some { work with stage := .remove, todo := work.current.filter (· ∉ work.desired) }
  | .remove => some { work with
      stage := .upgrade, todo := work.desired.filter fun package => package ∈ work.current ∧ package ∈ upgradable }
  | .upgrade => none

def writeState (stateFile : Option (List String)) (packages : List String) : StateWrite → Option (List String)
  | .written => some packages
  | .kept => stateFile
  | .broken => none

def step (state : PackageSync) : PackageEvent → Option PackageSync
  | .issue packages =>
      let desired := packages.filter fun name => isValidPackageName name
      let number := state.issued + 1
      some { state with waiting := state.waiting.insert number desired, issued := number, lastDesired := desired }
  | .lock number lists =>
      match state.holder, state.waiting.lookup number with
      | none, some desired => some (state.lock number desired lists)
      | _, _ => none
  | .command package outcome =>
      match state.holder with
      | some work => if package ∈ work.todo then some (state.command work package outcome) else none
      | none => none
  | .advance upgradable =>
      match state.holder with
      | some work =>
          if work.todo = [] then (nextStage work upgradable).map fun next => { state with holder := some next } else none
      | none => none
  | .write result =>
      match state.holder with
      | some work =>
          if work.stage = .upgrade ∧ work.todo = [] then
            some { state with
              stateFile := writeState state.stateFile work.desired result
              holder := none
              newestFinished := max state.newestFinished work.number }
          else none
      | none => none
  | .restart => some { state with waiting := ∅, holder := none }

/-! ## What should hold between runs -/

/-- While no run is at work, a package that was synced and is not desired any more is gone or recorded. -/
def Retried (state : PackageSync) : Prop :=
  state.holder = none → ∀ package ∈ state.synced, package ∉ state.lastDesired → package ∈ state.profile →
    package ∈ state.recorded

/-- Once all runs have finished, among them the one of the last response, what is recorded and what is installed are the
packages of that response. -/
def Applied (state : PackageSync) : Prop :=
  state.holder = none → state.waiting = ∅ → 0 < state.issued → state.newestFinished = state.issued →
    (∀ package, package ∈ state.recorded ↔ package ∈ state.lastDesired) ∧
    (∀ package ∈ state.lastDesired, package ∈ state.profile) ∧
    ∀ package ∈ state.synced, package ∈ state.profile → package ∈ state.lastDesired

/-- Runs take the lock in the order of their responses; when one writes the state its removals have taken effect, for the last
response also its installs, and the write succeeds; and the daemon restarts only while every synced package in the profile is
recorded. -/
def Settled (state : PackageSync) : PackageEvent → Prop
  | .lock number _ => state.lastLocked < number
  | .write result => result = .written ∧ ∀ work, state.holder = some work →
      (∀ package ∈ work.current, package ∉ work.desired → package ∈ state.synced → package ∉ state.profile) ∧
      (work.number = state.issued → ∀ package ∈ work.desired, package ∈ state.profile)
  | .restart => ∀ package ∈ state.synced, package ∈ state.profile → package ∈ state.recorded
  | .issue _ | .command _ _ | .advance _ => True

end PackageSync
end MacMgmt.Daemon
