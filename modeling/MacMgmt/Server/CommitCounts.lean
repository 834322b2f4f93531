import MacMgmt.Lib.Run
import MacMgmt.Lib.Table

/-!
# Commit counts

`RepoCache` of `server/src/commit_count.rs` for one repository. Each await of `get_or_fetch` is a step of its own, and a call may
be dropped at any of them. What `git rev-list --count` answers in a repository is a table from the ids that it accepts; a clone
or an update that succeeds leaves the table of the remote, which only grows.
-/

namespace MacMgmt.Server.Commits
open Lib

abbrev Sha := List Char

/-- `(7..=40).contains(&sha.len())` in bytes, which are ASCII here. -/
def isCommitSha (sha : Sha) : Bool :=
  decide (7 ≤ sha.length) && decide (sha.length ≤ 40) &&
    sha.all fun c => c.isDigit || ('a' ≤ c && c ≤ 'f') || ('A' ≤ c && c ≤ 'F')

def dirty : Sha := "-dirty".toList

/-- `strip_suffix("-dirty")` -/
def clean (sha : Sha) : Sha := if dirty <:+ sha then sha.take (sha.length - dirty.length) else sha

/-- The keys of `clean_to_orig`. -/
def cleanShas (shas : List Sha) : List Sha := ((shas.map clean).filter isCommitSha).dedup

/-- Insert the count for each of the values that were asked for. -/
def answer (shas : List Sha) (result : Table Sha Nat) (sha : Sha) (count : Nat) : Table Sha Nat :=
  (shas.filter fun orig => clean orig = sha).foldl (fun result orig => result.insert orig count) result

def answerHits (shas ids : List Sha) (hits : Table Sha Nat) (result : Table Sha Nat) : Table Sha Nat :=
  ids.foldl (fun result sha => match hits.lookup sha with
    | some count => answer shas result sha count
    | none => result) result

abbrev Resolved := List (Sha × Option Nat)

def failedOf (resolved : Resolved) : List Sha := (resolved.filter fun item => item.2.isNone).map Prod.fst

def countsOf (resolved : Resolved) : List (Sha × Nat) := resolved.filterMap fun item => item.2.map fun count => (item.1, count)

/-- Overwrite the failed entry with the result of the retry. -/
def overwrite (resolved : Resolved) (sha : Sha) (count : Option Nat) : Resolved :=
  resolved.map fun item => if item.1 = sha then (sha, count) else item

inductive CallStage where
  | ensuring
  | cloning
  | lookingUp
  | claiming (toFetch : List Sha)
  | waiting (claimed waiting : List Sha)
  | counting (running : List Sha) (resolved : Resolved)
  | updating (resolved : Resolved)
  | retrying (running : List Sha) (resolved : Resolved)
  | storing (counts : List (Sha × Nat)) (resolved : Resolved)
deriving DecidableEq

/-- `seen` is the remote when the call begins, and `worked` says that git has worked for it since. -/
structure Call where
  shas : List Sha
  result : Table Sha Nat
  stage : CallStage
  seen : Table Sha Nat
  worked : Bool

structure Answer where
  shas : List Sha
  result : Table Sha Nat
  seen : Table Sha Nat
  worked : Bool

inductive CloneCell where
  | unset
  | running (call : Nat)
  | done
deriving DecidableEq

/-- `clone` is what is at `clone_path`, `cloning` says that a `git clone` runs. -/
structure Repo where
  remote : Table Sha Nat
  clone : Option (Table Sha Nat)
  cloning : Bool
  cell : CloneCell
  inFlight : List Sha
  db : Table Sha Nat
  calls : Table Nat Call
  answers : Table Nat Answer

inductive TaskOutcome where
  | answered
  | failed
  | panicked
deriving DecidableEq

inductive CommitEvent where
  | push (sha : Sha) (count : Nat)
  | call (id : Nat) (shas : List Sha)
  | ensureClone (id : Nat)
  | cloned (success : Bool)
  | dbLookup (id : Nat) (success : Bool)
  | claim (id : Nat)
  | lateLookup (id : Nat) (success : Bool)
  | counted (id : Nat) (sha : Sha) (outcome : TaskOutcome)
  | fetch (id : Nat) (success : Bool)
  | recounted (id : Nat) (sha : Sha) (outcome : TaskOutcome)
  | dbStore (id : Nat) (success : Bool)
  | release (id : Nat)
  | drop (id : Nat)
  | fetchLoop (success : Bool)
  | restart

namespace Repo

def start (remote : Table Sha Nat) : Repo := ⟨remote, none, false, .unset, [], ∅, ∅, ∅⟩

def setCall (state : Repo) (id : Nat) (call : Call) (stage : CallStage) : Repo :=
  { state with calls := state.calls.insert id { call with stage } }

def finish (state : Repo) (id : Nat) (call : Call) : Repo :=
  { state with
    calls := state.calls.erase id
    answers := state.answers.insert id ⟨call.shas, call.result, call.seen, call.worked⟩ }

/-- `git rev-list --count` in the clone. -/
def revList (state : Repo) (sha : Sha) : TaskOutcome → Option Nat
  | .answered => state.clone.bind (·.lookup sha)
  | _ => none

/-- `git remote update`, which needs a clone. -/
def fetch (state : Repo) (success : Bool) : Repo :=
  if state.clone.isSome && success then { state with clone := some state.remote } else state

def afterCounting (resolved : Resolved) : CallStage :=
  if failedOf resolved = [] then .storing (countsOf resolved) resolved else .updating resolved

def count (claimed : List Sha) : CallStage := .counting claimed []

def step (state : Repo) : CommitEvent → Option Repo
  | .push sha count => if sha ∈ state.remote then none else some { state with remote := state.remote.insert sha count }
  | .call id shas =>
      if id ∈ state.calls ∨ id ∈ state.answers then none
      else some { state with calls := state.calls.insert id ⟨shas, ∅, .ensuring, state.remote, true⟩ }
  | .ensureClone id =>
      match state.calls.lookup id with
      | some ⟨shas, result, .ensuring, seen, worked⟩ =>
          let call : Call := ⟨shas, result, .ensuring, seen, worked⟩
          match state.cell with
          | .done => some (state.setCall id call .lookingUp)
          | .running _ => none
          | .unset =>
              if state.clone.isSome then some { state.setCall id call .lookingUp with cell := .done }
              else some { state.setCall id call .cloning with cell := .running id, cloning := true, clone := some ∅ }
      | _ => none
  | .cloned success =>
      if state.cloning then
        let cloned := { state with cloning := false, clone := if success then some state.remote else none }
        match state.cell with
        | .running id =>
            match state.calls.lookup id with
            | some call =>
                some { cloned.setCall id { call with worked := call.worked && success } .lookingUp with cell := .done }
            | none => none
        | _ => some cloned
      else none
  | .dbLookup id success =>
      match state.calls.lookup id with
      | some ⟨shas, result, .lookingUp, seen, worked⟩ =>
          let hits := if success then state.db else ∅
          let call : Call := ⟨shas, answerHits shas (cleanShas shas) hits result, .lookingUp, seen, worked⟩
          let toFetch := (cleanShas shas).filter fun sha => sha ∉ hits
          if toFetch = [] then some (state.finish id call) else some (state.setCall id call (.claiming toFetch))
      | _ => none
  | .claim id =>
      match state.calls.lookup id with
      | some ⟨shas, result, .claiming toFetch, seen, worked⟩ =>
          let call : Call := ⟨shas, result, .claiming toFetch, seen, worked⟩
          let claimed := toFetch.filter (· ∉ state.inFlight)
          let waiting := toFetch.filter (· ∈ state.inFlight)
          let claiming := { state with inFlight := state.inFlight ++ claimed }
          if waiting = [] then some (claiming.setCall id call (count claimed))
          else some (claiming.setCall id call (.waiting claimed waiting))
      | _ => none
  | .lateLookup id success =>
      match state.calls.lookup id with
      | some ⟨shas, result, .waiting claimed waiting, seen, worked⟩ =>
          let hits := if success then state.db else ∅
          let call : Call := ⟨shas, answerHits shas waiting hits result, .waiting claimed waiting, seen, worked⟩
          if claimed = [] then some (state.finish id call) else some (state.setCall id call (count claimed))
      | _ => none
  | .counted id sha outcome =>
      match state.calls.lookup id with
      | some ⟨shas, result, .counting running resolved, seen, worked⟩ =>
          if sha ∈ running then
            let call : Call := ⟨shas, result, .counting running resolved, seen, worked && outcome = .answered⟩
            -- a task that panics ends the loop, and the tasks that are left are aborted
            if outcome = .panicked then some (state.setCall id call (afterCounting resolved))
            else
              let left := running.erase sha
              let resolved := resolved ++ [(sha, state.revList sha outcome)]
              some (state.setCall id call (if left = [] then afterCounting resolved else .counting left resolved))
          else none
      | _ => none
  | .fetch id success =>
      match state.calls.lookup id with
      | some ⟨shas, result, .updating resolved, seen, worked⟩ =>
          let call : Call := ⟨shas, result, .updating resolved, seen, worked && success⟩
          some ((state.fetch success).setCall id call (.retrying (failedOf resolved) resolved))
      | _ => none
  | .recounted id sha outcome =>
      match state.calls.lookup id with
      | some ⟨shas, result, .retrying running resolved, seen, worked⟩ =>
          if sha ∈ running then
            let call : Call := ⟨shas, result, .retrying running resolved, seen, worked && outcome = .answered⟩
            if outcome = .panicked then some (state.setCall id call (.storing (countsOf resolved) resolved))
            else
              let left := running.erase sha
              let resolved := overwrite resolved sha (state.revList sha outcome)
              some (state.setCall id call
                (if left = [] then .storing (countsOf resolved) resolved else .retrying left resolved))
          else none
      | _ => none
  | .dbStore id success =>
      match state.calls.lookup id with
      | some ⟨shas, result, .storing ((sha, count) :: counts) resolved, seen, worked⟩ =>
          let call : Call := ⟨shas, answer shas result sha count, .storing counts resolved, seen, worked⟩
          -- ON CONFLICT DO NOTHING
          let db := if success && sha ∉ state.db then state.db.insert sha count else state.db
          some { state.setCall id call (.storing counts resolved) with db }
      | _ => none
  | .release id =>
      match state.calls.lookup id with
      | some ⟨shas, result, .storing [] resolved, seen, worked⟩ =>
          let released := state.inFlight.filter (· ∉ resolved.map Prod.fst)
          some { state.finish id ⟨shas, result, .storing [] resolved, seen, worked⟩ with inFlight := released }
      | _ => none
  | .drop id =>
      if id ∈ state.calls then
        some { state with
          calls := state.calls.erase id
          cell := if state.cell = .running id then .unset else state.cell }
      else none
  | .fetchLoop success => some (state.fetch success)
  | .restart => some { state with cloning := false, cell := .unset, inFlight := [], calls := ∅ }

/-! ## Every claim is released, and every commit is counted -/

def claims : CallStage → List Sha
  | .waiting claimed _ => claimed
  | .counting running resolved => running ++ resolved.map Prod.fst
  | .updating resolved | .retrying _ resolved | .storing _ resolved => resolved.map Prod.fst
  | _ => []

/-- Only commits of the remote have a count, and if git has worked, each that the remote had when the call began. -/
structure Complete (remote : Table Sha Nat) (answer : Answer) : Prop where
  only : ∀ sha count, answer.result.lookup sha = some count →
    sha ∈ answer.shas ∧ isCommitSha (clean sha) = true ∧ remote.lookup (clean sha) = some count
  all : answer.worked = true → ∀ sha ∈ answer.shas, isCommitSha (clean sha) = true →
    ∀ count, answer.seen.lookup (clean sha) = some count → answer.result.lookup sha = some count

structure Counted (state : Repo) : Prop where
  released : (∀ id, state.calls.lookup id = none) → state.inFlight = []
  complete : ∀ id answer, state.answers.lookup id = some answer → Complete state.remote answer

/-- No call is dropped that has ids in flight, no task of the first round panics, no clone fails that is or will be taken for
done, and what a call has waited for has been stored by then. -/
def Careful (state : Repo) : CommitEvent → Prop
  | .drop id => ∀ call, state.calls.lookup id = some call → claims call.stage = []
  | .counted _ _ outcome => outcome ≠ .panicked
  | .cloned success => success = false → state.cell = .unset
  | .lateLookup id success => ∀ call claimed waiting, state.calls.lookup id = some call →
      call.stage = .waiting claimed waiting → call.worked = true →
      ∀ sha ∈ waiting, sha ∈ call.seen → success = true ∧ sha ∈ state.db
  | _ => True

/-- A step that a call makes when git works, or the clone that it waits for. -/
def Works (id : Nat) : CommitEvent → Prop
  | .cloned success => success = true
  | .ensureClone other | .claim other | .release other => other = id
  | .dbLookup other success | .lateLookup other success | .fetch other success | .dbStore other success =>
      other = id ∧ success = true
  | .counted other _ outcome | .recounted other _ outcome => other = id ∧ outcome = .answered
  | _ => False

def Finishes (state : Repo) (id : Nat) (worked : Bool) : Prop :=
  ∃ events final answer, (∀ event ∈ events, Works id event) ∧ run step state events = some final ∧
    final.answers.lookup id = some answer ∧ answer.worked = worked

end Repo
end MacMgmt.Server.Commits
