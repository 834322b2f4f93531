import MacMgmt.Lib.Run
import MacMgmt.Lib.Table
import Mathlib.Data.Finset.Basic

/-!
# Skills sync

`sync_skills` of `daemon/src/skills.rs`. A run unlocks the skills directory, works through the skills of its response and
locks the directory again when its guard is dropped. The response is a table whose entries are in the order in which the map
is traversed. The daemon is not root: it cannot write in a locked directory.
-/

namespace MacMgmt.Daemon
open Lib

/-- The text is that of `SKILL.md`, which may be missing. -/
inductive SkillEntry where
  | directory (text : Option String)
  | link (target : String)
deriving DecidableEq

/-- The `SKILL.md` of each skill in the binary and of each store path. -/
structure SkillTexts where
  embedded : String → Option String
  stored : String → Option String

/-- `store` are the store paths that exist. -/
structure SkillsDir where
  entries : Table String SkillEntry
  store : Finset String
  locked : Bool

inductive SkillResult where
  | upToDate
  | realised
  | failed
deriving DecidableEq

/-- What becomes of `nix-store --realise`, up to the link: it is not started, has no such path, or has it. -/
inductive Realisation where
  | notStarted
  | failed
  | fetched
deriving DecidableEq

def isSafeSkillSlug (slug : String) : Bool :=
  slug ≠ "" && slug.utf8ByteSize ≤ 128 && slug ≠ "." && slug ≠ ".." &&
    (slug.toList.all fun c => c.isAlphanum || c ∈ ['-', '_', '.']) && !decide (['.', '.'] <:+: slug.toList)

def isBuiltinPath (path : String) : Bool := "builtin://".toList.isPrefixOf path.toList

def inNixStore (path : String) : Bool := "/nix/store/".toList.isPrefixOf path.toList

namespace SkillsDir

def unlock (dir : SkillsDir) : SkillsDir := { dir with locked := false }

def relock (dir : SkillsDir) : SkillsDir := { dir with locked := true }

/-- The store is read-only, so nothing is written through a link. -/
def materializeBuiltin (texts : SkillTexts) (dir : SkillsDir) (slug : String) : SkillsDir × SkillResult :=
  match texts.embedded slug with
  | none => (dir, .failed)
  | some text =>
      match dir.entries.lookup slug with
      | some (.link target) =>
          (dir, if target ∈ dir.store ∧ texts.stored target = some text then .upToDate else .failed)
      | entry =>
          if entry = some (.directory (some text)) then (dir, .upToDate)
          else if dir.locked then (dir, .failed)
          else ({ dir with entries := dir.entries.insert slug (.directory (some text)) }, .realised)

/-- What is done with a skill before `nix-store` is run, which it is where there is no result. -/
def prepare (texts : SkillTexts) (dir : SkillsDir) (slug path : String) : SkillsDir × Option SkillResult :=
  if !isSafeSkillSlug slug then (dir, some .failed)
  else if isBuiltinPath path then
    let (dir, result) := dir.materializeBuiltin texts slug
    (dir, some result)
  else
    let realises := if inNixStore path then none else some SkillResult.failed
    match dir.entries.lookup slug with
    | some (.link target) =>
        if target = path then (dir, some .upToDate)
        else if dir.locked then (dir, realises)
        else ({ dir with entries := dir.entries.erase slug }, realises)
    | _ => (dir, realises)

def realise (dir : SkillsDir) (slug path : String) : Realisation → SkillsDir × Option SkillResult
  | .notStarted => (dir, none)
  | .failed => (dir, some .failed)
  | .fetched =>
      let fetched := { dir with store := insert path dir.store }
      match dir.entries.lookup slug with
      | some (.directory _) => (fetched, some .failed)
      | _ =>
          if dir.locked then (fetched, some .failed)
          else ({ fetched with entries := dir.entries.insert slug (.link path) }, some .realised)

def clean (dir : SkillsDir) (skills : Table String String) : SkillsDir :=
  if dir.locked then dir else { dir with entries := dir.entries.retain fun name _ => decide (name ∈ skills) }

/-! ## One run alone -/

def syncSkill (texts : SkillTexts) (dir : SkillsDir) (slug path : String) (outcome : Realisation) :
    SkillsDir × Option SkillResult :=
  match dir.prepare texts slug path with
  | (dir, some result) => (dir, some result)
  | (dir, none) => dir.realise slug path outcome

/-- The last component is whether the sync has come to its end. -/
def syncEach (texts : SkillTexts) (outcome : String → Realisation) :
    SkillsDir → List (Σ _ : String, String) → SkillsDir × List (String × SkillResult) × Bool
  | dir, [] => (dir, [], true)
  | dir, ⟨slug, path⟩ :: rest =>
      match dir.syncSkill texts slug path (outcome slug) with
      | (dir, none) => (dir, [], false)
      | (dir, some result) =>
          let (dir, results, completed) := syncEach texts outcome dir rest
          (dir, (slug, result) :: results, completed)

def syncSkills (texts : SkillTexts) (outcome : String → Realisation) (dir : SkillsDir) (skills : Table String String) :
    SkillsDir × List (String × SkillResult) :=
  let (dir, results, completed) := syncEach texts outcome dir.unlock skills.entries
  ((if completed then dir.clean skills else dir).relock, results)

/-! ## What should hold after a run -/

def text (texts : SkillTexts) (dir : SkillsDir) (slug : String) : Option String :=
  match dir.entries.lookup slug with
  | none => none
  | some (.directory text) => text
  | some (.link target) => if target ∈ dir.store then texts.stored target else none

def InPlace (texts : SkillTexts) (dir : SkillsDir) (slug path : String) : Prop :=
  if isBuiltinPath path then ∃ text, texts.embedded slug = some text ∧ dir.text texts slug = some text
  else dir.entries.lookup slug = some (.link path)

/-- The version that an entry resolves to, which a dangling link does not have. -/
def Resolves (dir : SkillsDir) (slug : String) (entry : SkillEntry) : Prop :=
  dir.entries.lookup slug = some entry ∧ ∀ target, entry = .link target → target ∈ dir.store

structure Synced (texts : SkillTexts) (before after : SkillsDir) (skills : Table String String)
    (results : List (String × SkillResult)) : Prop where
  inPlace : ∀ slug path result, skills.lookup slug = some path → (slug, result) ∈ results → result ≠ .failed →
    after.InPlace texts slug path
  kept : ∀ slug ∈ skills, (∀ result, (slug, result) ∈ results → result = .failed) → ∀ entry, before.Resolves slug entry →
    after.Resolves slug entry
  removed : ∀ name ∉ skills, name ∉ after.entries

/-- The skill is neither refused nor built in nor linked already. -/
def attempts (dir : SkillsDir) (slug path : String) : Bool :=
  isSafeSkillSlug slug && !isBuiltinPath path && dir.entries.lookup slug ≠ some (.link path)

def givesUp (outcome : String → Realisation) (dir : SkillsDir) (skill : Σ _ : String, String) : Bool :=
  dir.attempts skill.1 skill.2 && inNixStore skill.2 && outcome skill.1 = .notStarted

/-- The skills up to the one with which the sync is given up. -/
def reached (outcome : String → Realisation) (dir : SkillsDir) : List (Σ _ : String, String) → List (Σ _ : String, String)
  | [] => []
  | skill :: rest => skill :: if dir.givesUp outcome skill then [] else reached outcome dir rest

/-- Of the skills that are reached, those whose entry is a link to another store path that exists have a store path and it is
fetched; and the sync is given up only where there is nothing to remove. -/
structure Replaceable (outcome : String → Realisation) (dir : SkillsDir) (skills : Table String String) : Prop where
  replaced : ∀ skill ∈ dir.reached outcome skills.entries, dir.attempts skill.1 skill.2 = true → ∀ target,
    dir.entries.lookup skill.1 = some (.link target) → target ∈ dir.store →
      inNixStore skill.2 = true ∧ outcome skill.1 = .fetched
  completed : ∀ skill ∈ skills.entries, dir.givesUp outcome skill = true → ∀ name ∈ dir.entries, name ∈ skills

end SkillsDir

/-! ## Runs of several syncs -/

inductive SkillStage where
  | working (todo : List (Σ _ : String, String))
  | realising (slug path : String) (todo : List (Σ _ : String, String))
  | done
deriving DecidableEq

structure SkillRun where
  skills : Table String String
  stage : SkillStage

/-- `hindered` are the runs of which a step came out otherwise than it would have in an unlocked directory. -/
structure SkillSync where
  dir : SkillsDir
  runs : Table Nat SkillRun
  hindered : List Nat

inductive SkillEvent where
  | begin (number : Nat) (skills : Table String String)
  | prepare (number : Nat)
  | realise (number : Nat) (outcome : Realisation)
  | clean (number : Nat)
  | finish (number : Nat)

namespace SkillSync

def start (dir : SkillsDir) : SkillSync := ⟨dir.relock, ∅, []⟩

def act (state : SkillSync) (number : Nat) (skills : Table String String)
    (action : SkillsDir → SkillsDir × Option SkillResult) (next : Option SkillResult → SkillStage) : SkillSync :=
  let (dir, result) := action state.dir
  let (free, wanted) := action state.dir.unlock
  { dir := dir
    runs := state.runs.insert number ⟨skills, next result⟩
    hindered := if result = wanted ∧ dir.entries.entries = free.entries.entries then state.hindered else number :: state.hindered }

def step (texts : SkillTexts) (state : SkillSync) : SkillEvent → Option SkillSync
  | .begin number skills =>
      if number ∈ state.runs then none
      else some { state with dir := state.dir.unlock, runs := state.runs.insert number ⟨skills, .working skills.entries⟩ }
  | .prepare number =>
      match state.runs.lookup number with
      | some ⟨skills, .working (⟨slug, path⟩ :: todo)⟩ =>
          some (state.act number skills (fun dir => dir.prepare texts slug path) fun
            | none => .realising slug path todo
            | some _ => .working todo)
      | _ => none
  | .realise number outcome =>
      match state.runs.lookup number with
      | some ⟨skills, .realising slug path todo⟩ =>
          some (state.act number skills (fun dir => dir.realise slug path outcome) fun
            | none => .done
            | some _ => .working todo)
      | _ => none
  | .clean number =>
      match state.runs.lookup number with
      | some ⟨skills, .working []⟩ => some (state.act number skills (fun dir => (dir.clean skills, none)) fun _ => .done)
      | _ => none
  | .finish number =>
      match state.runs.lookup number with
      | some ⟨_, .done⟩ => some { state with dir := state.dir.relock, runs := state.runs.erase number }
      | _ => none

/-- A run drops its guard only once all runs have done their work. -/
def Together (state : SkillSync) : SkillEvent → Prop
  | .finish _ => ∀ number run, state.runs.lookup number = some run → run.stage = .done
  | .begin _ _ | .prepare _ | .realise _ _ | .clean _ => True

end SkillSync
end MacMgmt.Daemon
