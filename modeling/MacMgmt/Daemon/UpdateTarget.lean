import MacMgmt.Agent.ServerPush
import MacMgmt.Lib.Run

/-!
# The update target and the nixpkgs pin

`fetch_target_version` and `fetch_nixpkgs_pin` of `daemon/src/daemon.rs` with the state they write: `TARGET_STATE` of
`self_update.rs` and the pin of `mac-mgmt-agent/src/nix.rs` with its cache file. `check_and_apply` is the reader of the
target, up to the store path that it hands to `apply_store_path`.
-/

namespace MacMgmt.Daemon
open Lib Agent

/-! ## The target -/

structure Target where
  version : Option String
  storePath : Option String
deriving DecidableEq

/-- The running binary: its version, its store path, and the one in the marker file. -/
structure Build where
  currentVersion : String
  currentStorePath : Option String
  lastStorePath : Option String

def parseU64 (text : String) : Option Nat :=
  let digits := match text.toList with
    | '+' :: rest => rest
    | plain => plain
  if digits ≠ [] ∧ digits.all Char.isDigit then
    let value := digits.foldl (fun value digit => 10 * value + (digit.toNat - 48)) 0
    if value < 2 ^ 64 then some value else none
  else none

def versionParts (version : String) : List String := (version.toList.splitOn '.').map String.ofList

def isSemver (version : String) : Bool := version ≠ "" && (versionParts version).all fun part => (parseU64 part).isSome

def versionBelow (version current : String) : Bool :=
  (versionParts version).filterMap parseU64 < (versionParts current).filterMap parseU64

def isValidStorePath (path : String) : Bool :=
  match "/nix/store/".toList.isPrefixOf? path.toList with
  | none => false
  | some rest => rest ≠ [] && rest.head? ≠ some '-' && !rest.contains '/' &&
      rest.all fun c => c.isAlphanum || c ∈ ['-', '_', '.', '+', '?', '=']

/-- The version and the store path that are applied, if any. -/
def checkAndApply (build : Build) (target : Target) : Option (String × String) := do
  let version ← target.version
  if isSemver version && isSemver build.currentVersion && versionBelow version build.currentVersion then none
  else
    let storePath ← target.storePath
    let applied : Bool := match build.currentStorePath with
      | some current => current = storePath
      | none => version = build.currentVersion && build.lastStorePath = some storePath
    if !applied && isValidStorePath storePath then some (version, storePath) else none

/-- How `check_and_apply` ends, as it logs it. -/
inductive Check where
  | noTarget
  | refusedDowngrade
  | noStorePath
  | alreadyApplied
  | refusedStorePath
  | updating (version storePath : String)
deriving DecidableEq

def Check.update : Check → Option (String × String)
  | .updating version storePath => some (version, storePath)
  | _ => none

def Check.refused : Check → Bool
  | .refusedDowngrade | .noStorePath | .refusedStorePath => true
  | .noTarget | .alreadyApplied | .updating _ _ => false

def checkTarget (build : Build) (target : Target) : Check :=
  match target.version with
  | none => .noTarget
  | some version =>
      if isSemver version && isSemver build.currentVersion && versionBelow version build.currentVersion then
        .refusedDowngrade
      else
        match target.storePath with
        | none => if version = build.currentVersion then .alreadyApplied else .noStorePath
        | some storePath =>
            let applied : Bool := match build.currentStorePath with
              | some current => current = storePath
              | none => version = build.currentVersion && build.lastStorePath = some storePath
            if applied then .alreadyApplied
            else if isValidStorePath storePath then .updating version storePath
            else .refusedStorePath

/-! ## The pin -/

abbrev Commit := List Char

def cachedNixpkgsPin (contents : List Char) : Option Commit :=
  let sha := trimWhitespace contents
  if sha.length = 40 && sha.all (fun c => c.isDigit || ('a' ≤ c && c ≤ 'f') || ('A' ≤ c && c ≤ 'F')) then some sha else none

/-! ## The daemon -/

/-- `pinFile` is the text of the cache file; the answers that were received last are not in the source. -/
structure UpdateState where
  target : Target
  pin : Option Commit
  pinFile : Option (List Char)
  lastTarget : Option Target
  lastPin : Option (Option Commit)

/-- An answer is `none` where the request failed. `written` is how much of the file is written, `none` if it cannot be
created. -/
inductive UpdateEvent where
  | target (answer : Option Target)
  | pin (answer : Option (Option Commit)) (written : Option Nat)
  | restart (reads : Bool)

namespace UpdateState

def loadCachedPin (pinFile : Option (List Char)) (reads : Bool) : Option Commit :=
  if reads then pinFile.bind cachedNixpkgsPin else none

/-- The first start, with whatever file an earlier installation left. -/
def start (pinFile : Option (List Char)) (reads : Bool) : UpdateState :=
  ⟨⟨none, none⟩, loadCachedPin pinFile reads, pinFile, none, none⟩

def cachePin (pinFile : Option (List Char)) (commit : Option Commit) (written : Option Nat) : Option (List Char) :=
  match commit, written with
  | some sha, some count => some (sha.take count)
  | some _, none | none, _ => pinFile

def fetchTargetVersion (state : UpdateState) (info : Target) : UpdateState :=
  match info.version with
  | some version => { state with target := ⟨some version, info.storePath⟩, lastTarget := some info }
  | none => { state with lastTarget := some info }

def setNixpkgsCommit (state : UpdateState) (commit : Option Commit) (written : Option Nat) : UpdateState :=
  { state with pin := commit, pinFile := cachePin state.pinFile commit written, lastPin := some commit }

def step (state : UpdateState) : UpdateEvent → Option UpdateState
  | .target none | .pin none _ => some state
  | .target (some info) => some (state.fetchTargetVersion info)
  | .pin (some commit) written => some (state.setNixpkgsCommit commit written)
  | .restart reads => some { state with target := ⟨none, none⟩, pin := loadCachedPin state.pinFile reads }

/-- A target that is held is the one answered last, and so are the pin and the one that a restart would find. -/
def Current (state : UpdateState) : Prop :=
  (state.target.version ≠ none → state.lastTarget = some state.target) ∧
  ∀ commit, state.lastPin = some commit → state.pin = commit ∧ state.pinFile.bind cachedNixpkgsPin = commit

/-- No target is held when an answer has none; the pin of an answer reaches the cache file, whose text must be the pin; and
the file can be read at a restart. -/
def Cached (state : UpdateState) : UpdateEvent → Prop
  | .target none | .pin none _ => True
  | .target (some info) => info.version = none → state.target.version = none
  | .pin (some none) _ => state.pinFile.bind cachedNixpkgsPin = none
  | .pin (some (some sha)) written => (cachePin state.pinFile (some sha) written).bind cachedNixpkgsPin = some sha
  | .restart reads => reads = true ∨ state.lastPin = none ∨ state.pinFile.bind cachedNixpkgsPin = none

end UpdateState
end MacMgmt.Daemon
