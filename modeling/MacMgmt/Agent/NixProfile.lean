import MacMgmt.Agent.EnvFiles
import MacMgmt.Daemon.Packages
import MacMgmt.Lib.Procedures
import Mathlib.Data.List.DropRight

/-!
# The nix profile

`is_installed` and `profile_install` of `mac-mgmt-agent/src/nix.rs`. They run one nix command after another; what a command answers
is chosen from outside, within what nix does to a profile.
-/

namespace MacMgmt.Agent.Nix
open Lib

/-! ## Profiles and commands -/

/-- An element is of the package that its attribute path names; one that was added by its store path is of none. -/
structure Element where
  package : Option String
  originalUrl : Option String
  storePaths : List String
  files : List String
deriving DecidableEq

abbrev Profile := Table String Element

/-- Written `base#attr`. -/
structure FlakeRef where
  base : String
  attr : String

inductive NixAction where
  | list
  | add (flakeRef : FlakeRef)
  | remove (name : String)
  | upgrade (name : String)
  | replace (name : String) (flakeRef : FlakeRef)
  | build (flakeRef : FlakeRef)
  | probeReplace

/-- `element` is a command that has put an element into the profile and `unchanged` one that succeeds without a change.
`unrunnable` could not be started. -/
inductive NixOutcome where
  | listed (json : JsonValue)
  | element (name : String) (element : Element)
  | removed
  | unchanged
  | supported (yes : Bool)
  | failed (stderr : String)
  | unrunnable

def Element.json (element : Element) : JsonValue :=
  .object ((element.originalUrl.map fun url => ("originalUrl", JsonValue.string url)).toList ++
    [("storePaths", .array (element.storePaths.map .string))])

def Lists (profile : Profile) (json : JsonValue) : Prop :=
  ∃ elements, json.field "elements" = some (.object elements) ∧
    elements.Perm (profile.entries.map fun entry => (entry.1, entry.2.json))

/-- The files of a package, and the errors with which it may fail to be added to a profile. -/
structure Packages where
  provides : String → List String
  reports : Profile → String → String → Prop

def perform (profile : Profile) : NixAction → NixOutcome → Profile
  | .add _, .element name element => profile.insert name element
  | .upgrade name, .element _ element => profile.modify name fun _ => element
  | .replace name _, .element _ element => profile.modify name fun _ => element
  | .remove name, .removed => profile.erase name
  | _, _ => profile

/-- A new element has a name of its own; an upgrade keeps the attribute path. -/
def Allowed (packages : Packages) (profile : Profile) : NixAction → NixOutcome → Prop
  | _, .unrunnable => True
  | .list, .listed json => Lists profile json
  | .list, .failed _ => True
  | .add flakeRef, .element name element => name ∉ profile ∧ element.package = some flakeRef.attr
  | .add flakeRef, .failed stderr => packages.reports profile flakeRef.attr stderr
  | .remove _, .removed => True
  | .upgrade name, .element _ element => ∀ old, profile.lookup name = some old → element.package = old.package
  | .replace _ flakeRef, .element _ element => element.package = some flakeRef.attr
  | .probeReplace, .supported _ => True
  | .add _, .unchanged | .remove _, .unchanged | .upgrade _, .unchanged | .replace .., .unchanged | .build _, .unchanged => True
  | .remove _, .failed _ | .upgrade _, .failed _ | .replace .., .failed _ | .build _, .failed _ => True
  | _, _ => False

abbrev NixRun (A : Type) := Script NixAction NixOutcome A

def contains (text part : String) : Bool := decide (part.toList <:+: text.toList)

def trim (text : String) : String := String.ofList (trimWhitespace text.toList)

def commandError (action pkg stderr : String) : String :=
  let message := trim stderr
  s!"nix profile {action} {pkg} failed: {message}"

def spawnError (action : String) : String := s!"failed to run nix profile {action}"

def runProfileCmd (action pkg : String) (command : NixAction) : NixRun (Except String Unit) :=
  .ask command fun
    | .failed stderr => .done (.error (commandError action pkg stderr))
    | .unrunnable => .done (.error (spawnError action))
    | _ => .done (.ok ())

def profileListJson : NixRun (Except String JsonValue) :=
  .ask .list fun
    | .listed json => .done (.ok json)
    | .failed stderr => .done (.error ("nix profile list failed: " ++ trim stderr))
    | _ => .done (.error (spawnError "list"))

/-! ## Reading the profile -/

def elementsOf (json : JsonValue) : List (String × JsonValue) := ((json.field "elements").bind JsonValue.asObject).getD []

def storePathsOf (element : JsonValue) : List String :=
  (((element.field "storePaths").bind JsonValue.asArray).getD []).filterMap JsonValue.asStr

def isInstalledIn (json : JsonValue) (pkg : String) : Bool :=
  (elementsOf json).any (fun element => element.1 = pkg) ||
    (elementsOf json).any fun element => (storePathsOf element.2).any (contains · pkg)

def isInstalled (pkg : String) : NixRun (Except String Bool) := do
  match ← profileListJson with
  | .ok json => return .ok (isInstalledIn json pkg)
  | .error e => return .error e

def installedElements : NixRun (Except String (List String)) := do
  match ← profileListJson with
  | .ok json => return .ok ((elementsOf json).map Prod.fst)
  | .error e => return .error e

def profileOriginalUrls : NixRun (Except String (List (String × String))) := do
  match ← profileListJson with
  | .ok json =>
      return .ok ((elementsOf json).filterMap fun element =>
        ((element.2.field "originalUrl").bind JsonValue.asStr).map fun url => (element.1, url))
  | .error e => return .error e

def flakeBaseNorm (base : String) : List Char :=
  let s := (base.toList.dropPrefix? "flake:".toList).getD base.toList
  let s := (s.dropPrefix? "tarball+".toList).getD s
  let s := (s.dropPrefix? "file+".toList).getD s
  s.rdropWhile (· = '/')

def flakeBaseEq (a b : String) : Bool := flakeBaseNorm a = flakeBaseNorm b

/-! ## The conflict in an error -/

def parseConflictingPackage (err : String) : Option String :=
  (lines err.toList).findSome? fun line =>
    ((trimWhitespace line).dropPrefix? "nix profile remove ".toList).bind fun rest =>
      let name := trimWhitespace rest
      if name = [] then none else some (String.ofList name)

def textBefore (pattern : List Char) : List Char → Option (List Char)
  | [] => if pattern = [] then some [] else none
  | c :: rest => if pattern.isPrefixOf (c :: rest) then some [] else (textBefore pattern rest).map (c :: ·)

def withoutVersion (name : List Char) : List Char :=
  if '-' ∈ name ∧ (name.rtakeWhile (· ≠ '-')).head?.any Char.isDigit then (name.rdropWhile (· ≠ '-')).dropLast else name

def storeName (path : List Char) : Option (List Char) :=
  match (path.drop "/nix/store/".length).dropWhile (· ≠ '-') with
  | [] => none
  | _ :: afterHash => (textBefore "/bin/".toList afterHash).map withoutVersion

/-- Only the first line that is a path of a program counts. -/
def parseConflictingStoreBase (err : String) : Option String :=
  let paths := (lines err.toList).map fun line => ((trimWhitespace line).dropWhile (· = '"')).rdropWhile (· = '"')
  ((paths.find? fun path => "/nix/store/".toList.isPrefixOf path && decide ("/bin/".toList <:+: path)).bind storeName).map
    String.ofList

/-! ## Installing -/

def removeElements : List String → NixRun Unit
  | [] => return ()
  | name :: rest => do
      let _ ← runProfileCmd "remove" name (.remove name)
      removeElements rest

def relatedElements (pkg base : String) (elements : List String) : List String :=
  elements.filter fun elem => elem ≠ pkg && contains elem base

def removeConflicting (err pkg : String) : NixRun Unit := do
  removeElements ((parseConflictingPackage err).toList.filter (· ≠ pkg))
  removeElements [pkg]
  match parseConflictingStoreBase err with
  | some base => do
      let elements ← installedElements
      removeElements (relatedElements pkg base (elements.toOption.getD []))
  | none => return ()

def hasReplaceSupport : NixRun Bool :=
  .ask .probeReplace fun
    | .supported yes => .done yes
    | _ => .done false

def preBuildPackage (pkg : String) (flakeRef : FlakeRef) : NixRun (Except String Unit) :=
  .ask (.build flakeRef) fun
    | .failed stderr =>
        let message := trim stderr
        .done (.error s!"nix build for {pkg} upgrade failed: {message}")
    | .unrunnable => .done (.error "failed to run nix build for pre-build")
    | _ => .done (.ok ())

def afterFailure (base pkg err : String) : NixRun (Except String Unit) :=
  if contains err "already provides" then do
    removeConflicting err pkg
    runProfileCmd "add" pkg (.add ⟨base, pkg⟩)
  else return .error err

def installNew (base pkg : String) : NixRun (Except String Unit) := do
  match ← runProfileCmd "install" pkg (.add ⟨base, pkg⟩) with
  | .ok () => return .ok ()
  | .error err => afterFailure base pkg err

def reinstall (base pkg : String) : NixRun (Except String Unit) := do
  match ← preBuildPackage pkg ⟨base, pkg⟩ with
  | .error e => return .error e
  | .ok () =>
      match ← runProfileCmd "remove" pkg (.remove pkg) with
      | .error e => return .error e
      | .ok () => runProfileCmd "add" pkg (.add ⟨base, pkg⟩)

def upgradeInstalled (base pkg : String) : NixRun (Except String Unit) := do
  let urls ← profileOriginalUrls
  if ((urls.toOption.bind fun urls => urls.lookup pkg).any fun url => flakeBaseEq url base) then
    runProfileCmd "upgrade" pkg (.upgrade pkg)
  else do
    let supported ← hasReplaceSupport
    if supported then runProfileCmd "replace" pkg (.replace pkg ⟨base, pkg⟩) else reinstall base pkg

/-- `base` is the desired flake base. -/
def profileInstallWithNix (base pkg : String) (upgrade : Bool) : NixRun (Except String Unit) :=
  if upgrade then upgradeInstalled base pkg else installNew base pkg

def profileInstall (base pkg : String) (upgrade : Bool) : NixRun (Except String Unit) :=
  if Daemon.isValidPackageName pkg then profileInstallWithNix base pkg upgrade else return .ok ()

end MacMgmt.Agent.Nix
