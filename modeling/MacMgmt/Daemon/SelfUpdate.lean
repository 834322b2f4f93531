import MacMgmt.Daemon.UpdateTarget
import MacMgmt.Lib.FileLinks
import MacMgmt.Lib.JsonValue

/-!
# The self-update and the restart

`install_bin_path`, `check_and_apply` with `apply_store_path`, and `check_binary_changed` of `daemon/src/self_update.rs`,
and the restart at the end of `run` in `daemon/src/daemon.rs`. Three paths have to meet: the one whose link is replaced and
watched, the one that is executed, and the one that the running process was executed from.
-/

namespace MacMgmt.Daemon
open Lib

/-- What a process inherits when it is executed again. `searchPath` holds the entries of `PATH`; `resolvesExe` says whether
the platform's `current_exe` follows links. -/
structure Launch where
  argv0 : String
  searchPath : Option (List String)
  home : Option String
  resolvesExe : Bool

/-- `program` gives the version of the files that can be executed. -/
structure Files where
  tree : FileTree
  program : FilePath → Option String

def inStore (text : String) : Bool := "/nix/store/".toList.isPrefixOf text.toList

def newBin (storePath : String) : String := storePath ++ "/bin/mac-mgmt"

/-- As in `mac-mgmt-agent/src/nix.rs`. -/
def storePathPrefix (tree : FileTree) (text : String) : Option String :=
  match tree.canonicalize text with
  | some ("nix" :: "store" :: name :: _) => some ("/nix/store/" ++ name)
  | some _ | none => none

namespace Launch

def runnable (files : Files) (text : String) : Option FilePath :=
  (files.tree.canonicalize text).filter fun path => (files.program path).isSome

def expandTilde (home : Option String) (entry : String) : String :=
  match home, entry.toList with
  | some home, ['~'] => home
  | some home, '~' :: '/' :: rest => joinPath home (String.ofList rest)
  | _, _ => entry

variable (launch : Launch) (files : Files)

def which : Option String :=
  ((launch.searchPath.getD []).map fun entry => joinPath (expandTilde launch.home entry) "mac-mgmt").find? fun path =>
    (runnable files path).isSome

def installBinPath : Option String :=
  let path := joinPath (absoluteText files.tree.cwd) launch.argv0
  if !inStore path && (files.tree.canonicalize path).isSome then some path
  else
    match (launch.which files).filter fun found => !inStore found with
    | some found => some found
    | none => launch.home.map fun home => joinPath home ".local/bin/mac-mgmt"

/-- The path that `execvp` takes for `argv[0]`. -/
def execPath : Option String :=
  if '/' ∈ launch.argv0.toList then some launch.argv0
  else if launch.argv0 = "" then none
  else ((launch.searchPath.getD ["/bin", "/usr/bin"]).map fun entry => joinPath entry launch.argv0).find? fun path =>
    (runnable files path).isSome

def execTarget : Option FilePath := (launch.execPath files).bind (runnable files)

/-- What `current_exe` says in the process that is executed. -/
def currentExe (path : String) (target : FilePath) : String := if launch.resolvesExe then absoluteText target else path

def checkBinaryChanged (exe : String) : Option FilePath :=
  ((launch.installBinPath files).bind files.tree.canonicalize).filter fun target => absoluteText target ≠ exe

/-- The tree with the directories above the install path. -/
def madeDirs (install : String) : Option FileTree :=
  files.tree.createDirAll (files.tree.startOf install) [] (pieces install).dropLast

/-- The install path, what it leads to, and the tree with the new link there. The link is made under another name and moved,
which fails on a directory. -/
def relink (storePath : String) : Option (String × FilePath × FileTree) := do
  let install ← launch.installBinPath files
  let _ ← files.tree.canonicalize (newBin storePath)
  let made ← madeDirs files install
  let (directory, name) ← made.place install
  if made.contentAt (directory ++ [name]) = some .directory then none
  else some (install, directory ++ [name], made.replaceLink (directory ++ [name]) (newBin storePath))

end Launch

/-- `exe` is what `current_exe` says, `marker` the trimmed text of the marker file and `pending` whether `RESTART_EXEC` is
set. `served` is the target that was set last, `applied` the install path and the store path applied since the last restart.
`quiet` says that no file and no target has changed since that restart; `misdirected` that something other than the binary
that was applied has been executed, and `repeated` that the daemon has restarted twice with no change in between. -/
structure Updater where
  launch : Launch
  files : Files
  exe : String
  version : String
  target : Target
  marker : Option String
  pending : Bool
  served : Target
  applied : Option (String × String)
  quiet : Bool
  misdirected : Bool
  repeated : Bool
  stopped : Bool

/-- In `apply`, `calls` says whether nix-store and the other calls that the tree does not decide succeed, `marks` whether the
marker file is written. `take` is a turn of the loop for a command of the server. -/
inductive UpdaterEvent where
  | change (nodes : Table FilePath Node) (program : FilePath → Option String) (exe : String) (marker : Option String)
  | setTarget (version : String) (storePath : Option String)
  | apply (calls marks : Bool)
  | tick
  | take

namespace Updater

def start (launch : Launch) (files : Files) (exe version : String) (marker : Option String) : Updater :=
  { launch, files, exe, version, target := ⟨none, none⟩, marker, pending := false, served := ⟨none, none⟩, applied := none,
    quiet := false, misdirected := false, repeated := false, stopped := false }

variable (state : Updater)

def changed : Option FilePath := state.launch.checkBinaryChanged state.files state.exe

def build : Build := ⟨state.version, storePathPrefix state.files.tree state.exe, state.marker⟩

def applyStorePath (storePath : String) (marks : Bool) : Updater :=
  match state.launch.relink state.files storePath with
  | none => state
  | some (install, entry, tree) =>
      let same := tree.sameContents state.files.tree
      let marker := if marks then some storePath else state.marker
      { state with
        files := if same then state.files else { state.files with tree }
        -- the kernel's name for a file that was replaced while it runs
        exe := if !same && state.launch.resolvesExe && absoluteText entry = state.exe then state.exe ++ " (deleted)" else state.exe
        marker, pending := true, applied := some (install, storePath)
        quiet := state.quiet && same && marker = state.marker }

def update (calls marks : Bool) : Updater :=
  match checkAndApply state.build state.target with
  | none => state
  | some (_, storePath) => if calls then state.applyStorePath storePath marks else state

def restart : Updater :=
  match state.launch.execPath state.files, state.launch.execTarget state.files with
  | some path, some target =>
      { state with
        exe := state.launch.currentExe path target
        version := (state.files.program target).getD state.version
        target := ⟨none, none⟩, pending := false, applied := none, quiet := true
        misdirected := state.misdirected ||
          state.applied.any fun applied => state.files.tree.canonicalize (newBin applied.2) ≠ some target
        repeated := state.repeated || state.quiet }
  | _, _ => { state with misdirected := state.misdirected || state.applied.isSome, stopped := true }

def takeRestartExec : Updater := if state.pending then state.restart else state

def check : Updater := { state with pending := state.pending || state.changed.isSome }

def setTarget (version : String) (storePath : Option String) : Updater :=
  { state with
    target := ⟨some version, storePath⟩, served := ⟨some version, storePath⟩
    quiet := state.quiet && state.served = ⟨some version, storePath⟩ }

def step : UpdaterEvent → Option Updater := fun event =>
  if state.stopped then none
  else
    match event with
    | .change nodes program exe marker =>
        some { state with files := ⟨{ state.files.tree with nodes }, program⟩, exe, marker, quiet := false }
    | .setTarget version storePath => some (state.setTarget version storePath)
    | .apply calls marks => some (state.update calls marks)
    | .tick => some state.check.takeRestartExec
    | .take => some state.takeRestartExec

/-- The binary that was applied is the one that was executed, the daemon has not restarted twice with no change in between,
and after a restart, while nothing changes, no restart is pending and the check finds none. -/
def Steady : Prop :=
  state.misdirected = false ∧ state.repeated = false ∧
    (state.quiet = true → state.pending = false ∧ state.changed = none)

/-- `argv[0]` is executed from the path that is watched and that the link was put at, and the process will know it by the
name that the check compares. -/
def SamePlace : Prop :=
  ∃ path target, state.launch.execPath state.files = some path ∧ Launch.runnable state.files path = some target ∧
    (state.launch.installBinPath state.files).bind state.files.tree.canonicalize = some target ∧
    state.launch.currentExe path target = absoluteText target ∧
    ∀ install storePath, state.applied = some (install, storePath) → state.files.tree.canonicalize install = some target

/-- Neither the way to the install path nor the one to the new binary goes through the link between them, and they take
fewer links than are followed. If nothing has changed since a restart, that binary lies in the store path itself. -/
def Lands (storePath : String) : Prop :=
  ∀ install made directory name, state.launch.installBinPath state.files = some install →
    Launch.madeDirs state.files install = some made → made.place install = some (directory, name) →
    ∃ way links more found, splitLast install = some (way, name) ∧
      (made.erase (directory ++ [name])).resolve links (made.startOf install) way = some directory ∧
      (made.erase (directory ++ [name])).resolve more [] (pieces (newBin storePath)) = some found ∧
      links + more < state.files.tree.linkLimit ∧
      (state.quiet = true → storePathPrefix state.files.tree (absoluteText found) = some storePath)

/-- What is still to be restarted into is left in its place; the new link lands; and the restart finds it. -/
def Careful : UpdaterEvent → Prop
  | .change nodes _ _ _ => ∀ install storePath, state.applied = some (install, storePath) →
      FileTree.canonicalize { state.files.tree with nodes } install =
        FileTree.canonicalize { state.files.tree with nodes } (newBin storePath)
  | .setTarget _ _ => True
  | .apply calls _ => calls = true → ∀ version storePath,
      checkAndApply state.build state.target = some (version, storePath) → state.Lands storePath
  | .tick => state.pending = true ∨ state.changed ≠ none → state.SamePlace
  | .take => state.pending = true → state.SamePlace

end Updater
end MacMgmt.Daemon

/-! ## Releases for the USB build

`is_newer` and `parse_best_release` of `daemon/src/usb_update.rs`. -/

namespace MacMgmt.Daemon.UsbUpdate
open Lib

def assetName (arch : String) : String := s!"mac-mgmt-usb-{arch}.tar.gz"

structure ReleaseAsset where
  version : String
  url : String
  sha256Url : Option String
deriving DecidableEq

/-- `trim_start_matches('v')` -/
def withoutV (v : String) : String := String.ofList (v.toList.dropWhile (· = 'v'))

def parts (v : String) : List Nat :=
  ((withoutV v).toList.splitOnP fun c => c = '.' || c = '-').map fun p => (parseU64 (String.ofList p)).getD 0

def isNewer (current candidate : String) : Bool :=
  let c := parts current
  let n := parts candidate
  match (List.range (max c.length n.length)).find? fun i => n.getD i 0 ≠ c.getD i 0 with
  | some i => n.getD i 0 > c.getD i 0
  | none => false

def tagName (rel : JsonValue) : Option String := (rel.field "tag_name").bind JsonValue.asStr

def releaseLinks (rel : JsonValue) : Option (List JsonValue) :=
  ((rel.field "assets").bind fun assets => assets.field "links").bind JsonValue.asArray

def linkName (link : JsonValue) : String := ((link.field "name").bind JsonValue.asStr).getD ""

def linkUrl (link : JsonValue) : Option String :=
  ((link.field "direct_asset_url").or (link.field "url")).bind JsonValue.asStr

/-- The addresses of an asset and of its checksum; a link overwrites the one before it. -/
def linkedUrls (want : String) (links : List JsonValue) : Option String × Option String :=
  links.foldl
    (fun urls link =>
      if linkName link = want then (linkUrl link, urls.2)
      else if linkName link = want ++ ".sha256" then (urls.1, linkUrl link)
      else urls)
    (none, none)

/-- What a turn of the loop finds in a release with the tag. -/
def candidate (current arch tag : String) (rel : JsonValue) : Option ReleaseAsset :=
  if isNewer current tag then do
    let links ← releaseLinks rel
    let url ← (linkedUrls (assetName arch) links).1
    return ⟨withoutV tag, url, (linkedUrls (assetName arch) links).2⟩
  else none

def keepNewer (best : Option ReleaseAsset) (candidate : ReleaseAsset) : Option ReleaseAsset :=
  match best with
  | some b => if isNewer b.version candidate.version then some candidate else some b
  | none => some candidate

/-- A turn of the loop. A release without a tag ends the search with nothing. -/
def consider (current arch : String) (best : Option ReleaseAsset) (rel : JsonValue) : Option (Option ReleaseAsset) := do
  let tag ← tagName rel
  match candidate current arch tag rel with
  | some candidate => return keepNewer best candidate
  | none => return best

def parseBestRelease (releases : JsonValue) (current arch : String) : Option ReleaseAsset := do
  let items ← releases.asArray
  let best ← items.foldlM (consider current arch) none
  best

end MacMgmt.Daemon.UsbUpdate
