import MacMgmt.Lib.FileTree
import Mathlib.Data.List.Infix

/-!
# File tunnels

`mac-mgmt-agent/src/file_tunnels.rs`: how a path given by a client is resolved inside a tunnel, the list and read
operations, and `write_file` with the choice of its validator (`mac-mgmt-agent/src/validator.rs`). The crate `glob`, the
verdict of a validator and the failures of the disk are parameters. The texts of errors of the operating system are left
out of the messages, and so are the temporary files beside the target.
-/

namespace MacMgmt.Agent
open Lib

def maxFileSize : Nat := 10 * 1024 * 1024

inductive ConfigFormat where
  | json
  | toml
  | yaml
  | env
deriving DecidableEq

inductive SchemaSource where
  | url (url : String)
  | file (path : String)
  | command (command : List String)
  | exec (command : List String)
deriving DecidableEq

structure Validator where
  pattern : String
  format : ConfigFormat
  schema : Option SchemaSource
deriving DecidableEq

inductive FileTunnelDef where
  | file
  | folder (allowWrite : List String) (include_ : Option (List String)) (validators : List Validator)
deriving DecidableEq

structure FileTunnel where
  path : String
  writable : Bool
  def_ : FileTunnelDef
deriving DecidableEq

/-- `Pattern::new` followed by `matches`, and by `matches_with` where wildcards stop at separators. A pattern that does not
parse matches nothing. -/
structure Glob where
  matchesName : String → String → Bool
  matchesPath : String → String → Bool

/-! ## Paths as the source handles them -/

def trimStartSlashes (text : List Char) : List Char := text.dropWhile (· = '/')

/-- The components of `Path`, without a leading `/`. -/
def pathComponents (text : String) : List String := (pieces text).filter fun piece => piece ≠ "" ∧ piece ≠ "."

def textOf (path : FilePath) : String := "/".intercalate path

/-- `Path::file_name`. -/
def fileName (path : List String) : String :=
  match path.getLast? with
  | some name => if name = ".." then "" else name
  | none => ""

/-- Leading slashes go, and the root's own path in front of the rest. -/
def relativePath (tunnel : FileTunnel) (path : String) : String :=
  let given := trimStartSlashes path.toList
  match given.dropPrefix? (trimStartSlashes tunnel.path.toList) with
  | some rest => String.ofList (trimStartSlashes rest)
  | none => String.ofList given

def FileTunnel.target (tunnel : FileTunnel) (path : Option String) : Except String String :=
  match tunnel.def_, (path.map (relativePath tunnel)).getD "" with
  | .file, name =>
      if name = "" ∨ name = fileName (pathComponents tunnel.path) then .ok tunnel.path
      else .error "sub-paths not allowed for file tunnels"
  | .folder .., rel =>
      if rel = "" then .ok tunnel.path
      else if "..".toList <:+: rel.toList then .error "path traversal not allowed"
      else .ok (tunnel.path ++ "/" ++ rel)

def resolvePath (tree : FileTree) (tunnel : FileTunnel) (path : Option String) : Except String FilePath :=
  match tunnel.target path with
  | .error error => .error error
  | .ok target =>
      match tree.canonicalize target with
      | none => .error "path not found"
      | some canonical =>
          match tree.canonicalize tunnel.path with
          | none => .error "tunnel root error"
          | some root =>
              match tunnel.def_ with
              | .file => if canonical ≠ root then .error "path does not match tunnel file" else .ok canonical
              | .folder .. =>
                  if !root.isPrefixOf canonical then .error "path outside tunnel root" else .ok canonical

section Glob
variable (glob : Glob)

def matchesInclude (tunnel : FileTunnel) (filename : String) : Bool :=
  match tunnel.def_ with
  | .folder _ (some patterns) _ => patterns.any fun pattern => glob.matchesName pattern filename
  | .folder _ none _ | .file => true

def matchesAllowWrite (tunnel : FileTunnel) (filename : String) : Bool :=
  match tunnel.def_ with
  | .folder allowWrite _ _ => allowWrite.isEmpty || allowWrite.any fun pattern => glob.matchesName pattern filename
  | .file => true

/-! ## Listing and reading -/

inductive EntryKind where
  | file
  | directory
deriving DecidableEq

structure ListEntry where
  name : String
  kind : EntryKind
  size : Nat
  mtime : Nat
deriving DecidableEq

def listEntry (tunnel : FileTunnel) (name : String) (node : Node) : Option ListEntry :=
  let kind := if node.isDir then EntryKind.directory else .file
  if kind = .file ∧ !matchesInclude glob tunnel name then none
  else some ⟨name, kind, node.len, node.mtime.getD 0⟩

def handleList (tree : FileTree) (tunnel : FileTunnel) (relPath : Option String) : Except (Nat × String) (List ListEntry) :=
  match resolvePath tree tunnel relPath with
  | .error error => .error (400, error)
  | .ok path =>
      match tree.node path with
      | none => .error (404, "path not found")
      | some node =>
          if node.isFile then .ok [⟨fileName path, .file, node.len, node.mtime.getD 0⟩]
          else if node.isDir then
            if !node.readable then .error (500, "")
            else .ok ((tree.readDir path).filterMap fun entry => listEntry glob tunnel entry.1 entry.2)
          else .error (404, "path not found")

def readFile (tree : FileTree) (tunnel : FileTunnel) (relPath : Option String) :
    Except (Nat × String) (List UInt8 × Option Nat) :=
  match resolvePath tree tunnel relPath with
  | .error error => .error (400, error)
  | .ok path =>
      if !matchesInclude glob tunnel (fileName path) then .error (403, "file not included in tunnel filter")
      else
        match tree.node path with
        | none => .error (404, "file not found")
        | some node =>
            match node.content with
            | .file bytes => if node.readable then .ok (bytes, node.mtime) else .error (500, "read failed")
            | .directory | .symlink _ | .special => .error (400, "path is not a file")

/-! ## Writing -/

def Validator.matches (validator : Validator) (path : String) : Bool := glob.matchesPath validator.pattern path

def findMatching (validators : List Validator) (path : String) : Option Validator :=
  validators.find? fun validator => validator.matches glob path

/-- `Path::strip_prefix` of the root as it is spelled, and the whole path where that fails. -/
def relativeTo (root : String) (path : FilePath) : String :=
  match if isAbsolute root then path.dropPrefix? (pathComponents root) else none with
  | some rel => textOf rel
  | none => "/" ++ textOf path

def FileTunnel.validators (tunnel : FileTunnel) : List Validator :=
  match tunnel.def_ with
  | .folder _ _ validators => validators
  | .file => []

def findValidator (tunnel : FileTunnel) (path : FilePath) : Option Validator :=
  findMatching glob tunnel.validators (relativeTo tunnel.path path)

structure Disk where
  tempFile : Bool
  writeAll : Bool
  backup : Bool
  rename : Bool
  restore : Bool
deriving DecidableEq

/-- `checked` is history: the validators that ran on the content written. -/
structure WriteOutcome where
  result : Except (Nat × String) Nat
  tree : FileTree
  checked : List Validator

def replaceFile (tree : FileTree) (path : FilePath) (content : List UInt8) (now : Nat) : FileTree :=
  { tree with nodes := tree.nodes.modify path fun node => { node with content := .file content, mtime := some now } }

variable (validate : Validator → List UInt8 → Except String Unit)

def writeTarget (tree : FileTree) (tunnel : FileTunnel) (relPath : Option String) (content : List UInt8)
    (expectedMtime : Option Int) : Except (Nat × String) FilePath :=
  if !tunnel.writable then .error (403, "tunnel is read-only")
  else
    match resolvePath tree tunnel relPath with
    | .error error => .error (400, error)
    | .ok path =>
        if !matchesInclude glob tunnel (fileName path) then .error (403, "file not included in tunnel filter")
        else if !matchesAllowWrite glob tunnel (fileName path) then .error (403, "file not allowed by write filter")
        else if maxFileSize < content.length then .error (413, "file too large")
        else
          match expectedMtime, (tree.node path).bind Node.mtime with
          | some expected, some actual =>
              if (actual : Int) ≠ expected then
                .error (409, s!"file modified since last read (expected mtime {expected}, actual {actual})")
              else .ok path
          | _, _ => .ok path

/-- A target exists, as its path was resolved. A directory cannot be copied to a backup file. -/
def writeFile (tree : FileTree) (disk : Disk) (now : Nat) (tunnel : FileTunnel) (relPath : Option String)
    (content : List UInt8) (expectedMtime : Option Int) : WriteOutcome :=
  match writeTarget glob tree tunnel relPath content expectedMtime with
  | .error refusal => ⟨.error refusal, tree, []⟩
  | .ok path =>
      if !disk.tempFile then ⟨.error (500, "failed to create temp file"), tree, []⟩
      else if !disk.writeAll then ⟨.error (500, "failed to write temp file"), tree, []⟩
      else if !disk.backup || (tree.node path).any Node.isDir then ⟨.error (500, "backup failed"), tree, []⟩
      else if !disk.rename then ⟨.error (500, "rename failed"), tree, []⟩
      else
        let written := replaceFile tree path content now
        match findValidator glob tunnel path with
        | none => ⟨.ok now, written, []⟩
        | some validator =>
            match validate validator content with
            | .ok _ => ⟨.ok now, written, [validator]⟩
            | .error message =>
                ⟨.error (422, "validation failed: " ++ message), if disk.restore then tree else written, [validator]⟩

/-! ## Write sessions -/

/-- What `read_tagged_frame` returns; `closed` is a stream that ended between frames. -/
inductive FrameRead where
  | binary (data : List UInt8)
  | end_
  | json
  | closed
  | failed
deriving DecidableEq

inductive Received where
  | content (bytes : List UInt8)
  | tooLarge
  | gone
  | waiting
deriving DecidableEq

def receiveContent (content : List UInt8) : List FrameRead → Received
  | [] => .waiting
  | .binary data :: reads =>
      if maxFileSize < (content ++ data).length then .tooLarge else receiveContent (content ++ data) reads
  | .end_ :: _ | .closed :: _ | .json :: _ => .content content
  | .failed :: _ => .gone

/-- The two ways a write comes in. A session that is cut off, or still runs, has written nothing. -/
inductive Upload where
  | message (content : List UInt8)
  | session (reads : List FrameRead)
deriving DecidableEq

def handleUpload (tree : FileTree) (disk : Disk) (now : Nat) (tunnel : FileTunnel) (relPath : Option String)
    (expectedMtime : Option Int) : Upload → Option WriteOutcome
  | .message content => some (writeFile glob validate tree disk now tunnel relPath content expectedMtime)
  | .session reads =>
      match receiveContent [] reads with
      | .content content => some (writeFile glob validate tree disk now tunnel relPath content expectedMtime)
      | .tooLarge => some ⟨.error (413, "file too large"), tree, []⟩
      | .gone | .waiting => none

end Glob
end MacMgmt.Agent
