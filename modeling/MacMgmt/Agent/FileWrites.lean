import MacMgmt.Agent.FileTunnels
import MacMgmt.Lib.FileLinks

/-!
# One write, step by step

`write_file` of `mac-mgmt-agent/src/file_tunnels.rs` as its operations on the disk, each of which can fail, with the temporary files
beside the target. The copy in the config-backup folder, whose failure is only logged, is left out.
-/

namespace MacMgmt.Agent
open Lib

structure WriteRequest where
  tunnel : FileTunnel
  relPath : Option String
  content : List UInt8
  expectedMtime : Option Int

inductive WritePhase where
  | resolving
  | checking (path : FilePath)
  | creating (path : FilePath)
  | writing (path tmp : FilePath)
  | backingUp (path tmp : FilePath)
  | copying (path tmp backup : FilePath)
  | replacing (path tmp : FilePath) (backup : Option FilePath)
  | validating (path : FilePath) (backup : Option FilePath) (validator : Validator)
  | restoring (path : FilePath) (backup : Option FilePath) (message : String)
  | finishing (path : FilePath) (backup : Option FilePath)
  | done (result : Except (Nat × String) Nat)

/-- The time of a step, a random name, whether the operation works, whether the removals after a failed one do (of a backup, where both
are removed, and of the first temporary file), and what is read from a node that is no regular file. -/
structure WriteEvent where
  now : Nat
  name : String
  works : Bool
  removesBackup : Bool
  removes : Bool
  read : List UInt8

/-- `temp_beside`: an empty file of a name that is not taken, with the mode of the target. -/
def emptyBeside (tree : FileTree) (path : FilePath) (now : Nat) : Node := ⟨.file [], (tree.node path).all Node.readable, some now, 0⟩

def filled (node : Node) (bytes : List UInt8) (now : Nat) : Node :=
  { node with content := .file bytes, mtime := if bytes = [] then node.mtime else some now }

def removeIf (removes : Bool) (tree : FileTree) (path : FilePath) : FileTree := if removes then tree.erase path else tree

/-- What `copy_to_temp` reads, where it can be read. -/
def readNode (event : WriteEvent) (node : Node) : Option (List UInt8) :=
  if !event.works || !node.readable then none
  else match node.content with
    | .file bytes => some bytes
    | .directory => none
    | .symlink _ | .special => some event.read

section Step
variable (glob : Glob) (validate : Validator → List UInt8 → Except String Unit) (request : WriteRequest)

def afterRename (path : FilePath) (backup : Option FilePath) : WritePhase :=
  match findValidator glob request.tunnel path with
  | some validator => .validating path backup validator
  | none => .finishing path backup

def writeStep (state : FileTree × WritePhase) (event : WriteEvent) : Option (FileTree × WritePhase) :=
  let tree := state.1
  match state.2 with
  | .resolving =>
      match writeTarget glob tree request.tunnel request.relPath request.content none with
      | .error refusal => some (tree, .done (.error refusal))
      | .ok path => some (tree, .checking path)
  | .checking path =>
      match request.expectedMtime, (tree.node path).bind Node.mtime with
      | some expected, some actual =>
          if (actual : Int) ≠ expected then
            some (tree, .done (.error (409, s!"file modified since last read (expected mtime {expected}, actual {actual})")))
          else some (tree, .creating path)
      | _, _ => some (tree, .creating path)
  | .creating path =>
      let tmp := path.dropLast ++ [event.name]
      if !event.works then some (tree, .done (.error (500, "failed to create temp file")))
      -- the name of the target is taken, as its path was resolved
      else if tmp = path ∨ (tree.node tmp).isSome then some (tree, .creating path)
      else some (tree.set tmp (emptyBeside tree path event.now), .writing path tmp)
  | .writing path tmp =>
      match tree.node tmp with
      | some node =>
          if event.works then some (tree.set tmp (filled node request.content event.now), .backingUp path tmp)
          else some (tree, .done (.error (500, "failed to write temp file")))
      | none => some (tree, .done (.error (500, "failed to write temp file")))
  | .backingUp path tmp =>
      let backup := path.dropLast ++ [event.name]
      if (tree.node path).isNone then some (tree, .replacing path tmp none)
      else if !event.works then some (removeIf event.removes tree tmp, .done (.error (500, "backup failed")))
      else if (tree.node backup).isSome then some (tree, .backingUp path tmp)
      else some (tree.set backup (emptyBeside tree path event.now), .copying path tmp backup)
  | .copying path tmp backup =>
      match (tree.node path).bind (readNode event), tree.node backup with
      | some bytes, some node => some (tree.set backup (filled node bytes event.now), .replacing path tmp (some backup))
      | _, _ =>
          some (removeIf event.removes (removeIf event.removesBackup tree backup) tmp, .done (.error (500, "backup failed")))
  | .replacing path tmp backup =>
      match tree.node tmp with
      | some node =>
          if event.works then some ((tree.erase tmp).set path node, afterRename glob request path backup)
          else some (removeIf event.removes tree tmp, .done (.error (500, "rename failed")))
      | none => some (tree, .done (.error (500, "rename failed")))
  | .validating path backup validator =>
      match (tree.node path).bind (readNode event) with
      | none => some (tree, .restoring path backup "failed to read")
      | some bytes =>
          match validate validator bytes with
          | .ok _ => some (tree, .finishing path backup)
          | .error message => some (tree, .restoring path backup message)
  | .restoring path backup message =>
      let result := Except.error (422, "validation failed: " ++ message)
      match backup with
      | none => some (removeIf event.removes tree path, .done result)
      | some backup =>
          match tree.node backup with
          | some node => some (if event.works then (tree.erase backup).set path node else tree, .done result)
          | none => some (tree, .done result)
  | .finishing path backup =>
      let cleaned := match backup with
        | some backup => removeIf event.removes tree backup
        | none => tree
      some (cleaned, .done (.ok (((cleaned.node path).bind Node.mtime).getD 0)))
  | .done _ => none

/-! ## Two writers -/

structure Writers where
  tree : FileTree
  phases : Bool → WritePhase

def writersStep (requests : Bool → WriteRequest) (state : Writers) (event : Bool × WriteEvent) : Option Writers :=
  (writeStep glob validate (requests event.1) (state.tree, state.phases event.1) event.2).map fun next =>
    ⟨next.1, Function.update state.phases event.1 next.2⟩

end Step
end MacMgmt.Agent
