import MacMgmt.Lib.Table
import Mathlib.Data.List.Induction

/-!
# A tree of files with symbolic links

A node is known by the names on the way to it from the top. `canonicalize` follows links the way the operating system
does: a link is replaced by its target where it stands, at most `linkLimit` times.
-/

namespace Lib

abbrev FilePath := List String

inductive Content where
  | file (bytes : List UInt8)
  | directory
  | symlink (target : String)
  | special
deriving DecidableEq

/-- `mtime` is `none` before 1970. `length` is the reported length of a node that is no file. -/
structure Node where
  content : Content
  readable : Bool
  mtime : Option Nat
  length : Nat
deriving DecidableEq

namespace Node

def isFile (node : Node) : Bool :=
  match node.content with
  | .file _ => true
  | .directory | .symlink _ | .special => false

def isDir (node : Node) : Bool :=
  match node.content with
  | .directory => true
  | .file _ | .symlink _ | .special => false

def len (node : Node) : Nat :=
  match node.content with
  | .file bytes => bytes.length
  | .directory | .symlink _ | .special => node.length

end Node

structure FileTree where
  nodes : Table FilePath Node
  cwd : FilePath
  linkLimit : Nat

def pieces (text : String) : List String := (text.toList.splitOn '/').map String.ofList

def isAbsolute (text : String) : Bool := text.toList.head? = some '/'

namespace FileTree
variable (tree : FileTree)

def node (path : FilePath) : Option Node := tree.nodes.lookup path

/-- Goes down from a directory; `follow` continues at a link. -/
def walk (follow : FilePath → List String → Option FilePath) : FilePath → List String → Option FilePath
  | done, [] => some done
  | done, name :: rest =>
      if name = "" ∨ name = "." then walk follow done rest
      else if name = ".." then walk follow done.dropLast rest
      else
        match (tree.node (done ++ [name])).map Node.content with
        | none => none
        | some .directory => walk follow (done ++ [name]) rest
        | some (.symlink target) => follow (if isAbsolute target then [] else done) (pieces target ++ rest)
        | some (.file _) | some .special => if rest = [] then some (done ++ [name]) else none

def resolve : Nat → FilePath → List String → Option FilePath
  | 0 => tree.walk fun _ _ => none
  | links + 1 => tree.walk (resolve links)

def canonicalize (text : String) : Option FilePath :=
  if text = "" then none
  else tree.resolve tree.linkLimit (if isAbsolute text then [] else tree.cwd) (pieces text)

def readDir (path : FilePath) : List (String × Node) :=
  tree.nodes.entries.filterMap fun entry =>
    match entry.1.getLast? with
    | none => none
    | some name => if entry.1.dropLast = path then some (name, entry.2) else none

def set (path : FilePath) (node : Node) : FileTree := { tree with nodes := tree.nodes.insert path node }

end FileTree

/-! ## What a path denotes by its text

`.` and `..` are resolved without asking what lies at a path. -/

def descend : FilePath → List String → FilePath
  | done, [] => done
  | done, name :: rest =>
      if name = "" ∨ name = "." then descend done rest
      else if name = ".." then descend done.dropLast rest
      else descend (done ++ [name]) rest

/-- The directory or file that a path denotes from the top. -/
def denoted (text : String) : FilePath := descend [] (pieces text)

/-- A way from a directory: how many levels it goes up, and the names that it goes down from there. -/
structure Way where
  ups : Nat
  downs : List String
deriving DecidableEq

namespace Way

def step (way : Way) (name : String) : Way :=
  if name = "" ∨ name = "." then way
  else if name = ".." then if way.downs = [] then ⟨way.ups + 1, []⟩ else ⟨way.ups, way.downs.dropLast⟩
  else ⟨way.ups, way.downs ++ [name]⟩

/-- A name is cancelled by the `..` after it. -/
def of (names : List String) : Way := names.foldl step ⟨0, []⟩

def from_ (way : Way) (done : FilePath) : FilePath := done.take (done.length - way.ups) ++ way.downs

theorem from_step (way : Way) (done : FilePath) (name : String) :
    (way.step name).from_ done = descend (way.from_ done) [name] := by
  unfold step
  simp only [descend]
  split_ifs with stay up top
  · rfl
  · simp only [from_, top, List.append_nil, List.dropLast_eq_take, List.take_take, List.length_take]
    congr 1
    omega
  · simp only [from_, List.dropLast_append_of_ne_nil top]
  · simp only [from_, List.append_assoc]

end Way

theorem descend_append (done : FilePath) (first second : List String) :
    descend done (first ++ second) = descend (descend done first) second := by
  induction first generalizing done with
  | nil => rfl
  | cons name rest ih =>
      simp only [List.cons_append, descend]
      split_ifs
      · exact ih done
      · exact ih done.dropLast
      · exact ih (done ++ [name])

theorem descend_eq_from (done : FilePath) (names : List String) : descend done names = (Way.of names).from_ done := by
  induction names using List.reverseRecOn with
  | nil => simp [descend, Way.of, Way.from_]
  | append_singleton before name ih =>
      have last : Way.of (before ++ [name]) = (Way.of before).step name := List.foldl_append ..
      rw [descend_append, ih, last, Way.from_step]

end Lib
