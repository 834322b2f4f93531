import MacMgmt.Lib.Sorting
import Mathlib.Data.List.Dedup
import Mathlib.Data.Prod.Lex
import Mathlib.Data.String.Basic

/-!
# Grouping the models of a catalog

`auto_group` of `server/src/model_catalog_fetch.rs`. Of an entry the grouping reads the id alone. `lowercase` stands for
`to_lowercase` of a text and `uppercase` for `to_uppercase` of a character.
-/

namespace MacMgmt.Server
open Lib

inductive ModelNode (Entry : Type) where
  | model (entry : Entry)
  | group (name displayName : String) (children : List (ModelNode Entry))

structure Lettering where
  lowercase : String → String
  uppercase : Char → String

def isNumericSegment (s : List Char) : Bool := !s.isEmpty && s.all fun c => c.isDigit || c = '.'

/-- Drop the empty parts, and join two numeric ones into a version number. -/
def tokens : List (List Char) → List (List Char)
  | [] => []
  | [part] => if part.isEmpty then [] else [part]
  | part :: next :: parts =>
      if part.isEmpty then tokens (next :: parts)
      else if isNumericSegment part && isNumericSegment next then (part ++ '.' :: next) :: tokens parts
      else part :: tokens (next :: parts)

def tokenizeModelId (modelId : String) : List String :=
  let base := modelId.toList.takeWhile (· ≠ ':')
  let tag := modelId.toList.dropWhile (· ≠ ':')
  ((tokens (base.splitOnP fun c => c = '/' || c = '-')) ++ if tag.isEmpty then [] else [tag]).map String.ofList

structure CatalogItem (Entry : Type) where
  segments : List String
  entry : Entry

section Groups
variable {Entry : Type} (lettering : Lettering) (modelId : Entry → String)

def titlecase (s : String) : String :=
  match s.toList with
  | [] => ""
  | c :: chars => lettering.uppercase c ++ String.ofList chars

def segmentKey (depth : Nat) (item : CatalogItem Entry) : Option String := item.segments[depth]?.map lettering.lowercase

/-- A group takes over what its only child holds if that is a group. -/
def groupNode (key : String) (children : List (ModelNode Entry)) : ModelNode Entry :=
  match children with
  | [.group childName _ grandchildren] =>
      let mergedName := s!"{key}-{childName}"
      .group mergedName (titlecase lettering mergedName) grandchildren
  | _ => .group key (titlecase lettering key) children

def bucketNode (key : String) (items : List (CatalogItem Entry)) (children : List (ModelNode Entry)) : ModelNode Entry :=
  match items with
  | [item] => if key.startsWith ":" then .model item.entry else groupNode lettering key children
  | _ => groupNode lettering key children

def sortKey : ModelNode Entry → Nat ×ₗ String
  | .group name _ _ => toLex (0, lettering.lowercase name)
  | .model entry => toLex (1, lettering.lowercase (modelId entry))

/-- `left` is how much the depth is below six. -/
def buildGroupsRecursive (items : List (CatalogItem Entry)) (left : Nat) : List (ModelNode Entry) :=
  match left with
  | 0 => items.map fun item => .model item.entry
  | left + 1 =>
      if items.length ≤ 1 then items.map fun item => .model item.entry
      else
        let key := segmentKey lettering (5 - left)
        let noSegment := items.filter fun item => key item = none
        let keys := orderBy id (items.filterMap key).dedup
        orderBy (sortKey lettering modelId) (noSegment.map (fun item => .model item.entry) ++ keys.map fun name =>
          let bucket := items.filter fun item => key item = some name
          bucketNode lettering name bucket (buildGroupsRecursive bucket left))

def catalogItem (extraPrefix : Entry → List String) (entry : Entry) : CatalogItem Entry :=
  ⟨extraPrefix entry ++ tokenizeModelId (modelId entry), entry⟩

def autoGroup (extraPrefix : Entry → List String) (entries : List Entry) : List (ModelNode Entry) :=
  buildGroupsRecursive lettering modelId (entries.map (catalogItem modelId extraPrefix)) 6

end Groups

/-! ## What should hold -/

section Forests
variable {Entry : Type}

mutual
def ModelNode.leaves : ModelNode Entry → List Entry
  | .model entry => [entry]
  | .group _ _ children => leaves children
def leaves : List (ModelNode Entry) → List Entry
  | [] => []
  | node :: forest => node.leaves ++ leaves forest
end

def groupName? : ModelNode Entry → Option String
  | .group name _ _ => some name
  | .model _ => none

inductive DistinctSiblings : List (ModelNode Entry) → Prop
  | intro {forest : List (ModelNode Entry)} (names : (forest.filterMap groupName?).Nodup)
      (inner : ∀ name displayName children, .group name displayName children ∈ forest → DistinctSiblings children) :
      DistinctSiblings forest

inductive SameNode : ModelNode Entry → ModelNode Entry → Prop
  | model (entry : Entry) : SameNode (.model entry) (.model entry)
  | group (name displayName : String) {children middle children' : List (ModelNode Entry)} (perm : children.Perm middle)
      (each : List.Forall₂ SameNode middle children') :
      SameNode (.group name displayName children) (.group name displayName children')

def SameForest (forest forest' : List (ModelNode Entry)) : Prop :=
  ∃ middle, forest.Perm middle ∧ List.Forall₂ SameNode middle forest'

end Forests

/-- What comes after a key, in the paths that begin with it. -/
def following (paths : List (List String)) (key : String) : List (List String) :=
  paths.filterMap fun path => match path with
    | [] => none
    | first :: rest => if first = key then some rest else none

def commonKey (paths : List (List String)) : Option String :=
  match paths with
  | (key :: _) :: _ => if paths.all (fun path => path.head? = some key) then some key else none
  | _ => none

/-- The keys that all paths share from their beginning on, up to a number of them. -/
def commonRun : Nat → List (List String) → List String
  | 0, _ => []
  | left + 1, paths =>
      match commonKey paths with
      | some key => key :: commonRun left (following paths key)
      | none => []

/-- How a key is read whose paths go on for at most `left` keys: with the keys that they share, if there are several paths. -/
def readAs (left : Nat) (key : String) (rest : List (List String)) : String :=
  if rest.length = 1 then key else "-".intercalate (key :: commonRun left rest)

/-- A key begins some path, and is no tag of a single one. -/
def MakesGroup (paths : List (List String)) (key : String) : Prop :=
  following paths key ≠ [] ∧ ¬ ((following paths key).length = 1 ∧ key.startsWith ":" = true)

/-- After any common beginning, different keys are read differently. -/
def ReadApart (paths : List (List String)) : Prop :=
  ∀ beginning : List String, beginning.length ≤ 5 →
    let after := beginning.foldl following paths
    ∀ key, MakesGroup after key → ∀ other, MakesGroup after other → key ≠ other →
      readAs (5 - beginning.length) key (following after key) ≠ readAs (5 - beginning.length) other (following after other)

def keyPath {Entry : Type} (lettering : Lettering) (modelId : Entry → String) (extraPrefix : Entry → List String)
    (entry : Entry) : List String :=
  (extraPrefix entry ++ tokenizeModelId (modelId entry)).map lettering.lowercase

end MacMgmt.Server
