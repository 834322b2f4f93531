import MacMgmt.Lib.FileTree

/-!
# Links in a tree of files

What a path resolves to when nodes are added, when two ways are joined and when a link is put at the end of one. A way
that resolves without some node does not go through it, so it resolves alike whatever stands there.
-/

namespace Lib

def absoluteText (path : FilePath) : String := String.ofList ('/' :: List.intercalate ['/'] (path.map String.toList))

/-- `rest` as seen from `base`, as `Path::join` writes it. -/
def joinPath (base rest : String) : String :=
  if isAbsolute rest || base = "" then rest
  else if base.toList.getLast? = some '/' then base ++ rest
  else base ++ "/" ++ rest

/-- The names up to the last one, and the last one where it names a node of its own. -/
def splitLast (text : String) : Option (List String × String) :=
  match (pieces text).getLast? with
  | none => none
  | some name => if name = "" ∨ name = "." ∨ name = ".." then none else some ((pieces text).dropLast, name)

theorem pieces_of_splitLast {text name : String} {way : List String} (split : splitLast text = some (way, name)) :
    pieces text = way ++ [name] ∧ name ≠ "" ∧ name ≠ "." ∧ name ≠ ".." := by
  unfold splitLast at split
  split at split
  · cases split
  · rename_i last found
    split at split
    · cases split
    · rename_i plain
      cases split
      obtain ⟨names, same⟩ := List.getLast?_eq_some_iff.mp found
      rw [same, List.dropLast_concat]
      exact ⟨rfl, not_or.mp plain |>.1, not_or.mp (not_or.mp plain).2⟩

def Content.isLeaf : Content → Bool
  | .file _ | .special => true
  | .directory | .symlink _ => false

namespace FileTree

def contentAt (tree : FileTree) (path : FilePath) : Option Content := (tree.node path).map Node.content

def isDirectory (tree : FileTree) (path : FilePath) : Bool := path = [] || tree.contentAt path = some .directory

def erase (tree : FileTree) (path : FilePath) : FileTree := { tree with nodes := tree.nodes.erase path }

/-- What a path names from the top or from the working directory. -/
def startOf (tree : FileTree) (text : String) : FilePath := if isAbsolute text then [] else tree.cwd

/-- The directory and the name in it that a path leads to; a link there is not followed. -/
def place (tree : FileTree) (text : String) : Option (FilePath × String) := do
  let (way, name) ← splitLast text
  let directory ← tree.resolve tree.linkLimit (tree.startOf text) way
  if tree.isDirectory directory then some (directory, name) else none

def makeDir (tree : FileTree) (path : FilePath) : FileTree := tree.set path ⟨.directory, true, none, 0⟩

def createDirAll (tree : FileTree) (start : FilePath) : List String → List String → Option FileTree
  | _, [] => some tree
  | way, name :: rest =>
      match tree.resolve tree.linkLimit start (way ++ [name]), tree.resolve tree.linkLimit start way with
      | some _, _ => tree.createDirAll start (way ++ [name]) rest
      | none, none => none
      | none, some directory =>
          if (tree.node (directory ++ [name])).isSome || !tree.isDirectory directory then none
          else (tree.makeDir (directory ++ [name])).createDirAll start (way ++ [name]) rest

/-- Put a link in place of whatever is there, a directory apart. -/
def replaceLink (tree : FileTree) (path : FilePath) (target : String) : FileTree :=
  tree.set path ⟨.symlink target, true, none, target.length⟩

def sameContents (first second : FileTree) : Bool :=
  (first.nodes.keys ++ second.nodes.keys).all fun path => first.contentAt path = second.contentAt path

/-! ## More nodes -/

def Extends (lower upper : FileTree) : Prop :=
  ∀ path content, lower.contentAt path = some content → upper.contentAt path = some content

variable {lower upper tree : FileTree}

theorem contentAt_eq_none {path : FilePath} (missing : path ∉ tree.nodes.keys) : tree.contentAt path = none := by
  rw [contentAt, node, AList.lookup_eq_none.mpr missing, Option.map_none]

theorem contentAt_eq_of_sameContents (same : lower.sameContents upper = true) (path : FilePath) :
    lower.contentAt path = upper.contentAt path := by
  by_cases known : path ∈ lower.nodes.keys ++ upper.nodes.keys
  · exact of_decide_eq_true (List.all_eq_true.mp same path known)
  · obtain ⟨first, second⟩ := not_or.mp (mt List.mem_append.mpr known)
    rw [contentAt_eq_none first, contentAt_eq_none second]

theorem contentAt_replaceLink (path other : FilePath) (target : String) :
    (tree.replaceLink path target).contentAt other = if other = path then some (.symlink target) else tree.contentAt other := by
  unfold contentAt node replaceLink set
  rw [Table.lookup_insert_ite]
  split <;> rfl

theorem erase_extends_replaceLink (path : FilePath) (target : String) :
    Extends (tree.erase path) (tree.replaceLink path target) := by
  intro other content found
  rw [contentAt_replaceLink]
  unfold contentAt node erase at found
  rw [Table.lookup_erase_ite] at found
  split at found
  · cases found
  · rename_i different
    rw [if_neg different]
    exact found

/-- Files may hold other bytes, and more nodes may stand where none did. -/
def Covers (lower upper : FileTree) : Prop :=
  ∀ path content, lower.contentAt path = some content →
    upper.contentAt path = some content ∨ content.isLeaf = true ∧ ∃ leaf, upper.contentAt path = some leaf ∧ leaf.isLeaf = true

theorem Extends.covers (more : Extends lower upper) : Covers lower upper := fun path content found => .inl (more path content found)

theorem walk_covers {follow follow' : FilePath → List String → Option FilePath} (more : Covers lower upper)
    (follows : ∀ start names found, follow start names = some found → follow' start names = some found)
    {names : List String} {done found : FilePath} (walked : lower.walk follow done names = some found) :
    upper.walk follow' done names = some found := by
  induction names generalizing done with
  | nil => exact walked
  | cons name rest ih =>
      unfold walk at walked ⊢
      split at walked
      · rename_i stay
        rw [if_pos stay]
        exact ih walked
      · rename_i moves
        rw [if_neg moves]
        split at walked
        · rename_i up
          rw [if_pos up]
          exact ih walked
        · rename_i down
          rw [if_neg down]
          cases content : (lower.node (done ++ [name])).map Node.content with
          | none => simp only [content] at walked; cases walked
          | some content' =>
              simp only [content] at walked
              obtain kept | ⟨isLeaf, leaf, other, otherLeaf⟩ := more _ _ content
              · have kept : (upper.node (done ++ [name])).map Node.content = some content' := kept
                simp only [kept]
                cases content' with
                | directory => exact ih walked
                | symlink target => exact follows _ _ _ walked
                | file bytes => exact walked
                | special => exact walked
              · have other : (upper.node (done ++ [name])).map Node.content = some leaf := other
                simp only [other]
                -- a way ends at a leaf whatever the leaf is
                cases content' <;> cases isLeaf <;> cases leaf <;> cases otherLeaf <;> exact walked

theorem resolve_covers (more : Covers lower upper) {links enough : Nat} (bound : links ≤ enough) {names : List String}
    {start found : FilePath} (resolved : lower.resolve links start names = some found) :
    upper.resolve enough start names = some found := by
  induction links generalizing enough start names found with
  | zero =>
      cases enough with
      | zero => exact walk_covers more (fun _ _ _ never => by cases never) resolved
      | succ enough => exact walk_covers more (fun _ _ _ never => by cases never) resolved
  | succ links ih =>
      cases enough with
      | zero => cases bound
      | succ enough => exact walk_covers more (fun _ _ _ there => ih (Nat.le_of_succ_le_succ bound) there) resolved

theorem canonicalize_covers (more : Covers lower upper) (cwd : upper.cwd = lower.cwd) (limit : lower.linkLimit ≤ upper.linkLimit)
    {text : String} {found : FilePath} (resolved : lower.canonicalize text = some found) : upper.canonicalize text = some found := by
  unfold canonicalize at resolved ⊢
  split at resolved
  · cases resolved
  · rename_i given
    rw [if_neg given, cwd]
    exact resolve_covers more limit resolved

theorem resolve_extends (more : Extends lower upper) {links enough : Nat} (bound : links ≤ enough) {names : List String}
    {start found : FilePath} (resolved : lower.resolve links start names = some found) :
    upper.resolve enough start names = some found := resolve_covers more.covers bound resolved

/-! ## Joined ways -/

theorem walk_append {follow follow' : FilePath → List String → Option FilePath} {way names : List String}
    {done directory found : FilePath} (isDirectory : tree.isDirectory directory = true)
    (follows : ∀ start way, follow start way = some directory → follow' start (way ++ names) = some found)
    (onward : tree.walk follow' directory names = some found)
    (walked : tree.walk follow done way = some directory) : tree.walk follow' done (way ++ names) = some found := by
  induction way generalizing done with
  | nil =>
      cases walked
      exact onward
  | cons name rest ih =>
      rw [List.cons_append]
      unfold walk at walked ⊢
      split at walked
      · rename_i stay
        rw [if_pos stay]
        exact ih walked
      · rename_i moves
        rw [if_neg moves]
        split at walked
        · rename_i up
          rw [if_pos up]
          exact ih walked
        · rename_i down
          rw [if_neg down]
          -- a way that ends at a file does not end at a directory
          have ends {content : Content} (there : tree.contentAt (done ++ [name]) = some content)
              (last : (if rest = [] then some (done ++ [name]) else none) = some directory)
              (other : content ≠ .directory) : False := by
            split at last
            · cases last
              simp [FileTree.isDirectory, there, other] at isDirectory
            · cases last
          cases content : (tree.node (done ++ [name])).map Node.content with
          | none => simp only [content] at walked; cases walked
          | some content' =>
              simp only [content] at walked ⊢
              cases content' with
              | directory => exact ih walked
              | symlink target =>
                  have onward := follows _ _ walked
                  rw [List.append_assoc] at onward
                  exact onward
              | file bytes => exact (ends content walked nofun).elim
              | special => exact (ends content walked nofun).elim

theorem resolve_append {way names : List String} {links more : Nat} {start directory found : FilePath}
    (isDirectory : tree.isDirectory directory = true) (first : tree.resolve links start way = some directory)
    (second : tree.resolve more directory names = some found) :
    tree.resolve (links + more) start (way ++ names) = some found := by
  have kept : Extends tree tree := fun _ _ found => found
  induction links generalizing start way with
  | zero =>
      rw [Nat.zero_add]
      cases more with
      | zero => exact walk_append isDirectory (fun _ _ never => by cases never) second first
      | succ more => exact walk_append isDirectory (fun _ _ never => by cases never) second first
  | succ links ih =>
      have wide := resolve_extends kept (Nat.le_add_left more (links + 1)) second
      rw [Nat.add_right_comm] at wide ⊢
      exact walk_append isDirectory (fun _ _ => ih) wide first

/-! ## A link at the end of a way -/

theorem resolve_link {directory found : FilePath} {name target : String} {links : Nat}
    (plain : name ≠ "" ∧ name ≠ "." ∧ name ≠ "..") (absolute : isAbsolute target = true)
    (there : tree.contentAt (directory ++ [name]) = some (.symlink target))
    (resolved : tree.resolve links [] (pieces target) = some found) :
    tree.resolve (links + 1) directory [name] = some found := by
  obtain ⟨named, notHere, notUp⟩ := plain
  have read : (tree.node (directory ++ [name])).map Node.content = some (.symlink target) := there
  rw [resolve, walk, if_neg (by simp [named, notHere]), if_neg notUp]
  simp only [read, absolute, if_true, List.append_nil, resolved]

theorem canonicalize_link {text target name : String} {way : List String} {directory found : FilePath} {links more : Nat}
    (split : splitLast text = some (way, name)) (absolute : isAbsolute target = true)
    (isDirectory : upper.isDirectory directory = true) (kept : Extends lower upper)
    (there : upper.contentAt (directory ++ [name]) = some (.symlink target))
    (leads : lower.resolve links (upper.startOf text) way = some directory)
    (reaches : lower.resolve more [] (pieces target) = some found) (bound : links + more < upper.linkLimit) :
    upper.canonicalize text = some found := by
  obtain ⟨same, plain⟩ := pieces_of_splitLast split
  have given : text ≠ "" := by
    rintro rfl
    have shape : [""] = way ++ [name] := same
    have single := List.append_eq_singleton_iff.mp shape.symm
    obtain ⟨-, one⟩ | ⟨-, none⟩ := single
    · exact plain.1 (List.cons.inj one).1
    · cases none
  have self {tree : FileTree} : Extends tree tree := fun _ _ found => found
  have last := resolve_link plain absolute there (resolve_extends kept le_rfl reaches)
  have whole := resolve_append isDirectory (resolve_extends kept le_rfl leads) last
  rw [canonicalize, if_neg given, same]
  exact resolve_extends self bound whole

end FileTree
end Lib
