import MacMgmt.Proof.Agent.FileListing

/-!
# What a path inside a folder tunnel leads to

A path that is let through ends below the root. A name with two dots in a row is refused, and what starts with the text of the root
is cut, also where the text ends inside of a name.
-/

namespace MacMgmt.Proof.Agent
open MacMgmt.Agent Lib

section Folder
variable (tree : FileTree) (root : String) (writable : Bool) (allowWrite : List String) (include_ : Option (List String))
  (validators : List Validator)

def folderTunnel : FileTunnel := ⟨root, writable, .folder allowWrite include_ validators⟩

def joinRoot (rel : String) : String := if rel = "" then root else root ++ "/" ++ rel

def rootText : List Char := trimStartSlashes root.toList

def NamesFile (rel : String) (found : FilePath) : Prop :=
  tree.canonicalize (joinRoot root rel) = some found ∧ (∃ node, tree.node found = some node ∧ node.isFile = true) ∧
    ∃ top, tree.canonicalize root = some top ∧ top <+: found

def IsRelative (rel : String) : Prop := isAbsolute rel = false ∧ ".." ∉ pieces rel

structure ResolvesInside (path : Option String) (result : Except String FilePath) : Prop where
  inside : ∀ canonical, result = .ok canonical →
    ∃ target top, tree.canonicalize target = some canonical ∧ tree.canonicalize root = some top ∧ top <+: canonical
  finds : ∀ rel found, path = some rel → IsRelative rel → NamesFile tree root rel found → result = .ok found

/-- A path keeps its name: it has no two dots in a row and does not start with the text of the root, or what follows that text names
the same file. -/
def KeepsName (rel : String) (found : FilePath) : Prop :=
  (¬ rootText root <+: rel.toList ∧ ¬ "..".toList <:+: rel.toList) ∨
    ∃ rest, rel.toList = rootText root ++ rest ∧ ¬ "..".toList <:+: trimStartSlashes rest ∧
      NamesFile tree root (String.ofList (trimStartSlashes rest)) found

variable {tree root writable allowWrite include_ validators}

theorem trimStartSlashes_relative {rel : String} (relative : isAbsolute rel = false) : trimStartSlashes rel.toList = rel.toList := by
  unfold isAbsolute at relative
  unfold trimStartSlashes
  cases letters : rel.toList with
  | nil => rfl
  | cons c letters =>
      rw [letters, List.head?_cons] at relative
      rw [List.dropWhile_cons, if_neg (by simpa using relative)]

theorem relativePath_prefix {rel : String} {rest : List Char} (relative : isAbsolute rel = false) (starts : rel.toList = rootText root ++ rest) :
    relativePath (folderTunnel root writable allowWrite include_ validators) rel = String.ofList (trimStartSlashes rest) := by
  have dropped : rel.toList.dropPrefix? (rootText root) = some rest := List.dropPrefix?_eq_some_iff.mpr ⟨_, starts, by simp⟩
  unfold relativePath
  rw [trimStartSlashes_relative relative]
  dsimp only [folderTunnel]
  rw [← rootText, dropped]

theorem relativePath_other {rel : String} (relative : isAbsolute rel = false) (other : ¬ rootText root <+: rel.toList) :
    relativePath (folderTunnel root writable allowWrite include_ validators) rel = rel := by
  have kept : rel.toList.dropPrefix? (rootText root) = none := by
    rw [Option.eq_none_iff_forall_ne_some]
    intro rest dropped
    obtain ⟨start, split, same⟩ := List.dropPrefix?_eq_some_iff.mp dropped
    rw [eq_of_beq same] at split
    exact other ⟨rest, split.symm⟩
  unfold relativePath
  rw [trimStartSlashes_relative relative]
  dsimp only [folderTunnel]
  rw [← rootText, kept, String.ofList_toList]

theorem resolvePath_eq_ok_iff {path : Option String} {rel : String} {canonical : FilePath}
    (cut : (path.map (relativePath (folderTunnel root writable allowWrite include_ validators))).getD "" = rel) :
    resolvePath tree (folderTunnel root writable allowWrite include_ validators) path = .ok canonical ↔
      ¬ "..".toList <:+: rel.toList ∧ tree.canonicalize (joinRoot root rel) = some canonical ∧
        ∃ top, tree.canonicalize root = some top ∧ top <+: canonical := by
  have target : (folderTunnel root writable allowWrite include_ validators).target path =
      if "..".toList <:+: rel.toList then .error "path traversal not allowed" else .ok (joinRoot root rel) := by
    unfold FileTunnel.target joinRoot
    rw [cut]
    dsimp only [folderTunnel]
    by_cases empty : rel = ""
    · rw [if_pos empty, if_pos empty, if_neg (by rw [empty]; decide)]
    · rw [if_neg empty, if_neg empty]
  unfold resolvePath
  rw [target]
  by_cases dots : "..".toList <:+: rel.toList
  · rw [if_pos dots]
    exact ⟨nofun, fun given => absurd dots given.1⟩
  · rw [if_neg dots]
    dsimp only [folderTunnel]
    cases found : tree.canonicalize (joinRoot root rel) with
    | none => simp
    | some location =>
        cases known : tree.canonicalize root with
        | none => simp
        | some top =>
            by_cases below : top <+: location
            · have inside : top.isPrefixOf location = true := List.isPrefixOf_iff_prefix.mpr below
              simp only [inside, Bool.not_true, Bool.false_eq_true, if_false, Except.ok.injEq, Option.some.injEq]
              constructor
              · rintro rfl
                exact ⟨dots, rfl, top, rfl, below⟩
              · exact fun given => given.2.1
            · have outside : top.isPrefixOf location = false := by
                rw [Bool.eq_false_iff, ne_eq, List.isPrefixOf_iff_prefix]
                exact below
              simp only [outside, Bool.not_false, if_true, Option.some.injEq, reduceCtorEq, false_iff]
              rintro ⟨-, rfl, other, rfl, inside⟩
              exact below inside

theorem resolves_named_iff {rel : String} {found : FilePath} (relative : IsRelative rel) (named : NamesFile tree root rel found) :
    resolvePath tree (folderTunnel root writable allowWrite include_ validators) (some rel) = .ok found ↔ KeepsName tree root rel found := by
  obtain ⟨there, isFile, below⟩ := named
  by_cases starts : rootText root <+: rel.toList
  · obtain ⟨rest, split⟩ := starts
    have cut : relativePath (folderTunnel root writable allowWrite include_ validators) rel = String.ofList (trimStartSlashes rest) :=
      relativePath_prefix relative.1 split.symm
    rw [resolvePath_eq_ok_iff (show ((some rel).map (relativePath _)).getD "" = _ from cut), @String.toList_ofList (trimStartSlashes rest)]
    constructor
    · rintro ⟨noDots, names, -⟩
      exact .inr ⟨rest, split.symm, noDots, names, isFile, below⟩
    · rintro (⟨other, -⟩ | ⟨same, splits, noDots, names, -, -⟩)
      · exact absurd ⟨rest, split⟩ other
      · have one : same = rest := List.append_cancel_left (splits.symm.trans split.symm)
        subst one
        exact ⟨noDots, names, below⟩
  · have cut : relativePath (folderTunnel root writable allowWrite include_ validators) rel = rel := relativePath_other relative.1 starts
    rw [resolvePath_eq_ok_iff (show ((some rel).map (relativePath _)).getD "" = rel from cut)]
    constructor
    · exact fun given => .inl ⟨starts, given.1⟩
    · rintro (⟨-, noDots⟩ | ⟨rest, split, -⟩)
      · exact ⟨noDots, there, below⟩
      · exact absurd ⟨rest, split.symm⟩ starts

theorem resolves_inside_iff (tree : FileTree) (root : String) (writable : Bool) (allowWrite : List String)
    (include_ : Option (List String)) (validators : List Validator) (path : Option String) :
    ResolvesInside tree root path (resolvePath tree (folderTunnel root writable allowWrite include_ validators) path) ↔
      ∀ rel found, path = some rel → IsRelative rel → NamesFile tree root rel found → KeepsName tree root rel found := by
  constructor
  · rintro resolves rel found rfl relative named
    exact (resolves_named_iff relative named).mp (resolves.finds rel found rfl relative named)
  · intro keeps
    constructor
    · intro canonical resolved
      obtain ⟨-, there, top, known, below⟩ := (resolvePath_eq_ok_iff rfl).mp resolved
      exact ⟨_, top, there, known, below⟩
    · rintro rel found rfl relative named
      exact (resolves_named_iff relative named).mpr (keeps rel found rfl relative named)

end Folder

def datasetTree : FileTree where
  nodes := ((((∅ : Table FilePath Node).insert [] (plainNode .directory)).insert ["data"] (plainNode .directory)).insert
    ["data", "dataset"] (plainNode (.file [1]))).insert ["data", "set"] (plainNode (.file [2]))
  cwd := []
  linkLimit := 40

/-- The file `dataset` of the root `/data` is resolved to the file `set`. -/
theorem other_file_resolved :
    resolvePath datasetTree (folderTunnel "/data" true [] none []) (some "dataset") = .ok ["data", "set"] ∧
      ¬ ResolvesInside datasetTree "/data" (some "dataset")
        (resolvePath datasetTree (folderTunnel "/data" true [] none []) (some "dataset")) := by
  have other : resolvePath datasetTree (folderTunnel "/data" true [] none []) (some "dataset") = .ok ["data", "set"] := by
    decide +kernel
  refine ⟨other, fun resolves => ?_⟩
  have named : NamesFile datasetTree "/data" "dataset" ["data", "dataset"] :=
    ⟨by decide +kernel, ⟨plainNode (.file [1]), by decide +kernel, rfl⟩, ["data"], by decide +kernel, by decide⟩
  have right := resolves.finds "dataset" _ rfl ⟨by decide, by decide⟩ named
  rw [other] at right
  revert right
  decide

end MacMgmt.Proof.Agent
