import MacMgmt.Agent.FileTunnels

/-!
# What a tunnel lists and what it lets read

A listing of a directory takes the names of its entries and their kinds without following links; a read resolves the whole
path first and looks at the file it ends at. A listing of a file is not filtered at all.
-/

namespace MacMgmt.Proof.Agent
open MacMgmt.Agent Lib

section Tunnel
variable (glob : Glob) (tree : FileTree) (tunnel : FileTunnel)

def entryPath (dir : Option String) (name : String) : Option String :=
  match dir with
  | none => some name
  | some dir => some (dir ++ "/" ++ name)

def resolvedNode (path : Option String) : Option Node :=
  match resolvePath tree tunnel path with
  | .ok canonical => tree.node canonical
  | .error _ => none

/-- The listing of a directory shows its entries, the listing of a file shows the file: under the path that was asked
for, and under its name when none was. -/
inductive Shown : Option String → Prop
  | entry {dir : Option String} {node : Node} {entries : List ListEntry} {entry : ListEntry}
      (directory : resolvedNode tree tunnel dir = some node) (isDir : node.isDir = true)
      (listed : handleList glob tree tunnel dir = .ok entries) (member : entry ∈ entries) (file : entry.kind = .file) :
      Shown (entryPath dir entry.name)
  | file {path : Option String} {node : Node} {entries : List ListEntry}
      (resolved : resolvedNode tree tunnel path = some node) (isFile : node.isFile = true)
      (listed : handleList glob tree tunnel path = .ok entries) : Shown path
  | name {node : Node} {entries : List ListEntry} {entry : ListEntry}
      (resolved : resolvedNode tree tunnel none = some node) (isFile : node.isFile = true)
      (listed : handleList glob tree tunnel none = .ok entries) (member : entry ∈ entries) : Shown (some entry.name)

def ReadSucceeds (path : Option String) : Prop := ∃ answer, readFile glob tree tunnel path = .ok answer

structure ListsWhatItReads (path : Option String) : Prop where
  /-- A path that ends at a file ends at a readable one whose name passes the filter. -/
  file : ∀ canonical node, resolvePath tree tunnel path = .ok canonical → tree.node canonical = some node →
    node.isFile = true → node.readable = true ∧ matchesInclude glob tunnel (fileName canonical) = true
  /-- An entry of a directory that is none itself, and passes the filter, is a file below the root when its path is
  resolved: no link to somewhere else, no special file, no name that the resolution of paths takes apart. -/
  entry : ∀ dir canonical node name inner, resolvePath tree tunnel dir = .ok canonical →
    tree.node canonical = some node → node.isDir = true → node.readable = true →
    (name, inner) ∈ tree.readDir canonical → inner.isDir = false → matchesInclude glob tunnel name = true →
    entryPath dir name = path → ∃ found, resolvedNode tree tunnel path = some found ∧ found.isFile = true
  /-- A root that is a file is found under its name. -/
  name : ∀ canonical node, resolvePath tree tunnel none = .ok canonical → tree.node canonical = some node →
    node.isFile = true → path = some (fileName canonical) →
    ∃ found, resolvedNode tree tunnel path = some found ∧ found.isFile = true

variable {glob tree tunnel}

theorem resolvedNode_eq_some_iff {path : Option String} {node : Node} :
    resolvedNode tree tunnel path = some node ↔
      ∃ canonical, resolvePath tree tunnel path = .ok canonical ∧ tree.node canonical = some node := by
  unfold resolvedNode
  cases resolvePath tree tunnel path with
  | error error => simp
  | ok canonical => simp

theorem readSucceeds_iff {path : Option String} :
    ReadSucceeds glob tree tunnel path ↔
      ∃ canonical node, resolvePath tree tunnel path = .ok canonical ∧ tree.node canonical = some node ∧
        node.isFile = true ∧ node.readable = true ∧ matchesInclude glob tunnel (fileName canonical) = true := by
  unfold ReadSucceeds readFile
  cases resolvePath tree tunnel path with
  | error error => simp
  | ok canonical =>
      cases admitted : matchesInclude glob tunnel (fileName canonical) with
      | false => simp [admitted]
      | true =>
          cases found : tree.node canonical with
          | none => simp [admitted, found]
          | some node =>
              obtain ⟨content, readable, mtime, length⟩ := node
              cases content <;> cases readable <;> simp [admitted, found, Node.isFile]

theorem handleList_file {path : Option String} {canonical : FilePath} {node : Node}
    (resolved : resolvePath tree tunnel path = .ok canonical) (found : tree.node canonical = some node)
    (isFile : node.isFile = true) :
    handleList glob tree tunnel path = .ok [⟨fileName canonical, .file, node.len, node.mtime.getD 0⟩] := by
  simp only [handleList, resolved, found, isFile, if_true]

theorem handleList_directory {path : Option String} {canonical : FilePath} {node : Node}
    (resolved : resolvePath tree tunnel path = .ok canonical) (found : tree.node canonical = some node)
    (isDir : node.isDir = true) :
    handleList glob tree tunnel path =
      if node.readable then
        .ok ((tree.readDir canonical).filterMap fun entry => listEntry glob tunnel entry.1 entry.2)
      else .error (500, "") := by
  have notFile : node.isFile = false := by
    obtain ⟨content, readable, mtime, length⟩ := node
    cases content <;> first | rfl | cases isDir
  simp only [handleList, resolved, found, notFile, isDir]
  cases node.readable <;> rfl

theorem listEntry_file_iff {name : String} {node : Node} {entry : ListEntry} :
    listEntry glob tunnel name node = some entry ∧ entry.kind = .file ↔
      node.isDir = false ∧ matchesInclude glob tunnel name = true ∧
        entry = ⟨name, .file, node.len, node.mtime.getD 0⟩ := by
  unfold listEntry
  cases node.isDir with
  | true => aesop
  | false => cases matchesInclude glob tunnel name <;> aesop

theorem shown_of_readSucceeds {path : Option String} (succeeds : ReadSucceeds glob tree tunnel path) :
    Shown glob tree tunnel path := by
  obtain ⟨canonical, node, resolved, found, isFile, -, -⟩ := readSucceeds_iff.mp succeeds
  exact .file (resolvedNode_eq_some_iff.mpr ⟨canonical, resolved, found⟩) isFile (handleList_file resolved found isFile)

theorem isFile_of_readSucceeds {path : Option String} (succeeds : ReadSucceeds glob tree tunnel path) :
    ∃ found, resolvedNode tree tunnel path = some found ∧ found.isFile = true := by
  obtain ⟨canonical, node, resolved, found, isFile, -, -⟩ := readSucceeds_iff.mp succeeds
  exact ⟨node, resolvedNode_eq_some_iff.mpr ⟨canonical, resolved, found⟩, isFile⟩

theorem readSucceeds_of_isFile {path : Option String} (lists : ListsWhatItReads glob tree tunnel path)
    (isFile : ∃ found, resolvedNode tree tunnel path = some found ∧ found.isFile = true) :
    ReadSucceeds glob tree tunnel path := by
  obtain ⟨node, resolvedTo, isFile⟩ := isFile
  obtain ⟨canonical, resolved, found⟩ := resolvedNode_eq_some_iff.mp resolvedTo
  obtain ⟨readable, admitted⟩ := lists.file canonical node resolved found isFile
  exact readSucceeds_iff.mpr ⟨canonical, node, resolved, found, isFile, readable, admitted⟩

theorem readSucceeds_of_shown {path : Option String} (lists : ListsWhatItReads glob tree tunnel path)
    (shown : Shown glob tree tunnel path) : ReadSucceeds glob tree tunnel path := by
  refine readSucceeds_of_isFile lists ?_
  cases shown with
  | @entry dir node entries entry directory isDir listed member file =>
      obtain ⟨canonical, resolved, found⟩ := resolvedNode_eq_some_iff.mp directory
      rw [handleList_directory resolved found isDir] at listed
      split at listed
      next readable =>
        cases listed
        obtain ⟨⟨name, inner⟩, inside, made⟩ := List.mem_filterMap.mp member
        obtain ⟨notDir, admitted, rfl⟩ := listEntry_file_iff.mp ⟨made, file⟩
        exact lists.entry dir canonical node name inner resolved found isDir readable inside notDir admitted rfl
      next => cases listed
  | file resolved isFile listed => exact ⟨_, resolved, isFile⟩
  | @name node entries entry resolvedTo isFile listed member =>
      obtain ⟨canonical, resolved, found⟩ := resolvedNode_eq_some_iff.mp resolvedTo
      rw [handleList_file resolved found isFile] at listed
      cases listed
      obtain rfl := List.mem_singleton.mp member
      exact lists.name canonical node resolved found isFile rfl

theorem shown_entry {dir : Option String} {canonical : FilePath} {node inner : Node} {name : String}
    (resolved : resolvePath tree tunnel dir = .ok canonical) (found : tree.node canonical = some node)
    (isDir : node.isDir = true) (readable : node.readable = true) (member : (name, inner) ∈ tree.readDir canonical)
    (notDir : inner.isDir = false) (admitted : matchesInclude glob tunnel name = true) :
    Shown glob tree tunnel (entryPath dir name) := by
  have listed : handleList glob tree tunnel dir =
      .ok ((tree.readDir canonical).filterMap fun entry => listEntry glob tunnel entry.1 entry.2) := by
    rw [handleList_directory resolved found isDir, if_pos readable]
  obtain ⟨made, file⟩ := listEntry_file_iff.mpr (And.intro notDir (And.intro admitted rfl))
  exact .entry (resolvedNode_eq_some_iff.mpr ⟨canonical, resolved, found⟩) isDir listed
    (List.mem_filterMap.mpr ⟨(name, inner), member, made⟩) file

theorem read_succeeds_iff_shown_iff (path : Option String) :
    (ReadSucceeds glob tree tunnel path ↔ Shown glob tree tunnel path) ↔ ListsWhatItReads glob tree tunnel path := by
  constructor
  · intro agree
    refine ⟨?_, ?_, ?_⟩
    · intro canonical node resolved found isFile
      have shown : Shown glob tree tunnel path :=
        .file (resolvedNode_eq_some_iff.mpr ⟨canonical, resolved, found⟩) isFile (handleList_file resolved found isFile)
      obtain ⟨other, inner, same, there, -, readable, admitted⟩ := readSucceeds_iff.mp (agree.mpr shown)
      rw [resolved] at same
      cases same
      rw [found] at there
      cases there
      exact ⟨readable, admitted⟩
    · rintro dir canonical node name inner resolved found isDir readable member notDir admitted rfl
      exact isFile_of_readSucceeds (agree.mpr (shown_entry resolved found isDir readable member notDir admitted))
    · rintro canonical node resolved found isFile rfl
      refine isFile_of_readSucceeds (agree.mpr ?_)
      exact .name (resolvedNode_eq_some_iff.mpr ⟨canonical, resolved, found⟩) isFile
        (handleList_file resolved found isFile) (List.mem_singleton.mpr rfl)
  · intro lists
    exact ⟨shown_of_readSucceeds, readSucceeds_of_shown lists⟩

end Tunnel

def plainNode (content : Content) : Node := ⟨content, true, some 0, 0⟩

/-- A directory `/r` with a file whose name has two dots in a row and a file that the filter leaves out. -/
def sampleTree : FileTree where
  nodes := ((((∅ : Table FilePath Node).insert [] (plainNode .directory)).insert ["r"] (plainNode .directory)).insert
    ["r", "a..b"] (plainNode (.file [1]))).insert ["r", "secret"] (plainNode (.file [2]))
  cwd := []
  linkLimit := 40

def literalGlob : Glob := ⟨fun pattern name => pattern = name, fun pattern path => pattern = path⟩

def filteredTunnel : FileTunnel := ⟨"/r", true, .folder [] (some ["a..b"]) []⟩

theorem shown_but_not_read :
    Shown literalGlob sampleTree filteredTunnel (some "a..b") ∧
    readFile literalGlob sampleTree filteredTunnel (some "a..b") = .error (400, "path traversal not allowed") ∧
    Shown literalGlob sampleTree filteredTunnel (some "secret") ∧
    readFile literalGlob sampleTree filteredTunnel (some "secret") = .error (403, "file not included in tunnel filter") ∧
    ¬ (ReadSucceeds literalGlob sampleTree filteredTunnel (some "a..b") ↔
      Shown literalGlob sampleTree filteredTunnel (some "a..b")) := by
  have dotted : Shown literalGlob sampleTree filteredTunnel (some "a..b") :=
    @shown_entry _ _ _ none ["r"] (plainNode .directory) (plainNode (.file [1])) "a..b"
      (by decide +kernel) (by decide +kernel) rfl rfl (by decide +kernel) rfl (by decide +kernel)
  have refused : readFile literalGlob sampleTree filteredTunnel (some "a..b") = .error (400, "path traversal not allowed") := by
    decide +kernel
  refine ⟨dotted, refused, ?_, by decide +kernel, ?_⟩
  · have resolved : resolvePath sampleTree filteredTunnel (some "secret") = .ok ["r", "secret"] := by decide +kernel
    have found : sampleTree.node ["r", "secret"] = some (plainNode (.file [2])) := by decide +kernel
    exact .file (resolvedNode_eq_some_iff.mpr ⟨_, resolved, found⟩) rfl (handleList_file resolved found rfl)
  · intro agree
    obtain ⟨answer, read⟩ := agree.mpr dotted
    rw [refused] at read
    cases read

end MacMgmt.Proof.Agent
