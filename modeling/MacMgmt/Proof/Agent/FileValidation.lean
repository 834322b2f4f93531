import MacMgmt.Agent.FileTunnels

/-!
# Which validator a write runs

`find_validator` strips the root of the tunnel as it is configured from a path that has been canonicalized. The two only
belong together when the configured root is its own canonical path.
-/

namespace MacMgmt.Proof.Agent
open MacMgmt.Agent Lib

section Write
variable {glob : Glob} {validate : Validator → List UInt8 → Except String Unit} {tree : FileTree} {disk : Disk} {now : Nat}
  {tunnel : FileTunnel} {relPath : Option String} {expectedMtime : Option Int} {content : List UInt8}

theorem writeTarget_ok {path : FilePath} (checked : writeTarget glob tree tunnel relPath content expectedMtime = .ok path) :
    resolvePath tree tunnel relPath = .ok path := by
  unfold writeTarget at checked
  split at checked
  · cases checked
  cases resolved : resolvePath tree tunnel relPath with
  | error error =>
      rw [resolved] at checked
      cases checked
  | ok other =>
      rw [resolved] at checked
      dsimp only at checked
      repeat' split at checked
      all_goals cases checked
      all_goals rfl

theorem writeFile_ok {mtime : Nat}
    (succeeded : (writeFile glob validate tree disk now tunnel relPath content expectedMtime).result = .ok mtime) :
    ∃ path, resolvePath tree tunnel relPath = .ok path ∧
      (writeFile glob validate tree disk now tunnel relPath content expectedMtime).checked =
        (findValidator glob tunnel path).toList ∧
      ∀ validator, findValidator glob tunnel path = some validator → validate validator content = .ok () := by
  unfold writeFile at succeeded ⊢
  cases target : writeTarget glob tree tunnel relPath content expectedMtime with
  | error refusal =>
      rw [target] at succeeded
      cases succeeded
  | ok path =>
      refine ⟨path, writeTarget_ok target, ?_⟩
      rw [target] at succeeded
      dsimp only at succeeded ⊢
      split at succeeded
      · cases succeeded
      split at succeeded
      · cases succeeded
      split at succeeded
      · cases succeeded
      split at succeeded
      · cases succeeded
      rename_i temp written backup renamed
      rw [if_neg temp, if_neg written, if_neg backup, if_neg renamed]
      cases found : findValidator glob tunnel path with
      | none => exact ⟨rfl, nofun⟩
      | some validator =>
          rw [found] at succeeded
          dsimp only at succeeded ⊢
          cases verdict : validate validator content with
          | error message =>
              rw [verdict] at succeeded
              cases succeeded
          | ok accepted =>
              refine ⟨rfl, ?_⟩
              rintro other ⟨⟩
              exact verdict

end Write

/-! ## Both ways to write -/

def uploaded : Upload → Option (List UInt8)
  | .message content => some content
  | .session reads =>
      match receiveContent [] reads with
      | .content content => some content
      | .tooLarge | .gone | .waiting => none

section Upload
variable (glob : Glob) (validate : Validator → List UInt8 → Except String Unit) (tree : FileTree) (tunnel : FileTunnel)
  (relPath : Option String)

/-- Every validator whose pattern matches the path of the file below the root has accepted the content. -/
def ValidatedWrite (upload : Upload) (outcome : WriteOutcome) : Prop :=
  ∀ content path root, uploaded upload = some content → resolvePath tree tunnel relPath = .ok path →
    tree.canonicalize tunnel.path = some root →
    ∀ validator ∈ tunnel.validators, validator.matches glob (textOf (path.drop root.length)) = true →
      validator ∈ outcome.checked ∧ validate validator content = .ok ()

/-- The first match for the path that is left when the root is stripped as it is spelled is every match for the path below
the root. -/
def SelectsEveryMatch : Prop :=
  ∀ path root, resolvePath tree tunnel relPath = .ok path → tree.canonicalize tunnel.path = some root →
    ∀ validator ∈ tunnel.validators, validator.matches glob (textOf (path.drop root.length)) = true →
      findMatching glob tunnel.validators (relativeTo tunnel.path path) = some validator

variable {glob validate tree tunnel relPath} {disk : Disk} {now : Nat} {expectedMtime : Option Int}

theorem handleUpload_ok {upload : Upload} {outcome : WriteOutcome} {mtime : Nat}
    (handled : handleUpload glob validate tree disk now tunnel relPath expectedMtime upload = some outcome)
    (succeeded : outcome.result = .ok mtime) :
    ∃ content, uploaded upload = some content ∧
      outcome = writeFile glob validate tree disk now tunnel relPath content expectedMtime := by
  cases upload with
  | message content =>
      cases handled
      exact ⟨content, rfl, rfl⟩
  | session reads =>
      cases received : receiveContent [] reads with
      | content content =>
          simp only [handleUpload, received, Option.some.injEq] at handled
          exact ⟨content, by rw [uploaded, received], handled.symm⟩
      | tooLarge =>
          simp only [handleUpload, received, Option.some.injEq] at handled
          rw [← handled] at succeeded
          cases succeeded
      | gone =>
          simp only [handleUpload, received] at handled
          cases handled
      | waiting =>
          simp only [handleUpload, received] at handled
          cases handled

theorem write_validated_iff (upload : Upload) (outcome : WriteOutcome) (mtime : Nat)
    (handled : handleUpload glob validate tree disk now tunnel relPath expectedMtime upload = some outcome)
    (succeeded : outcome.result = .ok mtime) :
    ValidatedWrite glob validate tree tunnel relPath upload outcome ↔ SelectsEveryMatch glob tree tunnel relPath := by
  obtain ⟨content, sent, rfl⟩ := handleUpload_ok handled succeeded
  obtain ⟨path, resolved, checked, accepted⟩ := writeFile_ok succeeded
  constructor
  · intro validated other root resolvedTo canonical validator member matched
    rw [resolved] at resolvedTo
    cases resolvedTo
    have ran := (validated content path root sent resolved canonical validator member matched).1
    rw [checked, Option.mem_toList] at ran
    exact ran
  · intro selects other otherPath root sentTo resolvedTo canonical validator member matched
    rw [sent] at sentTo
    cases sentTo
    rw [resolved] at resolvedTo
    cases resolvedTo
    have found := selects path root resolved canonical validator member matched
    rw [checked, Option.mem_toList]
    exact ⟨found, accepted validator found⟩

theorem relativeTo_of_canonical {root path : FilePath} {spelled : String} (absolute : isAbsolute spelled = true)
    (same : pathComponents spelled = root) (inside : root <+: path) :
    relativeTo spelled path = textOf (path.drop root.length) := by
  obtain ⟨rest, rfl⟩ := inside
  unfold relativeTo
  rw [if_pos absolute, same, List.drop_left, List.dropPrefix?_append_of_beq rest (BEq.refl root)]

theorem resolvePath_inside {path root : FilePath} (resolved : resolvePath tree tunnel relPath = .ok path)
    (canonical : tree.canonicalize tunnel.path = some root) : root <+: path := by
  unfold resolvePath at resolved
  split at resolved
  · cases resolved
  split at resolved
  · cases resolved
  rw [canonical] at resolved
  dsimp only at resolved
  split at resolved
  · split at resolved
    next => cases resolved
    next same =>
      cases resolved
      rw [not_not.mp same]
  · split at resolved
    next => cases resolved
    next inside =>
      cases resolved
      exact List.isPrefixOf_iff_prefix.mp (by simpa using inside)

theorem selectsEveryMatch_of_canonical (absolute : isAbsolute tunnel.path = true)
    (same : tree.canonicalize tunnel.path = some (pathComponents tunnel.path))
    (single : ∀ path, ∀ validator ∈ tunnel.validators, ∀ other ∈ tunnel.validators,
      validator.matches glob path = true → other.matches glob path = true → validator = other) :
    SelectsEveryMatch glob tree tunnel relPath := by
  intro path root resolved canonical validator member matched
  rw [same] at canonical
  cases canonical
  rw [relativeTo_of_canonical absolute rfl (resolvePath_inside resolved same)]
  cases found : findMatching glob tunnel.validators (textOf (path.drop (pathComponents tunnel.path).length)) with
  | none => exact absurd matched (by simpa using List.find?_eq_none.mp found validator member)
  | some other =>
      rw [findMatching] at found
      have otherMatched := List.find?_some found
      rw [single _ other (List.mem_of_find?_eq_some found) validator member otherMatched matched]

end Upload

/-! ## A root behind a link -/

def linkedTree : FileTree where
  nodes := ((((∅ : Table FilePath Node).insert [] ⟨.directory, true, some 0, 0⟩).insert ["r"]
    ⟨.directory, true, some 0, 0⟩).insert ["r", "a.json"] ⟨.file [], true, some 0, 0⟩).insert ["link"]
    ⟨.symlink "/r", true, some 0, 2⟩
  cwd := []
  linkLimit := 40

def exactGlob : Glob := ⟨fun pattern name => pattern = name, fun pattern path => pattern = path⟩

def configTunnel (root : String) : FileTunnel := ⟨root, true, .folder [] none [⟨"a.json", .json, none⟩]⟩

def workingDisk : Disk := ⟨true, true, true, true, true⟩

def acceptsOne (_ : Validator) (content : List UInt8) : Except String Unit :=
  if content = [0x31] then .ok () else .error "expected value"

theorem write_validated_below_plain_root :
    ValidatedWrite exactGlob acceptsOne linkedTree (configTunnel "/r") (some "a.json") (.message [0x31])
      (writeFile exactGlob acceptsOne linkedTree workingDisk 7 (configTunnel "/r") (some "a.json") [0x31] none) := by
  refine (write_validated_iff (.message [0x31]) _ 7 rfl (by decide +kernel)).mpr ?_
  refine selectsEveryMatch_of_canonical (by decide +kernel) (by decide +kernel) ?_
  intro path validator member other otherMember _ _
  rw [List.mem_singleton.mp member, List.mem_singleton.mp otherMember]

theorem write_unvalidated_below_linked_root :
    (writeFile exactGlob acceptsOne linkedTree workingDisk 7 (configTunnel "/link") (some "a.json") [0x7b] none).result =
      .ok 7 ∧
    ¬ ValidatedWrite exactGlob acceptsOne linkedTree (configTunnel "/link") (some "a.json") (.message [0x7b])
      (writeFile exactGlob acceptsOne linkedTree workingDisk 7 (configTunnel "/link") (some "a.json") [0x7b] none) := by
  refine ⟨by decide +kernel, fun validated => ?_⟩
  have accepted := (validated [0x7b] ["r", "a.json"] ["r"] rfl (by decide +kernel) (by decide +kernel)
    ⟨"a.json", .json, none⟩ (List.mem_singleton.mpr rfl) (by decide +kernel)).2
  cases accepted

end MacMgmt.Proof.Agent
