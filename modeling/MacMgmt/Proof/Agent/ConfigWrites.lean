import MacMgmt.Agent.ConfigWrites
import MacMgmt.Lib.Run

/-!
# What a refused patch and later backups leave

A call that ends in an error has written the file only where the command refused the result. A backup is found as it was put
there as long as no later one takes its name.
-/

namespace MacMgmt.Proof.Agent
open MacMgmt.Agent Lib

variable {environment : ConfigEnvironment} {disk : ConfigDisk} {call : MergeCall}

/-! ## The name of a backup -/

theorem suffix_intercalate (separator : List Char) (front : List (List Char)) (last : List Char) :
    last <:+ separator.intercalate (front ++ [last]) := by
  induction front with
  | nil => simp
  | cons first rest ih =>
      cases rest with
      | nil => exact ⟨first ++ separator, by simp [List.intercalate_cons_cons]⟩
      | cons second rest =>
          rw [List.cons_append, List.cons_append, List.intercalate_cons_cons, ← List.cons_append]
          exact ih.trans (List.suffix_append _ _)

theorem length_dropWhile_ge {p : Char → Bool} {text rest : List Char} (ending : rest <:+ text)
    (stops : ∀ c ∈ rest.head?, p c = false) : rest.length ≤ (text.dropWhile p).length := by
  obtain ⟨front, rfl⟩ := ending
  have kept : rest.dropWhile p = rest := by
    cases rest with
    | nil => rfl
    | cons c rest => simp [stops c rfl]
  rw [List.dropWhile_append, kept]
  split
  · rfl
  · simp

theorem backupName_head (path : FilePath) (ending : List Char) :
    ∀ c ∈ ((pathSafeName path).toList ++ '.' :: ending).head?, (c = '/' || c = '\\') = false := by
  intro c head
  cases name : (pathSafeName path).toList with
  | nil =>
      rw [name] at head
      obtain rfl : '.' = c := Option.some.inj head
      decide
  | cons first rest =>
      rw [name] at head
      obtain rfl : first = c := Option.some.inj head
      have member : first ∈ (pathSafeName path).toList := name ▸ List.mem_cons_self
      rw [pathSafeName, String.toList_ofList] at member
      obtain ⟨source, _, rfl⟩ := List.mem_map.mp member
      split
      · decide
      · rename_i plain
        simp only [Bool.or_eq_true, not_or, Bool.not_eq_true] at plain
        rw [plain.1.1, plain.1.2]
        rfl

theorem backupPath_ne (environment : ConfigEnvironment) (call : MergeCall) : backupPath environment call ≠ call.path := by
  intro same
  let last := (pathSafeName call.path ++ "." ++ environment.stamp call.now).toList
  have ending : last <:+ (absoluteText call.path).toList := by
    rw [absoluteText, @String.toList_ofList, ← same, backupPath, List.map_append]
    exact (suffix_intercalate _ _ _).trans (List.suffix_cons _ _)
  have parts : last = (pathSafeName call.path).toList ++ '.' :: (environment.stamp call.now).toList := by
    simp [last]
  have bound := length_dropWhile_ge ending (parts ▸ backupName_head call.path _)
  have length : (pathSafeName call.path).toList.length =
      ((absoluteText call.path).toList.dropWhile fun c => c = '/' || c = '\\').length := by
    rw [pathSafeName, String.toList_ofList, List.length_map]
  rw [← length, parts, List.length_append, List.length_cons] at bound
  omega

/-! ## Texts and bytes -/

theorem toUTF8_of_fromUTF8? {bytes : ByteArray} {text : String} (read : String.fromUTF8? bytes = some text) :
    text.toUTF8 = bytes := by
  rw [String.fromUTF8?] at read
  split at read
  · rw [← Option.some.inj read]
    rfl
  · cases read

theorem toUTF8_of_existingText {backup : String} {bytes : ByteArray} (stood : disk.files.lookup call.path = some bytes)
    (existing : existingText disk call = .ok backup) : backup.toUTF8 = bytes := by
  simp only [existingText, stood] at existing
  split at existing
  · rename_i text read
    obtain rfl := Except.ok.inj existing
    split at read
    · exact toUTF8_of_fromUTF8? read
    · cases read
  · cases existing

/-! ## The file of a call -/

theorem lookup_backupConfigFile (disk : ConfigDisk) (call : MergeCall) :
    (backupConfigFile environment disk call).files.lookup call.path = disk.files.lookup call.path := by
  have apart : call.path ≠ backupPath environment call := (backupPath_ne environment call).symm
  rw [backupConfigFile]
  split
  · rfl
  · split <;> simp only [Table.lookup_insert_ite, if_neg apart]

def put (disk : ConfigDisk) (path : FilePath) (text : String) : ConfigDisk :=
  { disk with files := disk.files.insert path text.toUTF8 }

structure Reaches (environment : ConfigEnvironment) (disk : ConfigDisk) (call : MergeCall) (backup merged : String) : Prop where
  existing : existingText disk call = .ok backup
  text : mergedText environment call backup = .ok merged

inductive MergeEnds (environment : ConfigEnvironment) (disk : ConfigDisk) (call : MergeCall) :
    ConfigDisk × Except String Unit → Prop where
  | early (message : String) (stopped : ∀ backup merged, ¬ Reaches environment disk call backup merged) :
      MergeEnds environment disk call (disk, .error message)
  | unwritten (backup merged message : String) (reaches : Reaches environment disk call backup merged)
      (fails : call.writes = false) : MergeEnds environment disk call (backupConfigFile environment disk call, .error message)
  | accepted (backup merged : String) (reaches : Reaches environment disk call backup merged) (writes : call.writes = true)
      (verdict : validateCommand call = .ok ()) :
      MergeEnds environment disk call (put (backupConfigFile environment disk call) call.path merged, .ok ())
  | left (backup merged message reason : String) (reaches : Reaches environment disk call backup merged)
      (writes : call.writes = true) (verdict : validateCommand call = .error reason) (fails : call.rollsBack = false) :
      MergeEnds environment disk call (put (backupConfigFile environment disk call) call.path merged, .error message)
  | rolledBack (backup merged message reason : String) (reaches : Reaches environment disk call backup merged)
      (writes : call.writes = true) (verdict : validateCommand call = .error reason) (works : call.rollsBack = true) :
      MergeEnds environment disk call
        (put (put (backupConfigFile environment disk call) call.path merged) call.path backup, .error message)

theorem mergeEnds (environment : ConfigEnvironment) (disk : ConfigDisk) (call : MergeCall) :
    MergeEnds environment disk call (mergeValidateAndWrite environment disk call) := by
  cases existing : existingText disk call with
  | error message =>
      simp only [mergeValidateAndWrite, existing]
      exact .early message fun backup merged reaches => by cases existing.symm.trans reaches.existing
  | ok backup =>
      cases text : mergedText environment call backup with
      | error message =>
          simp only [mergeValidateAndWrite, existing, text]
          refine .early message fun other merged reaches => ?_
          obtain rfl := Except.ok.inj (existing.symm.trans reaches.existing)
          cases text.symm.trans reaches.text
      | ok merged =>
          have reaches : Reaches environment disk call backup merged := ⟨existing, text⟩
          simp only [mergeValidateAndWrite, existing, text, writeAtomic]
          cases writes : call.writes with
          | false => exact .unwritten backup merged _ reaches writes
          | true =>
              cases verdict : validateCommand call with
              | ok => exact .accepted backup merged reaches writes verdict
              | error reason =>
                  cases rolls : call.rollsBack with
                  | false => exact .left backup merged _ reason reaches writes verdict rolls
                  | true => exact .rolledBack backup merged _ reason reaches writes verdict rolls

/-! ## The file after an error -/

/-- The command refuses what was written only where the old content can be put back: the file was there, and the second
write works or has nothing to change. -/
def Recoverable (environment : ConfigEnvironment) (disk : ConfigDisk) (call : MergeCall) : Prop :=
  ∀ backup merged message, Reaches environment disk call backup merged → call.writes = true →
    validateCommand call = .error message → call.path ∈ disk.files ∧ (call.rollsBack = true ∨ merged = backup)

def LeavesFile (environment : ConfigEnvironment) (disk : ConfigDisk) (call : MergeCall) : Prop :=
  ∀ message, (mergeValidateAndWrite environment disk call).2 = .error message →
    (mergeValidateAndWrite environment disk call).1.files.lookup call.path = disk.files.lookup call.path

theorem lookup_put (disk : ConfigDisk) (path : FilePath) (text : String) :
    (put disk path text).files.lookup path = some text.toUTF8 := by
  rw [put, AList.lookup_insert]

theorem same_content_iff {backup : String} (text : String) (existing : existingText disk call = .ok backup) :
    some text.toUTF8 = disk.files.lookup call.path ↔ call.path ∈ disk.files ∧ text = backup := by
  rw [← AList.lookup_isSome]
  cases stood : disk.files.lookup call.path with
  | none => simp
  | some bytes =>
      rw [← toUTF8_of_existingText stood existing, Option.some.injEq, String.toUTF8_eq_toByteArray,
        String.toUTF8_eq_toByteArray, String.toByteArray_inj]
      simp

theorem reaches_unique {backup merged other text : String} (first : Reaches environment disk call backup merged)
    (second : Reaches environment disk call other text) : other = backup ∧ text = merged := by
  obtain rfl := Except.ok.inj (second.existing.symm.trans first.existing)
  exact ⟨rfl, Except.ok.inj (second.text.symm.trans first.text)⟩

theorem leavesFile_iff (environment : ConfigEnvironment) (disk : ConfigDisk) (call : MergeCall) :
    LeavesFile environment disk call ↔ Recoverable environment disk call := by
  have ends := mergeEnds environment disk call
  unfold LeavesFile
  generalize mergeValidateAndWrite environment disk call = result at ends
  cases ends with
  | early message stopped =>
      refine ⟨fun _ backup merged _ reaches => (stopped backup merged reaches).elim, fun _ _ _ => rfl⟩
  | unwritten backup merged message reaches fails =>
      refine ⟨fun _ _ _ _ _ writes => ?_, fun _ _ _ => lookup_backupConfigFile disk call⟩
      cases fails.symm.trans writes
  | accepted backup merged reaches writes verdict =>
      refine ⟨fun _ _ _ _ _ _ refused => ?_, fun _ _ failed => ?_⟩
      · cases verdict.symm.trans refused
      · cases failed
  | left backup merged message reason reaches writes verdict fails =>
      have content := same_content_iff merged reaches.existing
      simp only [Except.error.injEq, forall_eq', lookup_put]
      constructor
      · intro same other text _ reachesOther _ _
        obtain ⟨rfl, rfl⟩ := reaches_unique reaches reachesOther
        exact (content.mp same).imp_right .inr
      · intro recoverable
        obtain ⟨stood, rolls | unchanged⟩ := recoverable backup merged reason reaches writes verdict
        · cases fails.symm.trans rolls
        · exact content.mpr ⟨stood, unchanged⟩
  | rolledBack backup merged message reason reaches writes verdict works =>
      have content := same_content_iff backup reaches.existing
      simp only [Except.error.injEq, forall_eq', lookup_put]
      constructor
      · intro same other text _ reachesOther _ _
        exact ⟨(content.mp same).1, .inl works⟩
      · intro recoverable
        exact content.mpr ⟨(recoverable backup merged reason reaches writes verdict).1, rfl⟩

/-! ## Backups -/

def Intact (disk : ConfigDisk) : Prop := ∀ saved ∈ disk.backups, disk.files.lookup saved.1 = some saved.2

/-- Of a call that gets as far as its writes: the name of its backup is not that of an earlier one, and neither is its file. -/
def FreshBackup (environment : ConfigEnvironment) (disk : ConfigDisk) (call : MergeCall) : Prop :=
  ∀ backup merged, Reaches environment disk call backup merged →
    (call.path ∈ disk.files → call.copy ≠ .notOpened → backupPath environment call ∉ disk.backups.map Prod.fst) ∧
      (call.writes = true → call.path ∉ disk.backups.map Prod.fst)

theorem Intact.insert {path : FilePath} (intact : Intact disk) (fresh : path ∉ disk.backups.map Prod.fst) (bytes : ByteArray) :
    Intact { disk with files := disk.files.insert path bytes } := by
  intro saved member
  have apart : saved.1 ≠ path := fun same => fresh (same ▸ List.mem_map_of_mem member)
  rw [Table.lookup_insert_ite, if_neg apart]
  exact intact saved member

theorem Intact.backup (intact : Intact disk) (fresh : call.path ∈ disk.files → call.copy ≠ .notOpened →
    backupPath environment call ∉ disk.backups.map Prod.fst) : Intact (backupConfigFile environment disk call) := by
  cases stood : disk.files.lookup call.path with
  | none =>
      simp only [backupConfigFile, stood]
      exact intact
  | some bytes =>
      have there : call.path ∈ disk.files := AList.lookup_isSome.mp (by rw [stood]; rfl)
      simp only [backupConfigFile, stood]
      cases copy : call.copy with
      | notOpened => exact intact
      | cutOff length => exact intact.insert (fresh there (by simp [copy])) _
      | copied =>
          intro saved member
          rcases List.mem_append.mp member with earlier | last
          · exact intact.insert (fresh there (by simp [copy])) bytes saved earlier
          · obtain rfl := List.mem_singleton.mp last
            exact AList.lookup_insert _

theorem not_mem_backups (environment : ConfigEnvironment) (disk : ConfigDisk) (call : MergeCall)
    (fresh : call.path ∉ disk.backups.map Prod.fst) :
    call.path ∉ (backupConfigFile environment disk call).backups.map Prod.fst := by
  rw [backupConfigFile]
  split
  · exact fresh
  · split
    · simpa [fresh] using (backupPath_ne environment call).symm
    · exact fresh
    · exact fresh

theorem mergeStep_intact {after : ConfigDisk} (intact : Intact disk) (fresh : FreshBackup environment disk call)
    (taken : mergeStep environment disk call = some after) : Intact after := by
  have ends := mergeEnds environment disk call
  obtain rfl := Option.some.inj taken
  generalize mergeValidateAndWrite environment disk call = result at ends
  have saved {backup merged : String} (reaches : Reaches environment disk call backup merged) :
      Intact (backupConfigFile environment disk call) := intact.backup (fresh backup merged reaches).1
  have written {backup merged : String} (reaches : Reaches environment disk call backup merged) (writes : call.writes = true) :
      Intact (put (backupConfigFile environment disk call) call.path merged) :=
    (saved reaches).insert (not_mem_backups environment disk call ((fresh backup merged reaches).2 writes)) _
  cases ends with
  | early => exact intact
  | unwritten backup merged message reaches => exact saved reaches
  | accepted backup merged reaches writes => exact written reaches writes
  | left backup merged message reason reaches writes => exact written reaches writes
  | rolledBack backup merged message reason reaches writes =>
      exact (written reaches writes).insert
        (not_mem_backups environment disk call ((fresh backup merged reaches).2 writes)) _

def plainEnvironment : ConfigEnvironment := ⟨fun _ _ => .error "", fun _ _ => .error "", fun _ => "", ["b"]⟩

def envCall (value : String) (schema : Option SchemaSource) (command : CommandOutcome) : MergeCall :=
  ⟨⟨".env", .env, schema⟩, ["f"], .object [("A", .string value)], 0, .ok (), true, fun _ => .ok (), .copied, true, command, true⟩

end MacMgmt.Proof.Agent
