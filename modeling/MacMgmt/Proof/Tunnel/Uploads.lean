import MacMgmt.Proof.Agent.FileValidation
import MacMgmt.Proof.Tunnel.Responses
import MacMgmt.Tunnel.Bodies

/-!
# Uploads that are not whole

A write is over for the daemon when its input ends. What it takes for an end decides what the file holds, and a failed
client body ends like a whole one.
-/

namespace MacMgmt.Proof.Tunnel
open MacMgmt.Tunnel MacMgmt.Agent Lib

variable {daemon : FileDaemon} {tunnel : FileTunnel} {query : FileWriteQuery} {path : FilePath} {content : List UInt8}

/-! ## One write -/

theorem node_replaceFile (tree : FileTree) (path : FilePath) (content : List UInt8) (now : Nat) :
    (replaceFile tree path content now).node path =
      (tree.node path).map fun node => { node with content := .file content, mtime := some now } := by
  rw [FileTree.node, replaceFile, Table.lookup_modify, if_pos rfl]
  rfl

theorem writeTarget_short
    (checked : writeTarget daemon.glob daemon.tree tunnel query.path content query.expectedMtime = .ok path) :
    content.length ≤ maxFileSize := by
  by_contra long
  unfold writeTarget at checked
  split at checked
  · cases checked
  split at checked
  · cases checked
  split at checked
  · cases checked
  split at checked
  · cases checked
  rw [if_pos (not_le.mp long)] at checked
  cases checked

theorem write_of_stays (stays : Stays daemon tunnel query path content) :
    (daemon.write tunnel query content).tree = replaceFile daemon.tree path content daemon.now ∧
    ((∃ mtime, (daemon.write tunnel query content).result = .ok mtime) ↔ Accepted daemon tunnel path content) := by
  unfold FileDaemon.write writeFile Accepted
  rw [stays.target]
  simp only [stays.tempFile, stays.writeAll, stays.backup, stays.rename, stays.notDir, Bool.not_true, Bool.or_false,
    Bool.false_eq_true, if_false]
  cases found : findValidator daemon.glob tunnel path with
  | none => exact ⟨rfl, iff_of_true ⟨_, rfl⟩ nofun⟩
  | some validator =>
      cases verdict : daemon.validate validator content with
      | ok accepted =>
          simp only [verdict, true_and]
          refine iff_of_true ⟨_, rfl⟩ ?_
          rintro other ⟨⟩
          exact verdict
      | error message =>
          simp only [verdict, stays.kept validator message found verdict]
          refine ⟨rfl, iff_of_false (fun ⟨_, same⟩ => by cases same) fun accepted => ?_⟩
          rw [accepted validator rfl] at verdict
          cases verdict

theorem write_of_not_stays (gone : ∀ path, ¬ Stays daemon tunnel query path content) :
    (daemon.write tunnel query content).tree = daemon.tree := by
  cases target : writeTarget daemon.glob daemon.tree tunnel query.path content query.expectedMtime with
  | error refusal =>
      rw [FileDaemon.write, writeFile, target]
  | ok path =>
      unfold FileDaemon.write writeFile
      rw [target]
      dsimp only
      split
      · rfl
      split
      · rfl
      split
      · rfl
      split
      · rfl
      rename_i temp written backup renamed
      simp only [Bool.not_eq_true', Bool.not_eq_false, Bool.or_eq_true, not_or, Bool.not_eq_true] at temp written backup renamed
      cases found : findValidator daemon.glob tunnel path with
      | none => exact absurd ⟨target, temp, written, backup.1, backup.2, renamed, by simp [found]⟩ (gone path)
      | some validator =>
          cases verdict : daemon.validate validator content with
          | ok accepted =>
              refine absurd ⟨target, temp, written, backup.1, backup.2, renamed, ?_⟩ (gone path)
              intro other message same refused
              rw [found] at same
              cases same
              rw [verdict] at refused
              cases refused
          | error message =>
              simp only [verdict]
              split
              next => rfl
              next lost =>
                refine absurd ⟨target, temp, written, backup.1, backup.2, renamed, ?_⟩ (gone path)
                intro _ _ _ _
                exact Bool.not_eq_true _ ▸ lost

/-! ## What is delivered -/

theorem bodyPlacement_framed (body : List UInt8) : (bodyPlacement body).2 = decide (inlineBodyLimit < body.length) := by
  unfold bodyPlacement
  by_cases empty : body = []
  · subst empty
    rfl
  · by_cases long : inlineBodyLimit < body.length <;> simp [empty, long]

theorem receiveContent_binary (received : List UInt8) (pieces : List (List UInt8)) (reads : List FrameRead)
    (fits : received.length ≤ maxFileSize) :
    receiveContent received (pieces.map .binary ++ reads) =
      if maxFileSize < (received ++ pieces.flatten).length then .tooLarge
      else receiveContent (received ++ pieces.flatten) reads := by
  induction pieces generalizing received with
  | nil =>
      rw [List.flatten_nil, List.append_nil, if_neg (not_lt.mpr fits)]
      rfl
  | cons piece pieces ih =>
      rw [List.map_cons, List.cons_append, receiveContent, List.flatten_cons, ← List.append_assoc]
      by_cases long : maxFileSize < (received ++ piece).length
      · rw [if_pos long, if_pos]
        rw [List.length_append]
        omega
      · rw [if_neg long, ih (received ++ piece) (not_lt.mp long)]

theorem receiveContent_cut (pieces : List (List UInt8)) (count : Nat) (ending : Ending) :
    receiveContent [] (arriving (pieces.map .binary ++ [FrameRead.end_]) (some (count, ending))) =
      if maxFileSize < (pieces.take count).flatten.length then .tooLarge
      else if pieces.length < count ∨ ending = .closed then .content (pieces.take count).flatten else .gone := by
  rw [arriving, take_frames, List.append_assoc, receiveContent_binary _ _ _ (Nat.zero_le _), List.nil_append]
  congr 1
  by_cases all : pieces.length < count
  · simp [all, receiveContent]
  · cases ending <;> simp [all, receiveContent, Ending.read]

/-- What an upload comes to is a write of the content, or nothing at all where there is none. -/
structure AsWritten (daemon : FileDaemon) (tunnel : FileTunnel) (query : FileWriteQuery) (content : Option (List UInt8))
    (outcome : Option WriteOutcome) : Prop where
  tree : outcome.elim daemon.tree WriteOutcome.tree =
    content.elim daemon.tree fun content => (daemon.write tunnel query content).tree
  succeeds : (∃ written mtime, outcome = some written ∧ written.result = .ok mtime) ↔
    ∃ content_ mtime, content = some content_ ∧ (daemon.write tunnel query content_).result = .ok mtime

theorem asWritten_write : AsWritten daemon tunnel query (some content) (some (daemon.write tunnel query content)) := by
  refine ⟨rfl, ?_⟩
  constructor
  · rintro ⟨_, mtime, ⟨⟩, written⟩
    exact ⟨content, mtime, rfl, written⟩
  · rintro ⟨_, mtime, ⟨⟩, written⟩
    exact ⟨_, mtime, rfl, written⟩

theorem asWritten_none : AsWritten daemon tunnel query none none :=
  ⟨rfl, iff_of_false (fun ⟨_, _, same, _⟩ => nomatch same) fun ⟨_, _, same, _⟩ => nomatch same⟩

theorem asWritten_refused {refusal : Nat × String} {checked : List Validator} :
    AsWritten daemon tunnel query none (some ⟨.error refusal, daemon.tree, checked⟩) := by
  refine ⟨rfl, iff_of_false ?_ fun ⟨_, _, same, _⟩ => nomatch same⟩
  rintro ⟨_, _, ⟨⟩, ⟨⟩⟩

theorem asWritten_tooLarge {refusal : Nat × String} {checked : List Validator} (long : maxFileSize < content.length) :
    AsWritten daemon tunnel query (some content) (some ⟨.error refusal, daemon.tree, checked⟩) := by
  have gone : ∀ path, ¬ Stays daemon tunnel query path content := fun path stays =>
    absurd (writeTarget_short stays.target) (not_le.mpr long)
  refine ⟨(write_of_not_stays gone).symm, iff_of_false ?_ ?_⟩
  · rintro ⟨_, _, ⟨⟩, ⟨⟩⟩
  · rintro ⟨_, mtime, ⟨⟩, written⟩
    cases target : writeTarget daemon.glob daemon.tree tunnel query.path content query.expectedMtime with
    | error refusal =>
        rw [FileDaemon.write, writeFile, target] at written
        cases written
    | ok path => exact absurd (writeTarget_short target) (not_le.mpr long)

theorem session_asWritten (registered : daemon.registry.lookup query.tunnelName = some tunnel)
    (pieces : List (List UInt8)) (transport : Transport) :
    AsWritten daemon tunnel query ((FileUpload.session pieces).delivered daemon.framing transport.cut)
      ((FileUpload.session pieces).outcome daemon query transport) := by
  obtain ⟨cut, answered⟩ := transport
  rw [FileUpload.outcome, FileDaemon.handleWriteSession, registered]
  dsimp only
  rw [handleUpload]
  cases cut with
  | none =>
      rw [FileUpload.delivered, arriving, receiveContent_binary _ _ _ (Nat.zero_le _), List.nil_append]
      by_cases long : maxFileSize < pieces.flatten.length
      · rw [if_pos long]
        exact asWritten_tooLarge long
      · rw [if_neg long]
        exact asWritten_write
  | some cut =>
      obtain ⟨count, ending⟩ := cut
      rw [FileUpload.delivered, receiveContent_cut]
      by_cases long : maxFileSize < (pieces.take count).flatten.length
      · rw [if_pos long]
        split
        · exact asWritten_tooLarge long
        · exact asWritten_refused
      · rw [if_neg long]
        split
        · exact asWritten_write
        · exact asWritten_none

theorem stream_asWritten (registered : daemon.registry.lookup query.tunnelName = some tunnel) (body : List UInt8)
    (reads : List FrameRead) :
    AsWritten daemon tunnel query
      (if inlineBodyLimit < body.length then completeBody (daemon.framing.readBinaryBody maxFileSize reads) else some body)
      (daemon.handleFileWriteStream (fileWriteHandshake query body) reads) := by
  unfold FileDaemon.handleFileWriteStream fileWriteHandshake
  dsimp only
  by_cases long : inlineBodyLimit < body.length
  · rw [if_pos long, bodyPlacement_framed, if_pos (by simpa using long)]
    match daemon.framing.readBinaryBody maxFileSize reads with
    | none => exact asWritten_none
    | some (.error _) => exact asWritten_refused
    | some (.ok content) =>
        dsimp only
        rw [registered]
        exact asWritten_write
  · have inline : (bodyPlacement body).2 = false := by simpa [bodyPlacement_framed] using long
    rw [if_neg long, inline, decodeInline_bodyPlacement inline]
    simp only [Bool.false_eq_true, if_false, registered]
    exact asWritten_write

theorem bodyFrames_eq (framing : Framing) (body : List UInt8) :
    bodyFrames framing body = if inlineBodyLimit < body.length then framing.writeBinary body ++ [FrameRead.end_] else [] := by
  rw [bodyFrames, bodyPlacement_framed]
  by_cases long : inlineBodyLimit < body.length <;> simp [long]

theorem streamed_asWritten (registered : daemon.registry.lookup query.tunnelName = some tunnel) (client : BodyStream)
    (transport : Transport) :
    AsWritten daemon tunnel query ((FileUpload.streamed client).delivered daemon.framing transport.cut)
      ((FileUpload.streamed client).outcome daemon query transport) := by
  obtain ⟨cut, answered⟩ := transport
  have written := stream_asWritten registered (collectBody client)
  match cut with
  | some (0, ending) => cases ending <;> exact asWritten_none
  | none =>
      specialize written (bodyFrames daemon.framing (collectBody client))
      rw [bodyFrames_eq] at written
      by_cases long : inlineBodyLimit < (collectBody client).length
      · simpa [FileUpload.delivered, FileUpload.outcome, arriving, bodyFrames_eq, long] using written
      · simpa [FileUpload.delivered, FileUpload.outcome, arriving, bodyFrames_eq, long] using written
  | some (count + 1, ending) =>
      specialize written (arriving (bodyFrames daemon.framing (collectBody client)) (some (count, ending)))
      rw [bodyFrames_eq] at written
      by_cases long : inlineBodyLimit < (collectBody client).length
      · simpa [FileUpload.delivered, FileUpload.outcome, arriving, bodyFrames_eq, long] using written
      · simpa [FileUpload.delivered, FileUpload.outcome, arriving, bodyFrames_eq, long] using written

theorem upload_asWritten (registered : daemon.registry.lookup query.tunnelName = some tunnel) (upload : FileUpload)
    (transport : Transport) :
    AsWritten daemon tunnel query (upload.delivered daemon.framing transport.cut) (upload.outcome daemon query transport) := by
  cases upload with
  | streamed client => exact streamed_asWritten registered client transport
  | session pieces => exact session_asWritten registered pieces transport

theorem okChunks_of_ok {results : List (Except Unit (List UInt8))} (ok : ∀ result ∈ results, result.isOk = true) :
    okChunks results = results.filterMap Except.toOption := by
  induction results with
  | nil => rfl
  | cons result results ih =>
      cases result with
      | error failure => cases ok (.error failure) List.mem_cons_self
      | ok bytes =>
          rw [okChunks, ih fun result member => ok result (List.mem_cons_of_mem _ member)]
          rfl

theorem delivered_full {framing : Framing} {upload : FileUpload} {transport : Transport}
    (works : ¬ upload.StreamFails transport) (delivered : upload.delivered framing transport.cut = some content) :
    content = upload.full := by
  obtain ⟨cut, answered⟩ := transport
  cases upload with
  | session pieces =>
      simp only [FileUpload.StreamFails, not_or, not_not] at works
      obtain ⟨rfl, _⟩ := works
      exact (Option.some.inj delivered).symm
  | streamed client =>
      simp only [FileUpload.StreamFails, not_or, not_exists, not_and, not_not, Bool.not_eq_false] at works
      obtain ⟨ok, rfl, _⟩ := works
      have body : collectBody client = client.full := by rw [collectBody, okChunks_of_ok ok, client.whole ok]
      simp only [FileUpload.delivered, body, Option.any_none, Option.map_none, arriving, Bool.false_eq_true, if_false] at delivered
      split at delivered
      · by_cases fits : client.full.length ≤ maxFileSize
        · rw [framing.read_short _ _ fits] at delivered
          exact (Option.some.inj delivered).symm
        · rw [framing.read_long _ _ (not_le.mp fits)] at delivered
          cases delivered
      · exact (Option.some.inj delivered).symm

/-! ## The target -/

theorem treeAfter_eq (registered : daemon.registry.lookup query.tunnelName = some tunnel) (upload : FileUpload)
    (transport : Transport) :
    upload.treeAfter daemon query transport =
      (upload.delivered daemon.framing transport.cut).elim daemon.tree fun content =>
        (daemon.write tunnel query content).tree := by
  rw [← (upload_asWritten registered upload transport).tree]
  unfold FileUpload.treeAfter
  cases upload.outcome daemon query transport <;> rfl

theorem fails_iff (registered : daemon.registry.lookup query.tunnelName = some tunnel) {upload : FileUpload}
    {transport : Transport} (delivered : upload.delivered daemon.framing transport.cut = some content)
    (stays : Stays daemon tunnel query path content) :
    upload.Fails daemon query transport ↔ ¬ (¬ upload.StreamFails transport ∧ Accepted daemon tunnel path content) := by
  have succeeds := (upload_asWritten registered upload transport).succeeds
  rw [delivered] at succeeds
  rw [not_and_or, not_not, ← (write_of_stays stays).2]
  refine or_congr_right ?_
  constructor
  · rintro fails ⟨mtime, written⟩
    obtain ⟨outcome, mtime, same, result⟩ := succeeds.mpr ⟨content, mtime, rfl, written⟩
    exact fails outcome mtime same result
  · intro refused outcome mtime same result
    obtain ⟨_, mtime, ⟨⟩, written⟩ := succeeds.mp ⟨outcome, mtime, same, result⟩
    exact refused ⟨mtime, written⟩

theorem after_of_stays (registered : daemon.registry.lookup query.tunnelName = some tunnel) {upload : FileUpload}
    {transport : Transport} {before : Node} (found : daemon.tree.node path = some before)
    (delivered : upload.delivered daemon.framing transport.cut = some content)
    (stays : Stays daemon tunnel query path content) :
    (upload.treeAfter daemon query transport).node path =
      some { before with content := .file content, mtime := some daemon.now } := by
  rw [treeAfter_eq registered, delivered, Option.elim_some, (write_of_stays stays).1, node_replaceFile, found]
  rfl

theorem upload_safe_iff (daemon : FileDaemon) (query : FileWriteQuery) (transport : Transport) (upload : FileUpload) :
    upload.Safe daemon query transport ↔ upload.Harmless daemon query transport := by
  constructor
  · intro safe tunnel path before content registered found delivered stays
    have after := after_of_stays registered found delivered stays
    have kept := (safe tunnel path before _ registered (Proof.Agent.writeTarget_ok stays.target) found after).2
    rw [fails_iff registered delivered stays] at kept
    by_cases works : ¬ upload.StreamFails transport ∧ Accepted daemon tunnel path content
    · exact .inr works
    · exact .inl (kept works).symm
  · intro harmless tunnel path before after registered resolved found left
    by_cases stays : ∃ content, upload.delivered daemon.framing transport.cut = some content ∧
        Stays daemon tunnel query path content
    · obtain ⟨content, delivered, stays⟩ := stays
      rw [after_of_stays registered found delivered stays] at left
      cases left
      obtain same | works := harmless tunnel path before content registered found delivered stays
      · exact ⟨.inl same.symm, fun _ => same.symm⟩
      · rw [fails_iff registered delivered stays, ← delivered_full works.1 delivered]
        exact ⟨.inr rfl, fun fails => absurd works fails⟩
    · have same : upload.treeAfter daemon query transport = daemon.tree := by
        rw [treeAfter_eq registered]
        cases delivered : upload.delivered daemon.framing transport.cut with
        | none => rfl
        | some content =>
            refine write_of_not_stays fun other stays_ => stays ⟨content, delivered, ?_⟩
            have resolvedTo := Proof.Agent.writeTarget_ok stays_.target
            rw [resolved] at resolvedTo
            cases resolvedTo
            exact stays_
      rw [same, found] at left
      cases left
      exact ⟨.inl rfl, fun _ => rfl⟩

/-! ## Half of a file -/

def readFrames (limit : Nat) (body : List UInt8) : List FrameRead → Option (Except Unit (List UInt8))
  | [] => none
  | .binary data :: reads =>
      if limit < (body ++ data).length then some (.error ()) else readFrames limit (body ++ data) reads
  | .end_ :: _ => some (.ok body)
  | .json :: _ | .closed :: _ | .failed :: _ => some (.error ())

def oneFrame : Framing where
  writeBinary body := [.binary body]
  readBinaryBody limit reads := readFrames limit [] reads
  read_short limit body short := by simp [readFrames, not_lt.mpr short]
  read_long limit body long := by simp [readFrames, long]

def notesDaemon : FileDaemon where
  framing := oneFrame
  glob := Proof.Agent.exactGlob
  validate := Proof.Agent.acceptsOne
  registry := (∅ : Table String FileTunnel).insert "notes" (Proof.Agent.configTunnel "/r")
  tree := Proof.Agent.linkedTree
  disk := Proof.Agent.workingDisk
  now := 7

/-- The text `10`, of which only the first character gets through. -/
def brokenBody : BodyStream where
  full := [0x31, 0x30]
  results := [.ok [0x31], .error ()]
  whole all := by cases all (.error ()) (by simp)

theorem half_of_file_written :
    ¬ (FileUpload.streamed brokenBody).Safe notesDaemon ⟨"notes", some "a.json", none⟩ ⟨none, true⟩ ∧
    ¬ (FileUpload.session [[0x31], [0x30]]).Safe notesDaemon ⟨"notes", some "a.json", none⟩ ⟨some (1, .closed), true⟩ := by
  constructor
  all_goals
    intro safe
    have same := (safe (Proof.Agent.configTunnel "/r") ["r", "a.json"] ⟨.file [], true, some 0, 0⟩
      ⟨.file [0x31], true, some 7, 0⟩ (by decide +kernel) (by decide +kernel) (by decide +kernel) (by decide +kernel)).1
    obtain same | same := same <;> cases same

end MacMgmt.Proof.Tunnel
