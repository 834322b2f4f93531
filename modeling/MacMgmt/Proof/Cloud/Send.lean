import MacMgmt.Cloud.Send
import MacMgmt.Proof.Cleaner.Placeholders

/-!
# What the cloud is sent

In strict mode a prompt leaves only as a text that the cleaner has answered an approval with, whatever its tools and other
calls do in between. An answer is rehydrated with what the session has when it arrives.
-/

namespace MacMgmt.Proof.Cloud
open Lib MacMgmt.Cleaner MacMgmt.Cloud Proof.Cleaner

/-! ## The steps of the cleaner -/

section Steps
variable {cleaner next : CleanerState} {event : CleanerEvent}

inductive CleanerCase (cleaner next : CleanerState) : CleanerEvent → Prop where
  | shrinks {event : CleanerEvent} (shrinks : Shrinks cleaner next) : CleanerCase cleaner next event
  | scan {sessionId text : Text} {detections : List Detection} {now : Int} {disk : Disk}
      (written : next.sessions = cleaner.sessions.insert sessionId (scanned cleaner sessionId text detections now)) :
      CleanerCase cleaner next (.scan sessionId text detections now disk)
  | approve {params : ApproveParams} {now : Int} {disk : Disk} {manifest : SessionManifest}
      (approves : Approves cleaner params now disk manifest)
      (written : next.sessions = cleaner.sessions.insert params.sessionId (approved cleaner params manifest)) :
      CleanerCase cleaner next (.approve params now disk)

theorem cleanerStep_cases (filed : Stored Filed cleaner) (taken : cleanerStep cleaner event = some next) :
    CleanerCase cleaner next event := by
  cases event <;> simp only [cleanerStep, Option.ite_none_right_eq_some, Option.some.injEq] at taken
  case scan sessionId text detections now disk =>
    obtain ⟨-, rfl⟩ := taken
    rcases (scan_cases cleaner sessionId text detections now disk).2 with written | shrinks
    · exact .scan written
    · exact .shrinks shrinks
  case approve params now disk =>
    subst taken
    rcases approve_cases filed params now disk with ⟨manifest, approves, -, written⟩ | ⟨-, shrinks, -⟩
    · exact .approve approves written
    · exact .shrinks shrinks
  case rehydrate sessionId text now disk =>
    subst taken
    rw [rehydrate_fst]
    exact .shrinks (load_frame cleaner sessionId now disk).2
  case sessionList now disk =>
    subst taken
    exact .shrinks (loadAll_shrinks cleaner now disk)
  case sessionDelete sessionId disk =>
    subst taken
    exact .shrinks (sessionDelete_shrinks sessionId disk)
  case restart now disk =>
    subst taken
    exact .shrinks (loadAll_shrinks { cleaner with counters := ∅ } now disk)

theorem approve_answers (filed : Stored Filed cleaner) {params : ApproveParams} {now : Int} {disk : Disk}
    {manifest : SessionManifest} (approves : Approves cleaner params now disk manifest) :
    (cleaner.approve params now disk).2 =
      .ok (redact (approved cleaner params manifest).entities manifest.originalText) := by
  obtain ⟨loaded, valid, stored⟩ := load_some approves.1
  have named : (approved cleaner params manifest).id = params.sessionId := (filed params.sessionId manifest stored).named
  have saved : (CleanerState.save
      { cleaner with counters := (addRedactions params.sessionId cleaner.counters params.addRedactions).1 }
      (approved cleaner params manifest) disk).2 = true := by
    rw [CleanerState.save, if_pos (by rw [named]; exact valid), approves.2]
  rw [CleanerState.approve, loaded]
  exact if_pos saved

end Steps

/-! ## What is sent -/

/-- An approved session has a text that was the answer to an approval. -/
def Answered (approvals : List (Text × Text)) (sessionId : Text) (manifest : SessionManifest) : Prop :=
  manifest.status = .approved → ∀ text, manifest.redactedText = some text → (sessionId, text) ∈ approvals

theorem answered_step {cleaner next : CleanerState} {event : CleanerEvent} {approvals : List (Text × Text)}
    (filed : Stored Filed cleaner) (answered : Stored (Answered approvals) cleaner)
    (taken : cleanerStep cleaner event = some next) :
    Stored (Answered (approvals ++ approvalsOf cleaner event)) next := by
  have grown : Stored (Answered (approvals ++ approvalsOf cleaner event)) cleaner :=
    fun sessionId manifest found status text shown =>
      List.mem_append_left _ (answered sessionId manifest found status text shown)
  cases cleanerStep_cases filed taken with
  | shrinks shrinks => exact grown.shrink shrinks
  | scan written =>
      refine grown.insert written fun status => ?_
      cases status
  | approve approves written =>
      refine grown.insert written fun _ text shown => List.mem_append_right _ ?_
      cases shown
      simp [approvalsOf, approve_answers filed approves]
      rfl

structure Cleared (shared : SharedState) (system : CloudSystem) : Prop where
  filed : Stored Filed system.cleaner
  answered : Stored (Answered system.approvals) system.cleaner
  sent : shared.strict = true → ∀ completion ∈ system.sent, ∃ sessionId, (sessionId, completion.prompt) ∈ system.approvals

theorem choosePrompt_approved {shared : SharedState} {cleaner : CleanerState} {params : CloudSendParams} {reads : Bool}
    {prompt : Text} (strict : shared.strict = true) (chosen : shared.choosePrompt cleaner params reads = .ok prompt) :
    ∃ sessionId manifest, cleaner.sessions.lookup sessionId = some manifest ∧ manifest.status = .approved ∧
      manifest.redactedText = some prompt := by
  unfold SharedState.choosePrompt at chosen
  split at chosen
  · rw [if_pos strict] at chosen
    cases chosen
  · rename_i sessionId named
    unfold SharedState.loadRedactedText at chosen
    split at chosen
    · cases chosen
    · rename_i manifest loaded
      obtain ⟨-, loaded⟩ := Option.ite_none_right_eq_some.mp loaded
      obtain ⟨file, -, found⟩ := Option.bind_eq_some_iff.mp loaded
      split at chosen
      · rename_i status
        split at chosen
        · rename_i text shown
          cases chosen
          exact ⟨file, manifest, found, status, shown⟩
        · cases chosen
      · cases chosen

theorem cleared_step {shared : SharedState} {system after : CloudSystem} {event : CloudEvent} (cleared : Cleared shared system)
    (taken : system.step shared event = some after) : Cleared shared after := by
  obtain ⟨filed, answered, sent⟩ := cleared
  cases event with
  | cleaner event =>
      obtain ⟨next, stepped, rfl⟩ := Option.map_eq_some_iff.mp taken
      refine ⟨filed_step filed stepped, answered_step filed answered stepped, fun strict completion member => ?_⟩
      obtain ⟨sessionId, approval⟩ := sent strict completion member
      exact ⟨sessionId, List.mem_append_left _ approval⟩
  | send number params reads =>
      obtain ⟨-, same⟩ := Option.ite_none_left_eq_some.mp taken
      cases same
      unfold CloudSystem.send
      cases chosen : shared.choosePrompt system.cleaner params reads with
      | error reply => exact ⟨filed, answered, sent⟩
      | ok prompt =>
          refine ⟨filed, answered, fun strict completion member => ?_⟩
          rcases List.mem_append.mp member with before | new
          · exact sent strict completion before
          · obtain rfl := List.mem_singleton.mp new
            obtain ⟨sessionId, manifest, found, status, shown⟩ := choosePrompt_approved strict chosen
            exact ⟨sessionId, answered sessionId manifest found status prompt shown⟩
  | answered number response now logs reads =>
      obtain ⟨call, -, rfl⟩ := Option.map_eq_some_iff.mp taken
      cases response with
      | none => exact ⟨filed, answered, sent⟩
      | some response => exact ⟨filed, answered, sent⟩

theorem cleared_of_run {shared : SharedState} {ttlSeconds : Int} {events : List CloudEvent} {system : CloudSystem}
    (ran : run (CloudSystem.step shared) (.start ttlSeconds) events = some system) : Cleared shared system := by
  have initially : Cleared shared (.start ttlSeconds) :=
    ⟨stored_start ttlSeconds, stored_start ttlSeconds, fun _ _ member => absurd member List.not_mem_nil⟩
  exact run_invariant (fun _ _ _ cleared taken => cleared_step cleared taken) initially ran

theorem sent_was_approved {shared : SharedState} {ttlSeconds : Int} {events : List CloudEvent} {system : CloudSystem}
    (strict : shared.strict = true) (ran : run (CloudSystem.step shared) (.start ttlSeconds) events = some system) :
    ∀ completion ∈ system.sent, ∃ sessionId, (sessionId, completion.prompt) ∈ system.approvals :=
  (cleared_of_run ran).sent strict

def office : SharedState := ⟨[], none, [], 0, true, some, id⟩

theorem ann_ne_nil : "ann".toList ≠ [] := by decide

def annApproved : List CloudEvent :=
  [.cleaner (.scan ['s'] "ann".toList [⟨"ann".toList, .person, .llm, ann_ne_nil⟩] 0 ⟨true, .written, true⟩),
    .cleaner (.approve ⟨['s'], [], []⟩ 0 ⟨true, .written, true⟩)]

def annAsked : CloudSendParams := ⟨"ann".toList, none, none, some ['s']⟩

theorem sent_was_approved_ann : ∃ system, run (CloudSystem.step office) (.start 86400) (annApproved ++ [.send 0 annAsked true]) =
    some system ∧ ∃ sessionId, (sessionId, "[PERSON_1]".toList) ∈ system.approvals := by
  have ran : run (CloudSystem.step office) (.start 86400) (annApproved ++ [.send 0 annAsked true]) = some _ := rfl
  exact ⟨_, ran, sent_was_approved rfl ran (office.completion annAsked "[PERSON_1]".toList) (List.mem_singleton.mpr rfl)⟩

/-! ## What comes back -/

/-- The session is scanned or approved again. -/
def Rewrites (file : Text) : CloudEvent → Prop
  | .cleaner (.scan sessionId _ _ _ _) => sessionId = file
  | .cleaner (.approve params _ _) => params.sessionId = file
  | _ => False

def OnlyAs (file : Text) (manifest : SessionManifest) (system : CloudSystem) : Prop :=
  Stored (fun sessionId other => sessionId = file → other = manifest) system.cleaner

theorem onlyAs_step {shared : SharedState} {system after : CloudSystem} {event : CloudEvent} {file : Text}
    {manifest : SessionManifest} (filed : Stored Filed system.cleaner) (only : OnlyAs file manifest system)
    (other : ¬ Rewrites file event) (taken : system.step shared event = some after) : OnlyAs file manifest after := by
  cases event with
  | cleaner event =>
      obtain ⟨next, stepped, rfl⟩ := Option.map_eq_some_iff.mp taken
      cases cleanerStep_cases filed stepped with
      | shrinks shrinks => exact only.shrink shrinks
      | scan written => exact only.insert written fun same => absurd same other
      | approve approves written => exact only.insert written fun same => absurd same other
  | send number params reads =>
      obtain ⟨-, same⟩ := Option.ite_none_left_eq_some.mp taken
      cases same
      unfold CloudSystem.send
      cases shared.choosePrompt system.cleaner params reads <;> exact only
  | answered number response now logs reads =>
      obtain ⟨call, -, rfl⟩ := Option.map_eq_some_iff.mp taken
      cases response <;> exact only

theorem reply_restored {shared : SharedState} {ttlSeconds : Int} {earlier between : List CloudEvent}
    {system later : CloudSystem} {params : CloudSendParams} {sessionId file : Text} {manifest : SessionManifest}
    (ran : run (CloudSystem.step shared) (.start ttlSeconds) earlier = some system)
    (session : params.cleanerSessionId = some sessionId) (named : shared.fileOf sessionId = some file)
    (stored : system.cleaner.sessions.lookup file = some manifest)
    (goes : run (CloudSystem.step shared) system between = some later) (untouched : ∀ event ∈ between, ¬ Rewrites file event)
    (response : CompletionResponse) (reads : Bool) :
    shared.replyTo later.cleaner params response reads = .text (rehydrateText manifest.entities response.text) ∨
      shared.replyTo later.cleaner params response reads = .unrestored response.text := by
  have initially : Cleared shared system ∧ OnlyAs file manifest system := by
    refine ⟨cleared_of_run ran, fun other found looked same => ?_⟩
    subst same
    exact Option.some.inj (looked.symm.trans stored)
  have preserved : ∀ before event after, Cleared shared before ∧ OnlyAs file manifest before → ¬ Rewrites file event →
      before.step shared event = some after → Cleared shared after ∧ OnlyAs file manifest after :=
    fun _ _ _ holds other taken => ⟨cleared_step holds.1 taken, onlyAs_step holds.1.filed holds.2 other taken⟩
  have meets : Meets (CloudSystem.step shared) (fun _ event => ¬ Rewrites file event) system between :=
    meets_of_invariant (fun before event after other holds taken => preserved before event after holds other taken)
      (fun _ _ other _ => other) initially untouched
  obtain ⟨-, only⟩ := run_invariant_of_meets preserved initially meets goes
  simp only [SharedState.replyTo, session, SharedState.rehydrate, SharedState.loadManifest, named, Option.bind_some]
  cases found : later.cleaner.sessions.lookup file with
  | none => exact .inr (by simp)
  | some other =>
      rw [only file other found rfl]
      cases reads with
      | false => exact .inr rfl
      | true => exact .inl rfl

theorem reply_restored_ann : ∃ system, run (CloudSystem.step office) (.start 86400) annApproved = some system ∧
    (office.replyTo system.cleaner annAsked ⟨"[PERSON_1]".toList, none, none⟩ true = .text "ann".toList ∨
      office.replyTo system.cleaner annAsked ⟨"[PERSON_1]".toList, none, none⟩ true = .unrestored "[PERSON_1]".toList) := by
  have ran : run (CloudSystem.step office) (.start 86400) annApproved = some _ := rfl
  have restored := reply_restored ran (show annAsked.cleanerSessionId = some ['s'] from rfl) rfl rfl rfl
    (List.forall_mem_nil _) ⟨"[PERSON_1]".toList, none, none⟩ true
  exact ⟨_, ran, restored⟩

end MacMgmt.Proof.Cloud
