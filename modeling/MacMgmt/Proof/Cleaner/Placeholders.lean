import MacMgmt.Cleaner.Sessions

/-!
# One original for each placeholder

The counters count within the memory of the process, the entities are on the disk. A new placeholder is new only as long as the
counter has not fallen behind the numbers that are stored.
-/

namespace MacMgmt.Proof.Cleaner
open Lib MacMgmt.Cleaner

/-! ## Ids -/

def categories : List EntityCategory :=
  [.person, .email, .phone, .creditCard, .ssn, .ipAddress, .apiKey, .jwt, .company, .projectName, .internalUrl, .proprietary,
    .custom]

theorem find_categoryPrefix (category : EntityCategory) :
    categories.find? (fun other => other.categoryPrefix = category.categoryPrefix) = some category := by
  cases category <;> decide +kernel

theorem categoryPrefix_injective {first second : EntityCategory} (same : first.categoryPrefix = second.categoryPrefix) :
    first = second := by
  have found := find_categoryPrefix first
  rw [same, find_categoryPrefix second] at found
  exact (Option.some.inj found).symm

theorem underscore_notMem_categoryPrefix (category : EntityCategory) : '_' ∉ category.categoryPrefix := by
  cases category <;> decide

theorem isDigit_of_mem_toDigits {count : Nat} {c : Char} (member : c ∈ Nat.toDigits 10 count) : c.isDigit = true :=
  Nat.isDigit_of_mem_toDigits (by decide) (by decide) member

theorem toDigits_injective {first second : Nat} (same : Nat.toDigits 10 first = Nat.toDigits 10 second) :
    first = second := by
  rw [← @Nat.ofDigitChars_ten_toDigits first, same, Nat.ofDigitChars_ten_toDigits]

theorem placeholderId_inj {first second : EntityCategory} {one two : Nat} :
    placeholderId first one = placeholderId second two ↔ first = second ∧ one = two := by
  constructor
  · intro same
    have apart : '_' ∉ Nat.toDigits 10 one := fun member => absurd (isDigit_of_mem_toDigits member) (by decide)
    obtain ⟨category, -, count⟩ :=
      (List.append_cons_inj_of_notMem (underscore_notMem_categoryPrefix first) apart).mp same
    exact ⟨categoryPrefix_injective category, toDigits_injective count⟩
  · rintro ⟨rfl, rfl⟩
    rfl

theorem placeholderOf_injective {first second : Text} (same : placeholderOf first = placeholderOf second) :
    first = second :=
  List.append_cancel_right (List.cons.inj same).2

structure Labelled (entity : RedactionEntity) : Prop where
  id : ∃ count, entity.id = placeholderId entity.category count
  placeholder : entity.placeholder = placeholderOf entity.id

/-! ## Counting -/

section Counting
variable {counters : Counters} {sessionId : Text}

theorem count_bump (other : Text) (category kind : EntityCategory) :
    (counters.bump sessionId category).count other kind =
      counters.count other kind + if other = sessionId ∧ kind = category then 1 else 0 := by
  unfold Counters.bump Counters.count Counters.ofSession
  rw [Table.lookup_insert_ite]
  by_cases here : other = sessionId
  · subst here
    rw [if_pos rfl, Option.getD_some, Table.lookup_insert_ite]
    by_cases same : kind = category
    · subst same
      simp
    · simp [same]
  · simp [here]

def label (sessionId : Text) : Counters → List (Text × EntityCategory × DetectionSource) → Counters × List RedactionEntity
  | counters, [] => (counters, [])
  | counters, (text, category, source) :: rest =>
      let next := nextPlaceholder counters sessionId category
      let later := label sessionId next.1 rest
      (later.1, newEntity next.2 text category source :: later.2)

def unseen : List Text → List Detection → List Detection
  | _, [] => []
  | seen, detection :: rest =>
      if detection.text ∈ seen then unseen seen rest else detection :: unseen (detection.text :: seen) rest

theorem buildEntities_eq (seen : List Text) (detections : List Detection) :
    buildEntities sessionId counters seen detections =
      label sessionId counters ((unseen seen detections).map fun detection =>
        (detection.text, detection.category, detection.source)) := by
  induction detections generalizing counters seen with
  | nil => rfl
  | cons detection rest ih =>
      rw [buildEntities, unseen]
      split
      · exact ih seen
      · simp only [List.map_cons, label, ih]

theorem addRedactions_eq (texts : List Text) :
    addRedactions sessionId counters texts =
      label sessionId counters ((texts.filter (· ≠ [])).map fun text => (text, .custom, .manual)) := by
  induction texts generalizing counters with
  | nil => rfl
  | cons text rest ih =>
      rw [addRedactions]
      by_cases empty : text = []
      · rw [if_pos empty, ih, List.filter_cons_of_neg (by simpa using empty)]
      · rw [if_neg empty, List.filter_cons_of_pos (by simpa using empty)]
        simp only [List.map_cons, label, ih]

theorem count_label_other {other : Text} (different : other ≠ sessionId) (kind : EntityCategory)
    (items : List (Text × EntityCategory × DetectionSource)) :
    (label sessionId counters items).1.count other kind = counters.count other kind := by
  induction items generalizing counters with
  | nil => rfl
  | cons item rest ih =>
      change (label sessionId (counters.bump sessionId item.2.1) rest).1.count other kind = _
      rw [ih, count_bump, if_neg fun both => different both.1, Nat.add_zero]

theorem count_le_label (kind : EntityCategory) (items : List (Text × EntityCategory × DetectionSource)) :
    counters.count sessionId kind ≤ (label sessionId counters items).1.count sessionId kind := by
  induction items generalizing counters with
  | nil => exact Nat.le_refl _
  | cons item rest ih =>
      refine Nat.le_trans ?_ ih
      rw [nextPlaceholder, count_bump]
      exact Nat.le_add_right _ _

theorem mem_label {items : List (Text × EntityCategory × DetectionSource)} {entity : RedactionEntity}
    (member : entity ∈ (label sessionId counters items).2) :
    ∃ count, counters.count sessionId entity.category < count ∧
      count ≤ (label sessionId counters items).1.count sessionId entity.category ∧
      entity.id = placeholderId entity.category count := by
  induction items generalizing counters with
  | nil => cases member
  | cons item rest ih =>
      obtain ⟨text, category, source⟩ := item
      have bumped : (counters.bump sessionId category).count sessionId category = counters.count sessionId category + 1 := by
        rw [count_bump, if_pos ⟨rfl, rfl⟩]
      rcases List.mem_cons.mp member with rfl | later
      · refine ⟨_, Nat.lt_succ_self _, ?_, rfl⟩
        have grown : (counters.bump sessionId category).count sessionId category ≤
            (label sessionId (counters.bump sessionId category) rest).1.count sessionId category :=
          count_le_label category rest
        rw [bumped] at grown
        exact grown
      · obtain ⟨count, above, below, named⟩ := ih later
        refine ⟨count, Nat.lt_of_le_of_lt ?_ above, below, named⟩
        rw [nextPlaceholder, count_bump]
        exact Nat.le_add_right _ _

theorem labelled_of_mem_label {items : List (Text × EntityCategory × DetectionSource)} {entity : RedactionEntity}
    (member : entity ∈ (label sessionId counters items).2) : Labelled entity := by
  obtain ⟨count, -, -, named⟩ := mem_label member
  refine ⟨⟨count, named⟩, ?_⟩
  clear named
  induction items generalizing counters with
  | nil => cases member
  | cons item rest ih =>
      rcases List.mem_cons.mp member with rfl | later
      · rfl
      · exact ih later

theorem nodup_label (items : List (Text × EntityCategory × DetectionSource)) :
    ((label sessionId counters items).2.map (·.id)).Nodup := by
  induction items generalizing counters with
  | nil => exact List.nodup_nil
  | cons item rest ih =>
      obtain ⟨text, category, source⟩ := item
      refine List.nodup_cons.mpr ⟨fun member => ?_, ih⟩
      obtain ⟨entity, later, same⟩ := List.mem_map.mp member
      obtain ⟨count, above, -, named⟩ := mem_label later
      rw [named] at same
      obtain ⟨rfl, rfl⟩ := placeholderId_inj.mp same
      rw [nextPlaceholder, count_bump, if_pos ⟨rfl, rfl⟩] at above
      exact Nat.lt_irrefl _ above

theorem addRedactions_ids (texts : List Text) :
    (addRedactions sessionId counters texts).2.map (·.id) =
      (List.range' (counters.count sessionId .custom + 1) (texts.filter (· ≠ [])).length).map (placeholderId .custom) := by
  rw [addRedactions_eq]
  generalize texts.filter (· ≠ []) = kept
  induction kept generalizing counters with
  | nil => rfl
  | cons text rest ih =>
      have later := @ih (counters.bump sessionId .custom)
      rw [count_bump, if_pos ⟨rfl, rfl⟩] at later
      rw [List.length_cons, List.range'_succ]
      exact congrArg (placeholderId .custom (counters.count sessionId .custom + 1) :: ·) later

end Counting

/-! ## The stored sessions -/

section Sessions
variable {state after : CleanerState}

def Stored (holds : Text → SessionManifest → Prop) (state : CleanerState) : Prop :=
  ∀ sessionId manifest, state.sessions.lookup sessionId = some manifest → holds sessionId manifest

def Shrinks (state after : CleanerState) : Prop :=
  Stored (fun sessionId manifest => state.sessions.lookup sessionId = some manifest) after

theorem stored_start {holds : Text → SessionManifest → Prop} (ttlSeconds : Int) :
    Stored holds (CleanerState.start ttlSeconds) := by
  intro sessionId manifest found
  cases found

theorem Stored.shrink {holds : Text → SessionManifest → Prop} (stored : Stored holds state) (shrinks : Shrinks state after) :
    Stored holds after :=
  fun sessionId manifest found => stored sessionId manifest (shrinks sessionId manifest found)

theorem Shrinks.trans {middle : CleanerState} (first : Shrinks state middle) (second : Shrinks middle after) :
    Shrinks state after :=
  fun sessionId manifest found => first sessionId manifest (second sessionId manifest found)

theorem shrinks_of_same (same : after.sessions = state.sessions) : Shrinks state after := by
  intro sessionId manifest found
  rwa [same] at found

theorem shrinks_of_erase {sessionId : Text} (erased : after.sessions = state.sessions.erase sessionId) :
    Shrinks state after := by
  intro other manifest found
  rw [erased, Table.lookup_erase_ite] at found
  split at found
  · cases found
  · exact found

theorem Stored.insert {holds : Text → SessionManifest → Prop} {sessionId : Text} {manifest : SessionManifest}
    (stored : Stored holds state) (written : after.sessions = state.sessions.insert sessionId manifest)
    (new : holds sessionId manifest) : Stored holds after := by
  intro other found looked
  rw [written, Table.lookup_insert_ite] at looked
  split at looked
  · rename_i same
    cases looked
    rw [same]
    exact new
  · exact stored other found looked

theorem stored_of_insert {holds : Text → SessionManifest → Prop} {sessionId : Text} {manifest : SessionManifest}
    (written : after.sessions = state.sessions.insert sessionId manifest) (stored : Stored holds after) :
    holds sessionId manifest :=
  stored sessionId manifest (by rw [written, AList.lookup_insert])

theorem load_some {sessionId : Text} {now : Int} {disk : Disk} {manifest : SessionManifest}
    (found : (state.load sessionId now disk).2 = some manifest) :
    state.load sessionId now disk = (state, some manifest) ∧ validateId sessionId = true ∧
      state.sessions.lookup sessionId = some manifest := by
  unfold CleanerState.load at found ⊢
  split at found
  · rename_i readable
    rw [if_pos readable]
    cases stored : state.sessions.lookup sessionId with
    | none =>
        rw [stored] at found
        cases found
    | some old =>
        rw [stored] at found
        dsimp only at found ⊢
        split at found
        · cases found
        · rename_i alive
          cases found
          exact ⟨by rw [if_neg alive], (Bool.and_eq_true_iff.mp readable).1, rfl⟩
  · cases found

theorem load_frame (state : CleanerState) (sessionId : Text) (now : Int) (disk : Disk) :
    (state.load sessionId now disk).1.counters = state.counters ∧ Shrinks state (state.load sessionId now disk).1 := by
  unfold CleanerState.load
  split
  · split
    · exact ⟨rfl, shrinks_of_same rfl⟩
    · split
      · split
        · exact ⟨rfl, shrinks_of_erase rfl⟩
        · exact ⟨rfl, shrinks_of_same rfl⟩
      · exact ⟨rfl, shrinks_of_same rfl⟩
  · exact ⟨rfl, shrinks_of_same rfl⟩

theorem save_cases (state : CleanerState) (manifest : SessionManifest) (disk : Disk) :
    (state.save manifest disk).1.counters = state.counters ∧
      ((state.save manifest disk).2 = true ∧ disk.write = .written ∧
          (state.save manifest disk).1.sessions = state.sessions.insert manifest.id manifest ∨
        (state.save manifest disk).2 = false ∧ (validateId manifest.id = true → disk.write ≠ .written) ∧
          Shrinks state (state.save manifest disk).1) := by
  unfold CleanerState.save
  split
  · split
    · rename_i written
      exact ⟨rfl, .inl ⟨rfl, written, rfl⟩⟩
    · rename_i untouched
      exact ⟨rfl, .inr ⟨rfl, (fun _ written => by rw [untouched] at written; cases written), shrinks_of_same rfl⟩⟩
    · rename_i damaged
      exact ⟨rfl, .inr ⟨rfl, (fun _ written => by rw [damaged] at written; cases written), shrinks_of_erase rfl⟩⟩
  · rename_i invalid
    exact ⟨rfl, .inr ⟨rfl, fun valid => absurd valid invalid, shrinks_of_same rfl⟩⟩

theorem loadAll_shrinks (state : CleanerState) (now : Int) (disk : Text → Disk) : Shrinks state (state.loadAll now disk) := by
  intro sessionId manifest found
  exact (Table.lookup_retain_some.mp found).1

theorem map_mark_ids (removeIds : List Text) (entities : List RedactionEntity) :
    (entities.map (CleanerState.mark removeIds)).map (·.id) = entities.map (·.id) := by
  rw [List.map_map]
  refine List.map_congr_left fun entity _ => ?_
  simp only [Function.comp_apply, CleanerState.mark]
  split <;> rfl

theorem Labelled.mark {entity : RedactionEntity} (labelled : Labelled entity) (removeIds : List Text) :
    Labelled (CleanerState.mark removeIds entity) := by
  unfold CleanerState.mark
  split
  · exact ⟨labelled.id, labelled.placeholder⟩
  · exact labelled

structure Filed (sessionId : Text) (manifest : SessionManifest) : Prop where
  named : manifest.id = sessionId
  valid : validateId sessionId = true
  labelled : ∀ entity ∈ manifest.entities, Labelled entity

def scanned (state : CleanerState) (sessionId text : Text) (detections : List Detection) (now : Int) : SessionManifest :=
  { id := sessionId, createdAt := now, status := .scanned,
    entities := (buildEntities sessionId state.counters [] detections).2, redactedText := none, originalText := text }

def approved (state : CleanerState) (params : ApproveParams) (manifest : SessionManifest) : SessionManifest :=
  let entities := manifest.entities.map (CleanerState.mark params.removeIds) ++
    (addRedactions params.sessionId state.counters params.addRedactions).2
  { manifest with entities, redactedText := some (redact entities manifest.originalText), status := .approved }

theorem scan_cases (state : CleanerState) (sessionId text : Text) (detections : List Detection) (now : Int) (disk : Disk) :
    (state.scan sessionId text detections now disk).1.counters = (buildEntities sessionId state.counters [] detections).1 ∧
      ((state.scan sessionId text detections now disk).1.sessions =
          state.sessions.insert sessionId (scanned state sessionId text detections now) ∨
        Shrinks state (state.scan sessionId text detections now disk).1) := by
  unfold CleanerState.scan
  dsimp only
  split
  · exact ⟨rfl, .inr (shrinks_of_same rfl)⟩
  · obtain ⟨counters, saved⟩ :=
      save_cases { state with counters := (buildEntities sessionId state.counters [] detections).1 }
        (scanned state sessionId text detections now) disk
    refine ⟨counters, ?_⟩
    rcases saved with ⟨-, -, written⟩ | ⟨-, -, shrinks⟩
    · exact .inl written
    · exact .inr shrinks

def Approves (state : CleanerState) (params : ApproveParams) (now : Int) (disk : Disk) (manifest : SessionManifest) : Prop :=
  (state.load params.sessionId now disk).2 = some manifest ∧ disk.write = .written

theorem approve_cases (filed : Stored Filed state) (params : ApproveParams) (now : Int) (disk : Disk) :
    (∃ manifest, Approves state params now disk manifest ∧
      (state.approve params now disk).1.counters =
        (addRedactions params.sessionId state.counters params.addRedactions).1 ∧
      (state.approve params now disk).1.sessions =
        state.sessions.insert params.sessionId (approved state params manifest)) ∨
    (∀ manifest, ¬ Approves state params now disk manifest) ∧ Shrinks state (state.approve params now disk).1 ∧
      ((state.approve params now disk).1.counters = state.counters ∨
        (state.approve params now disk).1.counters =
          (addRedactions params.sessionId state.counters params.addRedactions).1) := by
  cases found : (state.load params.sessionId now disk).2 with
  | none =>
      obtain ⟨counters, shrinks⟩ := load_frame state params.sessionId now disk
      have missed : (state.approve params now disk).1 = (state.load params.sessionId now disk).1 := by
        rw [CleanerState.approve, ← Prod.eta (state.load params.sessionId now disk), found]
      rw [missed]
      exact .inr ⟨(fun manifest approves => by rw [Approves, found] at approves; cases approves.1), shrinks, .inl counters⟩
  | some manifest =>
      obtain ⟨loaded, valid, stored⟩ := load_some found
      have named := (filed params.sessionId manifest stored).named
      obtain ⟨counters, saved⟩ := save_cases
        { state with counters := (addRedactions params.sessionId state.counters params.addRedactions).1 }
        (approved state params manifest) disk
      have result : (state.approve params now disk).1 =
          (CleanerState.save { state with counters := (addRedactions params.sessionId state.counters params.addRedactions).1 }
            (approved state params manifest) disk).1 := by
        rw [CleanerState.approve, loaded]
        rfl
      have same : (approved state params manifest).id = params.sessionId := named
      rw [result, counters]
      rcases saved with ⟨-, written, sessions⟩ | ⟨-, unwritten, shrinks⟩
      · refine .inl ⟨manifest, ⟨found, written⟩, rfl, ?_⟩
        rw [sessions, same]
      · refine .inr ⟨fun other approves => unwritten (by rw [same]; exact valid) approves.2, shrinks, .inr rfl⟩

theorem filed_scanned {sessionId : Text} (valid : validateId sessionId = true) (text : Text) (detections : List Detection)
    (now : Int) : Filed sessionId (scanned state sessionId text detections now) := by
  refine ⟨rfl, valid, fun entity member => ?_⟩
  rw [scanned, buildEntities_eq] at member
  exact labelled_of_mem_label member

theorem Filed.approved {params : ApproveParams} {manifest : SessionManifest} (filed : Filed params.sessionId manifest)
    (state : CleanerState) :
    Filed params.sessionId (approved state params manifest) := by
  refine ⟨filed.named, filed.valid, fun entity member => ?_⟩
  rcases List.mem_append.mp member with marked | added
  · obtain ⟨old, stored, rfl⟩ := List.mem_map.mp marked
    exact (filed.labelled old stored).mark params.removeIds
  · rw [addRedactions_eq] at added
    exact labelled_of_mem_label added

/-! ## Distinct placeholders -/

structure Distinct (manifest : SessionManifest) : Prop where
  ids : (manifest.entities.map (·.id)).Nodup
  placeholders : (manifest.entities.map (·.placeholder)).Nodup
  denotes : ∀ first ∈ manifest.entities, ∀ second ∈ manifest.entities,
    first.placeholder = second.placeholder → first.original = second.original

def DistinctPlaceholders (state : CleanerState) : Prop := Stored (fun _ manifest => Distinct manifest) state

/-- An approval that is written numbers its manual redactions from the counter on, and none of these numbers is taken. -/
def NumbersFree (state : CleanerState) : CleanerEvent → Prop
  | .approve params now disk => ∀ manifest, Approves state params now disk manifest →
      ∀ entity ∈ manifest.entities, ∀ count, entity.id = placeholderId .custom count →
        state.counters.count params.sessionId .custom < count →
        state.counters.count params.sessionId .custom + (params.addRedactions.filter (· ≠ [])).length < count
  | _ => True

theorem distinct_iff {manifest : SessionManifest} (labelled : ∀ entity ∈ manifest.entities, Labelled entity) :
    Distinct manifest ↔ (manifest.entities.map (·.id)).Nodup := by
  refine ⟨Distinct.ids, fun ids => ?_⟩
  have placeholders : manifest.entities.map (·.placeholder) = (manifest.entities.map (·.id)).map placeholderOf := by
    rw [List.map_map]
    exact List.map_congr_left fun entity member => (labelled entity member).placeholder
  have apart : (manifest.entities.map (·.placeholder)).Nodup := by
    rw [placeholders]
    exact ids.map fun _ _ => placeholderOf_injective
  refine ⟨ids, apart, fun first one second two same => ?_⟩
  rw [List.inj_on_of_nodup_map apart one two same]

theorem distinct_scanned {sessionId : Text} (text : Text) (detections : List Detection) (now : Int) :
    Distinct (scanned state sessionId text detections now) := by
  refine (distinct_iff fun entity member => ?_).mpr ?_
  · rw [scanned, buildEntities_eq] at member
    exact labelled_of_mem_label member
  · rw [scanned, buildEntities_eq]
    exact nodup_label _

theorem approved_ids (params : ApproveParams) (manifest : SessionManifest) :
    (approved state params manifest).entities.map (·.id) =
      manifest.entities.map (·.id) ++
        (List.range' (state.counters.count params.sessionId .custom + 1)
          (params.addRedactions.filter (· ≠ [])).length).map (placeholderId .custom) := by
  rw [approved, List.map_append, map_mark_ids, addRedactions_ids]

theorem distinct_approved_iff (state : CleanerState) {params : ApproveParams} {manifest : SessionManifest}
    (filed : Filed params.sessionId manifest) (distinct : Distinct manifest) :
    Distinct (approved state params manifest) ↔
      ∀ entity ∈ manifest.entities, ∀ count, entity.id = placeholderId .custom count →
        state.counters.count params.sessionId .custom < count →
        state.counters.count params.sessionId .custom + (params.addRedactions.filter (· ≠ [])).length < count := by
  rw [distinct_iff (filed.approved state).labelled, approved_ids, List.nodup_append']
  have numbered : ((List.range' (state.counters.count params.sessionId .custom + 1)
      (params.addRedactions.filter (· ≠ [])).length).map (placeholderId .custom)).Nodup :=
    (List.nodup_range' 1 Nat.one_pos).map fun _ _ same => (placeholderId_inj.mp same).2
  constructor
  · rintro ⟨-, -, apart⟩ entity member count named above
    by_contra within
    refine apart (List.mem_map_of_mem member) (List.mem_map.mpr ⟨count, ?_, named.symm⟩)
    rw [List.mem_range'_1]
    omega
  · intro free
    refine ⟨distinct.ids, numbered, fun id old new => ?_⟩
    obtain ⟨entity, member, rfl⟩ := List.mem_map.mp old
    obtain ⟨count, within, named⟩ := List.mem_map.mp new
    rw [List.mem_range'_1] at within
    have beyond := free entity member count named.symm (by omega)
    omega

theorem sessionDelete_shrinks (sessionId : Text) (disk : Disk) : Shrinks state (state.sessionDelete sessionId disk) := by
  unfold CleanerState.sessionDelete
  dsimp only
  split
  · exact shrinks_of_erase rfl
  · exact shrinks_of_same rfl

theorem rehydrate_fst (sessionId text : Text) (now : Int) (disk : Disk) :
    (state.rehydrate sessionId text now disk).1 = (state.load sessionId now disk).1 := by
  unfold CleanerState.rehydrate
  split <;> rename_i loaded <;> rw [loaded]

theorem filed_step {event : CleanerEvent} (filed : Stored Filed state) (taken : cleanerStep state event = some after) :
    Stored Filed after := by
  cases event <;> simp only [cleanerStep, Option.ite_none_right_eq_some, Option.some.injEq] at taken
  case scan sessionId text detections now disk =>
    obtain ⟨unused, rfl⟩ := taken
    rcases (scan_cases state sessionId text detections now disk).2 with written | shrinks
    · exact filed.insert written (filed_scanned unused.1 text detections now)
    · exact filed.shrink shrinks
  case approve params now disk =>
    subst taken
    rcases approve_cases filed params now disk with ⟨manifest, approves, -, written⟩ | ⟨-, shrinks, -⟩
    · have old := filed params.sessionId manifest (load_some approves.1).2.2
      exact filed.insert written (old.approved state)
    · exact filed.shrink shrinks
  case rehydrate sessionId text now disk =>
    subst taken
    rw [rehydrate_fst]
    exact filed.shrink (load_frame state sessionId now disk).2
  case sessionList now disk =>
    subst taken
    exact filed.shrink (loadAll_shrinks state now disk)
  case sessionDelete sessionId disk =>
    subst taken
    exact filed.shrink (sessionDelete_shrinks sessionId disk)
  case restart now disk =>
    subst taken
    exact filed.shrink (loadAll_shrinks { state with counters := ∅ } now disk)

theorem distinctPlaceholders_step {event : CleanerEvent} (filed : Stored Filed state) (distinct : DistinctPlaceholders state)
    (taken : cleanerStep state event = some after) : DistinctPlaceholders after ↔ NumbersFree state event := by
  cases event <;> simp only [cleanerStep, Option.ite_none_right_eq_some, Option.some.injEq] at taken
  case scan sessionId text detections now disk =>
    obtain ⟨unused, rfl⟩ := taken
    refine iff_of_true ?_ trivial
    rcases (scan_cases state sessionId text detections now disk).2 with written | shrinks
    · exact distinct.insert written (distinct_scanned text detections now)
    · exact distinct.shrink shrinks
  case approve params now disk =>
    subst taken
    rcases approve_cases filed params now disk with ⟨manifest, approves, -, written⟩ | ⟨unwritten, shrinks, -⟩
    · have found := (load_some approves.1).2.2
      have one := distinct_approved_iff state (filed params.sessionId manifest found)
        (distinct params.sessionId manifest found)
      constructor
      · intro kept other same
        cases approves.1.symm.trans same.1
        exact one.mp (stored_of_insert written kept)
      · intro free
        exact distinct.insert written (one.mpr (free manifest approves))
    · exact iff_of_true (distinct.shrink shrinks) fun manifest approves => absurd approves (unwritten manifest)
  case rehydrate sessionId text now disk =>
    subst taken
    rw [rehydrate_fst]
    exact iff_of_true (distinct.shrink (load_frame state sessionId now disk).2) trivial
  case sessionList now disk =>
    subst taken
    exact iff_of_true (distinct.shrink (loadAll_shrinks state now disk)) trivial
  case sessionDelete sessionId disk =>
    subst taken
    exact iff_of_true (distinct.shrink (sessionDelete_shrinks sessionId disk)) trivial
  case restart now disk =>
    subst taken
    exact iff_of_true
      (distinct.shrink (loadAll_shrinks { state with counters := ∅ } now disk)) trivial

theorem always_distinct_iff {ttlSeconds : Int} {events : List CleanerEvent} {final : CleanerState}
    (ran : run cleanerStep (CleanerState.start ttlSeconds) events = some final) :
    Always cleanerStep DistinctPlaceholders (CleanerState.start ttlSeconds) events ↔
      Meets cleanerStep NumbersFree (CleanerState.start ttlSeconds) events :=
  always_iff_meets (fun _ _ _ filed taken => filed_step filed taken)
    (fun _ _ _ filed distinct taken => distinctPlaceholders_step filed distinct taken)
    (stored_start ttlSeconds) (stored_start ttlSeconds) ran

/-! ## While the counters last -/

def Ahead (state : CleanerState) : Prop :=
  Stored (fun sessionId manifest => ∀ entity ∈ manifest.entities, ∀ count,
    entity.id = placeholderId entity.category count → count ≤ state.counters.count sessionId entity.category) state

/-- The process goes on, and what it forgets is not stored any more. -/
def Steady : CleanerEvent → Prop
  | .sessionDelete _ disk => disk.removes = true
  | .restart _ _ => False
  | _ => True

theorem Ahead.grow (ahead : Ahead state) (shrinks : Shrinks state after)
    (grows : ∀ sessionId category, state.counters.count sessionId category ≤ after.counters.count sessionId category) :
    Ahead after :=
  fun sessionId manifest found entity member count named =>
    Nat.le_trans (ahead sessionId manifest (shrinks sessionId manifest found) entity member count named) (grows _ _)

theorem count_le_labelled (counters : Counters) (sessionId : Text)
    (items : List (Text × EntityCategory × DetectionSource)) (other : Text) (category : EntityCategory) :
    counters.count other category ≤ (label sessionId counters items).1.count other category := by
  by_cases same : other = sessionId
  · subst same
    exact count_le_label category items
  · rw [count_label_other same]

theorem le_count_of_mem_label {counters : Counters} {sessionId : Text}
    {items : List (Text × EntityCategory × DetectionSource)} {entity : RedactionEntity}
    (member : entity ∈ (label sessionId counters items).2) {count : Nat}
    (named : entity.id = placeholderId entity.category count) :
    count ≤ (label sessionId counters items).1.count sessionId entity.category := by
  obtain ⟨number, -, below, numbered⟩ := mem_label member
  rw [(placeholderId_inj.mp (named.symm.trans numbered)).2]
  exact below

theorem Ahead.scan (ahead : Ahead state) (sessionId text : Text) (detections : List Detection) (now : Int) (disk : Disk) :
    Ahead (state.scan sessionId text detections now disk).1 := by
  obtain ⟨counters, sessions⟩ := scan_cases state sessionId text detections now disk
  rw [buildEntities_eq] at counters
  have grows := fun other category => count_le_labelled state.counters sessionId
    ((unseen [] detections).map fun detection => (detection.text, detection.category, detection.source)) other category
  rw [← counters] at grows
  rcases sessions with written | shrinks
  · intro other manifest found entity member count named
    rw [written, Table.lookup_insert_ite] at found
    split at found
    · rename_i same
      cases found
      subst same
      rw [scanned, buildEntities_eq] at member
      rw [counters]
      exact le_count_of_mem_label member named
    · exact Nat.le_trans (ahead other manifest found entity member count named) (grows _ _)
  · exact ahead.grow shrinks grows

theorem Ahead.approve (filed : Stored Filed state) (ahead : Ahead state) (params : ApproveParams) (now : Int) (disk : Disk) :
    Ahead (state.approve params now disk).1 := by
  have grows := fun other category => count_le_labelled state.counters params.sessionId
    ((params.addRedactions.filter (· ≠ [])).map fun text => (text, .custom, .manual)) other category
  rw [← addRedactions_eq] at grows
  rcases approve_cases filed params now disk with ⟨manifest, approves, counters, written⟩ | ⟨-, shrinks, counters⟩
  · have stored := (load_some approves.1).2.2
    rw [← counters] at grows
    intro other found looked entity member count named
    rw [written, Table.lookup_insert_ite] at looked
    split at looked
    · rename_i same
      cases looked
      subst same
      rcases List.mem_append.mp member with marked | added
      · obtain ⟨old, before, rfl⟩ := List.mem_map.mp marked
        have kept : (CleanerState.mark params.removeIds old).category = old.category ∧
            (CleanerState.mark params.removeIds old).id = old.id := by
          unfold CleanerState.mark
          split <;> exact ⟨rfl, rfl⟩
        rw [kept.1] at named ⊢
        rw [kept.2] at named
        exact Nat.le_trans (ahead _ manifest stored old before count named) (grows _ _)
      · rw [counters, addRedactions_eq]
        rw [addRedactions_eq] at added
        exact le_count_of_mem_label added named
    · exact Nat.le_trans (ahead other found looked entity member count named) (grows _ _)
  · refine ahead.grow shrinks fun other category => ?_
    rcases counters with same | labelled
    · rw [same]
    · rw [labelled]
      exact grows other category

theorem Ahead.sessionDelete (filed : Stored Filed state) (ahead : Ahead state) {sessionId : Text} {disk : Disk}
    (removes : disk.removes = true) : Ahead (state.sessionDelete sessionId disk) := by
  have kept : ∀ other manifest, (state.sessionDelete sessionId disk).sessions.lookup other = some manifest →
      other ≠ sessionId := by
    rintro other manifest found rfl
    unfold CleanerState.sessionDelete at found
    by_cases valid : validateId other = true
    · simp only [valid, removes, Bool.and_self, if_true] at found
      rw [AList.lookup_erase] at found
      cases found
    · simp only [valid, Bool.false_and, Bool.false_eq_true, if_false] at found
      exact valid (filed other manifest found).valid
  intro other manifest found entity member count named
  have before := ahead other manifest (sessionDelete_shrinks sessionId disk other manifest found) entity member count named
  have counters : (state.sessionDelete sessionId disk).counters = state.counters.erase sessionId := by
    unfold CleanerState.sessionDelete
    dsimp only
    split <;> rfl
  rw [counters]
  unfold Counters.count Counters.ofSession at before ⊢
  rw [AList.lookup_erase_ne (kept other manifest found)]
  exact before

theorem ahead_step {event : CleanerEvent} (steady : Steady event) (filed : Stored Filed state) (ahead : Ahead state)
    (taken : cleanerStep state event = some after) : Ahead after := by
  cases event <;> simp only [cleanerStep, Option.ite_none_right_eq_some, Option.some.injEq] at taken
  case scan sessionId text detections now disk =>
    obtain ⟨-, rfl⟩ := taken
    exact ahead.scan sessionId text detections now disk
  case approve params now disk =>
    subst taken
    exact ahead.approve filed params now disk
  case rehydrate sessionId text now disk =>
    subst taken
    rw [rehydrate_fst]
    obtain ⟨counters, shrinks⟩ := load_frame state sessionId now disk
    exact ahead.grow shrinks fun _ _ => by rw [counters]
  case sessionList now disk =>
    subst taken
    exact ahead.grow (loadAll_shrinks state now disk) fun _ _ => Nat.le_refl _
  case sessionDelete sessionId disk =>
    subst taken
    exact ahead.sessionDelete filed steady
  case restart => exact absurd steady id

theorem numbersFree_of_ahead {event : CleanerEvent} (filed : Stored Filed state) (ahead : Ahead state) :
    NumbersFree state event := by
  cases event with
  | approve params now disk =>
      intro manifest approves entity member count named above
      have found := (load_some approves.1).2.2
      obtain ⟨number, numbered⟩ := ((filed params.sessionId manifest found).labelled entity member).id
      obtain ⟨category, -⟩ := placeholderId_inj.mp (numbered.symm.trans named)
      have below := ahead params.sessionId manifest found entity member count (by rw [category, named])
      rw [category] at below
      omega
  | _ => trivial

/-- Without restarts, and when every deletion removes its file, the placeholders stay distinct. -/
theorem numbersFree_of_steady {ttlSeconds : Int} {events : List CleanerEvent} (steady : ∀ event ∈ events, Steady event) :
    Meets cleanerStep NumbersFree (CleanerState.start ttlSeconds) events := by
  have preserved : ∀ state event after, Steady event → Stored Filed state ∧ Ahead state →
      cleanerStep state event = some after → Stored Filed after ∧ Ahead after :=
    fun _ _ _ allowed holds taken => ⟨filed_step holds.1 taken, ahead_step allowed holds.1 holds.2 taken⟩
  have enough : ∀ state event, Steady event → Stored Filed state ∧ Ahead state → NumbersFree state event :=
    fun _ _ _ holds => numbersFree_of_ahead holds.1 holds.2
  exact meets_of_invariant preserved enough ⟨stored_start ttlSeconds, stored_start ttlSeconds⟩ steady

theorem distinct_of_steady {ttlSeconds : Int} {events : List CleanerEvent} {final : CleanerState}
    (steady : ∀ event ∈ events, Steady event) (ran : run cleanerStep (CleanerState.start ttlSeconds) events = some final) :
    DistinctPlaceholders final := by
  have preserved : ∀ state event after, Stored Filed state ∧ DistinctPlaceholders state → NumbersFree state event →
      cleanerStep state event = some after → Stored Filed after ∧ DistinctPlaceholders after :=
    fun _ _ _ holds free taken => ⟨filed_step holds.1 taken, (distinctPlaceholders_step holds.1 holds.2 taken).mpr free⟩
  exact (run_invariant_of_meets preserved ⟨stored_start ttlSeconds, stored_start ttlSeconds⟩
    (numbersFree_of_steady steady) ran).2

/-- One approval before a restart and one after it, each with a manual redaction. -/
def restartBetween : List CleanerEvent :=
  let disk : Disk := ⟨true, .written, true⟩
  [.scan ['s'] "ann, bob, cy".toList [⟨"ann".toList, .person, .llm, by decide⟩] 0 disk,
    .approve ⟨['s'], [], ["bob".toList]⟩ 1 disk, .restart 2 fun _ => disk,
    .approve ⟨['s'], [], ["cy".toList]⟩ 3 disk]

theorem always_distinct_ids : ∃ final, run cleanerStep (CleanerState.start 86400) (restartBetween.take 3) = some final ∧
    (Always cleanerStep DistinctPlaceholders (CleanerState.start 86400) (restartBetween.take 3) ↔
      Meets cleanerStep NumbersFree (CleanerState.start 86400) (restartBetween.take 3)) :=
  ⟨_, rfl, always_distinct_iff rfl⟩

theorem distinct_of_steady_ids : ∃ final,
    run cleanerStep (CleanerState.start 86400) (restartBetween.take 2) = some final ∧ DistinctPlaceholders final := by
  have steady : ∀ event ∈ restartBetween.take 2, Steady event :=
    List.forall_mem_cons.mpr ⟨trivial, List.forall_mem_singleton.mpr trivial⟩
  exact ⟨_, rfl, distinct_of_steady steady rfl⟩

theorem repeated_placeholder : ∃ final,
    run cleanerStep (CleanerState.start 86400) restartBetween = some final ∧ ¬ DistinctPlaceholders final := by
  refine ⟨_, rfl, fun distinct => ?_⟩
  exact absurd (distinct ['s'] _ rfl).ids (by decide +kernel)

end Sessions

end MacMgmt.Proof.Cleaner
