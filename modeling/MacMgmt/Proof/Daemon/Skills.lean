import MacMgmt.Daemon.Skills

/-!
# Skills after a sync, and the directory's lock

A stale link is removed before its path is realised, so a skill that cannot be realised loses its version; and the guard of
one run locks the directory under another.
-/

namespace MacMgmt.Proof.Skills
open Lib Daemon SkillsDir SkillSync

variable {texts : SkillTexts} {dir after : SkillsDir} {slug path : String}

/-! ## One skill -/

/-- The entry of one skill may have changed, and paths may have been fetched. -/
structure Frame (slug : String) (dir after : SkillsDir) : Prop where
  others : ∀ name, name ≠ slug → after.entries.lookup name = dir.entries.lookup name
  store : dir.store ⊆ after.store
  locked : after.locked = dir.locked

theorem Frame.refl (slug : String) (dir : SkillsDir) : Frame slug dir dir :=
  ⟨fun _ _ => rfl, Finset.Subset.refl _, rfl⟩

theorem Frame.trans {last : SkillsDir} (first : Frame slug dir after) (second : Frame slug after last) :
    Frame slug dir last :=
  ⟨fun name other => (second.others name other).trans (first.others name other), first.store.trans second.store,
    second.locked.trans first.locked⟩

theorem frame_insert (slug : String) (dir : SkillsDir) (entry : SkillEntry) :
    Frame slug dir { dir with entries := dir.entries.insert slug entry } :=
  ⟨fun _ other => AList.lookup_insert_ne other, Finset.Subset.refl _, rfl⟩

theorem frame_erase (slug : String) (dir : SkillsDir) : Frame slug dir { dir with entries := dir.entries.erase slug } :=
  ⟨fun _ other => AList.lookup_erase_ne other, Finset.Subset.refl _, rfl⟩

theorem frame_fetch (slug path : String) (dir : SkillsDir) : Frame slug dir { dir with store := insert path dir.store } :=
  ⟨fun _ _ => rfl, Finset.subset_insert path dir.store, rfl⟩

theorem materializeBuiltin_frame (texts : SkillTexts) (dir : SkillsDir) (slug : String) :
    Frame slug dir (dir.materializeBuiltin texts slug).1 := by
  unfold materializeBuiltin
  split
  · exact .refl slug dir
  · split
    · exact .refl slug dir
    · split
      · exact .refl slug dir
      · split
        · exact .refl slug dir
        · exact frame_insert slug dir _

theorem prepare_frame (texts : SkillTexts) (dir : SkillsDir) (slug path : String) :
    Frame slug dir (dir.prepare texts slug path).1 := by
  unfold prepare
  split
  · exact .refl slug dir
  · split
    · exact materializeBuiltin_frame texts dir slug
    · dsimp only
      split
      · split
        · exact .refl slug dir
        · split
          · exact .refl slug dir
          · exact frame_erase slug dir
      · exact .refl slug dir

theorem realise_frame (dir : SkillsDir) (slug path : String) (outcome : Realisation) :
    Frame slug dir (dir.realise slug path outcome).1 := by
  cases outcome with
  | notStarted => exact .refl slug dir
  | failed => exact .refl slug dir
  | fetched =>
      unfold realise
      dsimp only
      split
      · exact frame_fetch slug path dir
      · split
        · exact frame_fetch slug path dir
        · exact (frame_fetch slug path dir).trans (frame_insert slug _ _)

theorem syncSkill_frame (texts : SkillTexts) (dir : SkillsDir) (slug path : String) (outcome : Realisation) :
    Frame slug dir (dir.syncSkill texts slug path outcome).1 := by
  have prepared := prepare_frame texts dir slug path
  unfold syncSkill
  split
  · rename_i first result same
    rw [same] at prepared
    exact prepared
  · rename_i first same
    rw [same] at prepared
    exact prepared.trans (realise_frame first slug path outcome)

theorem materializeBuiltin_spec (texts : SkillTexts) (builtin : isBuiltinPath path = true) :
    ((dir.materializeBuiltin texts slug).2 = .failed → (dir.materializeBuiltin texts slug).1 = dir) ∧
    ((dir.materializeBuiltin texts slug).2 ≠ .failed → (dir.materializeBuiltin texts slug).1.InPlace texts slug path) := by
  unfold materializeBuiltin
  cases embedded : texts.embedded slug with
  | none => exact ⟨fun _ => rfl, fun wrong => absurd rfl wrong⟩
  | some content =>
      have placed {dir : SkillsDir} (text : dir.text texts slug = some content) : dir.InPlace texts slug path := by
        unfold InPlace
        rw [if_pos builtin]
        exact ⟨content, embedded, text⟩
      dsimp only
      split
      · rename_i target found
        refine ⟨fun _ => rfl, fun result => placed ?_⟩
        by_cases same : target ∈ dir.store ∧ texts.stored target = some content
        · unfold SkillsDir.text
          rw [found]
          exact (if_pos same.1).trans same.2
        · rw [if_neg same] at result
          exact absurd rfl result
      · split
        · rename_i found
          refine ⟨fun _ => rfl, fun _ => placed ?_⟩
          unfold SkillsDir.text
          rw [found]
        · split
          · exact ⟨fun _ => rfl, fun wrong => absurd rfl wrong⟩
          · refine ⟨(fun wrong => by cases wrong), fun _ => placed ?_⟩
            unfold SkillsDir.text
            rw [AList.lookup_insert]

theorem prepare_settled (texts : SkillTexts) (settled : dir.attempts slug path = false) :
    ∃ result, (dir.prepare texts slug path).2 = some result ∧
      (result = .failed → (dir.prepare texts slug path).1 = dir) ∧
      (result ≠ .failed → (dir.prepare texts slug path).1.InPlace texts slug path) := by
  unfold prepare
  split
  · exact ⟨.failed, rfl, fun _ => rfl, fun wrong => absurd rfl wrong⟩
  · rename_i safe
    split
    · rename_i builtin
      exact ⟨_, rfl, materializeBuiltin_spec texts builtin⟩
    · rename_i stored
      have linked : dir.entries.lookup slug = some (.link path) := by
        simpa [attempts, stored, show isSafeSkillSlug slug = true by simpa using safe] using settled
      simp only [linked, if_true]
      refine ⟨.upToDate, rfl, (fun wrong => by cases wrong), fun _ => ?_⟩
      unfold InPlace
      rw [if_neg stored]
      exact linked

def unlinked : Option SkillEntry → Option SkillEntry
  | some (.link _) => none
  | entry => entry

theorem prepare_attempts (texts : SkillTexts) (unlocked : dir.locked = false) (attempts : dir.attempts slug path = true) :
    (dir.prepare texts slug path).2 = (if inNixStore path then none else some .failed) ∧
      (dir.prepare texts slug path).1.entries.lookup slug = unlinked (dir.entries.lookup slug) := by
  simp only [SkillsDir.attempts, Bool.and_eq_true, Bool.not_eq_true', decide_eq_true_eq] at attempts
  obtain ⟨⟨safe, stored⟩, stale⟩ := attempts
  unfold prepare
  simp only [safe, stored, Bool.not_true, Bool.false_eq_true, if_false]
  split
  · rename_i target found
    have different : target ≠ path := fun same => stale (same ▸ found)
    rw [if_neg different, if_neg (by simp [unlocked])]
    refine ⟨rfl, ?_⟩
    rw [found, AList.lookup_erase]
    rfl
  · rename_i other
    refine ⟨rfl, ?_⟩
    cases found : dir.entries.lookup slug with
    | none => rfl
    | some entry =>
        cases entry with
        | directory text => rfl
        | link target => exact absurd found (other target)

theorem syncSkill_settled (texts : SkillTexts) (settled : dir.attempts slug path = false) (outcome : Realisation) :
    ∃ result, (dir.syncSkill texts slug path outcome).2 = some result ∧
      (result = .failed → (dir.syncSkill texts slug path outcome).1 = dir) ∧
      (result ≠ .failed → (dir.syncSkill texts slug path outcome).1.InPlace texts slug path) := by
  obtain ⟨result, found, spec⟩ := prepare_settled texts settled
  have same : dir.syncSkill texts slug path outcome = ((dir.prepare texts slug path).1, some result) := by
    unfold syncSkill
    rw [show dir.prepare texts slug path = (_, some result) from Prod.ext rfl found]
  rw [same]
  exact ⟨result, rfl, spec⟩

theorem realise_fetched (slug path : String) (unlocked : dir.locked = false) :
    ((∃ text, dir.entries.lookup slug = some (.directory text)) ∧ (dir.realise slug path .fetched).2 = some .failed ∧
      (dir.realise slug path .fetched).1.entries = dir.entries) ∨
    ((dir.realise slug path .fetched).2 = some .realised ∧
      (dir.realise slug path .fetched).1.entries.lookup slug = some (.link path)) := by
  unfold realise
  dsimp only
  split
  · rename_i text found
    exact .inl ⟨⟨text, found⟩, rfl, rfl⟩
  · rw [if_neg (by simp [unlocked])]
    exact .inr ⟨rfl, AList.lookup_insert _⟩

theorem syncSkill_attempts (texts : SkillTexts) (unlocked : dir.locked = false) (attempts : dir.attempts slug path = true)
    (outcome : Realisation) :
    ((dir.syncSkill texts slug path outcome).2 = some .realised ∧ (inNixStore path = true ∧ outcome = .fetched) ∧
      (dir.syncSkill texts slug path outcome).1.entries.lookup slug = some (.link path)) ∨
    ((dir.syncSkill texts slug path outcome).2 =
        (if inNixStore path = true ∧ outcome = .notStarted then none else some .failed) ∧
      (dir.syncSkill texts slug path outcome).1.entries.lookup slug = unlinked (dir.entries.lookup slug) ∧
      ∀ target, dir.entries.lookup slug = some (.link target) → ¬ (inNixStore path = true ∧ outcome = .fetched)) := by
  obtain ⟨result, entry⟩ := prepare_attempts texts unlocked attempts
  have frame := prepare_frame texts dir slug path
  unfold syncSkill
  generalize dir.prepare texts slug path = prepared at result entry frame
  obtain ⟨first, settled⟩ := prepared
  dsimp only at result entry frame
  cases stored : inNixStore path with
  | false =>
      rw [stored] at result
      cases result
      exact .inr ⟨by simp, entry, by simp⟩
  | true =>
      rw [stored] at result
      cases result
      cases outcome with
      | notStarted => exact .inr ⟨rfl, entry, by simp⟩
      | failed => exact .inr ⟨rfl, entry, by simp⟩
      | fetched =>
          rcases realise_fetched slug path (frame.locked.trans unlocked) with
            ⟨⟨text, directory⟩, failed, same⟩ | ⟨realised, linked⟩
          · refine .inr ⟨failed, ?_, fun target found => ?_⟩
            · show (first.realise slug path .fetched).1.entries.lookup slug = _
              rw [same, entry]
            · rw [found, directory] at entry
              cases entry
          · exact .inl ⟨realised, ⟨rfl, rfl⟩, linked⟩

theorem attempts_congr {other : SkillsDir} (same : dir.entries.lookup slug = other.entries.lookup slug) :
    dir.attempts slug path = other.attempts slug path := by
  unfold SkillsDir.attempts
  rw [same]

theorem syncSkill_none_iff (texts : SkillTexts) (slug path : String) (unlocked : dir.locked = false)
    (outcome : String → Realisation) :
    (dir.syncSkill texts slug path (outcome slug)).2 = none ↔ dir.givesUp outcome ⟨slug, path⟩ = true := by
  cases attempts : dir.attempts slug path with
  | false =>
      obtain ⟨result, found, -⟩ := syncSkill_settled texts attempts (outcome slug)
      simp [found, givesUp, attempts]
  | true =>
      rcases syncSkill_attempts texts unlocked attempts (outcome slug) with ⟨found, ⟨-, fetched⟩, -⟩ | ⟨found, -⟩
      · rw [found]
        simp [givesUp, fetched]
      · simp [found, givesUp, attempts]

theorem syncSkill_inPlace (unlocked : dir.locked = false) {outcome : Realisation} {result : SkillResult}
    (found : (dir.syncSkill texts slug path outcome).2 = some result) (succeeded : result ≠ .failed) :
    (dir.syncSkill texts slug path outcome).1.InPlace texts slug path := by
  cases attempts : dir.attempts slug path with
  | false =>
      obtain ⟨other, same, -, placed⟩ := syncSkill_settled texts attempts outcome
      rw [found] at same
      cases same
      exact placed succeeded
  | true =>
      rcases syncSkill_attempts texts unlocked attempts outcome with ⟨-, -, linked⟩ | ⟨failed, -⟩
      · unfold InPlace
        rw [if_neg (by simp [SkillsDir.attempts] at attempts; simp [attempts])]
        exact linked
      · rw [found] at failed
        split at failed
        · cases failed
        · cases failed
          exact absurd rfl succeeded

theorem syncSkill_failed (unlocked : dir.locked = false) {outcome : Realisation}
    (failed : ∀ result, (dir.syncSkill texts slug path outcome).2 = some result → result = .failed) :
    (dir.syncSkill texts slug path outcome).1.entries.lookup slug = dir.entries.lookup slug ∨
    dir.attempts slug path = true ∧ ∃ target, dir.entries.lookup slug = some (.link target) ∧
      ¬ (inNixStore path = true ∧ outcome = .fetched) := by
  cases attempts : dir.attempts slug path with
  | false =>
      obtain ⟨result, found, kept, -⟩ := syncSkill_settled texts attempts outcome
      exact .inl (by rw [kept (failed result found)])
  | true =>
      rcases syncSkill_attempts texts unlocked attempts outcome with ⟨found, -⟩ | ⟨-, entry, missed⟩
      · cases failed _ found
      · cases old : dir.entries.lookup slug with
        | none => exact .inl (by rw [entry, old]; rfl)
        | some held =>
            cases held with
            | directory text => exact .inl (by rw [entry, old]; rfl)
            | link target => exact .inr ⟨rfl, target, rfl, missed target old⟩

theorem syncSkill_lost (texts : SkillTexts) (unlocked : dir.locked = false) {outcome : Realisation} {target : String}
    (attempts : dir.attempts slug path = true) (old : dir.entries.lookup slug = some (.link target))
    (missed : ¬ (inNixStore path = true ∧ outcome = .fetched)) :
    (∀ result, (dir.syncSkill texts slug path outcome).2 = some result → result = .failed) ∧
      (dir.syncSkill texts slug path outcome).1.entries.lookup slug = none := by
  rcases syncSkill_attempts texts unlocked attempts outcome with ⟨-, fetched, -⟩ | ⟨found, entry, -⟩
  · exact absurd fetched missed
  · refine ⟨fun result same => ?_, by rw [entry, old]; rfl⟩
    rw [found] at same
    split at same
    · cases same
    · cases same
      rfl

/-! ## All skills of a response -/

variable {outcome : String → Realisation} {before : SkillsDir}

theorem givesUp_congr {other : SkillsDir} {skill : Σ _ : String, String}
    (same : dir.entries.lookup skill.1 = other.entries.lookup skill.1) :
    dir.givesUp outcome skill = other.givesUp outcome skill := by
  unfold givesUp
  rw [attempts_congr same]

theorem reached_last {skill : Σ _ : String, String} (stops : dir.givesUp outcome skill = true)
    (rest : List (Σ _ : String, String)) : dir.reached outcome (skill :: rest) = [skill] := by
  rw [reached, if_pos stops]

theorem reached_cons {skill : Σ _ : String, String} (continues : dir.givesUp outcome skill = false)
    (rest : List (Σ _ : String, String)) :
    dir.reached outcome (skill :: rest) = skill :: dir.reached outcome rest := by
  rw [reached, continues]
  rfl

theorem reached_subset {skills : List (Σ _ : String, String)} : dir.reached outcome skills ⊆ skills := by
  induction skills with
  | nil => exact List.Subset.refl _
  | cons skill rest ih =>
      rw [reached]
      split
      · exact List.cons_subset_cons skill (List.nil_subset rest)
      · exact List.cons_subset_cons skill ih

/-- What `syncEach` does, told by the directory `before` it. Each skill that is reached is handled once, in a directory that
has its entry. -/
structure Handled (texts : SkillTexts) (outcome : String → Realisation) (before dir : SkillsDir)
    (skills : List (Σ _ : String, String)) (after : SkillsDir) (results : List (String × SkillResult)) (completed : Bool) :
    Prop where
  others : ∀ name ∉ skills.keys, after.entries.lookup name = dir.entries.lookup name
  store : dir.store ⊆ after.store
  locked : after.locked = false
  known : ∀ entry ∈ results, entry.1 ∈ skills.keys
  reached : ∀ skill ∈ before.reached outcome skills, ∃ middle : SkillsDir, middle.locked = false ∧
    before.store ⊆ middle.store ∧ middle.entries.lookup skill.1 = before.entries.lookup skill.1 ∧
    after.entries.lookup skill.1 =
      (middle.syncSkill texts skill.1 skill.2 (outcome skill.1)).1.entries.lookup skill.1 ∧
    (middle.syncSkill texts skill.1 skill.2 (outcome skill.1)).1.store ⊆ after.store ∧
    ∀ result, (skill.1, result) ∈ results ↔ (middle.syncSkill texts skill.1 skill.2 (outcome skill.1)).2 = some result
  unreached : ∀ skill ∈ skills, skill ∉ before.reached outcome skills →
    after.entries.lookup skill.1 = before.entries.lookup skill.1 ∧ ∀ result, (skill.1, result) ∉ results
  completed : completed = true ↔ ∀ skill ∈ skills, before.givesUp outcome skill = false

theorem apart_of_fresh {slug : String} {rest : List (Σ _ : String, String)} {skill : Σ _ : String, String}
    (fresh : slug ∉ rest.keys) (member : skill ∈ rest) : skill.1 ≠ slug := by
  intro same
  have key : skill.1 ∈ rest.keys := List.mem_keys_of_mem member
  exact fresh (same ▸ key)

section Handling
variable {slug path : String} {rest : List (Σ _ : String, String)} {first : SkillsDir}

theorem givesUp_iff {result : Option SkillResult} (unlocked : dir.locked = false)
    (head : dir.entries.lookup slug = before.entries.lookup slug)
    (handled : dir.syncSkill texts slug path (outcome slug) = (first, result)) :
    before.givesUp outcome ⟨slug, path⟩ = true ↔ result = none := by
  have gives := syncSkill_none_iff texts slug path unlocked outcome
  rw [givesUp_congr head, handled] at gives
  exact gives.symm

theorem handled_last (fresh : slug ∉ rest.keys) (unlocked : dir.locked = false) (store : before.store ⊆ dir.store)
    (same : ∀ name ∈ (⟨slug, path⟩ :: rest : List (Σ _ : String, String)).keys,
      dir.entries.lookup name = before.entries.lookup name)
    (handled : dir.syncSkill texts slug path (outcome slug) = (first, none)) :
    Handled texts outcome before dir (⟨slug, path⟩ :: rest) first [] false := by
  have frame := syncSkill_frame texts dir slug path (outcome slug)
  rw [handled] at frame
  have head : dir.entries.lookup slug = before.entries.lookup slug := same slug (by simp)
  have gives : before.givesUp outcome ⟨slug, path⟩ = true := (givesUp_iff unlocked head handled).mpr rfl
  have alone := reached_last gives rest
  refine ⟨fun name outside => ?_, frame.store, frame.locked.trans unlocked, (fun _ member => by cases member), ?_, ?_, ?_⟩
  · exact frame.others name fun equal => outside (by simp [equal])
  · intro skill member
    rw [alone] at member
    cases List.mem_singleton.mp member
    refine ⟨dir, unlocked, store, head, ?_⟩
    simp [handled]
  · intro skill member outside
    rw [alone, List.mem_singleton] at outside
    have later : skill ∈ rest := (List.mem_cons.mp member).resolve_left outside
    refine ⟨?_, fun _ member => by cases member⟩
    exact (frame.others _ (apart_of_fresh fresh later)).trans (same _ (List.mem_keys_of_mem member))
  · simp [gives]

theorem handled_cons {result : SkillResult} {results : List (String × SkillResult)} {completed : Bool}
    (fresh : slug ∉ rest.keys) (unlocked : dir.locked = false) (store : before.store ⊆ dir.store)
    (head : dir.entries.lookup slug = before.entries.lookup slug)
    (handled : dir.syncSkill texts slug path (outcome slug) = (first, some result))
    (later : Handled texts outcome before first rest after results completed) :
    Handled texts outcome before dir (⟨slug, path⟩ :: rest) after ((slug, result) :: results) completed := by
  have frame := syncSkill_frame texts dir slug path (outcome slug)
  rw [handled] at frame
  have continues : before.givesUp outcome ⟨slug, path⟩ = false := by
    simpa using (givesUp_iff unlocked head handled).not.mpr (Option.some_ne_none result)
  have result_iff {skill : Σ _ : String, String} (member : skill ∈ rest) (other : SkillResult) :
      (skill.1, other) ∈ (slug, result) :: results ↔ (skill.1, other) ∈ results := by
    rw [List.mem_cons]
    refine ⟨fun either => either.resolve_left fun equal => ?_, .inr⟩
    exact apart_of_fresh fresh member (Prod.mk.inj equal).1
  refine ⟨fun name outside => ?_, frame.store.trans later.store, later.locked, ?_, ?_, ?_, ?_⟩
  · rw [List.keys_cons, List.mem_cons, not_or] at outside
    exact (later.others name outside.2).trans (frame.others name outside.1)
  · intro entry member
    rcases List.mem_cons.mp member with rfl | member
    · simp
    · simp [later.known entry member]
  · intro skill member
    rw [reached_cons continues] at member
    rcases List.mem_cons.mp member with rfl | member
    · refine ⟨dir, unlocked, store, head, ?_, ?_, fun other => ?_⟩
      · rw [handled]
        exact later.others slug fresh
      · rw [handled]
        exact later.store
      · rw [handled, List.mem_cons, Option.some.injEq]
        constructor
        · rintro (equal | member)
          · exact (Prod.mk.inj equal).2.symm
          · exact absurd (later.known _ member) fresh
        · rintro rfl
          exact .inl rfl
    · obtain ⟨middle, free, stored, entry, final, paths, found⟩ := later.reached skill member
      refine ⟨middle, free, stored, entry, final, paths, fun other => ?_⟩
      rw [result_iff (reached_subset member), found]
  · intro skill member outside
    rw [reached_cons continues, List.mem_cons, not_or] at outside
    have among : skill ∈ rest := (List.mem_cons.mp member).resolve_left outside.1
    obtain ⟨entry, missing⟩ := later.unreached skill among outside.2
    refine ⟨entry, fun other => ?_⟩
    rw [result_iff among]
    exact missing other
  · simp [continues, later.completed]

end Handling

theorem syncEach_handled {skills : List (Σ _ : String, String)} (distinct : skills.NodupKeys)
    (unlocked : dir.locked = false) (store : before.store ⊆ dir.store)
    (same : ∀ name ∈ skills.keys, dir.entries.lookup name = before.entries.lookup name) :
    Handled texts outcome before dir skills (syncEach texts outcome dir skills).1
      (syncEach texts outcome dir skills).2.1 (syncEach texts outcome dir skills).2.2 := by
  induction skills generalizing dir with
  | nil =>
      exact ⟨fun _ _ => rfl, Finset.Subset.refl _, unlocked, List.forall_mem_nil _, List.forall_mem_nil _, List.forall_mem_nil _,
        iff_of_true rfl (List.forall_mem_nil _)⟩
  | cons skill rest ih =>
      obtain ⟨slug, path⟩ := skill
      obtain ⟨fresh, distinct⟩ := List.nodupKeys_cons.mp distinct
      have frame := syncSkill_frame texts dir slug path (outcome slug)
      unfold syncEach
      cases handled : dir.syncSkill texts slug path (outcome slug) with
      | mk first result =>
      rw [handled] at frame
      cases result with
      | none => exact handled_last fresh unlocked store same handled
      | some result =>
          have agrees : ∀ name ∈ rest.keys, first.entries.lookup name = before.entries.lookup name := by
            intro name member
            have other : name ≠ slug := fun equal => fresh (equal ▸ member)
            exact (frame.others name other).trans (same name (by simp [member]))
          exact handled_cons fresh unlocked store (same slug (by simp)) handled
            (ih distinct (frame.locked.trans unlocked) (store.trans frame.store) agrees)

theorem inPlace_of_lookup (entry : after.entries.lookup slug = dir.entries.lookup slug) (store : dir.store ⊆ after.store)
    (placed : dir.InPlace texts slug path) : after.InPlace texts slug path := by
  unfold InPlace at placed ⊢
  split
  · rename_i builtin
    rw [if_pos builtin] at placed
    obtain ⟨content, embedded, read⟩ := placed
    refine ⟨content, embedded, ?_⟩
    unfold text at read ⊢
    rw [entry]
    cases found : dir.entries.lookup slug with
    | none =>
        rw [found] at read
        exact read
    | some held =>
        rw [found] at read
        cases held with
        | directory text => exact read
        | link target =>
            obtain ⟨stored, content⟩ := Option.ite_none_right_eq_some.mp read
            exact (if_pos (store stored)).trans content
  · rename_i stored
    rw [if_neg stored] at placed
    exact entry.trans placed

theorem resolves_of_lookup (entry : after.entries.lookup slug = dir.entries.lookup slug) (store : dir.store ⊆ after.store)
    {version : SkillEntry} (resolves : dir.Resolves slug version) : after.Resolves slug version :=
  ⟨entry.trans resolves.1, fun target same => store (resolves.2 target same)⟩

section Sync
variable {skills : Table String String} {results : List (String × SkillResult)} {completed : Bool}

theorem lookup_clean (unlocked : dir.locked = false) (name : String) :
    (dir.clean skills).entries.lookup name = if name ∈ skills then dir.entries.lookup name else none := by
  unfold SkillsDir.clean
  rw [if_neg (by simp [unlocked]), Table.lookup_retain]
  split
  · rename_i member
    cases dir.entries.lookup name <;> simp [member]
  · rename_i outside
    cases dir.entries.lookup name <;> simp [outside]

theorem lookup_finished (handled : Handled texts outcome dir dir.unlock skills.entries after results completed)
    (name : String) :
    (if completed then after.clean skills else after).relock.entries.lookup name =
      if name ∈ skills then after.entries.lookup name else if completed then none else dir.entries.lookup name := by
  cases completed with
  | true => exact lookup_clean handled.locked name
  | false =>
      by_cases member : name ∈ skills
      · rw [if_pos member]
        rfl
      · rw [if_neg member]
        exact handled.others name member

theorem synced_of_replaceable (handled : Handled texts outcome dir dir.unlock skills.entries after results completed)
    (replaceable : Replaceable outcome dir skills) :
    Synced texts dir (if completed then after.clean skills else after).relock skills results := by
  have lookup := lookup_finished handled
  have store : after.store ⊆ (if completed then after.clean skills else after).relock.store := by
    cases completed with
    | true =>
        show after.store ⊆ (after.clean skills).store
        unfold SkillsDir.clean
        split <;> exact Finset.Subset.refl _
    | false => exact Finset.Subset.refl _
  refine ⟨fun slug path result found known succeeded => ?_, fun slug member failed version resolves => ?_,
    fun name outside kept => ?_⟩
  · have member : (⟨slug, path⟩ : Σ _ : String, String) ∈ skills.entries := AList.mem_lookup_iff.mp found
    by_cases reached : (⟨slug, path⟩ : Σ _ : String, String) ∈ dir.reached outcome skills.entries
    · obtain ⟨middle, free, -, -, entry, paths, results⟩ := handled.reached _ reached
      have placed := syncSkill_inPlace free ((results result).mp known) succeeded
      refine inPlace_of_lookup ?_ (paths.trans store) placed
      rw [lookup, if_pos (AList.lookup_isSome.mp (found ▸ rfl))]
      exact entry
    · exact absurd known ((handled.unreached _ member reached).2 result)
  · have final := lookup slug
    rw [if_pos member] at final
    obtain ⟨path, found⟩ := Option.isSome_iff_exists.mp (AList.lookup_isSome.mpr member)
    have entries : (⟨slug, path⟩ : Σ _ : String, String) ∈ skills.entries := AList.mem_lookup_iff.mp found
    have grows := handled.store.trans store
    by_cases reached : (⟨slug, path⟩ : Σ _ : String, String) ∈ dir.reached outcome skills.entries
    · obtain ⟨middle, free, -, held, entry, -, known⟩ := handled.reached _ reached
      rcases syncSkill_failed free fun result same => failed result ((known result).mpr same) with
        same | ⟨attempts, target, old, missed⟩
      · exact resolves_of_lookup (final.trans (entry.trans (same.trans held))) grows resolves
      · rw [held] at old
        rw [attempts_congr held] at attempts
        have exists_ := resolves.2 target (Option.some.inj (resolves.1.symm.trans old))
        exact absurd (replaceable.replaced _ reached attempts target old exists_) missed
    · exact resolves_of_lookup (final.trans (handled.unreached _ entries reached).1) grows resolves
  · obtain ⟨entry, found⟩ := Option.isSome_iff_exists.mp (AList.lookup_isSome.mpr kept)
    rw [lookup, if_neg outside] at found
    split at found
    · cases found
    · rename_i stopped
      have stops : ∃ skill ∈ skills.entries, dir.givesUp outcome skill = true := by
        simpa using handled.completed.not.mp stopped
      obtain ⟨skill, member, gives⟩ := stops
      exact outside (replaceable.completed skill member gives name (AList.lookup_isSome.mp (found ▸ rfl)))

theorem replaceable_of_synced (handled : Handled texts outcome dir dir.unlock skills.entries after results completed)
    (synced : Synced texts dir (if completed then after.clean skills else after).relock skills results) :
    Replaceable outcome dir skills := by
  have lookup := lookup_finished handled
  refine ⟨fun skill reached attempts target old live => ?_, fun skill member gives name present => ?_⟩
  · by_contra missed
    obtain ⟨middle, free, -, held, entry, -, known⟩ := handled.reached _ reached
    obtain ⟨failed, gone⟩ := syncSkill_lost texts free ((attempts_congr held).trans attempts) (held.trans old) missed
    have member : skill.1 ∈ skills := List.mem_keys_of_mem (reached_subset reached)
    have version := synced.kept skill.1 member (fun result same => failed result ((known result).mp same)) (.link target)
      ⟨old, fun other same => by cases same; exact live⟩
    have final := version.1
    rw [lookup, if_pos member, entry, gone] at final
    cases final
  · by_contra outside
    have stopped : completed = false := by
      rw [← Bool.not_eq_true, handled.completed]
      exact fun all => Bool.false_ne_true ((all skill member).symm.trans gives)
    apply synced.removed name outside
    rw [← AList.lookup_isSome, lookup, if_neg outside, stopped]
    exact AList.lookup_isSome.mpr present

end Sync

theorem synced_iff (texts : SkillTexts) (outcome : String → Realisation) (dir : SkillsDir) (skills : Table String String) :
    Synced texts dir (syncSkills texts outcome dir skills).1 skills (syncSkills texts outcome dir skills).2 ↔
      Replaceable outcome dir skills := by
  have handled : Handled texts outcome dir dir.unlock skills.entries _ _ _ :=
    syncEach_handled skills.nodupKeys rfl (Finset.Subset.refl dir.store) fun _ _ => rfl
  exact ⟨replaceable_of_synced handled, synced_of_replaceable handled⟩

/-! ## The lock -/

variable {state next : SkillSync} {number : Nat}

theorem unlock_of_unlocked (unlocked : dir.locked = false) : dir.unlock = dir := by
  obtain ⟨entries, store, locked⟩ := dir
  cases unlocked
  rfl

theorem clean_locked (dir : SkillsDir) (skills : Table String String) : (dir.clean skills).locked = dir.locked := by
  unfold SkillsDir.clean
  split <;> rfl

theorem act_hindered {skills : Table String String} {action : SkillsDir → SkillsDir × Option SkillResult}
    {stage : Option SkillResult → SkillStage} (unlocked : state.dir.locked = false) :
    (state.act number skills action stage).hindered = state.hindered := by
  unfold act
  rw [unlock_of_unlocked unlocked]
  exact if_pos ⟨rfl, rfl⟩

theorem step_cases {event : SkillEvent} (taken : state.step texts event = some next) :
    (∃ number skills, event = .begin number skills ∧ next.dir = state.dir.unlock ∧ next.hindered = state.hindered ∧
      next.runs = state.runs.insert number ⟨skills, .working skills.entries⟩) ∨
    (∃ number run skills action stage, state.runs.lookup number = some run ∧ run.stage ≠ .done ∧
      next = state.act number skills action stage ∧ (action state.dir).1.locked = state.dir.locked) ∨
    ∃ number, event = .finish number ∧ next = { state with dir := state.dir.relock, runs := state.runs.erase number } := by
  cases event with
  | begin number skills =>
      obtain ⟨-, same⟩ := Option.ite_none_left_eq_some.mp taken
      cases same
      exact .inl ⟨number, skills, rfl, rfl, rfl, rfl⟩
  | prepare number =>
      simp only [step] at taken
      split at taken
      · rename_i found
        cases taken
        exact .inr (.inl ⟨number, _, _, _, _, found, (by simp), rfl, (prepare_frame texts state.dir _ _).locked⟩)
      · cases taken
  | realise number outcome =>
      simp only [step] at taken
      split at taken
      · rename_i found
        cases taken
        exact .inr (.inl ⟨number, _, _, _, _, found, (by simp), rfl, (realise_frame state.dir _ _ outcome).locked⟩)
      · cases taken
  | clean number =>
      simp only [step] at taken
      split at taken
      · rename_i skills found
        cases taken
        exact .inr (.inl ⟨number, _, _, _, _, found, (by simp), rfl, clean_locked state.dir skills⟩)
      · cases taken
  | finish number =>
      simp only [step] at taken
      split at taken
      · cases taken
        exact .inr (.inr ⟨number, rfl, rfl⟩)
      · cases taken

theorem insert_ne_empty {runs : Table Nat SkillRun} {run : SkillRun} : runs.insert number run ≠ ∅ := by
  intro empty
  have member : number ∈ runs.insert number run := AList.mem_insert _ |>.mpr (.inl rfl)
  rw [empty] at member
  exact absurd member (AList.notMem_empty number)

theorem locked_step {event : SkillEvent} (taken : state.step texts event = some next) :
    next.runs = ∅ → next.dir.locked = true := by
  intro empty
  rcases step_cases taken with ⟨number, skills, -, -, -, runs⟩ | ⟨number, run, skills, action, stage, -, -, rfl, -⟩ |
    ⟨number, -, rfl⟩
  · exact absurd (runs.symm.trans empty) insert_ne_empty
  · exact absurd empty insert_ne_empty
  · rfl

/-- The directory is unlocked for every run that has work to do. -/
def Unhindered (state : SkillSync) : Prop :=
  state.hindered = [] ∧ ∀ number run, state.runs.lookup number = some run → run.stage ≠ .done → state.dir.locked = false

theorem unhindered_step {event : SkillEvent} (unhindered : Unhindered state) (together : state.Together event)
    (taken : state.step texts event = some next) : Unhindered next := by
  obtain ⟨none, unlocked⟩ := unhindered
  rcases step_cases taken with ⟨number, skills, -, dir, same, -⟩ |
    ⟨number, run, skills, action, stage, found, working, rfl, locked⟩ | ⟨number, rfl, rfl⟩
  · exact ⟨same.trans none, fun _ _ _ _ => by rw [dir]; rfl⟩
  · have free := unlocked number run found working
    exact ⟨(act_hindered free).trans none, fun _ _ _ _ => locked.trans free⟩
  · refine ⟨none, fun other run left working => ?_⟩
    rw [Table.lookup_erase_ite] at left
    split at left
    · cases left
    · exact absurd (together other run left) working

theorem skills_unhindered (events : List SkillEvent) (final : SkillSync)
    (together : Meets (SkillSync.step texts) Together (start dir) events)
    (ran : run (SkillSync.step texts) (start dir) events = some final) : final.hindered = [] := by
  have initially : Unhindered (start dir) := ⟨rfl, fun _ _ found => by cases found⟩
  exact (run_invariant_of_meets (fun _ _ _ holds meets taken => unhindered_step holds meets taken) initially together
    ran).1

theorem skills_locked (events : List SkillEvent) (final : SkillSync)
    (ran : run (SkillSync.step texts) (start dir) events = some final) : final.runs = ∅ → final.dir.locked = true :=
  run_invariant (fun _ _ _ _ taken => locked_step taken) (fun _ => rfl) ran

/-! ## A run alone is the sequence of its steps -/

def soloEvents (texts : SkillTexts) (outcome : String → Realisation) (number : Nat) :
    SkillsDir → List (Σ _ : String, String) → List SkillEvent
  | _, [] => [.clean number]
  | dir, ⟨slug, path⟩ :: rest =>
      match dir.prepare texts slug path with
      | (dir, some _) => .prepare number :: soloEvents texts outcome number dir rest
      | (dir, none) => .prepare number :: .realise number (outcome slug) ::
          match dir.realise slug path (outcome slug) with
          | (dir, some _) => soloEvents texts outcome number dir rest
          | (_, none) => []

theorem act_solo {skills : Table String String} {hindered : List Nat} {old : SkillRun}
    {action : SkillsDir → SkillsDir × Option SkillResult} (stage : Option SkillResult → SkillStage)
    (unlocked : dir.locked = false) :
    (SkillSync.mk dir (AList.insert number old ∅) hindered).act number skills action stage =
      ⟨(action dir).1, AList.insert number ⟨skills, stage (action dir).2⟩ ∅, hindered⟩ := by
  unfold act
  dsimp only
  rw [unlock_of_unlocked unlocked, AList.insert_insert, if_pos ⟨rfl, rfl⟩]

def ended (skills : Table String String) (sync : SkillsDir × List (String × SkillResult) × Bool) : SkillsDir :=
  if sync.2.2 then sync.1.clean skills else sync.1

theorem run_solo (skills : Table String String) (hindered : List Nat) (unlocked : dir.locked = false)
    (todo : List (Σ _ : String, String)) :
    run (SkillSync.step texts) ⟨dir, AList.insert number ⟨skills, .working todo⟩ ∅, hindered⟩
        (soloEvents texts outcome number dir todo) =
      some ⟨ended skills (syncEach texts outcome dir todo), AList.insert number ⟨skills, .done⟩ ∅, hindered⟩ := by
  induction todo generalizing dir with
  | nil =>
      simp only [soloEvents, run, step, AList.lookup_insert, act_solo _ unlocked, Option.bind_some]
      rfl
  | cons skill rest ih =>
      obtain ⟨slug, path⟩ := skill
      have kept := (prepare_frame texts dir slug path).locked
      unfold soloEvents syncEach syncSkill
      rcases prepared : dir.prepare texts slug path with ⟨first, result⟩
      rw [prepared] at kept
      have free : first.locked = false := kept.trans unlocked
      cases result with
      | some result =>
          simp only [run, step, AList.lookup_insert, act_solo _ unlocked, prepared, Option.bind_some]
          exact ih free
      | none =>
          have still := (realise_frame first slug path (outcome slug)).locked
          rcases realised : first.realise slug path (outcome slug) with ⟨second, result⟩
          rw [realised] at still
          cases result with
          | none =>
              simp only [run, step, AList.lookup_insert, act_solo _ unlocked, act_solo _ free, prepared, realised,
                Option.bind_some]
              rfl
          | some result =>
              simp only [run, step, AList.lookup_insert, act_solo _ unlocked, act_solo _ free, prepared, realised,
                Option.bind_some]
              exact ih (still.trans free)

theorem sync_alone (texts : SkillTexts) (outcome : String → Realisation) (dir : SkillsDir) (number : Nat)
    (skills : Table String String) :
    run (SkillSync.step texts) (start dir)
        (.begin number skills :: soloEvents texts outcome number dir.unlock skills.entries ++ [.finish number]) =
      some ⟨(syncSkills texts outcome dir skills).1, ∅, []⟩ := by
  have begun : (start dir).step texts (.begin number skills) =
      some ⟨dir.unlock, AList.insert number ⟨skills, .working skills.entries⟩ ∅, []⟩ := by
    have fresh : number ∉ (start dir).runs := AList.notMem_empty number
    simp only [step, if_neg fresh]
    rfl
  rw [List.cons_append, run, begun, Option.bind_some, run_append, run_solo skills [] rfl, Option.bind_some]
  simp only [run, step, AList.lookup_insert, Option.bind_some]
  have gone : AList.erase number (AList.insert number ⟨skills, .done⟩ ∅ : Table Nat SkillRun) = ∅ := by
    apply AList.ext
    exact List.kerase_cons_eq rfl
  rw [gone]
  rfl

theorem skills_synced (texts : SkillTexts) :
    (∀ outcome dir skills, Synced texts dir (syncSkills texts outcome dir skills).1 skills
        (syncSkills texts outcome dir skills).2 ↔ Replaceable outcome dir skills) ∧
    ∀ dir events final, run (SkillSync.step texts) (start dir) events = some final →
      (final.runs = ∅ → final.dir.locked = true) ∧
      (Meets (SkillSync.step texts) Together (start dir) events → final.hindered = []) :=
  ⟨synced_iff texts, fun _ events final ran =>
    ⟨skills_locked events final ran, fun together => skills_unhindered events final together ran⟩⟩

def noTexts : SkillTexts := ⟨fun _ => none, fun _ => none⟩

def linkedDir : SkillsDir where
  entries := AList.insert "notes" (.link "/nix/store/a") ∅
  store := {"/nix/store/a"}
  locked := true

def wants (path : String) : Table String String := AList.insert "notes" path ∅

def overlapping : List SkillEvent :=
  [.begin 1 (wants "/nix/store/b"), .prepare 1, .begin 2 ∅, .realise 1 .fetched, .clean 1, .clean 2, .finish 1, .finish 2]

instance (state : SkillSync) : DecidablePred state.Together
  | .finish _ => decidable_of_iff (∀ entry ∈ state.runs.entries, entry.2.stage = .done)
      ⟨fun all _ _ found => all ⟨_, _⟩ (AList.mem_lookup_iff.mp found),
        fun all entry member => all entry.1 entry.2 (AList.mem_lookup_iff.mpr member)⟩
  | .begin _ _ | .prepare _ | .realise _ _ | .clean _ => inferInstanceAs (Decidable True)

theorem skills_synced_replaced :
    Synced noTexts linkedDir (syncSkills noTexts (fun _ => .fetched) linkedDir (wants "/nix/store/b")).1 (wants "/nix/store/b")
      (syncSkills noTexts (fun _ => .fetched) linkedDir (wants "/nix/store/b")).2 ∧
    ∃ final, run (SkillSync.step noTexts) (start linkedDir) overlapping = some final ∧ final.hindered = [] := by
  refine ⟨((skills_synced noTexts).1 _ _ _).mpr ⟨fun skill reached _ _ _ _ => ?_, fun skill member gives => ?_⟩, ?_⟩
  · cases List.mem_singleton.mp (reached_subset reached)
    decide +kernel
  · cases List.mem_singleton.mp member
    exact absurd gives (by decide +kernel)
  · have some : (run (SkillSync.step noTexts) (start linkedDir) overlapping).isSome = true := by decide +kernel
    obtain ⟨final, ran⟩ := Option.isSome_iff_exists.mp some
    exact ⟨final, ran, ((skills_synced noTexts).2 linkedDir overlapping final ran).2 (by decide +kernel)⟩

def hindering : List SkillEvent :=
  [.begin 1 ∅, .begin 2 (wants "/nix/store/b"), .clean 1, .finish 1, .prepare 2, .realise 2 .fetched, .clean 2, .finish 2]

/-- The path cannot be fetched, or is none; and the guard of the first run locks the directory before the second has linked
its skill. -/
theorem skills_lost :
    ¬ Synced noTexts linkedDir (syncSkills noTexts (fun _ => .failed) linkedDir (wants "/nix/store/b")).1
        (wants "/nix/store/b") (syncSkills noTexts (fun _ => .failed) linkedDir (wants "/nix/store/b")).2 ∧
    ¬ Synced noTexts linkedDir (syncSkills noTexts (fun _ => .fetched) linkedDir (wants "b")).1
        (wants "b") (syncSkills noTexts (fun _ => .fetched) linkedDir (wants "b")).2 ∧
    ∃ final, run (SkillSync.step noTexts) (start linkedDir) hindering = some final ∧ final.dir.entries.lookup "notes" = none ∧ final.hindered = [2] := by
  have live : linkedDir.Resolves "notes" (.link "/nix/store/a") :=
    ⟨rfl, fun target same => by cases same; exact Finset.mem_singleton_self _⟩
  have kept {path : String} {results : List (String × SkillResult)} {after : SkillsDir} (result : results = [("notes", .failed)])
      (gone : after.entries.lookup "notes" = none) : ¬ Synced noTexts linkedDir after (wants path) results := by
    intro synced
    have version := (synced.kept "notes" (AList.mem_insert _ |>.mpr (.inl rfl)) (by simp [result]) _ live).1
    rw [gone] at version
    cases version
  have locked : (run (SkillSync.step noTexts) (start linkedDir) hindering).any fun final =>
      final.dir.entries.lookup "notes" = none ∧ final.hindered = [2] := by decide +kernel
  obtain ⟨final, ran, both⟩ := Option.any_eq_true _ _ |>.mp locked
  exact ⟨kept (by decide +kernel) (by decide +kernel), kept (by decide +kernel) (by decide +kernel), final, ran,
    of_decide_eq_true both⟩

end MacMgmt.Proof.Skills
