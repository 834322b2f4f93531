import MacMgmt.Server.CommitCounts
import Mathlib.Data.List.Dedup

/-!
# What holds of the calls for commit counts

Until a call answers, each commit that it is asked for is open in its stage or in its result, and each id in flight belongs to
a call in progress.
-/

namespace MacMgmt.Proof.Server.Commits
open Lib MacMgmt.Server Commits Repo

variable {state after : Repo} {id : Nat} {call : Call}

/-! ## Results -/

theorem lookup_foldl_insert (origs : List Sha) (result : Table Sha Nat) (count : Nat) (orig : Sha) :
    (origs.foldl (fun result orig => result.insert orig count) result).lookup orig =
      if orig ∈ origs then some count else result.lookup orig := by
  induction origs generalizing result with
  | nil => simp
  | cons first origs ih =>
      rw [List.foldl_cons, ih, Table.lookup_insert_ite]
      by_cases later : orig ∈ origs
      · simp [later]
      · by_cases same : orig = first
        · simp [same]
        · simp [later, same]

theorem lookup_answer (shas : List Sha) (result : Table Sha Nat) (sha : Sha) (count : Nat) (orig : Sha) :
    (answer shas result sha count).lookup orig =
      if orig ∈ shas ∧ clean orig = sha then some count else result.lookup orig := by
  rw [answer, lookup_foldl_insert]
  simp only [List.mem_filter, decide_eq_true_eq]

theorem lookup_answerHits (shas ids : List Sha) (hits result : Table Sha Nat) (orig : Sha) :
    (answerHits shas ids hits result).lookup orig =
      if orig ∈ shas ∧ clean orig ∈ ids then (hits.lookup (clean orig)).or (result.lookup orig) else result.lookup orig := by
  induction ids generalizing result with
  | nil => simp [answerHits]
  | cons sha ids ih =>
      rw [answerHits, List.foldl_cons, ← answerHits, ih]
      cases hit : hits.lookup sha with
      | none =>
          by_cases same : clean orig = sha
          · subst same
            simp [hit]
          · simp [same]
      | some count =>
          simp only [lookup_answer]
          by_cases same : clean orig = sha
          · subst same
            by_cases listed : orig ∈ shas <;> simp [hit, listed]
          · simp [same]

theorem mem_cleanShas {shas : List Sha} {sha : Sha} :
    sha ∈ cleanShas shas ↔ isCommitSha sha = true ∧ ∃ orig ∈ shas, clean orig = sha := by
  rw [cleanShas, List.mem_dedup, List.mem_filter, List.mem_map, and_comm]

theorem mem_failedOf {resolved : Resolved} {sha : Sha} : sha ∈ failedOf resolved ↔ (sha, none) ∈ resolved := by
  simp only [failedOf, List.mem_map, List.mem_filter, Option.isNone_iff_eq_none]
  constructor
  · rintro ⟨⟨_, _⟩, ⟨member, rfl⟩, rfl⟩
    exact member
  · intro member
    exact ⟨_, ⟨member, rfl⟩, rfl⟩

theorem mem_countsOf {resolved : Resolved} {sha : Sha} {count : Nat} :
    (sha, count) ∈ countsOf resolved ↔ (sha, some count) ∈ resolved := by
  simp only [countsOf, List.mem_filterMap, Option.map_eq_some_iff]
  constructor
  · rintro ⟨⟨_, _⟩, member, _, rfl, same⟩
    cases same
    exact member
  · intro member
    exact ⟨_, member, _, rfl, rfl⟩

theorem mem_overwrite {resolved : Resolved} {sha other : Sha} {count new : Option Nat} :
    (other, count) ∈ overwrite resolved sha new ↔
      (other ≠ sha ∧ (other, count) ∈ resolved) ∨ (other = sha ∧ count = new ∧ sha ∈ resolved.map Prod.fst) := by
  simp only [overwrite, List.mem_map]
  constructor
  · rintro ⟨⟨first, second⟩, member, same⟩
    split at same
    · rename_i here
      cases same
      exact .inr ⟨rfl, rfl, _, member, here⟩
    · rename_i different
      cases same
      exact .inl ⟨different, member⟩
  · rintro (⟨different, member⟩ | ⟨rfl, rfl, ⟨_, second⟩, member, rfl⟩)
    · exact ⟨_, member, by rw [if_neg different]⟩
    · exact ⟨_, member, by simp⟩

theorem map_fst_overwrite (resolved : Resolved) (sha : Sha) (count : Option Nat) :
    (overwrite resolved sha count).map Prod.fst = resolved.map Prod.fst := by
  rw [overwrite, List.map_map]
  apply List.map_congr_left
  intro item _
  by_cases same : item.1 = sha <;> simp [same]

/-! ## The invariant -/

def Sub (small large : Table Sha Nat) : Prop := ∀ sha count, small.lookup sha = some count → large.lookup sha = some count

theorem Sub.rfl {table : Table Sha Nat} : Sub table table := fun _ _ found => found

theorem Sub.trans {first second third : Table Sha Nat} (low : Sub first second) (high : Sub second third) : Sub first third :=
  fun sha count found => high sha count (low sha count found)

theorem Sub.mem {small large : Table Sha Nat} (sub : Sub small large) {sha : Sha} (member : sha ∈ small) :
    ∃ count, small.lookup sha = some count ∧ large.lookup sha = some count := by
  obtain ⟨count, found⟩ := Option.isSome_iff_exists.mp (AList.lookup_isSome.mpr member)
  exact ⟨count, found, sub sha count found⟩

/-- A result has counts of the remote only, and only where they were asked for. -/
def Right (remote : Table Sha Nat) (shas : List Sha) (result : Table Sha Nat) : Prop :=
  ∀ orig count, result.lookup orig = some count →
    orig ∈ shas ∧ isCommitSha (clean orig) = true ∧ remote.lookup (clean orig) = some count

def ids : CallStage → List Sha
  | .claiming toFetch => toFetch
  | .waiting claimed waiting => claimed ++ waiting
  | .counting running resolved => running ++ resolved.map Prod.fst
  | .updating resolved | .retrying _ resolved | .storing _ resolved => resolved.map Prod.fst
  | _ => []

def gotten : CallStage → List (Sha × Nat)
  | .counting _ resolved | .updating resolved | .retrying _ resolved => countsOf resolved
  | .storing counts _ => counts
  | _ => []

def Open (sha : Sha) : CallStage → Prop
  | .ensuring | .cloning | .lookingUp => True
  | .claiming toFetch => sha ∈ toFetch
  | .waiting claimed waiting => sha ∈ claimed ∨ sha ∈ waiting
  | .counting running resolved => sha ∈ running ∨ sha ∈ resolved.map Prod.fst
  | .updating resolved => sha ∈ resolved.map Prod.fst
  | .retrying running resolved => sha ∈ running ∨ ∃ count, (sha, some count) ∈ resolved
  | .storing counts _ => ∃ count, (sha, count) ∈ counts

def Going : CallStage → Prop
  | .claiming toFetch => toFetch ≠ []
  | .counting running _ => running ≠ []
  | .updating resolved => failedOf resolved ≠ []
  | .retrying running resolved => running ≠ [] ∧ ∀ sha ∈ running, sha ∈ resolved.map Prod.fst
  | _ => True

structure CallSound (remote : Table Sha Nat) (clone : Option (Table Sha Nat)) (call : Call) : Prop where
  seen : Sub call.seen remote
  right : Right remote call.shas call.result
  valid : ∀ sha ∈ ids call.stage, isCommitSha sha = true
  gotten : ∀ item ∈ gotten call.stage, isCommitSha item.1 = true ∧ remote.lookup item.1 = some item.2
  going : Going call.stage
  all : call.worked = true → ∀ orig ∈ call.shas, isCommitSha (clean orig) = true → clean orig ∈ call.seen →
    orig ∈ call.result ∨ Open (clean orig) call.stage
  updated : call.worked = true → ∀ running resolved, call.stage = .retrying running resolved →
    ∃ counts, clone = some counts ∧ Sub call.seen counts

def Placed (cell : CloneCell) (id : Nat) : CallStage → Prop
  | .ensuring => True
  | .cloning => cell = .running id
  | _ => cell = .done

structure Sound (state : Repo) : Prop where
  clone : ∀ counts, state.clone = some counts → Sub counts state.remote
  db : Sub state.db state.remote
  usable : state.cell = .done → state.clone.isSome = true
  cloner : ∀ id, state.cell = .running id →
    state.cloning = true ∧ ∃ call, state.calls.lookup id = some call ∧ call.stage = .cloning
  calls : ∀ id call, state.calls.lookup id = some call →
    CallSound state.remote state.clone call ∧ Placed state.cell id call.stage
  inFlight : ∀ sha ∈ state.inFlight, ∃ id call, state.calls.lookup id = some call ∧ sha ∈ claims call.stage
  answers : ∀ id answer, state.answers.lookup id = some answer → Complete state.remote answer

theorem Right.grow {before remote result : Table Sha Nat} {shas : List Sha} (right : Right before shas result)
    (grows : Sub before remote) : Right remote shas result := by
  intro orig count found
  obtain ⟨asked, valid, known⟩ := right orig count found
  exact ⟨asked, valid, grows _ _ known⟩

theorem Right.answer {remote result : Table Sha Nat} {shas : List Sha} (right : Right remote shas result) {sha : Sha}
    {count : Nat} (valid : isCommitSha sha = true) (known : remote.lookup sha = some count) :
    Right remote shas (answer shas result sha count) := by
  intro orig got found
  rw [lookup_answer] at found
  split at found
  · rename_i asked
    obtain ⟨asked, rfl⟩ := asked
    cases found
    exact ⟨asked, valid, known⟩
  · exact right orig got found

theorem Right.answerHits {remote result hits : Table Sha Nat} {shas asked : List Sha} (right : Right remote shas result)
    (valid : ∀ sha ∈ asked, isCommitSha sha = true) (known : Sub hits remote) :
    Right remote shas (answerHits shas asked hits result) := by
  intro orig got found
  rw [lookup_answerHits] at found
  split at found
  · rename_i listed
    rcases Option.or_eq_some_iff.mp found with hit | ⟨-, before⟩
    · exact ⟨listed.1, valid _ listed.2, known _ _ hit⟩
    · exact right orig got before
  · exact right orig got found

theorem mem_answer {shas : List Sha} {result : Table Sha Nat} {sha orig : Sha} {count : Nat} :
    orig ∈ answer shas result sha count ↔ (orig ∈ shas ∧ clean orig = sha) ∨ orig ∈ result := by
  rw [← AList.lookup_isSome, ← AList.lookup_isSome, lookup_answer]
  split <;> rename_i asked <;> simp [asked]

theorem mem_answerHits {shas asked : List Sha} {hits result : Table Sha Nat} {orig : Sha} :
    orig ∈ answerHits shas asked hits result ↔
      (orig ∈ shas ∧ clean orig ∈ asked ∧ clean orig ∈ hits) ∨ orig ∈ result := by
  rw [← AList.lookup_isSome, ← AList.lookup_isSome, ← AList.lookup_isSome, lookup_answerHits]
  split <;> rename_i listed
  · simp [listed]
  · have not_listed : ¬ (orig ∈ shas ∧ clean orig ∈ asked ∧ (hits.lookup (clean orig)).isSome = true) :=
      fun both => listed ⟨both.1, both.2.1⟩
    simp [not_listed]

theorem complete_grow {before remote : Table Sha Nat} {answer : Answer} (complete : Complete before answer)
    (grows : Sub before remote) : Complete remote answer :=
  ⟨Right.grow complete.only grows, complete.all⟩

theorem CallSound.grow {remote before : Table Sha Nat} {clone cloned : Option (Table Sha Nat)} (sound : CallSound before clone call)
    (grows : Sub before remote)
    (kept : ∀ running resolved, call.stage = .retrying running resolved →
      ∀ counts, clone = some counts → ∃ more, cloned = some more ∧ Sub counts more) : CallSound remote cloned call := by
  refine ⟨sound.seen.trans grows, sound.right.grow grows, sound.valid, fun item member => ?_, sound.going, sound.all, ?_⟩
  · obtain ⟨valid, known⟩ := sound.gotten item member
    exact ⟨valid, grows _ _ known⟩
  · intro worked running resolved stage
    obtain ⟨counts, stored, sub⟩ := sound.updated worked running resolved stage
    obtain ⟨more, cloned, extends_⟩ := kept running resolved stage counts stored
    exact ⟨more, cloned, sub.trans extends_⟩

theorem Placed.done {cell : CloneCell} {running : List Sha} {resolved : Resolved}
    (placed : Placed cell id (.retrying running resolved)) : cell = .done := placed

/-! ## What surrounds the calls -/

theorem Sound.grow (sound : Sound state) {remote db : Table Sha Nat} {clone : Option (Table Sha Nat)}
    (grows : Sub state.remote remote) (within : ∀ counts, clone = some counts → Sub counts remote) (known : Sub db remote)
    (kept : state.cell = .done → ∀ counts, state.clone = some counts → ∃ more, clone = some more ∧ Sub counts more) :
    Sound { state with remote, db, clone } := by
  refine ⟨within, known, fun done => ?_, sound.cloner, fun id call found => ?_, sound.inFlight, fun id answer found => ?_⟩
  · obtain ⟨counts, stored⟩ := Option.isSome_iff_exists.mp (sound.usable done)
    obtain ⟨more, cloned, -⟩ := kept done counts stored
    simp [cloned]
  · obtain ⟨each, placed⟩ := sound.calls id call found
    refine ⟨each.grow grows fun running resolved stage => kept ?_, placed⟩
    rw [stage] at placed
    exact placed.done
  · exact complete_grow (sound.answers id answer found) grows

theorem Sound.ensuring (sound : Sound state) (unset : state.cell = .unset) (found : state.calls.lookup id = some call) :
    call.stage = .ensuring := by
  have placed := (sound.calls id call found).2
  rw [unset] at placed
  cases stage : call.stage <;> rw [stage] at placed
  all_goals cases placed

theorem Sound.ensuring_of_running (sound : Sound state) {cloner : Nat} (running : state.cell = .running cloner)
    (other : id ≠ cloner) (found : state.calls.lookup id = some call) : call.stage = .ensuring := by
  have placed := (sound.calls id call found).2
  rw [running] at placed
  cases stage : call.stage <;> rw [stage] at placed
  case cloning =>
    cases placed
    exact absurd rfl other
  all_goals cases placed

theorem complete_of {remote seen result : Table Sha Nat} {shas : List Sha} {worked : Bool} (sub : Sub seen remote)
    (right : Right remote shas result)
    (all : worked = true → ∀ orig ∈ shas, isCommitSha (clean orig) = true → clean orig ∈ seen → orig ∈ result) :
    Complete remote ⟨shas, result, seen, worked⟩ := by
  refine ⟨right, fun work orig asked valid count had => ?_⟩
  have present := all work orig asked valid (AList.lookup_isSome.mp (by rw [had]; rfl))
  obtain ⟨got, found⟩ := Option.isSome_iff_exists.mp (AList.lookup_isSome.mpr present)
  have known := (right orig got found).2.2
  rw [sub _ _ had] at known
  rw [found, known]

theorem Sound.setCall (sound : Sound state) {next : Call} {stage : CallStage} {inFlight : List Sha}
    (found : state.calls.lookup id = some call) (passed : call.stage ≠ .cloning)
    (new : CallSound state.remote state.clone { next with stage }) (placed : Placed state.cell id stage)
    (keeps : ∀ sha ∈ claims call.stage, sha ∈ claims stage)
    (flies : ∀ sha ∈ inFlight, sha ∈ state.inFlight ∨ sha ∈ claims stage) :
    Sound { state.setCall id next stage with inFlight } := by
  refine ⟨sound.clone, sound.db, sound.usable, fun cloner running => ?_, fun other at_ looked => ?_, fun sha flying => ?_,
    sound.answers⟩
  · obtain ⟨cloning, waiter, waits, stays⟩ := sound.cloner cloner running
    have different : cloner ≠ id := by
      rintro rfl
      rw [found] at waits
      cases waits
      exact passed stays
    refine ⟨cloning, waiter, ?_, stays⟩
    simp only [Repo.setCall, Table.lookup_insert_ite, if_neg different, waits]
  · simp only [Repo.setCall, Table.lookup_insert_ite] at looked
    split at looked
    · rename_i same
      cases looked
      rw [same]
      exact ⟨new, placed⟩
    · exact sound.calls other at_ looked
  · simp only [Repo.setCall, Table.lookup_insert_ite]
    have here (member : sha ∈ claims stage) :
        ∃ other at_, (if other = id then some { next with stage } else state.calls.lookup other) = some at_ ∧
          sha ∈ claims at_.stage := ⟨id, _, if_pos rfl, member⟩
    rcases flies sha flying with before | member
    · obtain ⟨other, at_, looked, member⟩ := sound.inFlight sha before
      by_cases same : other = id
      · subst same
        rw [found] at looked
        cases looked
        exact here (keeps sha member)
      · exact ⟨other, at_, by rw [if_neg same, looked], member⟩
    · exact here member

theorem Sound.finish (sound : Sound state) {next : Call} {inFlight : List Sha}
    (found : state.calls.lookup id = some call) (passed : call.stage ≠ .cloning)
    (complete : Complete state.remote ⟨next.shas, next.result, next.seen, next.worked⟩)
    (left : ∀ sha ∈ inFlight, sha ∈ state.inFlight ∧ sha ∉ claims call.stage) :
    Sound { state.finish id next with inFlight } := by
  refine ⟨sound.clone, sound.db, sound.usable, fun cloner running => ?_, fun other at_ looked => ?_, fun sha flying => ?_,
    fun other answer looked => ?_⟩
  · obtain ⟨cloning, waiter, waits, stays⟩ := sound.cloner cloner running
    have different : cloner ≠ id := by
      rintro rfl
      rw [found] at waits
      cases waits
      exact passed stays
    refine ⟨cloning, waiter, ?_, stays⟩
    simp only [Repo.finish, Table.lookup_erase_ite, if_neg different, waits]
  · simp only [Repo.finish, Table.lookup_erase_ite] at looked
    split at looked
    · cases looked
    · exact sound.calls other at_ looked
  · obtain ⟨before, free⟩ := left sha flying
    obtain ⟨other, at_, looked, member⟩ := sound.inFlight sha before
    refine ⟨other, at_, ?_, member⟩
    have different : other ≠ id := by
      rintro rfl
      rw [found] at looked
      cases looked
      exact free member
    simp only [Repo.finish, Table.lookup_erase_ite, if_neg different, looked]
  · simp only [Repo.finish, Table.lookup_insert_ite] at looked
    split at looked
    · cases looked
      exact complete
    · exact sound.answers other answer looked

/-! ## The steps of a call -/

theorem Sound.hits (sound : Sound state) (success : Bool) : Sub (if success then state.db else ∅) state.remote := by
  cases success
  · intro _ _ found
    cases found
  · exact sound.db

theorem Sound.revList (sound : Sound state) {sha : Sha} {outcome : TaskOutcome} {count : Nat}
    (counted : state.revList sha outcome = some count) : state.remote.lookup sha = some count := by
  cases outcome with
  | answered =>
      obtain ⟨counts, stored, found⟩ := Option.bind_eq_some_iff.mp counted
      exact sound.clone counts stored sha count found
  | failed | panicked => cases counted

theorem sound_dbLookup (sound : Sound state) {success : Bool} (taken : state.step (.dbLookup id success) = some after) :
    Sound after := by
  simp only [step] at taken
  split at taken
  · rename_i shas result seen worked found
    obtain ⟨call, placed⟩ := sound.calls id _ found
    have known := sound.hits success
    have right := @Right.answerHits _ _ _ _ (cleanShas shas) call.right (fun sha member => (mem_cleanShas.mp member).1) known
    generalize (if success then state.db else ∅) = hits at taken known right
    have found_or (orig : Sha) (asked : orig ∈ shas) (valid : isCommitSha (clean orig) = true) :
        orig ∈ answerHits shas (cleanShas shas) hits result ∨ clean orig ∈ (cleanShas shas).filter (· ∉ hits) := by
      have listed : clean orig ∈ cleanShas shas := mem_cleanShas.mpr ⟨valid, orig, asked, rfl⟩
      by_cases hit : clean orig ∈ hits
      · exact .inl (mem_answerHits.mpr (.inl ⟨asked, listed, hit⟩))
      · exact .inr (List.mem_filter.mpr ⟨listed, by simpa using hit⟩)
    split at taken
    · rename_i none_
      cases taken
      refine sound.finish found (by simp) (complete_of call.seen right fun _ orig asked valid _ => ?_)
        fun sha flying => ⟨flying, List.not_mem_nil⟩
      exact (found_or orig asked valid).resolve_right (by rw [none_]; exact List.not_mem_nil)
    · rename_i some_
      cases taken
      refine sound.setCall found (by simp) ⟨call.seen, right, fun sha member => ?_, ?_, some_, ?_, ?_⟩ placed
        (fun _ member => by cases member) fun _ flying => .inl flying
      · exact (mem_cleanShas.mp (List.mem_filter.mp member).1).1
      · intro _ member
        cases member
      · exact fun _ orig asked valid _ => found_or orig asked valid
      · intro _ _ _ same
        cases same
  · cases taken

theorem sound_claim (sound : Sound state) (taken : state.step (.claim id) = some after) : Sound after := by
  simp only [step] at taken
  split at taken
  · rename_i shas result toFetch seen worked found
    obtain ⟨call, placed⟩ := sound.calls id _ found
    have each (sha : Sha) (member : sha ∈ toFetch) :
        sha ∈ toFetch.filter (· ∉ state.inFlight) ∨ sha ∈ toFetch.filter (· ∈ state.inFlight) := by
      by_cases flying : sha ∈ state.inFlight
      · exact .inr (List.mem_filter.mpr ⟨member, by simpa using flying⟩)
      · exact .inl (List.mem_filter.mpr ⟨member, by simpa using flying⟩)
    split at taken
    · rename_i none_
      rw [none_] at each
      cases taken
      refine sound.setCall found (by simp) ⟨call.seen, call.right, fun sha member => ?_, ?_, ?_, ?_, ?_⟩ placed
        (fun _ member => by cases member) fun sha flying => ?_
      · simp only [count, ids, List.map_nil, List.append_nil] at member
        exact call.valid sha (List.mem_filter.mp member).1
      · intro _ member
        cases member
      · obtain ⟨sha, member⟩ := List.exists_mem_of_ne_nil toFetch call.going
        exact List.ne_nil_of_mem ((each sha member).resolve_right List.not_mem_nil)
      · intro work orig asked valid had
        refine (call.all work orig asked valid had).imp_right fun member => ?_
        exact .inl ((each _ member).resolve_right List.not_mem_nil)
      · intro _ _ _ same
        cases same
      · simpa [claims, count] using List.mem_append.mp flying
    · cases taken
      refine sound.setCall found (by simp) ⟨call.seen, call.right, fun sha member => ?_, ?_, trivial, ?_, ?_⟩ placed
        (fun _ member => by cases member) fun sha flying => List.mem_append.mp flying
      · rcases List.mem_append.mp member with claimed | waiting
        · exact call.valid sha (List.mem_filter.mp claimed).1
        · exact call.valid sha (List.mem_filter.mp waiting).1
      · intro _ member
        cases member
      · intro work orig asked valid had
        exact (call.all work orig asked valid had).imp_right fun member => each _ member
      · intro _ _ _ same
        cases same
  · cases taken

theorem sound_lateLookup (sound : Sound state) {success : Bool} (careful : Careful state (.lateLookup id success))
    (taken : state.step (.lateLookup id success) = some after) : Sound after := by
  simp only [step] at taken
  split at taken
  · rename_i shas result claimed waiting seen worked found
    obtain ⟨call, placed⟩ := sound.calls id _ found
    have right := @Right.answerHits _ _ _ _ waiting call.right (fun sha member => call.valid sha (List.mem_append_right _ member))
      (sound.hits success)
    have all (work : worked = true) (orig : Sha) (asked : orig ∈ shas) (valid : isCommitSha (clean orig) = true)
        (had : clean orig ∈ seen) :
        orig ∈ answerHits shas waiting (if success then state.db else ∅) result ∨ clean orig ∈ claimed := by
      rcases call.all work orig asked valid had with present | mine | others
      · exact .inl (mem_answerHits.mpr (.inr present))
      · exact .inr mine
      · obtain ⟨rfl, stored⟩ := careful _ claimed waiting found rfl work _ others had
        exact .inl (mem_answerHits.mpr (.inl ⟨asked, others, stored⟩))
    split at taken
    · rename_i none_
      subst none_
      cases taken
      refine sound.finish found (by simp) (complete_of call.seen right fun work orig asked valid had => ?_)
        fun sha flying => ⟨flying, List.not_mem_nil⟩
      exact (all work orig asked valid had).resolve_right List.not_mem_nil
    · rename_i some_
      cases taken
      refine sound.setCall found (by simp) ⟨call.seen, right, fun sha member => ?_, ?_, some_, ?_, ?_⟩ placed
        (fun sha member => ?_) fun _ flying => .inl flying
      · simp only [count, ids, List.map_nil, List.append_nil] at member
        exact call.valid sha (List.mem_append_left _ member)
      · intro _ member
        cases member
      · exact fun work orig asked valid had => (all work orig asked valid had).imp_right .inl
      · intro _ _ _ same
        cases same
      · exact List.mem_append_left _ member
  · cases taken

theorem callSound_afterCounting {remote seen result : Table Sha Nat} {clone : Option (Table Sha Nat)} {shas : List Sha}
    {worked : Bool} {resolved : Resolved} (sub : Sub seen remote) (right : Right remote shas result)
    (valid : ∀ sha ∈ resolved.map Prod.fst, isCommitSha sha = true)
    (known : ∀ item ∈ countsOf resolved, remote.lookup item.1 = some item.2)
    (all : worked = true → ∀ orig ∈ shas, isCommitSha (clean orig) = true → clean orig ∈ seen →
      orig ∈ result ∨ clean orig ∈ resolved.map Prod.fst) :
    CallSound remote clone ⟨shas, result, afterCounting resolved, seen, worked⟩ := by
  have gotten (item : Sha × Nat) (member : item ∈ countsOf resolved) :
      isCommitSha item.1 = true ∧ remote.lookup item.1 = some item.2 :=
    ⟨valid _ (List.mem_map_of_mem (mem_countsOf.mp member)), known item member⟩
  unfold afterCounting
  split
  · rename_i none_
    refine ⟨sub, right, valid, gotten, trivial, fun work orig asked ok had => ?_, fun _ _ _ same => by cases same⟩
    refine (all work orig asked ok had).imp_right fun member => ?_
    obtain ⟨⟨sha, counted⟩, member, same⟩ := List.mem_map.mp member
    cases counted with
    | none =>
        have failed := mem_failedOf.mpr member
        rw [none_] at failed
        cases failed
    | some count => exact ⟨count, mem_countsOf.mpr (by rwa [← same])⟩
  · rename_i some_
    exact ⟨sub, right, valid, gotten, some_, all, fun _ _ _ same => by cases same⟩

theorem placed_afterCounting {cell : CloneCell} {resolved : Resolved} (done : cell = .done) :
    Placed cell id (afterCounting resolved) := by
  unfold afterCounting
  split <;> exact done

theorem claims_afterCounting (resolved : Resolved) : claims (afterCounting resolved) = resolved.map Prod.fst := by
  unfold afterCounting
  split <;> rfl

theorem mem_erase_or {list : List Sha} {sha other : Sha} (member : other ∈ list) : other ∈ list.erase sha ∨ other = sha := by
  by_cases same : other = sha
  · exact .inr same
  · exact .inl ((List.mem_erase_of_ne same).mpr member)

theorem sound_counted (sound : Sound state) {sha : Sha} {outcome : TaskOutcome} (careful : Careful state (.counted id sha outcome))
    (taken : state.step (.counted id sha outcome) = some after) : Sound after := by
  simp only [step] at taken
  split at taken
  · rename_i shas result running resolved seen worked found
    obtain ⟨call, placed⟩ := sound.calls id _ found
    split at taken
    · rename_i runs
      rw [if_neg careful] at taken
      have valid : ∀ other ∈ (resolved ++ [(sha, state.revList sha outcome)]).map Prod.fst, isCommitSha other = true := by
        intro other member
        rw [List.map_append, List.mem_append] at member
        rcases member with before | new
        · exact call.valid other (List.mem_append_right _ before)
        · rw [List.mem_singleton.mp new]
          exact call.valid sha (List.mem_append_left _ runs)
      have known : ∀ item ∈ countsOf (resolved ++ [(sha, state.revList sha outcome)]),
          state.remote.lookup item.1 = some item.2 := by
        rintro ⟨other, count⟩ member
        rcases List.mem_append.mp (mem_countsOf.mp member) with before | new
        · exact (call.gotten _ (mem_countsOf.mpr before)).2
        · obtain ⟨rfl, counted⟩ := Prod.mk.inj (List.mem_singleton.mp new)
          exact sound.revList counted.symm
      -- what runs is left to run, or is resolved
      have moves (other : Sha) (member : other ∈ running ∨ other ∈ resolved.map Prod.fst) :
          other ∈ running.erase sha ∨ other ∈ (resolved ++ [(sha, state.revList sha outcome)]).map Prod.fst := by
        rw [List.map_append, List.mem_append]
        rcases member with runs | before
        · exact (mem_erase_or runs).imp_right fun same => .inr (List.mem_singleton.mpr same)
        · exact .inr (.inl before)
      have all (work : (worked && decide (outcome = .answered)) = true) (orig : Sha) (asked : orig ∈ shas)
          (ok : isCommitSha (clean orig) = true) (had : clean orig ∈ seen) :=
        (call.all (Bool.and_eq_true_iff.mp work).1 orig asked ok had).imp_right (moves (clean orig))
      split at taken
      · rename_i none_
        rw [none_] at moves all
        cases taken
        refine sound.setCall found (by simp) (callSound_afterCounting call.seen call.right valid known ?_)
          (placed_afterCounting placed) (fun other member => ?_) fun _ flying => .inl flying
        · exact fun work orig asked ok had => (all work orig asked ok had).imp_right (Or.resolve_left · List.not_mem_nil)
        · rw [claims_afterCounting]
          exact (moves other (List.mem_append.mp member)).resolve_left List.not_mem_nil
      · rename_i some_
        cases taken
        refine sound.setCall found (by simp) ⟨call.seen, call.right, fun other member => ?_, fun item member => ?_, some_, all,
          fun _ _ _ same => by cases same⟩ placed (fun other member => ?_) fun _ flying => .inl flying
        · rcases List.mem_append.mp member with left | done
          · exact call.valid other (List.mem_append_left _ (List.mem_of_mem_erase left))
          · exact valid other done
        · exact ⟨valid _ (List.mem_map_of_mem (mem_countsOf.mp member)), known item member⟩
        · exact List.mem_append.mpr (moves other (List.mem_append.mp member))
    · cases taken
  · cases taken

theorem Sound.fetched (sound : Sound state) (success : Bool) : Sound (state.fetch success) := by
  unfold Repo.fetch
  split
  · refine sound.grow Sub.rfl (fun counts same => ?_) sound.db fun _ counts stored => ?_
    · cases same
      exact Sub.rfl
    · exact ⟨_, rfl, sound.clone counts stored⟩
  · exact sound

theorem fetch_cell (success : Bool) : (state.fetch success).cell = state.cell := by
  unfold Repo.fetch
  split <;> rfl

theorem fetch_calls (success : Bool) : (state.fetch success).calls = state.calls := by
  unfold Repo.fetch
  split <;> rfl

theorem sound_fetch (sound : Sound state) {success : Bool} (taken : state.step (.fetch id success) = some after) :
    Sound after := by
  simp only [step] at taken
  split at taken
  · rename_i shas result resolved seen worked found
    cases taken
    have fetched := sound.fetched success
    have still : (state.fetch success).calls.lookup id = some ⟨shas, result, .updating resolved, seen, worked⟩ := by
      rw [fetch_calls, found]
    obtain ⟨call, placed⟩ := fetched.calls id _ still
    refine fetched.setCall still (by simp) ⟨call.seen, call.right, call.valid, call.gotten, ⟨call.going, fun sha member => ?_⟩,
      fun work orig asked ok had => ?_, fun work _ _ _ => ?_⟩ placed (fun _ member => member) fun _ flying => .inl flying
    · exact List.mem_map_of_mem (f := Prod.fst) (mem_failedOf.mp member)
    · refine (call.all (Bool.and_eq_true_iff.mp work).1 orig asked ok had).imp_right fun member => ?_
      obtain ⟨⟨sha, counted⟩, member, same⟩ := List.mem_map.mp member
      subst same
      cases counted with
      | none => exact .inl (mem_failedOf.mpr member)
      | some count => exact .inr ⟨count, member⟩
    · obtain rfl : success = true := (Bool.and_eq_true_iff.mp work).2
      rw [fetch_cell] at placed
      have usable := sound.usable placed
      have updated : state.fetch true = { state with clone := some state.remote } := by
        rw [Repo.fetch, usable]
        rfl
      rw [updated] at call ⊢
      exact ⟨_, rfl, call.seen⟩
  · cases taken

theorem sound_recounted (sound : Sound state) {sha : Sha} {outcome : TaskOutcome}
    (taken : state.step (.recounted id sha outcome) = some after) : Sound after := by
  simp only [step] at taken
  split at taken
  · rename_i shas result running resolved seen worked found
    obtain ⟨call, placed⟩ := sound.calls id _ found
    split at taken
    · rename_i runs
      split at taken
      · rename_i panicked
        subst panicked
        cases taken
        refine sound.setCall found (by simp) ⟨call.seen, call.right, call.valid, call.gotten, trivial, fun work => ?_,
          fun _ _ _ same => by cases same⟩ placed (fun _ member => member) fun _ flying => .inl flying
        simp at work
      · have same := map_fst_overwrite resolved sha (state.revList sha outcome)
        have gotten : ∀ item ∈ countsOf (overwrite resolved sha (state.revList sha outcome)),
            isCommitSha item.1 = true ∧ state.remote.lookup item.1 = some item.2 := by
          rintro ⟨other, count⟩ member
          rcases mem_overwrite.mp (mem_countsOf.mp member) with ⟨-, before⟩ | ⟨rfl, counted, listed⟩
          · exact call.gotten _ (mem_countsOf.mpr before)
          · exact ⟨call.valid _ listed, sound.revList counted.symm⟩
        have all (work : (worked && decide (outcome = .answered)) = true) (orig : Sha) (asked : orig ∈ shas)
            (ok : isCommitSha (clean orig) = true) (had : clean orig ∈ seen) :
            orig ∈ result ∨ clean orig ∈ running.erase sha ∨
              ∃ count, (clean orig, some count) ∈ overwrite resolved sha (state.revList sha outcome) := by
          obtain ⟨before, answered⟩ := Bool.and_eq_true_iff.mp work
          obtain rfl := of_decide_eq_true answered
          refine (call.all before orig asked ok had).imp_right fun open_ => ?_
          by_cases here : clean orig = sha
          · -- the update has brought what the call had seen
            obtain ⟨counts, cloned, updated⟩ := call.updated before running resolved rfl
            obtain ⟨count, -, known⟩ := Sub.mem updated had
            have counted : state.revList sha .answered = some count := by
              rw [Repo.revList, cloned, ← here]
              exact known
            refine .inr ⟨count, mem_overwrite.mpr (.inr ⟨here, counted.symm, ?_⟩)⟩
            exact call.going.2 sha runs
          · rcases open_ with left | ⟨count, counted⟩
            · exact .inl ((List.mem_erase_of_ne here).mpr left)
            · exact .inr ⟨count, mem_overwrite.mpr (.inl ⟨here, counted⟩)⟩
        have valid : ∀ other ∈ (overwrite resolved sha (state.revList sha outcome)).map Prod.fst,
            isCommitSha other = true := by
          rw [same]
          exact call.valid
        have keeps : ∀ other ∈ resolved.map Prod.fst,
            other ∈ (overwrite resolved sha (state.revList sha outcome)).map Prod.fst := by
          rw [same]
          exact fun _ member => member
        split at taken
        · rename_i none_
          rw [none_] at all
          cases taken
          refine sound.setCall found (by simp) ⟨call.seen, call.right, valid, gotten, trivial,
            fun work orig asked ok had => ?_, fun _ _ _ same => by cases same⟩ placed keeps fun _ flying => .inl flying
          refine (all work orig asked ok had).imp_right fun open_ => ?_
          obtain ⟨count, counted⟩ := open_.resolve_left List.not_mem_nil
          exact ⟨count, mem_countsOf.mpr counted⟩
        · rename_i some_
          cases taken
          refine sound.setCall found (by simp) ⟨call.seen, call.right, valid, gotten, ⟨some_, fun other member => ?_⟩, all,
            fun work _ _ _ => ?_⟩ placed keeps fun _ flying => .inl flying
          · exact keeps other (call.going.2 other (List.mem_of_mem_erase member))
          · exact call.updated (Bool.and_eq_true_iff.mp work).1 running resolved rfl
    · cases taken
  · cases taken

theorem sound_dbStore (sound : Sound state) {success : Bool} (taken : state.step (.dbStore id success) = some after) :
    Sound after := by
  simp only [step] at taken
  split at taken
  · rename_i shas result sha count counts resolved seen worked found
    obtain ⟨call, placed⟩ := sound.calls id _ found
    obtain ⟨valid, known⟩ := call.gotten (sha, count) List.mem_cons_self
    cases taken
    have stored : Sound (state.setCall id ⟨shas, answer shas result sha count, .storing counts resolved, seen, worked⟩
        (.storing counts resolved)) := by
      refine sound.setCall found (by simp) ⟨call.seen, call.right.answer valid known, call.valid,
        fun item member => call.gotten item (List.mem_cons_of_mem _ member), trivial, fun work orig asked ok had => ?_,
        fun _ _ _ same => by cases same⟩ placed (fun _ member => member) fun _ flying => .inl flying
      rcases call.all work orig asked ok had with present | ⟨got, member⟩
      · exact .inl (mem_answer.mpr (.inr present))
      · rcases List.mem_cons.mp member with same | later
        · exact .inl (mem_answer.mpr (.inl ⟨asked, (Prod.mk.inj same).1⟩))
        · exact .inr ⟨got, later⟩
    refine stored.grow Sub.rfl stored.clone ?_ fun _ counts here => ⟨counts, here, Sub.rfl⟩
    split
    · intro other got looked
      rw [Table.lookup_insert_ite] at looked
      split at looked
      · rename_i same
        cases looked
        rw [same]
        exact known
      · exact sound.db other got looked
    · exact sound.db
  · cases taken

theorem sound_release (sound : Sound state) (taken : state.step (.release id) = some after) : Sound after := by
  simp only [step] at taken
  split at taken
  · rename_i shas result resolved seen worked found
    obtain ⟨call, -⟩ := sound.calls id _ found
    cases taken
    refine sound.finish found (by simp) (complete_of call.seen call.right fun work orig asked ok had => ?_) fun sha flying => ?_
    · refine (call.all work orig asked ok had).resolve_right ?_
      rintro ⟨_, none_⟩
      cases none_
    · simpa [claims] using List.mem_filter.mp flying
  · cases taken

/-! ## The once-cell -/

theorem CallSound.ensured {remote : Table Sha Nat} {clone : Option (Table Sha Nat)} (sound : CallSound remote clone call)
    {worked : Bool} {stage : CallStage} (early : stage = .cloning ∨ stage = .lookingUp) {cloned : Option (Table Sha Nat)} :
    CallSound remote cloned { call with worked, stage } := by
  rcases early with rfl | rfl
  all_goals
    refine ⟨sound.seen, sound.right, ?_, ?_, trivial, fun _ _ _ _ _ => .inr trivial, fun _ _ _ same => by cases same⟩
    · intro _ member
      cases member
    · intro _ member
      cases member

theorem Sound.settle (sound : Sound state) (unset : state.cell = .unset) (cloned : state.clone.isSome = true) :
    Sound { state with cell := .done } := by
  refine ⟨sound.clone, sound.db, fun _ => cloned, (fun _ same => by cases same), fun id call found => ?_, sound.inFlight,
    sound.answers⟩
  refine ⟨(sound.calls id call found).1, ?_⟩
  rw [sound.ensuring unset found]
  trivial

theorem sound_ensureClone (sound : Sound state) (taken : state.step (.ensureClone id) = some after) : Sound after := by
  simp only [step] at taken
  split at taken
  · rename_i shas result seen worked found
    obtain ⟨call, -⟩ := sound.calls id _ found
    have looking : CallSound state.remote state.clone ⟨shas, result, .lookingUp, seen, worked⟩ := call.ensured (.inr rfl)
    split at taken
    · rename_i done
      cases taken
      exact sound.setCall found (by simp) looking done (fun _ member => by cases member) fun _ flying => .inl flying
    · cases taken
    · rename_i unset
      split at taken
      · rename_i exists_
        cases taken
        exact (sound.settle unset exists_).setCall found (by simp) looking rfl
          (fun _ member => by cases member) fun _ flying => .inl flying
      · rename_i missing
        cases taken
        refine ⟨fun counts same => ?_, sound.db, (fun same => by cases same), fun other same => ?_, fun other at_ looked => ?_,
          fun sha flying => ?_, sound.answers⟩
        · cases same
          intro _ _ none_
          cases none_
        · cases same
          exact ⟨rfl, _, AList.lookup_insert _, rfl⟩
        · simp only [Repo.setCall, Table.lookup_insert_ite] at looked
          split at looked
          · rename_i same
            cases looked
            rw [same]
            exact ⟨call.ensured (.inl rfl), rfl⟩
          · have stage := sound.ensuring unset looked
            refine ⟨(sound.calls other at_ looked).1.grow Sub.rfl fun _ _ same => ?_, ?_⟩
            · rw [stage] at same
              cases same
            · rw [stage]
              trivial
        · obtain ⟨other, at_, looked, member⟩ := sound.inFlight sha flying
          rw [sound.ensuring unset looked] at member
          cases member
  · cases taken

theorem sound_cloned (sound : Sound state) {success : Bool} (careful : Careful state (.cloned success))
    (taken : state.step (.cloned success) = some after) : Sound after := by
  simp only [step] at taken
  split at taken
  · split at taken
    · rename_i cloner running
      obtain ⟨-, call, found, stage⟩ := sound.cloner cloner running
      obtain rfl : success = true := by
        by_contra failed
        have unset := careful (by simpa using failed)
        rw [running] at unset
        cases unset
      rw [found] at taken
      cases taken
      refine ⟨fun counts same => ?_, sound.db, fun _ => rfl, (fun _ same => by cases same), fun other at_ looked => ?_,
        fun sha flying => ?_, sound.answers⟩
      · cases same
        exact Sub.rfl
      · simp only [Repo.setCall, Table.lookup_insert_ite] at looked
        split at looked
        · cases looked
          exact ⟨(sound.calls cloner call found).1.ensured (.inr rfl), rfl⟩
        · rename_i different
          have stage := sound.ensuring_of_running running different looked
          refine ⟨(sound.calls other at_ looked).1.grow Sub.rfl fun _ _ same => ?_, ?_⟩
          · rw [stage] at same
            cases same
          · rw [stage]
            trivial
      · obtain ⟨other, at_, looked, member⟩ := sound.inFlight sha flying
        by_cases same : other = cloner
        · subst same
          rw [found] at looked
          cases looked
          rw [stage] at member
          cases member
        · rw [sound.ensuring_of_running running same looked] at member
          cases member
    · rename_i other
      cases taken
      have grown : Sound { state with clone := if success then some state.remote else none } := by
        refine sound.grow Sub.rfl (fun counts same => ?_) sound.db fun done counts stored => ?_
        · cases success <;> cases same
          exact Sub.rfl
        · cases success with
          | true => exact ⟨_, rfl, sound.clone counts stored⟩
          | false => cases done.symm.trans (careful rfl)
      exact ⟨grown.clone, grown.db, grown.usable, fun id running => absurd running (other id), grown.calls, grown.inFlight,
        grown.answers⟩
  · cases taken

/-! ## Every step -/

theorem sound_call (sound : Sound state) {shas : List Sha} (taken : state.step (.call id shas) = some after) : Sound after := by
  simp only [step] at taken
  split at taken
  · cases taken
  · rename_i new
    rw [not_or] at new
    have fresh : state.calls.lookup id = none := AList.lookup_eq_none.mpr new.1
    have different {other : Nat} {at_ : Call} (looked : state.calls.lookup other = some at_) : other ≠ id := by
      rintro rfl
      rw [fresh] at looked
      cases looked
    cases taken
    refine ⟨sound.clone, sound.db, sound.usable, fun cloner running => ?_, fun other at_ looked => ?_, fun sha flying => ?_,
      sound.answers⟩
    · obtain ⟨cloning, waiter, waits, stays⟩ := sound.cloner cloner running
      refine ⟨cloning, waiter, ?_, stays⟩
      rw [Table.lookup_insert_ite, if_neg (different waits), waits]
    · rw [Table.lookup_insert_ite] at looked
      split at looked
      · cases looked
        refine ⟨⟨Sub.rfl, ?_, ?_, ?_, trivial, fun _ _ _ _ _ => .inr trivial, (fun _ _ _ same => by cases same)⟩, trivial⟩
        · intro _ _ found
          cases found
        · intro _ member
          cases member
        · intro _ member
          cases member
      · exact sound.calls other at_ looked
    · obtain ⟨other, at_, looked, member⟩ := sound.inFlight sha flying
      refine ⟨other, at_, ?_, member⟩
      rw [Table.lookup_insert_ite, if_neg (different looked), looked]

theorem sound_drop (sound : Sound state) (careful : Careful state (.drop id)) (taken : state.step (.drop id) = some after) :
    Sound after := by
  simp only [step] at taken
  split at taken
  · cases taken
    refine ⟨sound.clone, sound.db, fun done => sound.usable ?_, fun cloner running => ?_, fun other at_ looked => ?_,
      fun sha flying => ?_, sound.answers⟩
    · split at done
      · cases done
      · exact done
    · simp only at running
      split at running
      · cases running
      · rename_i other
        obtain ⟨cloning, waiter, waits, stays⟩ := sound.cloner cloner running
        have different : cloner ≠ id := by
          rintro rfl
          exact other running
        exact ⟨cloning, waiter, by rw [Table.lookup_erase_ite, if_neg different, waits], stays⟩
    · rw [Table.lookup_erase_ite] at looked
      split at looked
      · cases looked
      · rename_i different
        obtain ⟨each, placed⟩ := sound.calls other at_ looked
        refine ⟨each, ?_⟩
        split
        · rename_i running
          rw [sound.ensuring_of_running running different looked]
          trivial
        · exact placed
    · obtain ⟨other, at_, looked, member⟩ := sound.inFlight sha flying
      refine ⟨other, at_, ?_, member⟩
      have different : other ≠ id := by
        rintro rfl
        rw [careful at_ looked] at member
        cases member
      rw [Table.lookup_erase_ite, if_neg different, looked]
  · cases taken

theorem sound_push (sound : Sound state) {sha : Sha} {count : Nat} (taken : state.step (.push sha count) = some after) :
    Sound after := by
  simp only [step] at taken
  split at taken
  · cases taken
  · rename_i new
    cases taken
    have grows : Sub state.remote (state.remote.insert sha count) := by
      intro other got found
      have different : other ≠ sha := by
        rintro rfl
        rw [AList.lookup_eq_none.mpr new] at found
        cases found
      rw [Table.lookup_insert_ite, if_neg different, found]
    exact sound.grow grows (fun counts stored => (sound.clone counts stored).trans grows) (sound.db.trans grows)
      fun _ counts stored => ⟨counts, stored, Sub.rfl⟩

theorem sound_restart (sound : Sound state) (taken : state.step .restart = some after) : Sound after := by
  cases taken
  refine ⟨sound.clone, sound.db, (fun same => by cases same), (fun _ same => by cases same), fun _ _ found => ?_,
    fun _ flying => ?_, sound.answers⟩
  · cases found
  · cases flying

theorem sound_step (event : CommitEvent) (sound : Sound state) (careful : Careful state event)
    (taken : state.step event = some after) : Sound after := by
  cases event with
  | push sha count => exact sound_push sound taken
  | call id shas => exact sound_call sound taken
  | ensureClone id => exact sound_ensureClone sound taken
  | cloned success => exact sound_cloned sound careful taken
  | dbLookup id success => exact sound_dbLookup sound taken
  | claim id => exact sound_claim sound taken
  | lateLookup id success => exact sound_lateLookup sound careful taken
  | counted id sha outcome => exact sound_counted sound careful taken
  | fetch id success => exact sound_fetch sound taken
  | recounted id sha outcome => exact sound_recounted sound taken
  | dbStore id success => exact sound_dbStore sound taken
  | release id => exact sound_release sound taken
  | drop id => exact sound_drop sound careful taken
  | fetchLoop success =>
      cases taken
      exact sound.fetched success
  | restart => exact sound_restart sound taken

end MacMgmt.Proof.Server.Commits
