import MacMgmt.Daemon.Packages

/-!
# Packages are removed or retried

While no run is at work every synced package in the profile is recorded. A run adds only packages it desires, so what it
must not lose when it writes the state are the packages whose removal failed.
-/

namespace MacMgmt.Proof.Packages
open Lib Daemon PackageSync

structure AtWork (state : PackageSync) (work : SyncWork) : Prop where
  current : work.current = state.recorded
  covered : ∀ package ∈ state.synced, package ∈ state.profile → package ∈ state.recorded ∨ package ∈ work.desired
  todo : work.stage ≠ .remove → ∀ package ∈ work.todo, package ∈ work.desired
  number : work.number = state.lastLocked
  unfinished : state.newestFinished < state.lastLocked
  last : work.number = state.issued → work.desired = state.lastDesired

structure Managed (state : PackageSync) : Prop where
  recorded : state.holder = none → ∀ package ∈ state.synced, package ∈ state.profile → package ∈ state.recorded
  atWork : ∀ work, state.holder = some work → AtWork state work
  finished : state.newestFinished ≤ state.lastLocked
  locked : state.lastLocked ≤ state.issued
  waiting : ∀ number desired, state.waiting.lookup number = some desired →
    number ≤ state.issued ∧ (number = state.issued → desired = state.lastDesired)
  applied : state.holder = none → 0 < state.issued → state.newestFinished = state.issued →
    (∀ package, package ∈ state.recorded ↔ package ∈ state.lastDesired) ∧
    (∀ package ∈ state.lastDesired, package ∈ state.profile) ∧
    ∀ package ∈ state.synced, package ∈ state.profile → package ∈ state.lastDesired

variable {state after : PackageSync}

theorem managed_start (profile : Finset String) (stateFile : Option (List String)) (legacyFile : List String) :
    Managed (start profile stateFile legacyFile) where
  recorded _ package synced _ := List.mem_toFinset.mp synced
  atWork work held := by cases held
  finished := le_rfl
  locked := le_rfl
  waiting number desired found := by cases found
  applied _ issued _ := absurd issued (lt_irrefl 0)

/-! ## One step -/

theorem Managed.issue (managed : Managed state) {packages : List String}
    (taken : state.step (.issue packages) = some after) : Managed after := by
  cases taken
  refine ⟨managed.recorded, fun work held => ?_, managed.finished, Nat.le_succ_of_le managed.locked, ?_, ?_⟩
  · obtain ⟨current, covered, todo, number, unfinished, _⟩ := managed.atWork work held
    refine ⟨current, covered, todo, number, unfinished, fun same => ?_⟩
    have locked := managed.locked
    rw [← number, show work.number = state.issued + 1 from same] at locked
    exact absurd locked (Nat.not_succ_le_self _)
  · intro number desired found
    rw [Table.lookup_insert_ite] at found
    split at found
    · rename_i same
      cases found
      exact ⟨same.le, fun _ => rfl⟩
    · rename_i different
      obtain ⟨below, _⟩ := managed.waiting number desired found
      exact ⟨Nat.le_succ_of_le below, fun same => absurd same different⟩
  · intro _ _ same
    have below := managed.finished.trans managed.locked
    rw [show state.newestFinished = state.issued + 1 from same] at below
    exact absurd below (Nat.not_succ_le_self _)

theorem Managed.lock (managed : Managed state) {number : Nat} {lists : Bool}
    (settled : state.Settled (.lock number lists)) (taken : state.step (.lock number lists) = some after) :
    Managed after := by
  simp only [step] at taken
  split at taken
  · rename_i desired free found
    cases taken
    obtain ⟨below, last⟩ := managed.waiting number desired found
    refine ⟨(fun held => by cases held), fun work held => ?_, managed.finished.trans settled.le, below, ?_,
      (fun held => by cases held)⟩
    · cases held
      refine ⟨rfl, fun package synced member => .inl (managed.recorded free package synced member), fun _ package todo => ?_,
        rfl, managed.finished.trans_lt settled, last⟩
      by_cases unknown : (if lists then state.profile else ∅) = ∅
      · rw [if_pos unknown] at todo
        cases todo
      · rw [if_neg unknown] at todo
        exact (List.mem_filter.mp todo).1
    · intro other desired held
      rw [PackageSync.lock, Table.lookup_erase_ite] at held
      split at held
      · cases held
      · exact managed.waiting other desired held
  · cases taken

theorem AtWork.command {work : SyncWork} (atWork : AtWork state work) {package : String} (member : package ∈ work.todo)
    (outcome : ProfileOutcome) :
    AtWork (state.command work package outcome) { work with todo := work.todo.erase package } := by
  obtain ⟨current, covered, todo, number, unfinished, last⟩ := atWork
  unfold PackageSync.command
  cases stage : work.stage with
  | remove =>
      refine ⟨current, fun other synced kept => covered other synced ?_, fun wrong => absurd rfl wrong, number, unfinished,
        last⟩
      dsimp only at kept
      split at kept
      · exact Finset.mem_of_mem_erase kept
      · exact kept
  | reinstall | install | upgrade =>
      have adds : work.stage ≠ .remove := by
        rw [stage]
        decide
      have wanted : package ∈ work.desired := todo adds package member
      dsimp only
      split
      · refine ⟨current, fun other synced kept => ?_, fun _ other left => todo adds other (List.mem_of_mem_erase left), number,
          unfinished, last⟩
        rcases Finset.mem_insert.mp synced with rfl | before
        · exact .inr wanted
        · rcases Finset.mem_insert.mp kept with rfl | left
          · exact .inr wanted
          · exact covered other before (Finset.mem_sdiff.mp left).1
      · exact ⟨current, fun other synced kept => covered other synced (Finset.mem_sdiff.mp kept).1,
          fun _ other left => todo adds other (List.mem_of_mem_erase left), number, unfinished, last⟩

theorem command_frame (state : PackageSync) (work : SyncWork) (package : String) (outcome : ProfileOutcome) :
    ∃ profile synced, state.command work package outcome = { state with
      holder := some { work with todo := work.todo.erase package }, profile := profile, synced := synced } := by
  unfold PackageSync.command
  cases work.stage with
  | remove => exact ⟨_, _, rfl⟩
  | reinstall | install | upgrade =>
      by_cases ok : outcome.ok = true
      · simp only [ok, if_true]
        exact ⟨_, _, rfl⟩
      · simp only [ok]
        exact ⟨_, _, rfl⟩

theorem Managed.command (managed : Managed state) {package : String} {outcome : ProfileOutcome}
    (taken : state.step (.command package outcome) = some after) : Managed after := by
  simp only [step] at taken
  split at taken
  · rename_i work held
    obtain ⟨member, same⟩ := Option.ite_none_right_eq_some.mp taken
    cases same
    have atWork := (managed.atWork work held).command member outcome
    obtain ⟨profile, synced, frame⟩ := command_frame state work package outcome
    rw [frame] at atWork ⊢
    refine ⟨(fun free => by cases free), fun other taken => ?_, managed.finished, managed.locked, managed.waiting,
      (fun free => by cases free)⟩
    cases taken
    exact atWork
  · cases taken

theorem AtWork.next {work next : SyncWork} {upgradable : List String} (atWork : AtWork state work)
    (advances : nextStage work upgradable = some next) : AtWork { state with holder := some next } next := by
  obtain ⟨current, covered, -, number, unfinished, last⟩ := atWork
  unfold nextStage at advances
  cases stage : work.stage with
  | reinstall =>
      simp only [stage] at advances
      cases advances
      exact ⟨current, covered, fun _ package todo => List.mem_of_mem_filter todo, number, unfinished, last⟩
  | install =>
      simp only [stage] at advances
      cases advances
      exact ⟨current, covered, fun wrong => absurd rfl wrong, number, unfinished, last⟩
  | remove =>
      simp only [stage] at advances
      cases advances
      exact ⟨current, covered, fun _ package todo => List.mem_of_mem_filter todo, number, unfinished, last⟩
  | upgrade =>
      simp only [stage] at advances
      cases advances

theorem Managed.advance (managed : Managed state) {upgradable : List String}
    (taken : state.step (.advance upgradable) = some after) : Managed after := by
  simp only [step] at taken
  split at taken
  · rename_i work held
    obtain ⟨-, moved⟩ := Option.ite_none_right_eq_some.mp taken
    obtain ⟨next, advances, same⟩ := Option.map_eq_some_iff.mp moved
    cases same
    refine ⟨(fun free => by cases free), fun other taken => ?_, managed.finished, managed.locked, managed.waiting,
      (fun free => by cases free)⟩
    cases taken
    exact (managed.atWork work held).next advances
  · cases taken

theorem AtWork.desired {work : SyncWork} (atWork : AtWork state work)
    (removed : ∀ package ∈ work.current, package ∉ work.desired → package ∈ state.synced → package ∉ state.profile)
    {package : String} (synced : package ∈ state.synced) (installed : package ∈ state.profile) :
    package ∈ work.desired := by
  rcases atWork.covered package synced installed with recorded | desired
  · by_contra unwanted
    exact removed package (atWork.current ▸ recorded) unwanted synced installed
  · exact desired

theorem Managed.write (managed : Managed state) {result : StateWrite} (settled : state.Settled (.write result))
    (taken : state.step (.write result) = some after) : Managed after := by
  simp only [step] at taken
  split at taken
  · rename_i work held
    obtain ⟨-, same⟩ := Option.ite_none_right_eq_some.mp taken
    cases same
    obtain ⟨rfl, effects⟩ := settled
    obtain ⟨removed, installed⟩ := effects work held
    have atWork := managed.atWork work held
    have newest : max state.newestFinished work.number = state.lastLocked := by
      rw [atWork.number]
      exact max_eq_right atWork.unfinished.le
    refine ⟨fun _ package synced member => atWork.desired removed synced member, (fun other taken => by cases taken),
      newest.le, managed.locked, managed.waiting, fun _ _ all => ?_⟩
    have same : work.number = state.issued := by
      rw [atWork.number, ← newest]
      exact all
    have last := atWork.last same
    refine ⟨fun package => ?_, fun package desired => ?_, fun package synced member => ?_⟩
    · rw [← last]
      rfl
    · exact installed same package (last ▸ desired)
    · exact last ▸ atWork.desired removed synced member
  · cases taken

theorem Managed.restart (managed : Managed state) (settled : state.Settled .restart)
    (taken : state.step .restart = some after) : Managed after := by
  cases taken
  refine ⟨fun _ => settled, (fun work held => by cases held), managed.finished, managed.locked,
    (fun number desired found => by cases found), fun _ issued newest => ?_⟩
  cases held : state.holder with
  | none => exact managed.applied held issued newest
  | some work =>
      have below := (managed.atWork work held).unfinished.trans_le managed.locked
      exact absurd newest below.ne

theorem managed_step {event : PackageEvent} (managed : Managed state) (settled : state.Settled event)
    (taken : state.step event = some after) : Managed after := by
  cases event with
  | issue packages => exact managed.issue taken
  | lock number lists => exact managed.lock settled taken
  | command package outcome => exact managed.command taken
  | advance upgradable => exact managed.advance taken
  | write result => exact managed.write settled taken
  | restart => exact managed.restart settled taken

/-! ## Whole runs -/

def succeeds : ProfileOutcome := ⟨true, ∅⟩

def fails : ProfileOutcome := ⟨false, ∅⟩

def installRun (number : Nat) (package : String) : List PackageEvent :=
  [.lock number true, .advance [], .command package succeeds, .advance [], .advance [], .write .written]

def removeRun (number : Nat) (package : String) (outcome : ProfileOutcome) : List PackageEvent :=
  [.lock number true, .advance [], .advance [], .command package outcome, .advance [], .write .written]

instance (state : PackageSync) : DecidablePred state.Settled
  | .lock number _ => inferInstanceAs (Decidable (state.lastLocked < number))
  | .write result => inferInstanceAs (Decidable (result = .written ∧ ∀ work ∈ state.holder,
      (∀ package ∈ work.current, package ∉ work.desired → package ∈ state.synced → package ∉ state.profile) ∧
      (work.number = state.issued → ∀ package ∈ work.desired, package ∈ state.profile)))
  | .restart => inferInstanceAs (Decidable (∀ package ∈ state.synced, package ∈ state.profile → package ∈ state.recorded))
  | .issue _ | .command _ _ | .advance _ => inferInstanceAs (Decidable True)

def removed : List PackageEvent :=
  .issue ["git", "jq"] :: installRun 1 "jq" ++ .issue ["jq"] :: .restart :: .issue ["git"] :: removeRun 3 "jq" succeeds

end MacMgmt.Proof.Packages
