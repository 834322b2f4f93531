import MacMgmt.Proof.Server.CommitClaims

/-!
# Every claim is released, and every commit is counted
-/

namespace MacMgmt.Proof.Server.Commits
open Lib MacMgmt.Server Commits Repo

variable {state after : Repo} {id : Nat} {call : Call}

/-! ## A call finishes -/

theorem Finishes.step {worked : Bool} (event : CommitEvent) (works : Works id event) (taken : state.step event = some after)
    (finishes : Finishes after id worked) : Finishes state id worked := by
  obtain ⟨events, final, answer, all, ran, found, same⟩ := finishes
  refine ⟨event :: events, final, answer, ?_, run_cons_some.mpr ⟨after, taken, ran⟩, found, same⟩
  exact List.forall_mem_cons.mpr ⟨works, all⟩

theorem finishes_finish {shas : List Sha} {result seen : Table Sha Nat} {stage : CallStage} {worked : Bool} {inFlight : List Sha} :
    Finishes { state.finish id ⟨shas, result, stage, seen, worked⟩ with inFlight } id worked :=
  ⟨[], _, _, (fun _ member => by cases member), rfl, AList.lookup_insert _, rfl⟩

section Stages
variable {shas : List Sha} {result seen : Table Sha Nat} {worked : Bool} {resolved : Resolved}

theorem finishes_storing {counts : List (Sha × Nat)}
    (found : state.calls.lookup id = some ⟨shas, result, .storing counts resolved, seen, worked⟩) :
    Finishes state id worked := by
  induction counts generalizing state result with
  | nil =>
      refine Finishes.step (.release id) rfl (by simp only [Repo.step, found]; rfl) ?_
      exact finishes_finish
  | cons item counts ih =>
      refine Finishes.step (.dbStore id true) ⟨rfl, rfl⟩ (by simp only [Repo.step, found]; rfl) ?_
      exact ih (AList.lookup_insert _)

theorem finishes_retrying {running : List Sha} (some_ : running ≠ [])
    (found : state.calls.lookup id = some ⟨shas, result, .retrying running resolved, seen, worked⟩) :
    Finishes state id worked := by
  induction running generalizing state resolved with
  | nil => exact absurd rfl some_
  | cons sha running ih =>
      refine Finishes.step (.recounted id sha .answered) ⟨rfl, rfl⟩
        (by simp only [Repo.step, found, List.mem_cons_self, if_true, reduceCtorEq, if_false, List.erase_cons_head]; rfl) ?_
      rw [decide_true, Bool.and_true]
      split
      · exact finishes_storing (AList.lookup_insert _)
      · rename_i more
        exact ih more (AList.lookup_insert _)

theorem finishes_afterCounting
    (found : state.calls.lookup id = some ⟨shas, result, afterCounting resolved, seen, worked⟩) : Finishes state id worked := by
  unfold afterCounting at found
  split at found
  · exact finishes_storing found
  · rename_i some_
    refine Finishes.step (.fetch id true) ⟨rfl, rfl⟩ (by simp only [Repo.step, found]; rfl) ?_
    rw [Bool.and_true]
    exact finishes_retrying some_ (AList.lookup_insert _)

theorem finishes_counting {running : List Sha} (some_ : running ≠ [])
    (found : state.calls.lookup id = some ⟨shas, result, .counting running resolved, seen, worked⟩) :
    Finishes state id worked := by
  induction running generalizing state resolved with
  | nil => exact absurd rfl some_
  | cons sha running ih =>
      refine Finishes.step (.counted id sha .answered) ⟨rfl, rfl⟩
        (by simp only [Repo.step, found, List.mem_cons_self, if_true, reduceCtorEq, if_false, List.erase_cons_head]; rfl) ?_
      rw [decide_true, Bool.and_true]
      split
      · exact finishes_afterCounting (AList.lookup_insert _)
      · rename_i more
        exact ih more (AList.lookup_insert _)

theorem finishes_waiting {claimed waiting : List Sha}
    (found : state.calls.lookup id = some ⟨shas, result, .waiting claimed waiting, seen, worked⟩) :
    Finishes state id worked := by
  by_cases none_ : claimed = []
  · refine Finishes.step (.lateLookup id true) ⟨rfl, rfl⟩ (by simp only [Repo.step, found, if_pos none_]; rfl) ?_
    exact finishes_finish
  · refine Finishes.step (.lateLookup id true) ⟨rfl, rfl⟩ (by simp only [Repo.step, found, if_neg none_]; rfl) ?_
    exact finishes_counting none_ (AList.lookup_insert _)

theorem finishes_claiming {toFetch : List Sha} (some_ : toFetch ≠ [])
    (found : state.calls.lookup id = some ⟨shas, result, .claiming toFetch, seen, worked⟩) :
    Finishes state id worked := by
  by_cases none_ : toFetch.filter (· ∈ state.inFlight) = []
  · refine Finishes.step (.claim id) rfl (by simp only [Repo.step, found, if_pos none_]; rfl) ?_
    have claimed : toFetch.filter (· ∉ state.inFlight) = toFetch := by
      rw [List.filter_eq_self]
      intro sha member
      simpa using List.filter_eq_nil_iff.mp none_ sha member
    exact finishes_counting (by rw [claimed]; exact some_) (AList.lookup_insert _)
  · refine Finishes.step (.claim id) rfl (by simp only [Repo.step, found, if_neg none_]; rfl) ?_
    exact finishes_waiting (AList.lookup_insert _)

theorem finishes_lookingUp (found : state.calls.lookup id = some ⟨shas, result, .lookingUp, seen, worked⟩) :
    Finishes state id worked := by
  by_cases none_ : (cleanShas shas).filter (· ∉ state.db) = []
  · refine Finishes.step (.dbLookup id true) ⟨rfl, rfl⟩
      (by simp only [Repo.step, found, if_true, if_pos none_]; rfl) ?_
    exact finishes_finish
  · refine Finishes.step (.dbLookup id true) ⟨rfl, rfl⟩
      (by simp only [Repo.step, found, if_true, if_neg none_]; rfl) ?_
    exact finishes_claiming none_ (AList.lookup_insert _)

theorem finishes_cloning (cloning : state.cloning = true) (running : state.cell = .running id)
    (found : state.calls.lookup id = some ⟨shas, result, .cloning, seen, worked⟩) : Finishes state id worked := by
  refine Finishes.step (.cloned true) rfl (by simp only [Repo.step, cloning, if_true, running, found]; rfl) ?_
  rw [Bool.and_true]
  exact finishes_lookingUp (AList.lookup_insert _)

theorem finishes_ensured (done : state.cell = .done)
    (found : state.calls.lookup id = some ⟨shas, result, .ensuring, seen, worked⟩) : Finishes state id worked := by
  refine Finishes.step (.ensureClone id) rfl (by simp only [Repo.step, found, done]; rfl) ?_
  exact finishes_lookingUp (AList.lookup_insert _)

theorem finishes_ensuring (sound : Sound state)
    (found : state.calls.lookup id = some ⟨shas, result, .ensuring, seen, worked⟩) : Finishes state id worked := by
  cases cell : state.cell with
  | done => exact finishes_ensured cell found
  | unset =>
      by_cases exists_ : state.clone.isSome = true
      · refine Finishes.step (.ensureClone id) rfl (by simp only [Repo.step, found, cell, if_pos exists_]; rfl) ?_
        exact finishes_lookingUp (AList.lookup_insert _)
      · refine Finishes.step (.ensureClone id) rfl (by simp only [Repo.step, found, cell, if_neg exists_]; rfl) ?_
        exact finishes_cloning rfl rfl (AList.lookup_insert _)
  | running cloner =>
      -- the call waits for the clone of another
      obtain ⟨cloning, call, waits, stays⟩ := sound.cloner cloner cell
      have different : id ≠ cloner := by
        rintro rfl
        rw [found] at waits
        cases waits
        cases stays
      refine Finishes.step (.cloned true) rfl (by simp only [Repo.step, cloning, if_true, cell, waits]; rfl) ?_
      refine finishes_ensured rfl (Eq.trans ?_ found)
      exact AList.lookup_insert_ne different
end Stages

theorem Sound.finishes (sound : Sound state) (found : state.calls.lookup id = some call) : Finishes state id call.worked := by
  obtain ⟨each, placed⟩ := sound.calls id call found
  have going := each.going
  obtain ⟨shas, result, stage, seen, worked⟩ := call
  cases stage with
  | ensuring => exact finishes_ensuring sound found
  | cloning => exact finishes_cloning (sound.cloner id placed).1 placed found
  | lookingUp => exact finishes_lookingUp found
  | claiming toFetch => exact finishes_claiming going found
  | waiting claimed waiting => exact finishes_waiting found
  | counting running resolved => exact finishes_counting going found
  | updating resolved =>
      have same : CallStage.updating resolved = afterCounting resolved := (if_neg going).symm
      rw [same] at found
      exact finishes_afterCounting found
  | retrying running resolved => exact finishes_retrying going.1 found
  | storing counts resolved => exact finishes_storing found

theorem Sound.counted (sound : Sound state) : Counted state := by
  refine ⟨fun none_ => List.eq_nil_iff_forall_not_mem.mpr fun sha flying => ?_, sound.answers⟩
  obtain ⟨id, call, found, -⟩ := sound.inFlight sha flying
  rw [none_ id] at found
  cases found

theorem sound_start (remote : Table Sha Nat) : Sound (start remote) := by
  refine ⟨(fun _ stored => by cases stored), ?_, (fun same => by cases same), (fun _ same => by cases same), ?_, ?_, ?_⟩
  · intro _ _ found
    cases found
  · intro _ _ found
    cases found
  · intro _ flying
    cases flying
  · intro _ _ found
    cases found

theorem always_counted {remote : Table Sha Nat} {events : List CommitEvent}
    (careful : Meets Repo.step Careful (start remote) events) :
    Always Repo.step (fun state => Counted state ∧
      ∀ id call, state.calls.lookup id = some call → Finishes state id call.worked) (start remote) events :=
  (always_of_meets (fun _ event _ sound careful taken => sound_step event sound careful taken) (sound_start remote) careful).imp
    fun _ sound => ⟨sound.counted, fun _ _ found => sound.finishes found⟩

def first : Sha := "0a1b2c3".toList
def pushed : Sha := "89abcdef".toList
def pushedDirty : Sha := "89abcdef-dirty".toList

def initially : Table Sha Nat := AList.singleton first 2

/-- The second call is for a commit that is pushed after the clone, and for a branch. -/
def answered : List CommitEvent :=
  [.call 1 [first], .ensureClone 1, .cloned true, .push pushed 3, .call 2 [pushedDirty, "main".toList], .ensureClone 2,
    .dbLookup 1 true, .claim 1, .dbLookup 2 true, .claim 2, .counted 2 pushed .answered, .counted 1 first .answered,
    .fetch 2 true, .dbStore 1 true, .recounted 2 pushed .answered, .release 1, .dbStore 2 true, .release 2]

theorem always_counted_pushed :
    (∃ final answer, run Repo.step (start initially) answered = some final ∧ final.inFlight = [] ∧
      final.answers.lookup 2 = some answer ∧ answer.worked = true ∧ answer.result = AList.singleton pushedDirty 3) ∧
    Always Repo.step (fun state => Counted state ∧
      ∀ id call, state.calls.lookup id = some call → Finishes state id call.worked) (start initially) answered := by
  refine ⟨⟨_, _, rfl, rfl, rfl, rfl, rfl⟩, always_counted ?_⟩
  have careful : ∀ event ∈ answered, ∀ state, Careful state event := by simp [answered, Careful]
  exact @meets_of_invariant _ _ _ _ (fun _ => True) (fun event => ∀ state, Careful state event)
    (fun _ _ _ _ _ _ => trivial) (fun state _ careful _ => careful state) _ _ trivial careful

def claimed : List CommitEvent := [.call 1 [first], .ensureClone 1, .cloned true, .dbLookup 1 true, .claim 1]

def again : List CommitEvent := [.call 2 [first], .ensureClone 2, .dbLookup 2 true, .claim 2, .lateLookup 2 true]

def unclonable : List CommitEvent :=
  [.call 1 [first], .ensureClone 1, .cloned false, .drop 1, .call 2 [first], .ensureClone 2, .dbLookup 2 true, .claim 2,
    .counted 2 first .answered, .fetch 2 true, .recounted 2 first .answered, .release 2]

theorem leaks_when_dropped_or_panicked_and_counts_nothing :
    (∃ final, run Repo.step (start initially) (claimed ++ [.drop 1]) = some final ∧
      (∀ id, final.calls.lookup id = none) ∧ final.inFlight = [first]) ∧
    (∃ final, run Repo.step (start initially) (claimed ++ [.counted 1 first .panicked, .release 1]) = some final ∧
      (∀ id, final.calls.lookup id = none) ∧ final.inFlight = [first]) ∧
    (∃ final answer, run Repo.step (start initially) (claimed ++ .drop 1 :: again) = some final ∧
      final.answers.lookup 2 = some answer ∧ answer.worked = true ∧ ¬ Complete final.remote answer) ∧
    ∃ final answer, run Repo.step (start initially) unclonable = some final ∧
      final.answers.lookup 2 = some answer ∧ answer.worked = true ∧ ¬ Complete final.remote answer := by
  have incomplete : ¬ Complete initially ⟨[first], ∅, initially, true⟩ := fun complete => by
    have counted := complete.all rfl first List.mem_cons_self (by decide) 2 (by decide)
    cases counted
  exact ⟨⟨_, rfl, fun _ => rfl, rfl⟩, ⟨_, rfl, fun _ => rfl, rfl⟩, ⟨_, _, rfl, rfl, rfl, incomplete⟩,
    _, _, rfl, rfl, rfl, incomplete⟩

end MacMgmt.Proof.Server.Commits
