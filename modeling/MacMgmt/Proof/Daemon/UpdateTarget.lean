import MacMgmt.Daemon.UpdateTarget

/-!
# The answer received last

A target or a pin that is cleared is not removed from every place that keeps it: the target stays in memory, the pin in its
cache file, from where a restart brings it back.
-/

namespace MacMgmt.Proof.UpdateTarget
open Lib Daemon UpdateState

variable {state after : UpdateState}

/-! ## One step -/

theorem current_target_iff (current : state.Current) (info : Target) :
    (state.fetchTargetVersion info).Current ↔ state.Cached (.target (some info)) := by
  unfold fetchTargetVersion Cached
  cases given : info.version with
  | some version =>
      refine ⟨fun _ missing => absurd (given.symm.trans missing) (Option.some_ne_none version), fun _ => ⟨fun _ => ?_, current.2⟩⟩
      show some info = some ⟨some version, info.storePath⟩
      rw [← given]
  | none =>
      constructor
      · rintro ⟨held, -⟩ -
        by_contra kept
        have same : some info = some state.target := held kept
        cases same
        exact kept given
      · intro empty
        exact ⟨fun kept => absurd (empty given) kept, current.2⟩

theorem current_pin_iff (current : state.Current) (commit : Option Commit) (written : Option Nat) :
    (state.setNixpkgsCommit commit written).Current ↔ state.Cached (.pin (some commit) written) := by
  have file : state.Cached (.pin (some commit) written) ↔
      (cachePin state.pinFile commit written).bind cachedNixpkgsPin = commit := by
    cases commit with
    | some sha => exact Iff.rfl
    | none => rw [cachePin, Cached]
  rw [file]
  constructor
  · rintro ⟨-, pins⟩
    exact (pins commit rfl).2
  · intro found
    refine ⟨current.1, fun other same => ?_⟩
    cases same
    exact ⟨rfl, found⟩

theorem current_restart_iff (current : state.Current) (reads : Bool) :
    ({ state with target := ⟨none, none⟩, pin := loadCachedPin state.pinFile reads } : UpdateState).Current ↔
      state.Cached (.restart reads) := by
  unfold Cached loadCachedPin
  constructor
  · rintro ⟨-, pins⟩
    cases reads with
    | true => exact .inl rfl
    | false =>
        cases last : state.lastPin with
        | none => exact .inr (.inl rfl)
        | some commit =>
            obtain ⟨unread, found⟩ := pins commit last
            exact .inr (.inr (found.trans unread.symm))
  · intro cached
    refine ⟨fun held => absurd rfl held, fun commit last => ?_⟩
    obtain ⟨-, found⟩ := current.2 commit last
    refine ⟨?_, found⟩
    rcases cached with reads | never | empty
    · rw [if_pos reads]
      exact found
    · rw [show state.lastPin = some commit from last] at never
      cases never
    · split
      · exact found
      · exact empty.symm.trans found

theorem current_step_iff {event : UpdateEvent} (current : state.Current) (taken : state.step event = some after) :
    after.Current ↔ state.Cached event := by
  cases event with
  | target answer =>
      cases answer with
      | none =>
          cases taken
          exact ⟨fun _ => trivial, fun _ => current⟩
      | some info =>
          cases taken
          exact current_target_iff current info
  | pin answer written =>
      cases answer with
      | none =>
          cases taken
          exact ⟨fun _ => trivial, fun _ => current⟩
      | some commit =>
          cases taken
          exact current_pin_iff current commit written
  | restart reads =>
      cases taken
      exact current_restart_iff current reads

/-! ## Whole runs -/

theorem current_start (pinFile : Option (List Char)) (reads : Bool) : (start pinFile reads).Current :=
  ⟨fun held => absurd rfl held, fun _ last => by cases last⟩

theorem checkAndApply_some {build : Build} {target : Target} {version storePath : String}
    (applies : checkAndApply build target = some (version, storePath)) :
    target = ⟨some version, some storePath⟩ ∧ isValidStorePath storePath = true := by
  obtain ⟨own, path⟩ := target
  obtain ⟨given, rfl, applies⟩ := Option.bind_eq_some_iff.mp applies
  split at applies
  · cases applies
  · obtain ⟨found, rfl, applies⟩ := Option.bind_eq_some_iff.mp applies
    obtain ⟨checked, same⟩ := Option.ite_none_right_eq_some.mp applies
    cases same
    exact ⟨rfl, (Bool.and_eq_true _ _ ▸ checked).2⟩

/-- What an update installs is what the server answered last. -/
theorem update_follows_answer {build : Build} {version storePath : String} (current : state.Current)
    (applies : checkAndApply build state.target = some (version, storePath)) :
    state.lastTarget = some ⟨some version, some storePath⟩ := by
  obtain ⟨same, -⟩ := checkAndApply_some applies
  rw [← same]
  apply current.1
  rw [same]
  exact Option.some_ne_none version

def pinnedCommit : Commit := List.replicate 40 'a'

end MacMgmt.Proof.UpdateTarget
