import MacMgmt.Server.Rollouts

/-!
# The two surfaces of a rollout action

An action reaches the tables through an admin route or through `rollout_action_apply`. Both run the same statements
except that the route of `start` writes no baseline and that only the routes of `start`, `pause` and `resume` look at the
status first.
-/

namespace MacMgmt.Proof.Server
open Lib MacMgmt.Server

def Agree : Except HttpStatus Database → Except ApiError Database → Prop
  | .ok route, .ok api =>
      route.rollouts = api.rollouts ∧ route.stages = api.stages ∧ route.clusters = api.clusters
  | .error _, .error _ => True
  | _, _ => False

/-- No baseline is left to capture: each column is set already or the cohort reports nothing for it. -/
def BaselineSettled (db : Database) (rid : Uuid) (rollout : Rollout) : Prop :=
  (rollout.baselineVersion.isSome ∨ db.recentHeartbeats rid = []) ∧
    (rollout.baselineNixpkgsCommit.isSome ∨ ∀ heartbeat ∈ db.recentHeartbeats rid, heartbeat.nixpkgsCommit = none)

def HasStage (db : Database) (rid : Uuid) (status : RolloutStatus) : Prop :=
  ∃ id stage, db.stages.lookup id = some stage ∧ stage.rolloutId = rid ∧ stage.status = status

def SameOnBoth (db : Database) (rid : Uuid) : RolloutAction → Prop
  | .start => ∃ rollout, db.rollouts.lookup rid = some rollout ∧ rollout.status = .pending ∧
      BaselineSettled db rid rollout
  | .pause => HasStage db rid .rolling
  | .resume => HasStage db rid .paused
  | .delete => rid ∈ db.rollouts
  | .advance | .complete | .rollback => True

theorem majority_eq_none {values : List String} : Database.majority values = none ↔ values = [] :=
  List.argmax_eq_none

theorem or_eq_left_iff {α : Type*} (first second : Option α) : first.or second = first ↔ first.isSome ∨ second = none := by
  cases first <;> simp

theorem tally_inStatus_eq_zero {db : Database} {rid : Uuid} {status : RolloutStatus} :
    db.stages.tally (Database.inStatus rid status) = 0 ↔ ¬ HasStage db rid status := by
  have positive : 0 < db.stages.tally (Database.inStatus rid status) ↔ HasStage db rid status := by
    rw [Table.tally_pos_iff]
    simp [HasStage, Database.inStatus]
  rw [← positive]
  omega

theorem baseline_unchanged_iff {db : Database} {rid : Uuid} {rollout : Rollout} :
    rollout.baselineVersion.or (db.cohortBaseline rid).1 = rollout.baselineVersion ∧
        rollout.baselineNixpkgsCommit.or (db.cohortBaseline rid).2 = rollout.baselineNixpkgsCommit ↔
      BaselineSettled db rid rollout := by
  simp only [or_eq_left_iff, BaselineSettled, Database.cohortBaseline, majority_eq_none, List.map_eq_nil_iff,
    List.filterMap_eq_nil_iff]

theorem start_agrees_iff (db : Database) (rid : Uuid) :
    Agree (adminStartRollout db rid) (rolloutActionApply db rid .start) ↔ SameOnBoth db rid .start := by
  unfold adminStartRollout rolloutActionApply
  cases found : db.rollouts.lookup rid with
  | none => simp [Agree, SameOnBoth, found]
  | some rollout =>
      by_cases pending : rollout.status = .pending
      · have same : (db.setStatus rid .rolling).rollouts =
            (db.setRollingWithBaseline rid (db.cohortBaseline rid)).rollouts ↔ BaselineSettled db rid rollout := by
          unfold Database.setStatus Database.setRollingWithBaseline
          rw [← baseline_unchanged_iff, Table.update_eq_update_iff]
          constructor
          · intro all
            have equal := all rid rollout found (by simp)
            rw [Rollout.mk.injEq] at equal
            exact ⟨equal.2.2.2.2.2.1.symm, equal.2.2.2.2.2.2.symm⟩
          · intro unchanged key value present selected
            obtain rfl : key = rid := by simpa using selected
            rw [found] at present
            cases present
            rw [unchanged.1, unchanged.2]
        simp only [pending, ne_eq, not_true_eq_false, if_false, Agree, SameOnBoth, found, Option.some.injEq,
          exists_eq_left', true_and]
        rw [← same]
        exact ⟨And.left, fun equal => ⟨equal, rfl, rfl⟩⟩
      · simp [pending, Agree, SameOnBoth, found]

theorem advance_agrees (db : Database) (rid : Uuid) :
    Agree (adminAdvanceRollout db rid) (rolloutActionApply db rid .advance) := by
  unfold adminAdvanceRollout rolloutActionApply
  cases db.rollingStageOrder rid with
  | none => trivial
  | some current =>
      dsimp only
      split
      · -- the route's last statement writes `updated_at` once more
        refine ⟨?_, rfl, rfl⟩
        simp only [Database.touch, Database.setStatus, Database.startStage, Database.completeStage]
        apply AList.ext
        simp only [Table.update, List.map_map]
        apply List.map_congr_left
        intro entry _
        by_cases same : entry.1 = rid <;> simp [same]
      · exact ⟨rfl, rfl, rfl⟩

theorem complete_agrees (db : Database) (rid : Uuid) :
    Agree (adminCompleteRollout db rid) (rolloutActionApply db rid .complete) := by
  unfold adminCompleteRollout rolloutActionApply
  cases db.rollouts.lookup rid with
  | none => trivial
  | some rollout => exact ⟨rfl, rfl, rfl⟩

theorem rollback_agrees (db : Database) (rid : Uuid) :
    Agree (adminRollbackRollout db rid) (rolloutActionApply db rid .rollback) := by
  unfold adminRollbackRollout rolloutActionApply
  cases db.rollouts.lookup rid with
  | none => trivial
  | some rollout => exact ⟨rfl, rfl, rfl⟩

theorem agree_guarded_iff {refused : Prop} [Decidable refused] {status : HttpStatus} {after : Database} :
    Agree (if refused then .error status else .ok after) (.ok after) ↔ ¬ refused := by
  split
  · rename_i rejects
    simpa [Agree] using rejects
  · rename_i passes
    simpa [Agree] using passes

theorem pause_agrees_iff (db : Database) (rid : Uuid) :
    Agree (adminPauseRollout db rid) (rolloutActionApply db rid .pause) ↔ HasStage db rid .rolling :=
  agree_guarded_iff.trans (not_iff_comm.mp tally_inStatus_eq_zero.symm)

theorem resume_agrees_iff (db : Database) (rid : Uuid) :
    Agree (adminResumeRollout db rid) (rolloutActionApply db rid .resume) ↔ HasStage db rid .paused :=
  agree_guarded_iff.trans (not_iff_comm.mp tally_inStatus_eq_zero.symm)

theorem delete_agrees_iff (db : Database) (rid : Uuid) :
    Agree (adminDeleteRollout db rid) (rolloutActionApply db rid .delete) ↔ rid ∈ db.rollouts := by
  unfold adminDeleteRollout
  rw [← ite_not]
  exact agree_guarded_iff.trans not_not

theorem surfaces_agree_iff (db : Database) (rid : Uuid) (action : RolloutAction) :
    Agree (adminRoute db rid action) (rolloutActionApply db rid action) ↔ SameOnBoth db rid action := by
  cases action with
  | start => exact start_agrees_iff db rid
  | advance => exact iff_true_intro (advance_agrees db rid)
  | pause => exact pause_agrees_iff db rid
  | resume => exact resume_agrees_iff db rid
  | complete => exact iff_true_intro (complete_agrees db rid)
  | rollback => exact iff_true_intro (rollback_agrees db rid)
  | delete => exact delete_agrees_iff db rid

def rolloutOf (status : RolloutStatus) : Rollout :=
  { targetVersion := some "1.2.0", nixpkgsCommit := none, status, createdAt := 0, updatedAt := 0, baselineVersion := none
    baselineNixpkgsCommit := none }

/-- Rollout 1 is pending for the group of all clusters, and cluster 7 reports version 1.1.0. -/
def reportingDb : Database :=
  { now := 0, rollouts := AList.singleton 1 (rolloutOf .pending)
    stages := AList.singleton 2 { rolloutId := 1, groupId := allClusters, stageOrder := 0, status := .pending
                                  startedAt := none, completedAt := none, rampMinutes := none }
    clusters := AList.singleton 7 { pinnedVersion := some "1.1.0", nixpkgsCommit := none }
    groupMembers := [], deliveries := []
    heartbeats := [{ clusterId := 7, version := "1.1.0", nixpkgsCommit := none, reportedAt := 0 }]
    daemonVersions := [] }

/-- Started by its route the rollout keeps no baseline to roll back to. -/
theorem start_surfaces_differ : ¬ ∀ db rid action, action ≠ .delete →
    Agree (adminRoute db rid action) (rolloutActionApply db rid action) := by
  intro all
  have agree := all reportingDb 1 .start nofun
  have baselines := congrArg (fun rollouts => (rollouts.lookup (1 : Uuid)).map Rollout.baselineVersion) agree.1
  exact absurd baselines (by decide)

end MacMgmt.Proof.Server
