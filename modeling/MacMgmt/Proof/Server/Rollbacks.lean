import MacMgmt.Proof.Server.RolloutAnswers

/-!
# What a rollback rewinds

Both columns of every cluster of the cohort go back to the baseline, also where the cluster's stage is pending or the
rollout has no target for the column. Nothing else of a cluster changes.
-/

namespace MacMgmt.Proof.Server.Rollbacks
open Lib MacMgmt.Server

section
variable (db : Database) (rid : Uuid)

/-- The cluster is in the group of a stage of the rollout that is selected. -/
def InStage (selects : RolloutStatus → Prop) (cluster : Uuid) : Prop :=
  ∃ id stage, db.stages.lookup id = some stage ∧ stage.rolloutId = rid ∧ selects stage.status ∧
    ((stage.groupId, cluster) ∈ db.groupMembers ∨ stage.groupId = allClusters ∧ cluster ∈ db.clusters)

def Shipped (status : RolloutStatus) : Prop := status = .rolling ∨ status = .paused ∨ status = .completed

def baseline (rollout : Rollout) : Cluster :=
  { pinnedVersion := rollout.baselineVersion, nixpkgsCommit := rollout.baselineNixpkgsCommit }

/-- The cohort is rewound, the stages that shipped are marked, and the rest stays. -/
structure Rewinds (rollout : Rollout) (after : Database) : Prop where
  cohort : ∀ cluster, InStage db rid (fun _ => True) cluster →
    after.clusters.lookup cluster = (db.clusters.lookup cluster).map fun _ => baseline rollout
  others : ∀ cluster, ¬ InStage db rid (fun _ => True) cluster → after.clusters.lookup cluster = db.clusters.lookup cluster
  marked : ∀ id stage, db.stages.lookup id = some stage → stage.rolloutId = rid → Shipped stage.status →
    after.stages.lookup id = some { stage with status := .rolledBack }
  unmarked : ∀ id stage, db.stages.lookup id = some stage → ¬ (stage.rolloutId = rid ∧ Shipped stage.status) →
    after.stages.lookup id = some stage
  rollout : after.rollouts.lookup rid = some { rollout with status := .rolledBack, updatedAt := db.now }
  rollouts : ∀ other, other ≠ rid → after.rollouts.lookup other = db.rollouts.lookup other
  groupMembers : after.groupMembers = db.groupMembers
  deliveries : after.deliveries = db.deliveries
  heartbeats : after.heartbeats = db.heartbeats
  daemonVersions : after.daemonVersions = db.daemonVersions

/-- A column changes only for a cluster whose stage shipped, and only where the rollout has a target for it. -/
def OnlyShipped (rollout : Rollout) (after : Database) : Prop :=
  ∀ cluster before row, db.clusters.lookup cluster = some before → after.clusters.lookup cluster = some row →
    (row.pinnedVersion ≠ before.pinnedVersion → InStage db rid Shipped cluster ∧ rollout.targetVersion ≠ none) ∧
    (row.nixpkgsCommit ≠ before.nixpkgsCommit → InStage db rid Shipped cluster ∧ rollout.nixpkgsCommit ≠ none)

end

variable {db : Database} {rid : Uuid} {rollout : Rollout} {after : Database}

theorem mem_cohort_iff {cluster : Uuid} : cluster ∈ db.cohort rid ↔ InStage db rid (fun _ => True) cluster := by
  rw [mem_cohort]
  simp [InStage]

theorem rewinds_rollback (found : db.rollouts.lookup rid = some rollout) :
    Rewinds db rid rollout (((db.rollBackStages rid).setStatus rid .rolledBack).rewindPins (db.cohort rid)
      rollout.baselineVersion rollout.baselineNixpkgsCommit) where
  cohort cluster member := by
    have listed := mem_cohort_iff.mpr member
    simp [Database.rewindPins, Database.setStatus, Database.rollBackStages, Table.lookup_update, listed, baseline]
  others cluster outside := by
    have unlisted := mt mem_cohort_iff.mp outside
    simp [Database.rewindPins, Database.setStatus, Database.rollBackStages, Table.lookup_update, unlisted]
  marked id stage present mine shipped := by
    have selected : stage.status = .rolling ∨ stage.status = .paused ∨ stage.status = .completed := shipped
    simp [Database.rewindPins, Database.setStatus, Database.rollBackStages, Table.lookup_update, present, mine, or_assoc,
      selected]
  unmarked id stage present apart := by
    unfold Shipped at apart
    simp [Database.rewindPins, Database.setStatus, Database.rollBackStages, Table.lookup_update, present, or_assoc, apart]
  rollout := by
    simp [Database.rewindPins, Database.setStatus, Database.rollBackStages, Table.lookup_update, found]
  rollouts other different := by
    simp [Database.rewindPins, Database.setStatus, Database.rollBackStages, Table.lookup_update, different]
  groupMembers := rfl
  deliveries := rfl
  heartbeats := rfl
  daemonVersions := rfl

/-- Either surface rewinds the cohort of a rollout that exists, and changes nothing for another id. -/
theorem rollback_rewinds (db : Database) (rid : Uuid) :
    match db.rollouts.lookup rid with
    | none => adminRoute db rid .rollback = .error .notFound ∧
        rolloutActionApply db rid .rollback = .error (.notFound "rollout not found")
    | some rollout => ∃ after, adminRoute db rid .rollback = .ok after ∧ rolloutActionApply db rid .rollback = .ok after ∧
        Rewinds db rid rollout after := by
  unfold adminRoute adminRollbackRollout rolloutActionApply
  cases found : db.rollouts.lookup rid with
  | none => exact ⟨rfl, rfl⟩
  | some rollout => exact ⟨_, rfl, rfl, rewinds_rollback found⟩

/-- Rollout 1 has a version only. Its stage for cluster 7 is rolling, the one for cluster 8 is pending. -/
def stagedRollout : Rollout := { rolloutOf .rolling with baselineVersion := some "1.1.0" }

def stageOf (group : Uuid) (stageOrder : Int) (status : RolloutStatus) : Stage :=
  { rolloutId := 1, groupId := group, stageOrder, status, startedAt := none, completedAt := none, rampMinutes := none }

def stagedDb : Database :=
  { reportingDb with
    rollouts := AList.singleton 1 stagedRollout
    stages := (AList.singleton 2 (stageOf 5 0 .rolling)).insert 3 (stageOf 6 1 .pending)
    clusters := (AList.singleton 7 { pinnedVersion := some "1.1.0", nixpkgsCommit := some "abc1234" }).insert 8
      { pinnedVersion := some "1.0.5", nixpkgsCommit := none }
    groupMembers := [(5, 7), (6, 8)] }

theorem not_shipped_eight : ¬ InStage stagedDb 1 Shipped 8 := by
  rintro ⟨id, stage, present, -, shipped, member⟩
  have rows : ∀ entry ∈ stagedDb.stages.entries, entry.2 = stageOf 6 1 .pending ∨ entry.2 = stageOf 5 0 .rolling := by
    decide
  obtain rfl | rfl := rows ⟨id, stage⟩ (AList.mem_lookup_iff.mp present)
  · obtain rolling | paused | completed := shipped
    · cases rolling
    · cases paused
    · cases completed
  · obtain member | ⟨all, -⟩ := member
    · revert member
      decide
    · revert all
      decide

/-- Cluster 8 was sent nothing and gets another version, and cluster 7 loses its nixpkgs commit. -/
theorem rollback_reaches_pending : ∃ after, adminRoute stagedDb 1 .rollback = .ok after ∧
    rolloutActionApply stagedDb 1 .rollback = .ok after ∧ ¬ OnlyShipped stagedDb 1 stagedRollout after ∧
    after.clusters.lookup 8 = some { pinnedVersion := some "1.1.0", nixpkgsCommit := none } ∧
    after.clusters.lookup 7 = some { pinnedVersion := some "1.1.0", nixpkgsCommit := none } := by
  refine ⟨_, rfl, rfl, ?_, by decide, by decide⟩
  intro only
  obtain ⟨pinned, -⟩ := only 8 { pinnedVersion := some "1.0.5", nixpkgsCommit := none }
    { pinnedVersion := some "1.1.0", nixpkgsCommit := none } (by decide) (by decide)
  exact not_shipped_eight (pinned (by decide)).1

/-! ## When nothing more is rewound -/

theorem onlyShipped_iff (rewinds : Rewinds db rid rollout after) :
    OnlyShipped db rid rollout after ↔ ∀ cluster row, InStage db rid (fun _ => True) cluster →
      db.clusters.lookup cluster = some row →
        (InStage db rid Shipped cluster ∧ rollout.targetVersion ≠ none ∨ row.pinnedVersion = rollout.baselineVersion) ∧
        (InStage db rid Shipped cluster ∧ rollout.nixpkgsCommit ≠ none ∨ row.nixpkgsCommit = rollout.baselineNixpkgsCommit) := by
  constructor
  · intro only cluster row member present
    have rewound := rewinds.cohort cluster member
    rw [present] at rewound
    obtain ⟨version, commit⟩ := only cluster row _ present rewound
    constructor
    · by_cases same : row.pinnedVersion = rollout.baselineVersion
      · exact Or.inr same
      · exact Or.inl (version (Ne.symm same))
    · by_cases same : row.nixpkgsCommit = rollout.baselineNixpkgsCommit
      · exact Or.inr same
      · exact Or.inl (commit (Ne.symm same))
  · intro limited cluster before row present found
    by_cases member : InStage db rid (fun _ => True) cluster
    · rw [rewinds.cohort cluster member, present] at found
      cases found
      obtain ⟨version, commit⟩ := limited cluster before member present
      exact ⟨fun moved => version.resolve_right (Ne.symm moved), fun moved => commit.resolve_right (Ne.symm moved)⟩
    · rw [rewinds.others cluster member, present] at found
      cases found
      exact ⟨fun moved => absurd rfl moved, fun moved => absurd rfl moved⟩

end MacMgmt.Proof.Server.Rollbacks
