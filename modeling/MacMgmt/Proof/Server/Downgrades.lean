import MacMgmt.Daemon.UpdateTarget
import MacMgmt.Proof.Server.RolloutSurfaces
import MacMgmt.Server.Rollouts

/-!
# Rolling back past the downgrade guard

A rollback tells a cluster the version it had before, which the daemon takes for an older version than the one it was sent
and refuses. The two orders of versions are one order as long as every number fits the server's `int[]`.
-/

namespace MacMgmt.Proof.Server.Downgrades
open Lib MacMgmt.Server Daemon

/-! ## Versions as numbers -/

theorem mapM_eq {α β : Type*} (f : α → Option β) (list : List α) :
    list.mapM f = if list.all fun value => (f value).isSome then some (list.filterMap f) else none := by
  induction list with
  | nil => rfl
  | cons value list ih =>
      rw [List.mapM_cons, ih]
      cases found : f value with
      | none => simp [found]
      | some image =>
          by_cases all : list.all fun value => (f value).isSome
          · simp [found, all]
          · simp [found, all]

def numbers (version : String) : Option (List Nat) := (Daemon.versionParts version).mapM parseU64

def Older (version running : String) : Prop :=
  ∃ wanted current, numbers version = some wanted ∧ numbers running = some current ∧ wanted < current

def FitsInt (version : String) : Prop := ∀ part ∈ stringToArray version, decimal part < 2 ^ 31

theorem isSemver_iff {version : String} :
    isSemver version = true ↔ (Daemon.versionParts version).all fun part => (parseU64 part).isSome := by
  unfold isSemver
  rw [Bool.and_eq_true]
  constructor
  · exact And.right
  · intro all
    refine ⟨?_, all⟩
    by_contra empty
    obtain rfl : version = "" := by simpa using empty
    exact absurd all (by decide)

theorem numbers_eq (version : String) :
    numbers version = if isSemver version then some ((Daemon.versionParts version).filterMap parseU64) else none := by
  rw [numbers, mapM_eq]
  exact if_congr isSemver_iff.symm rfl rfl

theorem older_iff {version running : String} :
    Older version running ↔ isSemver version && isSemver running && versionBelow version running := by
  unfold Older versionBelow
  rw [numbers_eq, numbers_eq]
  constructor
  · rintro ⟨wanted, current, ofVersion, ofRunning, below⟩
    obtain ⟨first, same⟩ := Option.ite_none_right_eq_some.mp ofVersion
    cases same
    obtain ⟨second, same⟩ := Option.ite_none_right_eq_some.mp ofRunning
    cases same
    simp [first, second, below]
  · intro guarded
    obtain ⟨⟨first, second⟩, below⟩ : (isSemver version = true ∧ isSemver running = true) ∧
        (Daemon.versionParts version).filterMap parseU64 < (Daemon.versionParts running).filterMap parseU64 := by
      simpa using guarded
    exact ⟨_, _, if_pos first, if_pos second, below⟩

/-! ## The daemon's check -/

theorem checkTarget_stored (build : Build) (version storePath : String) : ∃ applied : Bool,
    checkTarget build ⟨some version, some storePath⟩ =
      if isSemver version && isSemver build.currentVersion && versionBelow version build.currentVersion then
        .refusedDowngrade
      else if applied then .alreadyApplied
      else if isValidStorePath storePath then .updating version storePath
      else .refusedStorePath :=
  ⟨_, rfl⟩

theorem refusedDowngrade_iff {build : Build} {version : String} {storePath : Option String} :
    checkTarget build ⟨some version, storePath⟩ = .refusedDowngrade ↔ Older version build.currentVersion := by
  rw [older_iff]
  cases storePath with
  | none =>
      show (if _ then _ else if _ then _ else _) = _ ↔ _
      split
      · rename_i guarded
        exact iff_of_true rfl guarded
      · rename_i passes
        refine iff_of_false ?_ passes
        split <;> exact Check.noConfusion
  | some storePath =>
      obtain ⟨applied, outcome⟩ := checkTarget_stored build version storePath
      rw [outcome]
      split
      · rename_i guarded
        exact iff_of_true rfl guarded
      · rename_i passes
        refine iff_of_false ?_ passes
        split
        · exact Check.noConfusion
        · split <;> exact Check.noConfusion

theorem refused_iff {build : Build} {version storePath : String} (valid : isValidStorePath storePath = true) :
    (checkTarget build ⟨some version, some storePath⟩).refused = true ↔ Older version build.currentVersion := by
  have downgrade : checkTarget build ⟨some version, some storePath⟩ = .refusedDowngrade ↔ _ := refusedDowngrade_iff
  rw [← downgrade]
  obtain ⟨applied, outcome⟩ := checkTarget_stored build version storePath
  rw [outcome, if_pos valid]
  split
  · exact iff_of_true rfl rfl
  · cases applied with
    | true => exact iff_of_false Bool.noConfusion Check.noConfusion
    | false => exact iff_of_false Bool.noConfusion Check.noConfusion

/-! ## The server's check -/

theorem parseU64_of_digits {part : List Char} (filled : part ≠ []) (digits : part.all Char.isDigit = true) :
    parseU64 (String.ofList part) = if decimal part < 2 ^ 64 then some (decimal part) else none := by
  simp only [parseU64, String.toList_ofList]
  split
  · rw [List.all_cons] at digits
    cases digits
  · exact if_pos ⟨filled, digits⟩

theorem numbers_of_fits {version : String} (dotted : isDotted version = true) (fits : FitsInt version) :
    numbers version = some ((stringToArray version).map decimal) := by
  have each : ∀ part ∈ stringToArray version, parseU64 (String.ofList part) = some (decimal part) := by
    intro part member
    have numeral := List.all_eq_true.mp dotted part member
    rw [Bool.and_eq_true, decide_eq_true_eq] at numeral
    rw [parseU64_of_digits numeral.1 numeral.2]
    exact if_pos ((fits part member).trans (by decide))
  unfold numbers Daemon.versionParts
  rw [List.mapM_map, mapM_eq, if_pos]
  · congr 1
    rw [← List.filterMap_eq_map]
    exact List.filterMap_congr fun part member => each part member
  · rw [List.all_eq_true]
    intro part member
    show (parseU64 (String.ofList part)).isSome = true
    rw [each part member]
    rfl

theorem intArray_of_fits {version : String} (fits : FitsInt version) :
    intArray version = some ((stringToArray version).map decimal) := by
  have each : ∀ part ∈ stringToArray version, castInt part = some (decimal part) := fun part member =>
    if_pos (fits part member)
  unfold intArray
  rw [mapM_eq, if_pos]
  · congr 1
    rw [← List.filterMap_eq_map]
    exact List.filterMap_congr each
  · rw [List.all_eq_true]
    intro part member
    rw [each part member]
    rfl

theorem fits_of_intArray {version : String} {values : List Nat} (cast : intArray version = some values) :
    FitsInt version := by
  unfold intArray at cast
  rw [mapM_eq] at cast
  obtain ⟨all, -⟩ := Option.ite_none_right_eq_some.mp cast
  intro part member
  have fits := List.all_eq_true.mp all part member
  by_contra large
  rw [castInt, if_neg large] at fits
  cases fits

theorem isSkipped_some_iff {target pinned : String} {skipped : Bool} (dottedTarget : isDotted target = true)
    (dottedPinned : isDotted pinned = true) :
    isSkipped target pinned = some skipped ↔ FitsInt target ∧ FitsInt pinned ∧ (skipped = true ↔ Older target pinned) := by
  have guarded : isSkipped target pinned = (do
      let current ← intArray pinned
      let wanted ← intArray target
      some (decide (wanted < current))) := by
    unfold isSkipped
    rw [dottedTarget, dottedPinned]
    rfl
  have order (fitsTarget : FitsInt target) (fitsPinned : FitsInt pinned) :
      Older target pinned ↔ (stringToArray target).map decimal < (stringToArray pinned).map decimal := by
    unfold Older
    rw [numbers_of_fits dottedTarget fitsTarget, numbers_of_fits dottedPinned fitsPinned]
    simp
  rw [guarded]
  constructor
  · intro checked
    obtain ⟨current, ofPinned, checked⟩ := Option.bind_eq_some_iff.mp checked
    obtain ⟨wanted, ofTarget, same⟩ := Option.bind_eq_some_iff.mp checked
    have fitsTarget := fits_of_intArray ofTarget
    have fitsPinned := fits_of_intArray ofPinned
    rw [intArray_of_fits fitsTarget] at ofTarget
    rw [intArray_of_fits fitsPinned] at ofPinned
    cases ofTarget
    cases ofPinned
    cases same
    refine ⟨fitsTarget, fitsPinned, ?_⟩
    rw [order fitsTarget fitsPinned, decide_eq_true_iff]
  · rintro ⟨fitsTarget, fitsPinned, agrees⟩
    rw [intArray_of_fits fitsTarget, intArray_of_fits fitsPinned]
    rw [order fitsTarget fitsPinned] at agrees
    show some _ = some skipped
    rw [Option.some.injEq, Bool.eq_iff_iff, decide_eq_true_iff]
    exact agrees.symm

theorem mem_skippedClusters_iff {db : Database} {target : String} {groups skipped : List Uuid} {cluster : Uuid}
    (answered : skippedClusters db target groups = .ok skipped) :
    cluster ∈ skipped ↔ inGroups db groups cluster = true ∧
      ∃ row pinned, db.clusters.lookup cluster = some row ∧ row.pinnedVersion = some pinned ∧
        isSkipped target pinned = some true := by
  unfold skippedClusters at answered
  dsimp only at answered
  rw [mapM_eq] at answered
  split at answered
  · cases answered
  rename_i checked cast
  obtain ⟨-, same⟩ := Option.ite_none_right_eq_some.mp cast
  cases same
  cases answered
  simp only [List.mem_map, List.mem_filter, List.mem_filterMap, Option.map_eq_some_iff, Bool.and_eq_true]
  constructor
  · rintro ⟨_, ⟨⟨_, ⟨entry, member, pinned, pins, rfl⟩, checked, looked, rfl⟩, rfl, inGroup⟩, rfl⟩
    exact ⟨inGroup, entry.2, pinned, AList.mem_lookup_iff.mpr member, pins, looked⟩
  · rintro ⟨inGroup, row, pinned, present, pins, looked⟩
    exact ⟨(cluster, true), ⟨⟨(cluster, pinned), ⟨⟨cluster, row⟩, AList.mem_lookup_iff.mp present, pinned, pins, rfl⟩, true,
      looked, rfl⟩, rfl, inGroup⟩, rfl⟩

/-! ## The rollback -/

/-- The rollout's version was shipped to the cluster, the rollback went through, and the cluster is told the baseline. -/
structure RolledBack (hash : Uuid → Uuid → Int) (db after : Database) (rid cluster : Uuid) (baseline : String) : Prop where
  captured : ∃ rollout, db.rollouts.lookup rid = some rollout ∧ rollout.targetVersion.isSome ∧
    rollout.baselineVersion = some baseline
  shipped : (rid, cluster) ∈ db.deliveries
  rolledBack : adminRoute db rid .rollback = .ok after
  answered : getUpdateTarget hash after cluster = .ok (some baseline)

/-- The baseline is the answer to a cluster of the cohort that no other rollout has a version for. -/
theorem getUpdateTarget_rolledBack {hash : Uuid → Uuid → Int} {db after : Database} {rid cluster : Uuid} {rollout : Rollout}
    {baseline : String} (found : db.rollouts.lookup rid = some rollout) (captured : rollout.baselineVersion = some baseline)
    (member : cluster ∈ db.cohort rid) (exists_cluster : cluster ∈ db.clusters)
    (rolledBack : adminRoute db rid .rollback = .ok after)
    (alone : ((activeRolloutForCluster hash after cluster).bind fun active => active.2.targetVersion) = none) :
    getUpdateTarget hash after cluster = .ok (some baseline) := by
  unfold adminRoute adminRollbackRollout at rolledBack
  rw [found] at rolledBack
  cases rolledBack
  obtain ⟨row, present⟩ := Option.isSome_iff_exists.mp (AList.lookup_isSome.mpr exists_cluster)
  unfold getUpdateTarget
  rw [alone]
  dsimp only
  have pinned : (((db.rollBackStages rid).setStatus rid .rolledBack).rewindPins (db.cohort rid) rollout.baselineVersion
      rollout.baselineNixpkgsCommit).clusters.lookup cluster =
      some { pinnedVersion := rollout.baselineVersion, nixpkgsCommit := rollout.baselineNixpkgsCommit } := by
    show (db.clusters.update _ _).lookup cluster = _
    rw [Table.lookup_update, present]
    simp [member]
  rw [pinned, captured]
  rfl

theorem rollback_accepted_iff (build : Build) :
    (∀ hash db after rid cluster baseline storePath state, RolledBack hash db after rid cluster baseline →
      isValidStorePath storePath = true →
      ((checkTarget build (UpdateState.fetchTargetVersion state ⟨some baseline, some storePath⟩).target).refused = false ↔
        ¬ Older baseline build.currentVersion)) ∧
    ∀ target running storePath, isDotted target = true → isDotted running = true → build.currentVersion = running →
      (isSkipped target running = some (decide (checkTarget build ⟨some target, storePath⟩ = .refusedDowngrade)) ↔
        FitsInt target ∧ FitsInt running) := by
  constructor
  · intro hash db after rid cluster baseline storePath state _ valid
    rw [← refused_iff valid, Bool.not_eq_true]
    rfl
  · intro target running storePath dottedTarget dottedRunning runs
    rw [isSkipped_some_iff dottedTarget dottedRunning, decide_eq_true_iff, refusedDowngrade_iff, runs]
    exact ⟨fun ⟨first, second, _⟩ => ⟨first, second⟩, fun ⟨first, second⟩ => ⟨first, second, Iff.rfl⟩⟩

/-- Rollout 1 takes the clusters from version 1.1.0 to 1.2.0, which cluster 7 was sent. -/
def shippedDb : Database :=
  { reportingDb with
    rollouts := AList.singleton 1 { rolloutOf .rolling with baselineVersion := some "1.1.0" }
    deliveries := [(1, 7)] }

def rewoundDb : Database := ((shippedDb.rollBackStages 1).setStatus 1 .rolledBack).rewindPins [7] (some "1.1.0") none

theorem shippedDb_rollout :
    shippedDb.rollouts.lookup 1 = some { rolloutOf .rolling with baselineVersion := some "1.1.0" } := by decide

theorem shippedDb_rollback : adminRoute shippedDb 1 .rollback = .ok rewoundDb := rfl

theorem getUpdateTarget_rolledBack_shipped : getUpdateTarget (fun _ _ => 0) rewoundDb 7 = .ok (some "1.1.0") :=
  getUpdateTarget_rolledBack shippedDb_rollout rfl (by decide) (by decide) shippedDb_rollback (by decide +kernel)

theorem shippedDb_rolledBack : RolledBack (fun _ _ => 0) shippedDb rewoundDb 1 7 "1.1.0" where
  captured := ⟨_, shippedDb_rollout, rfl, rfl⟩
  shipped := by decide
  rolledBack := shippedDb_rollback
  answered := getUpdateTarget_rolledBack_shipped

def runs (version : String) : Build := { currentVersion := version, currentStorePath := none, lastStorePath := none }

def targetPath : String := "/nix/store/abc-mac-mgmt"

theorem rollback_accepted_before :
    (checkTarget (runs "1.1.0") (UpdateState.fetchTargetVersion (.start none true) ⟨some "1.1.0", some targetPath⟩).target).refused
        = false ∧
      isSkipped "1.2" "1.2.0" =
        some (decide (checkTarget (runs "1.2.0") ⟨some "1.2", some targetPath⟩ = .refusedDowngrade)) := by
  constructor
  · refine ((rollback_accepted_iff (runs "1.1.0")).1 _ _ _ _ _ _ _ _ shippedDb_rolledBack (by decide +kernel)).mpr ?_
    rw [older_iff]
    decide +kernel
  · exact ((rollback_accepted_iff (runs "1.2.0")).2 "1.2" "1.2.0" _ (by decide +kernel) (by decide +kernel) rfl).mpr
      ⟨by unfold FitsInt; decide +kernel, by unfold FitsInt; decide +kernel⟩

/-- The daemon that took version 1.2.0 refuses to go back; and a number that is no `int` fails the server's check where the
daemon's refuses. -/
theorem rollback_refused :
    (∃ after, RolledBack (fun _ _ => 0) shippedDb after 1 7 "1.1.0" ∧ isValidStorePath targetPath = true ∧
      checkTarget (runs "1.2.0") (UpdateState.fetchTargetVersion (.start none true) ⟨some "1.1.0", some targetPath⟩).target =
        .refusedDowngrade) ∧
    isDotted "1.0.0" = true ∧ isDotted "1.0.2147483648" = true ∧ isSkipped "1.0.0" "1.0.2147483648" = none ∧
      checkTarget (runs "1.0.2147483648") ⟨some "1.0.0", some targetPath⟩ = .refusedDowngrade :=
  ⟨⟨rewoundDb, shippedDb_rolledBack, by decide +kernel, by decide +kernel⟩, by decide +kernel, by decide +kernel,
    by decide +kernel, by decide +kernel⟩

end MacMgmt.Proof.Server.Downgrades
