import MacMgmt.Proof.Server.Downgrades
import MacMgmt.Server.RolloutCreation

/-!
# The two guards against downgrades

`rollout_create` refuses a rollout over a pin that is greater as text, where `admin_create_rollout` compares numbers.
-/

namespace MacMgmt.Proof.Server.DowngradeGuards
open Lib MacMgmt.Server Downgrades

/-! ## The cohort -/

def PinnedIn (db : Database) (groups : List Uuid) (cluster : Uuid) (pinned : String) : Prop :=
  inGroups db groups cluster = true ∧ ∃ row, db.clusters.lookup cluster = some row ∧ row.pinnedVersion = some pinned

def numerals (version : String) : List Nat := (stringToArray version).map decimal

def Above (pinned target : String) : Prop :=
  isDotted target = true ∧ isDotted pinned = true ∧ numerals target < numerals pinned

def CastsFit (db : Database) (target : String) : Prop :=
  FitsInt target ∧ ∀ cluster row pinned, db.clusters.lookup cluster = some row → row.pinnedVersion = some pinned →
    isDotted pinned = true → FitsInt pinned

theorem mem_stageMembers {db : Database} {group cluster : Uuid} (exists_cluster : cluster ∈ db.clusters) :
    cluster ∈ stageMembers db group ↔ (group, cluster) ∈ db.groupMembers ∨ group = allClusters := by
  have listed : cluster ∈ db.clusters.keys := exists_cluster
  unfold stageMembers
  rw [List.mem_append]
  refine or_congr ?_ ?_
  · simp
  · by_cases sentinel : group = allClusters <;> simp [sentinel, listed]

theorem inGroups_iff {db : Database} {groups : List Uuid} {cluster : Uuid} :
    inGroups db groups cluster = true ↔ ∃ group ∈ groups, (group, cluster) ∈ db.groupMembers ∨ group = allClusters := by
  simp only [inGroups, Bool.or_eq_true, decide_eq_true_eq, List.any_eq_true]
  constructor
  · rintro (sentinel | ⟨group, listed, member⟩)
    · exact ⟨allClusters, sentinel, Or.inr rfl⟩
    · exact ⟨group, listed, Or.inl member⟩
  · rintro ⟨group, listed, member | rfl⟩
    · exact Or.inr ⟨group, listed, member⟩
    · exact Or.inl listed

/-! ## `rollout_create` -/

section Creation
variable {collate : String → String → Ordering} {parseUuid : String → Except String Uuid}
  {commitCounts : List String → String → Option Nat} {db : Database} {rolloutGroups : RolloutGroups db}
  {clusterName : Uuid → String} {rid : Uuid} {ids : List Uuid} {input : RolloutCreateInput} {checked : CheckedInput}
  {groups : List Uuid} {target : String}

theorem mem_downgradesOf {groupName : String} {group : Uuid} {found : DowngradeRow} :
    found ∈ downgradesOf collate db clusterName groupName group target ↔
      ∃ cluster ∈ stageMembers db group, ∃ row pinned, db.clusters.lookup cluster = some row ∧
        row.pinnedVersion = some pinned ∧ collate pinned target = .gt ∧
        found = { clusterName := clusterName cluster, pinnedVersion := pinned, groupName } := by
  unfold downgradesOf
  simp only [List.mem_filterMap, bind, Option.bind_eq_some_iff, Option.ite_none_right_eq_some, Option.some.injEq]
  constructor
  · rintro ⟨cluster, member, row, present, pinned, pins, after, rfl⟩
    exact ⟨cluster, member, row, pinned, present, pins, after, rfl⟩
  · rintro ⟨cluster, member, row, pinned, present, pins, after, rfl⟩
    exact ⟨cluster, member, row, present, pinned, pins, after, rfl⟩

theorem mem_downgrades {found : DowngradeRow} :
    found ∈ downgrades collate db rolloutGroups clusterName groups target ↔
      ∃ group ∈ groups, ∃ groupName, rolloutGroups.names.lookup group = some groupName ∧
        found ∈ downgradesOf collate db clusterName groupName group target := by
  unfold downgrades
  simp only [List.mem_insertionSort, List.mem_dedup, List.mem_flatMap]
  refine exists_congr fun group => and_congr_right fun _ => ?_
  cases rolloutGroups.names.lookup group <;> simp

theorem downgrades_ne_nil_iff :
    downgrades collate db rolloutGroups clusterName groups target ≠ [] ↔
      ∃ cluster pinned, PinnedIn db groups cluster pinned ∧ collate pinned target = .gt := by
  constructor
  · intro filled
    obtain ⟨found, listed⟩ := List.exists_mem_of_ne_nil _ filled
    obtain ⟨group, listed, groupName, -, found⟩ := mem_downgrades.mp listed
    obtain ⟨cluster, member, row, pinned, present, pins, after, -⟩ := mem_downgradesOf.mp found
    have exists_cluster : cluster ∈ db.clusters := AList.lookup_isSome.mp (Option.isSome_of_mem present)
    have inGroup := inGroups_iff.mpr ⟨group, listed, (mem_stageMembers exists_cluster).mp member⟩
    exact ⟨cluster, pinned, ⟨inGroup, row, present, pins⟩, after⟩
  · rintro ⟨cluster, pinned, ⟨inGroup, row, present, pins⟩, after⟩
    obtain ⟨group, listed, member⟩ := inGroups_iff.mp inGroup
    have named : group ∈ rolloutGroups.names := by
      obtain joined | rfl := member
      · exact rolloutGroups.members _ joined
      · exact rolloutGroups.sentinel
    obtain ⟨groupName, name⟩ := Option.isSome_iff_exists.mp (AList.lookup_isSome.mpr named)
    have exists_cluster : cluster ∈ db.clusters := AList.lookup_isSome.mp (Option.isSome_of_mem present)
    have found : { clusterName := clusterName cluster, pinnedVersion := pinned, groupName : DowngradeRow } ∈
        downgradesOf collate db clusterName groupName group target :=
      mem_downgradesOf.mpr ⟨cluster, (mem_stageMembers exists_cluster).mpr member, row, pinned, present, pins, after, rfl⟩
    exact List.ne_nil_of_mem (mem_downgrades.mpr ⟨group, listed, groupName, name, found⟩)

theorem commitError_ne_downgrade {rows : List (String × List DowngradeRow)} :
    commitError commitCounts db checked ≠ some (.downgrade target rows) := by
  unfold commitError
  cases checked.nixpkgsCommit with
  | none => exact nofun
  | some commit =>
      simp only [bind, Option.bind_some]
      split
      · exact nofun
      · intro refused
        obtain ⟨current, -, later⟩ := List.exists_of_findSome?_eq_some refused
        split at later
        · cases later
        · split at later <;> cases later

theorem downgradeError_eq (targeted : checked.targetVersion = some target) :
    downgradeError collate db rolloutGroups clusterName checked =
      if downgrades collate db rolloutGroups clusterName checked.groups target = [] then none
      else some (.downgrade target (byCluster (downgrades collate db rolloutGroups clusterName checked.groups target))) := by
  unfold downgradeError
  rw [targeted]
  rfl

theorem rolloutCreate_checked (passes : checkInput parseUuid db.daemonVersions input = .ok checked) :
    rolloutCreate collate parseUuid commitCounts db rolloutGroups clusterName rid ids input =
      match (downgradeError collate db rolloutGroups clusterName checked).or (commitError commitCounts db checked) with
      | some error => .error error
      | none => (insertRollout db rolloutGroups rid ids checked).elim (.error .database) .ok := by
  unfold rolloutCreate
  rw [passes]
  rfl

theorem rolloutCreate_error_iff (passes : checkInput parseUuid db.daemonVersions input = .ok checked)
    (targeted : checked.targetVersion = some target) :
    (∃ rows, rolloutCreate collate parseUuid commitCounts db rolloutGroups clusterName rid ids input =
        .error (.downgrade target rows)) ↔ downgrades collate db rolloutGroups clusterName checked.groups target ≠ [] := by
  rw [rolloutCreate_checked passes, downgradeError_eq targeted]
  split
  · rename_i error refused
    split at refused
    · rename_i empty
      rw [Option.none_or] at refused
      refine iff_of_false ?_ (not_not_intro empty)
      rintro ⟨rows, same⟩
      cases same
      exact commitError_ne_downgrade refused
    · rename_i filled
      cases refused
      exact iff_of_true ⟨_, rfl⟩ filled
  · rename_i passed
    have empty : downgrades collate db rolloutGroups clusterName checked.groups target = [] := by
      by_contra filled
      rw [if_neg filled] at passed
      cases passed
    refine iff_of_false ?_ (not_not_intro empty)
    rintro ⟨rows, refused⟩
    cases stored : insertRollout db rolloutGroups rid ids checked with
    | none =>
        rw [stored] at refused
        cases refused
    | some after =>
        rw [stored] at refused
        cases refused

theorem rolloutCreate_downgrade_iff (passes : checkInput parseUuid db.daemonVersions input = .ok checked)
    (targeted : checked.targetVersion = some target) :
    (∃ rows, rolloutCreate collate parseUuid commitCounts db rolloutGroups clusterName rid ids input =
        .error (.downgrade target rows)) ↔
      ∃ cluster pinned, PinnedIn db checked.groups cluster pinned ∧ collate pinned target = .gt :=
  (rolloutCreate_error_iff passes targeted).trans downgrades_ne_nil_iff

/-! ## `admin_create_rollout` -/

theorem isSkipped_eq {pinned : String} :
    isSkipped target pinned =
      if isDotted target && isDotted pinned then
        (intArray pinned).bind fun current => (intArray target).map fun wanted => decide (wanted < current)
      else some false := by
  unfold isSkipped
  split
  · cases intArray pinned with
    | none => rfl
    | some current => cases intArray target <;> rfl
  · rfl

theorem intArray_eq_none {version : String} (large : ¬ FitsInt version) : intArray version = none := by
  cases cast : intArray version with
  | none => rfl
  | some values => exact absurd (fits_of_intArray cast) large

theorem isSkipped_true_iff {pinned : String} :
    isSkipped target pinned = some true ↔ Above pinned target ∧ FitsInt target ∧ FitsInt pinned := by
  rw [isSkipped_eq]
  by_cases dotted : isDotted target = true ∧ isDotted pinned = true
  · rw [if_pos (by simpa using dotted)]
    by_cases fitsPinned : FitsInt pinned
    · by_cases fitsTarget : FitsInt target
      · simp [intArray_of_fits fitsPinned, intArray_of_fits fitsTarget, Above, numerals, dotted, fitsPinned, fitsTarget]
      · simp [intArray_eq_none fitsTarget, fitsTarget]
    · simp [intArray_eq_none fitsPinned, fitsPinned]
  · rw [if_neg (by simpa using dotted)]
    refine iff_of_false (by simp) ?_
    rintro ⟨⟨first, second, -⟩, -⟩
    exact dotted ⟨first, second⟩

theorem isSkipped_isSome_iff {pinned : String} :
    (isSkipped target pinned).isSome = true ↔
      (isDotted target = true → isDotted pinned = true → FitsInt target ∧ FitsInt pinned) := by
  rw [isSkipped_eq]
  by_cases dotted : isDotted target = true ∧ isDotted pinned = true
  · rw [if_pos (by simpa using dotted)]
    by_cases fitsPinned : FitsInt pinned
    · by_cases fitsTarget : FitsInt target
      · simp [intArray_of_fits fitsPinned, intArray_of_fits fitsTarget, fitsPinned, fitsTarget]
      · simp [intArray_eq_none fitsTarget, fitsTarget, dotted]
    · simp [intArray_eq_none fitsPinned, fitsPinned, dotted]
  · rw [if_neg (by simpa using dotted)]
    exact iff_of_true rfl fun first second => absurd ⟨first, second⟩ dotted

theorem skippedClusters_ok_iff :
    (∃ skipped, skippedClusters db target groups = .ok skipped) ↔
      ∀ cluster row pinned, db.clusters.lookup cluster = some row → row.pinnedVersion = some pinned →
        (isSkipped target pinned).isSome = true := by
  unfold skippedClusters
  dsimp only
  rw [mapM_eq]
  constructor
  · rintro ⟨skipped, answered⟩ cluster row pinned present pins
    split at answered
    · cases answered
    rename_i checked cast
    obtain ⟨all, -⟩ := Option.ite_none_right_eq_some.mp cast
    have listed : (cluster, pinned) ∈ db.clusters.entries.filterMap fun entry =>
        entry.2.pinnedVersion.map fun pinned => (entry.1, pinned) :=
      List.mem_filterMap.mpr ⟨⟨cluster, row⟩, AList.mem_lookup_iff.mp present, by rw [pins]; rfl⟩
    simpa using List.all_eq_true.mp all _ listed
  · intro casts
    rw [if_pos]
    · exact ⟨_, rfl⟩
    · rw [List.all_eq_true]
      intro pin listed
      obtain ⟨entry, member, pins⟩ := List.mem_filterMap.mp listed
      obtain ⟨pinned, has, rfl⟩ := Option.map_eq_some_iff.mp pins
      simpa using casts entry.1 entry.2 pinned (AList.mem_lookup_iff.mpr member) has

theorem reported_iff {cluster : Uuid} :
    (∃ skipped, skippedClusters db target groups = .ok skipped ∧ cluster ∈ skipped) ↔
      (∃ pinned, PinnedIn db groups cluster pinned ∧ Above pinned target) ∧ CastsFit db target := by
  constructor
  · rintro ⟨skipped, answered, listed⟩
    obtain ⟨inGroup, row, pinned, present, pins, looked⟩ := (mem_skippedClusters_iff answered).mp listed
    obtain ⟨above, fits, -⟩ := isSkipped_true_iff.mp looked
    refine ⟨⟨pinned, ⟨inGroup, row, present, pins⟩, above⟩, fits, ?_⟩
    intro other otherRow otherPin otherPresent otherPins dotted
    have casts := skippedClusters_ok_iff.mp ⟨skipped, answered⟩ other otherRow otherPin otherPresent otherPins
    exact (isSkipped_isSome_iff.mp casts above.1 dotted).2
  · rintro ⟨⟨pinned, ⟨inGroup, row, present, pins⟩, above⟩, fits, allFit⟩
    have answers : ∃ skipped, skippedClusters db target groups = .ok skipped := skippedClusters_ok_iff.mpr
      fun other otherRow otherPin otherPresent otherPins => isSkipped_isSome_iff.mpr fun _ dotted =>
        ⟨fits, allFit other otherRow otherPin otherPresent otherPins dotted⟩
    obtain ⟨skipped, answered⟩ := answers
    have looked := isSkipped_true_iff.mpr ⟨above, fits, allFit cluster row pinned present pins above.2.1⟩
    exact ⟨skipped, answered, (mem_skippedClusters_iff answered).mpr ⟨inGroup, row, pinned, present, pins, looked⟩⟩

end Creation

/-! ## One against the other -/

/-- The creation is rejected over the numbers of the pins, which are what the other path reports. -/
structure Guarded (collate : String → String → Ordering) (parseUuid : String → Except String Uuid)
    (commitCounts : List String → String → Option Nat) (db : Database) (rolloutGroups : RolloutGroups db)
    (clusterName : Uuid → String) (rid : Uuid) (ids : List Uuid) (input : RolloutCreateInput) (groups : List Uuid)
    (target : String) : Prop where
  rejected : (∃ rows, rolloutCreate collate parseUuid commitCounts db rolloutGroups clusterName rid ids input =
    .error (.downgrade target rows)) ↔ ∃ cluster pinned, PinnedIn db groups cluster pinned ∧ Above pinned target
  reported : ∀ cluster, (∃ pinned, PinnedIn db groups cluster pinned ∧ Above pinned target) ↔
    ∃ skipped, skippedClusters db target groups = .ok skipped ∧ cluster ∈ skipped

theorem guarded_iff (collate : String → String → Ordering) (parseUuid : String → Except String Uuid)
    (commitCounts : List String → String → Option Nat) (db : Database) (rolloutGroups : RolloutGroups db)
    (clusterName : Uuid → String) (rid : Uuid) (ids : List Uuid) (input : RolloutCreateInput) (checked : CheckedInput)
    (target : String) (passes : checkInput parseUuid db.daemonVersions input = .ok checked)
    (targeted : checked.targetVersion = some target) :
    Guarded collate parseUuid commitCounts db rolloutGroups clusterName rid ids input checked.groups target ↔
      ((∃ cluster pinned, PinnedIn db checked.groups cluster pinned ∧ collate pinned target = .gt) ↔
        ∃ cluster pinned, PinnedIn db checked.groups cluster pinned ∧ Above pinned target) ∧
      ((∃ cluster pinned, PinnedIn db checked.groups cluster pinned ∧ Above pinned target) → CastsFit db target) := by
  constructor
  · rintro ⟨rejected, reported⟩
    refine ⟨(rolloutCreate_downgrade_iff passes targeted).symm.trans rejected, ?_⟩
    rintro ⟨cluster, above⟩
    exact (reported_iff.mp ((reported cluster).mp above)).2
  · rintro ⟨sameOrder, fits⟩
    refine ⟨(rolloutCreate_downgrade_iff passes targeted).trans sameOrder, fun cluster => ?_⟩
    rw [reported_iff]
    exact ⟨fun above => ⟨above, fits ⟨cluster, above⟩⟩, And.left⟩

def pinnedDb (pinned : String) : Database :=
  { now := 0, rollouts := ∅, stages := ∅
    clusters := AList.singleton 7 { pinnedVersion := some pinned, nixpkgsCommit := none }
    groupMembers := [], deliveries := [], heartbeats := [], daemonVersions := [] }

def onlyAllClusters (pinned : String) : RolloutGroups (pinnedDb pinned) where
  names := AList.singleton allClusters "All Clusters"
  sentinel := by decide
  members := nofun

def toAll (target : String) : RolloutCreateInput :=
  { targetVersion := some target, stageIds := ["__all__"], nixpkgsCommit := none, rampMinutes := none }

def checkedToAll (target : String) : CheckedInput :=
  { targetVersion := some target, nixpkgsCommit := none, rampMinutes := none, groups := [allClusters] }

def noUuid (text : String) : Except String Uuid := .error ("invalid character in " ++ text)

theorem checkInput_toAll (target : String) (trimmed : nonBlank (some target) = some target)
    (numbers : hasThreeNumbers target = true) : checkInput noUuid [] (toAll target) = .ok (checkedToAll target) := by
  unfold checkInput toAll
  dsimp only
  rw [trimmed]
  simp [numbers]
  rfl

theorem pinnedIn_all_iff {pinned : String} (holds : String → Prop) :
    (∃ cluster other, PinnedIn (pinnedDb pinned) [allClusters] cluster other ∧ holds other) ↔ holds pinned := by
  constructor
  · rintro ⟨cluster, other, ⟨-, row, present, pins⟩, held⟩
    obtain ⟨-, rfl⟩ := Table.lookup_singleton_some present
    cases pins
    exact held
  · intro held
    exact ⟨7, pinned, ⟨rfl, { pinnedVersion := some pinned, nixpkgsCommit := none }, rfl, rfl⟩, held⟩

theorem castsFit_all {pinned target : String} (fitsTarget : FitsInt target) (fitsPinned : FitsInt pinned) :
    CastsFit (pinnedDb pinned) target := by
  refine ⟨fitsTarget, fun cluster row other present pins _ => ?_⟩
  obtain ⟨-, rfl⟩ := Table.lookup_singleton_some present
  cases pins
  exact fitsPinned

theorem guarded_one_digit :
    Guarded compare noUuid (fun _ _ => none) (pinnedDb "0.9.0") (onlyAllClusters _) (fun _ => "site") 1 [2] (toAll "0.8.0")
      [allClusters] "0.8.0" := by
  have passes : checkInput noUuid [] (toAll "0.8.0") = .ok (checkedToAll "0.8.0") :=
    checkInput_toAll _ (by decide +kernel) (by decide +kernel)
  refine (guarded_iff compare noUuid (fun _ _ => none) (pinnedDb "0.9.0") (onlyAllClusters _) (fun _ => "site") 1 [2]
    (toAll "0.8.0") (checkedToAll "0.8.0") "0.8.0" passes rfl).mpr ⟨?_, fun _ => ?_⟩
  · have text : compare "0.9.0" "0.8.0" = .gt := by decide +kernel
    have number : Above "0.9.0" "0.8.0" := by
      unfold Above
      decide +kernel
    exact iff_of_true ((pinnedIn_all_iff _).mpr text) ((pinnedIn_all_iff _).mpr number)
  · refine castsFit_all ?_ ?_
    · unfold FitsInt
      decide +kernel
    · unfold FitsInt
      decide +kernel

/-- A cluster at 0.9.0 keeps a rollout of 0.10.0 from being created, and one at 0.10.0 does not keep one of 0.9.0. -/
theorem not_guarded_two_digits :
    ¬ Guarded compare noUuid (fun _ _ => none) (pinnedDb "0.9.0") (onlyAllClusters _) (fun _ => "site") 1 [2] (toAll "0.10.0")
      [allClusters] "0.10.0" ∧
    ¬ Guarded compare noUuid (fun _ _ => none) (pinnedDb "0.10.0") (onlyAllClusters _) (fun _ => "site") 1 [2] (toAll "0.9.0")
      [allClusters] "0.9.0" := by
  have early : checkInput noUuid [] (toAll "0.10.0") = .ok (checkedToAll "0.10.0") :=
    checkInput_toAll _ (by decide +kernel) (by decide +kernel)
  have late : checkInput noUuid [] (toAll "0.9.0") = .ok (checkedToAll "0.9.0") :=
    checkInput_toAll _ (by decide +kernel) (by decide +kernel)
  constructor
  · rintro ⟨rejected, -⟩
    have text : compare "0.9.0" "0.10.0" = .gt := by decide +kernel
    have above : Above "0.9.0" "0.10.0" :=
      (pinnedIn_all_iff (Above · "0.10.0")).mp
        (rejected.mp ((rolloutCreate_downgrade_iff early rfl).mpr ((pinnedIn_all_iff _).mpr text)))
    revert above
    unfold Above
    decide +kernel
  · rintro ⟨rejected, -⟩
    have above : Above "0.10.0" "0.9.0" := by
      unfold Above
      decide +kernel
    have text : compare "0.10.0" "0.9.0" = .gt :=
      (pinnedIn_all_iff (compare · "0.9.0" = .gt)).mp
        ((rolloutCreate_downgrade_iff late rfl).mp (rejected.mpr ((pinnedIn_all_iff _).mpr above)))
    revert text
    decide +kernel

end MacMgmt.Proof.Server.DowngradeGuards
