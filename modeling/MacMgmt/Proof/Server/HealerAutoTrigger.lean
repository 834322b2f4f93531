import Mathlib.Data.List.Dedup
import MacMgmt.Lib.Run
import MacMgmt.Server.HealerAutoTrigger

/-!
# Attempts for unhealthy instances

The counters are kept by instance alone. While an instance has one row they follow its streak, up to the ticks after an
attempt that was not made.
-/

namespace MacMgmt.Proof.AutoTrigger
open Lib MacMgmt.Server MacMgmt.Server.AutoTrigger

variable {config : AutoTriggerConfig} {db : TickDb} {counters : Counters}

/-! ## The counters -/

theorem currentlyUnhealthy_iff {instanceId : String} :
    db.currentlyUnhealthy instanceId = true ↔ ∃ row ∈ db.recent, row.instanceId = instanceId ∧ row.unhealthy = true := by
  simp [TickDb.currentlyUnhealthy]

theorem mem_knownInstances {instanceId : String} :
    instanceId ∈ db.knownInstances ↔ ∃ row ∈ db.recent, row.instanceId = instanceId := by
  rw [TickDb.knownInstances, List.mem_dedup, List.mem_map]

theorem lookup_counting {ids : List String} (distinct : ids.Nodup) (map : Counters) (instanceId : String) :
    (ids.foldl (fun map id =>
        if db.currentlyUnhealthy id then map.insert id (((map.lookup id).getD 0 + 1) % 2 ^ 32) else map.erase id) map).lookup
        instanceId =
      if instanceId ∈ ids then
        if db.currentlyUnhealthy instanceId then some (((map.lookup instanceId).getD 0 + 1) % 2 ^ 32) else none
      else map.lookup instanceId := by
  induction ids generalizing map with
  | nil => rfl
  | cons id rest ih =>
      obtain ⟨absent, distinctRest⟩ := List.nodup_cons.mp distinct
      rw [List.foldl_cons, ih distinctRest]
      by_cases same : instanceId = id
      · subst same
        rw [if_neg absent, if_pos List.mem_cons_self]
        split
        · exact AList.lookup_insert _
        · exact AList.lookup_erase _ _
      · have other : (if db.currentlyUnhealthy id then map.insert id (((map.lookup id).getD 0 + 1) % 2 ^ 32)
            else map.erase id).lookup instanceId = map.lookup instanceId := by
          split
          · exact AList.lookup_insert_ne same
          · exact AList.lookup_erase_ne same
        simp only [other, List.mem_cons, same, false_or]

theorem lookup_countTick (counters : Counters) (instanceId : String) :
    (countTick db counters).lookup instanceId =
      if db.currentlyUnhealthy instanceId then some (((counters.lookup instanceId).getD 0 + 1) % 2 ^ 32) else none := by
  have distinct : db.knownInstances.Nodup := List.nodup_dedup _
  rw [countTick, lookup_counting distinct]
  by_cases known : instanceId ∈ db.knownInstances
  · have kept : (counters.retain fun id _ => db.knownInstances.contains id).lookup instanceId = counters.lookup instanceId := by
      rw [Table.lookup_retain]
      cases counters.lookup instanceId <;> simp [known]
    rw [if_pos known, kept]
  · have gone : (counters.retain fun id _ => db.knownInstances.contains id).lookup instanceId = none := by
      rw [Table.lookup_retain]
      cases counters.lookup instanceId <;> simp [known]
    have healthy : ¬ db.currentlyUnhealthy instanceId = true := fun unhealthy => by
      obtain ⟨row, member, same, -⟩ := currentlyUnhealthy_iff.mp unhealthy
      exact known (mem_knownInstances.mpr ⟨row, member, same⟩)
    rw [if_neg known, if_neg healthy, gone]

theorem mem_toTrigger {counted : Counters} {instanceId : String} {clusterId : ClusterId} :
    (instanceId, clusterId) ∈ toTrigger config db counted ↔
      ∃ count, counted.lookup instanceId = some count ∧ config.threshold.toNat ≤ count ∧
        db.instanceCluster instanceId = some clusterId := by
  simp only [toTrigger, List.mem_filterMap]
  constructor
  · rintro ⟨⟨id, count⟩, member, found⟩
    split at found
    · rename_i full
      obtain ⟨cluster, same, pair⟩ := Option.map_eq_some_iff.mp found
      obtain ⟨rfl, rfl⟩ := Prod.mk.inj pair
      exact ⟨count, AList.mem_lookup_iff.mpr member, full, same⟩
    · cases found
  · rintro ⟨count, found, full, cluster⟩
    exact ⟨⟨instanceId, count⟩, AList.mem_lookup_iff.mp found, by simp [full, cluster]⟩

theorem lookup_erased (triggered : List (String × ClusterId)) (map : Counters) (instanceId : String) :
    (triggered.foldl (fun map trigger => map.erase trigger.1) map).lookup instanceId =
      if instanceId ∈ triggered.map Prod.fst then none else map.lookup instanceId := by
  induction triggered generalizing map with
  | nil => rfl
  | cons trigger rest ih =>
      rw [List.foldl_cons, ih, Table.lookup_erase_ite, List.map_cons]
      by_cases same : instanceId = trigger.1
      · simp [same]
      · simp [same]

theorem instanceCluster_isSome {instanceId : String} (known : instanceId ∈ db.knownInstances) :
    ∃ clusterId, db.instanceCluster instanceId = some clusterId := by
  obtain ⟨row, member, same⟩ := mem_knownInstances.mp known
  have found : (db.recent.reverse.find? fun row => row.instanceId = instanceId).isSome :=
    List.find?_isSome.mpr ⟨row, List.mem_reverse.mpr member, by simpa using same⟩
  obtain ⟨last, found⟩ := Option.isSome_iff_exists.mp found
  exact ⟨last.clusterId, by rw [TickDb.instanceCluster, found]; rfl⟩

theorem lookup_tick (counters : Counters) (instanceId : String) :
    (autoTriggerTick config db counters).1.lookup instanceId =
      ((countTick db counters).lookup instanceId).filter (· < config.threshold.toNat) := by
  rw [autoTriggerTick, lookup_erased]
  cases found : (countTick db counters).lookup instanceId with
  | none =>
      simp
  | some count =>
      have unhealthy : db.currentlyUnhealthy instanceId = true := by
        rw [lookup_countTick] at found
        by_contra healthy
        rw [if_neg healthy] at found
        cases found
      obtain ⟨row, member, same, -⟩ := currentlyUnhealthy_iff.mp unhealthy
      obtain ⟨clusterId, cluster⟩ := instanceCluster_isSome (mem_knownInstances.mpr ⟨row, member, same⟩)
      have triggered : instanceId ∈ (toTrigger config db (countTick db counters)).map Prod.fst ↔ config.threshold.toNat ≤ count := by
        rw [List.mem_map]
        constructor
        · rintro ⟨⟨id, other⟩, within, rfl⟩
          obtain ⟨number, known, full, -⟩ := mem_toTrigger.mp within
          obtain rfl := Option.some.inj (found.symm.trans known)
          exact full
        · intro full
          exact ⟨(instanceId, clusterId), mem_toTrigger.mpr ⟨count, found, full, cluster⟩, rfl⟩
      simp only [triggered]
      by_cases full : config.threshold.toNat ≤ count
      · simp [Option.filter, full, not_lt.mpr full]
      · simp [Option.filter, full, not_le.mp full]

theorem neverWraps_step {state after : Server.AutoTrigger} (taken : step config state db = some after) : after.NeverWraps := by
  cases taken
  intro instanceId count found
  have bound := config.threshold.toNat_lt
  have kept := (lookup_tick state.counters instanceId).symm.trans found
  obtain ⟨-, below⟩ := Option.filter_eq_some_iff.mp kept
  have limit : count < config.threshold.toNat := of_decide_eq_true below
  omega

/-! ## One row for an instance -/

variable {state : Server.AutoTrigger} {row : HeartbeatRow}

theorem row_unique (alone : (db.recent.map HeartbeatRow.instanceId).Nodup) (member : row ∈ db.recent) {other : HeartbeatRow}
    (memberOther : other ∈ db.recent) (same : other.instanceId = row.instanceId) : other = row :=
  List.inj_on_of_nodup_map alone memberOther member same

theorem currentlyUnhealthy_row (alone : (db.recent.map HeartbeatRow.instanceId).Nodup) (member : row ∈ db.recent) :
    db.currentlyUnhealthy row.instanceId = row.unhealthy := by
  rw [Bool.eq_iff_iff, currentlyUnhealthy_iff]
  constructor
  · rintro ⟨other, within, same, unhealthy⟩
    exact row_unique alone member within same ▸ unhealthy
  · exact fun unhealthy => ⟨row, member, rfl, unhealthy⟩

theorem instanceCluster_row (alone : (db.recent.map HeartbeatRow.instanceId).Nodup) (member : row ∈ db.recent) :
    db.instanceCluster row.instanceId = some row.clusterId := by
  obtain ⟨last, found⟩ : ∃ last, db.recent.reverse.find? (fun other => other.instanceId = row.instanceId) = some last :=
    Option.isSome_iff_exists.mp (List.find?_isSome.mpr ⟨row, List.mem_reverse.mpr member, by simp⟩)
  have within : last ∈ db.recent := List.mem_reverse.mp (List.mem_of_find?_eq_some found)
  have same : last.instanceId = row.instanceId := by simpa using List.find?_some found
  rw [TickDb.instanceCluster, found, row_unique alone member within same]
  rfl

theorem streak_row (alone : (db.recent.map HeartbeatRow.instanceId).Nodup) (member : row ∈ db.recent)
    (streaks : String → ClusterId → Nat) (clusterId : ClusterId) :
    db.streak streaks row.instanceId clusterId =
      if clusterId = row.clusterId ∧ row.unhealthy = true then streaks row.instanceId clusterId + 1 else 0 := by
  have counted : (db.recent.any fun other => other.instanceId = row.instanceId && other.clusterId = clusterId && other.unhealthy) =
      true ↔ clusterId = row.clusterId ∧ row.unhealthy = true := by
    simp only [List.any_eq_true, Bool.and_eq_true, decide_eq_true_eq]
    constructor
    · rintro ⟨other, within, ⟨same, cluster⟩, unhealthy⟩
      obtain rfl := row_unique alone member within same
      exact ⟨cluster.symm, unhealthy⟩
    · rintro ⟨rfl, unhealthy⟩
      exact ⟨row, member, ⟨rfl, rfl⟩, unhealthy⟩
  rw [TickDb.streak]
  simp only [counted]

theorem streak_pos {streaks : String → ClusterId → Nat} {instanceId : String} {clusterId : ClusterId}
    (positive : 0 < db.streak streaks instanceId clusterId) :
    ∃ row ∈ db.recent, row.instanceId = instanceId ∧ row.clusterId = clusterId ∧ row.unhealthy = true := by
  rw [TickDb.streak] at positive
  split at positive
  · rename_i found
    simpa [and_assoc] using found
  · cases positive

/-! ## The counters and the streaks -/

/-- A count is the length of the streak since the threshold was last completed, and what is counted has a streak. -/
structure Follows (config : AutoTriggerConfig) (state : Server.AutoTrigger) : Prop where
  small : state.NeverWraps
  follows : ∀ instanceId clusterId, 0 < state.streaks instanceId clusterId →
    (state.counters.lookup instanceId).getD 0 = state.streaks instanceId clusterId % max config.threshold.toNat 1
  counted : ∀ instanceId, 0 < (state.counters.lookup instanceId).getD 0 → ∃ clusterId, 0 < state.streaks instanceId clusterId

theorem succ_mod (length bound : Nat) (positive : 0 < bound) :
    (length + 1) % bound = if bound ≤ length % bound + 1 then 0 else length % bound + 1 := by
  have below := Nat.mod_lt length positive
  rw [Nat.add_mod_eq_add_mod_right 1 (Nat.mod_mod length bound).symm]
  split
  · have full : length % bound + 1 = bound := by omega
    rw [full, Nat.mod_self]
  · exact Nat.mod_eq_of_lt (by omega)

theorem count_row (small : state.NeverWraps) (alone : (db.recent.map HeartbeatRow.instanceId).Nodup) (member : row ∈ db.recent)
    (unhealthy : row.unhealthy = true) :
    (countTick db state.counters).lookup row.instanceId = some ((state.counters.lookup row.instanceId).getD 0 + 1) := by
  have bound : (state.counters.lookup row.instanceId).getD 0 + 1 < 2 ^ 32 := by
    cases found : state.counters.lookup row.instanceId with
    | none => decide
    | some count => exact small _ _ found
  rw [lookup_countTick, currentlyUnhealthy_row alone member, if_pos unhealthy, Nat.mod_eq_of_lt bound]

theorem counter_row (follows : Follows config state) (sound : Sound config state db) (member : row ∈ db.recent) :
    (state.counters.lookup row.instanceId).getD 0 =
      state.streaks row.instanceId row.clusterId % max config.threshold.toNat 1 := by
  by_cases before : 0 < state.streaks row.instanceId row.clusterId
  · exact follows.follows _ _ before
  · have uncounted : ¬ 0 < (state.counters.lookup row.instanceId).getD 0 := by
      intro positive
      obtain ⟨clusterId, streak⟩ := follows.counted _ positive
      obtain rfl := sound.stays row member clusterId streak
      exact before streak
    rw [Nat.eq_zero_of_not_pos uncounted, Nat.eq_zero_of_not_pos before, Nat.zero_mod]

theorem full_iff_completes (follows : Follows config state) (sound : Sound config state db) (member : row ∈ db.recent)
    (unhealthy : row.unhealthy = true) :
    config.threshold.toNat ≤ (state.counters.lookup row.instanceId).getD 0 + 1 ↔
      Completes config (db.streak state.streaks row.instanceId row.clusterId) := by
  rw [counter_row follows sound member, streak_row sound.alone member, if_pos ⟨rfl, unhealthy⟩, Completes, Nat.dvd_iff_mod_eq_zero,
    succ_mod _ _ (by omega)]
  split <;> omega

/-! ## Attempts -/

theorem mem_due {streaks : String → ClusterId → Nat} :
    row ∈ db.due config streaks ↔ row ∈ db.recent ∧ row.unhealthy = true ∧
      config.threshold.toNat ≤ db.streak streaks row.instanceId row.clusterId ∧ db.exempt row = false := by
  simp [TickDb.due, and_assoc]

theorem trySpawn_row (sound : Sound config state db) (member : row ∈ db.recent) (unhealthy : row.unhealthy = true)
    (completes : Completes config (db.streak state.streaks row.instanceId row.clusterId)) :
    trySpawn config db row.instanceId row.clusterId =
      if db.exempt row then none
      else some ⟨row.instanceId, row.clusterId,
        buildSpawnRequest config db row.instanceId row.clusterId (db.clusterHealerConfig row.clusterId)⟩ := by
  obtain ⟨human, settings⟩ := sound.asks row member unhealthy completes
  have disabled : (db.clusterHealerConfig row.clusterId).autoTrigger = some false ↔ db.disabledAutoTrigger row.clusterId = true := by
    rw [TickDb.clusterHealerConfig]
    cases fails : db.settingsFail row.clusterId with
    | true => simp [settings fails]
    | false =>
        cases found : db.settings row.clusterId with
        | none => simp [TickDb.disabledAutoTrigger, found]
        | some chosen => cases enabled : chosen.enabled <;> simp [TickDb.disabledAutoTrigger, found, enabled]
  rw [trySpawn, human, TickDb.exempt]
  cases db.lastNeedsHuman row.instanceId <;> simp [disabled]

theorem long_of_completes (sound : Sound config state db) (member : row ∈ db.recent) (unhealthy : row.unhealthy = true)
    (completes : Completes config (db.streak state.streaks row.instanceId row.clusterId)) :
    config.threshold.toNat ≤ db.streak state.streaks row.instanceId row.clusterId := by
  have positive : 0 < db.streak state.streaks row.instanceId row.clusterId := by
    rw [streak_row sound.alone member, if_pos ⟨rfl, unhealthy⟩]
    exact Nat.succ_pos _
  exact (le_max_left _ _).trans (Nat.le_of_dvd positive completes)

theorem mem_attempts (follows : Follows config state) (sound : Sound config state db) (attempt : SpawnAttempt) :
    attempt ∈ (autoTriggerTick config db state.counters).2 ↔
      ∃ row ∈ db.due config state.streaks, attemptFor config db row = attempt := by
  have built {row : HeartbeatRow} (due : row ∈ db.due config state.streaks) :
      trySpawn config db row.instanceId row.clusterId = some (attemptFor config db row) := by
    obtain ⟨member, unhealthy, -, unexempt⟩ := mem_due.mp due
    rw [trySpawn_row sound member unhealthy (sound.waits row due), unexempt, buildSpawnRequest, sound.first row due]
    rfl
  rw [autoTriggerTick, List.mem_filterMap]
  constructor
  · rintro ⟨⟨instanceId, clusterId⟩, triggered, tried⟩
    obtain ⟨number, found, full, cluster⟩ := mem_toTrigger.mp triggered
    have counted := found
    rw [lookup_countTick] at counted
    split at counted
    · rename_i unhealthyId
      obtain ⟨row, member, rfl, unhealthy⟩ := currentlyUnhealthy_iff.mp unhealthyId
      obtain rfl := Option.some.inj ((instanceCluster_row sound.alone member).symm.trans cluster)
      obtain rfl := Option.some.inj ((count_row follows.small sound.alone member unhealthy).symm.trans found)
      have completes := (full_iff_completes follows sound member unhealthy).mp full
      cases exempt : db.exempt row with
      | true =>
          simp only [trySpawn_row sound member unhealthy completes, exempt, if_true] at tried
          cases tried
      | false =>
          have due : row ∈ db.due config state.streaks :=
            mem_due.mpr ⟨member, unhealthy, long_of_completes sound member unhealthy completes, exempt⟩
          exact ⟨row, due, Option.some.inj ((built due).symm.trans tried)⟩
    · cases counted
  · rintro ⟨row, due, rfl⟩
    obtain ⟨member, unhealthy, -, -⟩ := mem_due.mp due
    have full := (full_iff_completes follows sound member unhealthy).mpr (sound.waits row due)
    have found := count_row follows.small sound.alone member unhealthy
    exact ⟨(row.instanceId, row.clusterId), mem_toTrigger.mpr ⟨_, found, full, instanceCluster_row sound.alone member⟩, built due⟩

/-! ## Ticks -/

theorem follows_start : Follows config start where
  small := fun _ _ found => by cases found
  follows := fun _ _ positive => absurd positive (lt_irrefl 0)
  counted := fun _ positive => absurd positive (lt_irrefl 0)

theorem counters_step {after : Server.AutoTrigger} (taken : step config state db = some after) (instanceId : String) :
    after.counters.lookup instanceId =
      ((countTick db state.counters).lookup instanceId).filter (· < config.threshold.toNat) := by
  cases taken
  exact lookup_tick state.counters instanceId

theorem streaks_undue (sound : Sound config state db) {after : Server.AutoTrigger} (taken : step config state db = some after)
    (member : row ∈ db.recent) (unhealthy : row.unhealthy = true) (undue : row ∉ db.due config state.streaks) :
    after.streaks row.instanceId row.clusterId = state.streaks row.instanceId row.clusterId + 1 := by
  have others : ¬ (db.due config state.streaks).any
      (fun other => other.instanceId = row.instanceId && other.clusterId = row.clusterId) = true := by
    intro found
    obtain ⟨other, due, same⟩ := List.any_eq_true.mp found
    have sameId : other.instanceId = row.instanceId := of_decide_eq_true (Bool.and_eq_true_iff.mp same).1
    obtain rfl := row_unique sound.alone member (mem_due.mp due).1 sameId
    exact undue due
  cases taken
  simp only [if_neg others, streak_row sound.alone member, unhealthy, and_self, if_true]

theorem streaks_pos {after : Server.AutoTrigger} (taken : step config state db = some after) {instanceId : String}
    {clusterId : ClusterId} (positive : 0 < after.streaks instanceId clusterId) :
    ∃ row ∈ db.recent, row.instanceId = instanceId ∧ row.clusterId = clusterId ∧ row.unhealthy = true ∧
      row ∉ db.due config state.streaks := by
  cases taken
  simp only at positive
  split at positive
  · cases positive
  · rename_i undue
    obtain ⟨row, member, rfl, rfl, unhealthy⟩ := streak_pos positive
    exact ⟨row, member, rfl, rfl, unhealthy, fun due => undue (List.any_eq_true.mpr ⟨row, due, by simp⟩)⟩

theorem counter_step {after : Server.AutoTrigger} (follows : Follows config state) (sound : Sound config state db)
    (taken : step config state db = some after) (member : row ∈ db.recent) (unhealthy : row.unhealthy = true) :
    (after.counters.lookup row.instanceId).getD 0 =
      (state.streaks row.instanceId row.clusterId + 1) % max config.threshold.toNat 1 := by
  rw [counters_step taken, count_row follows.small sound.alone member unhealthy, counter_row follows sound member,
    succ_mod _ _ (by omega)]
  generalize state.streaks row.instanceId row.clusterId % max config.threshold.toNat 1 = before
  by_cases full : max config.threshold.toNat 1 ≤ before + 1
  · have cleared : ¬ before + 1 < config.threshold.toNat := by omega
    simp [Option.filter, full, cleared]
  · have kept : before + 1 < config.threshold.toNat := by omega
    simp [Option.filter, full, kept]

theorem follows_step {after : Server.AutoTrigger} (follows : Follows config state) (sound : Sound config state db)
    (taken : step config state db = some after) : Follows config after where
  small := neverWraps_step taken
  follows := fun instanceId clusterId positive => by
    obtain ⟨row, member, rfl, rfl, unhealthy, undue⟩ := streaks_pos taken positive
    rw [streaks_undue sound taken member unhealthy undue, counter_step follows sound taken member unhealthy]
  counted := fun instanceId positive => by
    have unhealthyId : db.currentlyUnhealthy instanceId = true := by
      by_contra healthy
      rw [counters_step taken, lookup_countTick, if_neg healthy] at positive
      cases positive
    obtain ⟨row, member, rfl, unhealthy⟩ := currentlyUnhealthy_iff.mp unhealthyId
    refine ⟨row.clusterId, Nat.pos_of_ne_zero fun none_ => ?_⟩
    by_cases due : row ∈ db.due config state.streaks
    · have completes := sound.waits row due
      rw [streak_row sound.alone member, if_pos ⟨rfl, unhealthy⟩] at completes
      rw [counter_step follows sound taken member unhealthy, Nat.mod_eq_zero_of_dvd completes] at positive
      cases positive
    · rw [streaks_undue sound taken member unhealthy due] at none_
      cases none_

theorem right_step {after : Server.AutoTrigger} (follows : Follows config state) (sound : Sound config state db)
    (taken : step config state db = some after) : after.Right := by
  cases taken
  intro attempt
  exact (mem_attempts follows sound attempt).trans List.mem_map.symm

def failedProbe (clusterId : ClusterId) : HeartbeatRow :=
  ⟨"macmini", clusterId, 100, some (.array [.object [("healthy", .bool false)]]), none, some "relay", none, none, none, none⟩

def tickOf (heartbeats : List HeartbeatRow) : TickDb :=
  ⟨100, heartbeats, [], fun _ => none, fun _ => false, fun _ => false⟩

end MacMgmt.Proof.AutoTrigger
