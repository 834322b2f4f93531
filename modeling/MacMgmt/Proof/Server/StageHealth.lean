import MacMgmt.Server.StageHealth

/-!
# What a gate counts

A stage is judged by the rows that are considered, but they are counted by their instance ids alone. A row of another cluster
with the same id, of a chaos node or of another version then counts as well.
-/

namespace MacMgmt.Proof.Server.StageHealth
open Lib MacMgmt.Server

section
variable (health : HealthDb) (group : Uuid) (rollout : Rollout) (gate : HealthGate) (startedAt : Option DateTime)

/-! ## The shares of the considered rows -/

def considered : List (Σ _ : Uuid × String, InstanceHeartbeat) :=
  health.daemonHeartbeats.entries.filter (health.considers group rollout)

def isFresh (entry : Σ _ : Uuid × String, InstanceHeartbeat) : Bool :=
  decide (health.db.now - seconds gate.heartbeatFreshnessSecs.toNat < entry.2.reportedAt)

def freshRows : Nat := (considered health group rollout).countP (isFresh health gate)

def hasFailed (service : String) (entry : Σ _ : Uuid × String, InstanceHeartbeat) : Bool :=
  (latest (health.recentProbes fun probe =>
    probe.clusterId = entry.1.1 && probe.instanceId = entry.1.2 && probe.service = service)).any fun probe => !probe.ok

def failedRows (service : String) : Nat := (considered health group rollout).countP (hasFailed health service)

def freshPct : Nat := 100 * freshRows health group rollout gate / (considered health group rollout).length

def okPct (service : String) : Nat :=
  100 * ((considered health group rollout).length - failedRows health group rollout service) /
    (considered health group rollout).length

def Met : Prop :=
  gate.minHeartbeatFreshPct ≤ freshPct health group rollout gate ∧
    ∀ service required, gate.minProbeOkPct.lookup service = some required → required ≤ okPct health group rollout service

structure Judges (evaluation : HealthEvaluation) : Prop where
  fresh : considered health group rollout ≠ [] → evaluation.heartbeatFreshPct = freshPct health group rollout gate
  probes : considered health group rollout ≠ [] → ∀ service ∈ gate.minProbeOkPct,
    evaluation.probeOkPct.lookup service = some (okPct health group rollout service)
  passed : inGracePeriod gate startedAt health.db.now = false →
    (evaluation.passed = true ↔ considered health group rollout = [] ∨ Met health group rollout gate)

/-! ## The rows that only share an instance id -/

/-- Fresh rows that are not considered, with the instance id of one that is. -/
def strangers : Nat :=
  health.daemonHeartbeats.entries.countP fun entry => !health.considers group rollout entry &&
    (entry.1.2 ∈ health.consideredInstanceIds group rollout && isFresh health gate entry)

/-- The instance ids of considered rows whose latest probe in any cluster failed. -/
def failedIds (service : String) : Nat :=
  (health.consideredInstanceIds group rollout).dedup.countP fun instanceId =>
    (latest (health.recentProbes fun probe => probe.instanceId = instanceId && probe.service = service)).any fun probe => !probe.ok

structure Usual : Prop where
  freshness : gate.heartbeatFreshnessSecs.toNat < 2 ^ 31
  rows : (considered health group rollout).length < 2 ^ 32
  counted : freshRows health group rollout gate + strangers health group rollout gate < 2 ^ 32

structure Unmoved : Prop where
  fresh : freshRows health group rollout gate = (considered health group rollout).length ∨
    100 * freshRows health group rollout gate % (considered health group rollout).length +
      100 * strangers health group rollout gate < (considered health group rollout).length
  failed : ∀ service ∈ gate.minProbeOkPct,
    (100 * failedRows health group rollout service + (considered health group rollout).length - 1) /
        (considered health group rollout).length =
      (100 * failedIds health group rollout service + (considered health group rollout).length - 1) /
        (considered health group rollout).length

/-- The rows with the instance id of a considered one, newer than the window as it is cast. -/
def recentIds : Nat :=
  health.daemonHeartbeats.entries.countP fun entry => entry.1.2 ∈ health.consideredInstanceIds group rollout &&
    decide (health.db.now - seconds gate.heartbeatFreshnessSecs.toInt < entry.2.reportedAt)

/-- `count` of `total` is the percentage, rounded down and cut off at 100. All of nothing is 100. -/
def IsShare (count total percentage : Nat) : Prop :=
  if percentage = 100 then total ≤ count else percentage * total ≤ 100 * count ∧ 100 * count < (percentage + 1) * total

structure Truncated : Prop where
  fresh : IsShare (u32 (recentIds health group rollout gate)) (u32 (considered health group rollout).length)
    (freshPct health group rollout gate)
  failed : ∀ service ∈ gate.minProbeOkPct, u32 (considered health group rollout).length ≠ 0 ∧
    IsShare (u32 (considered health group rollout).length - u32 (failedIds health group rollout service))
      (u32 (considered health group rollout).length) (okPct health group rollout service)
  emptied : u32 (considered health group rollout).length = 0 →
    inGracePeriod gate startedAt health.db.now = true ∨ gate.minHeartbeatFreshPct ≤ 100

end

variable {health : HealthDb} {group : Uuid} {rollout : Rollout} {gate : HealthGate} {startedAt : Option DateTime}

theorem length_consideredInstanceIds :
    (health.consideredInstanceIds group rollout).length = (considered health group rollout).length :=
  List.length_map _

theorem pct_eq_iff {count total percentage : Nat} (within : percentage ≤ 100) :
    pct count total = percentage ↔ IsShare count total percentage := by
  unfold pct IsShare
  obtain rfl | filled := Nat.eq_zero_or_pos total
  · rw [if_pos rfl]
    split
    · rename_i full
      exact iff_of_true full.symm (Nat.zero_le _)
    · rename_i partly
      exact iff_of_false (Ne.symm partly) (by omega)
  rw [if_neg filled.ne']
  split
  · rename_i full
    rw [full, min_eq_right_iff, Nat.le_div_iff_mul_le filled]
    omega
  · have bounds : count * 100 / total = percentage ↔ percentage * total ≤ 100 * count ∧ 100 * count < (percentage + 1) * total := by
      rw [Nat.div_eq_iff filled, Nat.succ_mul percentage]
      omega
    rw [← bounds]
    omega

theorem reasonsOf_eq_nil_iff {heartbeatFreshPct : Nat} {probeOkPct : Table String Nat} :
    HealthDb.reasonsOf gate heartbeatFreshPct probeOkPct = [] ↔ gate.minHeartbeatFreshPct ≤ heartbeatFreshPct ∧
      ∀ service required, gate.minProbeOkPct.lookup service = some required → required ≤ (probeOkPct.lookup service).getD 0 := by
  unfold HealthDb.reasonsOf
  rw [List.append_eq_nil_iff, List.filterMap_eq_nil_iff, Table.forall_lookup_iff]
  refine and_congr ?_ (forall₂_congr fun required member => ?_)
  · split
    · rename_i low
      exact iff_of_false (List.cons_ne_nil _ _) (by omega)
    · rename_i high
      exact iff_of_true rfl (by omega)
  · dsimp only
    split
    · rename_i low
      exact iff_of_false (Option.some_ne_none _) (not_le.mpr low)
    · rename_i high
      exact iff_of_true rfl (not_lt.mp high)

theorem lookup_collectProbeOkPct {instanceIds : List String} {cohortSize : Nat} {services : List String} {service : String}
    (some_size : cohortSize ≠ 0) (some_ids : instanceIds ≠ []) (listed : service ∈ services) :
    (health.collectProbeOkPctPerInstance instanceIds cohortSize services).lookup service =
      some (pct (cohortSize - u32 (health.failedCount instanceIds service)) cohortSize) := by
  have capped (failed : Nat) : cohortSize - min failed cohortSize = cohortSize - failed := by omega
  unfold HealthDb.collectProbeOkPctPerInstance
  rw [Table.lookup_fill_keys _ listed, if_neg (not_or_intro some_size some_ids)]
  dsimp only
  rw [capped]

theorem freshPct_le : freshPct health group rollout gate ≤ 100 :=
  Nat.div_le_of_le_mul (Nat.mul_comm 100 _ ▸ Nat.mul_le_mul_left 100 List.countP_le_length)

theorem okPct_le {service : String} : okPct health group rollout service ≤ 100 :=
  Nat.div_le_of_le_mul (Nat.mul_comm 100 _ ▸ Nat.mul_le_mul_left 100 (Nat.sub_le _ _))

/-! ## What is judged wrongly -/

theorem evaluate_emptied (gate : HealthGate) (startedAt : Option DateTime)
    (emptied : u32 (considered health group rollout).length = 0) :
    (health.evaluate group rollout gate startedAt).passed = true ∧
      (health.evaluate group rollout gate startedAt).heartbeatFreshPct = 100 ∧
      (health.evaluate group rollout gate startedAt).probeOkPct = ∅ := by
  rw [← length_consideredInstanceIds] at emptied
  unfold HealthDb.evaluate
  dsimp only
  rw [if_pos emptied]
  exact ⟨rfl, rfl, rfl⟩

theorem evaluate_counted (gate : HealthGate) (startedAt : Option DateTime)
    (counted : u32 (considered health group rollout).length ≠ 0) :
    (health.evaluate group rollout gate startedAt).heartbeatFreshPct =
        pct (u32 (recentIds health group rollout gate)) (u32 (considered health group rollout).length) ∧
      (health.evaluate group rollout gate startedAt).probeOkPct = health.collectProbeOkPctPerInstance
        (health.consideredInstanceIds group rollout) (u32 (considered health group rollout).length) gate.minProbeOkPct.keys ∧
      ((health.evaluate group rollout gate startedAt).passed = true ↔
        HealthDb.reasonsOf gate (health.evaluate group rollout gate startedAt).heartbeatFreshPct
          (health.evaluate group rollout gate startedAt).probeOkPct = [] ∨
        inGracePeriod gate startedAt health.db.now = true) := by
  rw [← length_consideredInstanceIds] at counted ⊢
  unfold HealthDb.evaluate
  dsimp only
  rw [if_neg counted]
  exact ⟨rfl, rfl, by simp⟩

theorem lookup_probeOkPct (counted : u32 (considered health group rollout).length ≠ 0) {service : String}
    (listed : service ∈ gate.minProbeOkPct) :
    (health.evaluate group rollout gate startedAt).probeOkPct.lookup service =
      some (pct (u32 (considered health group rollout).length - u32 (failedIds health group rollout service))
        (u32 (considered health group rollout).length)) := by
  rw [(evaluate_counted gate startedAt counted).2.1]
  refine lookup_collectProbeOkPct counted (fun none => counted ?_) listed
  rw [← length_consideredInstanceIds, none]
  rfl

theorem judges_of_truncated (filled : considered health group rollout ≠ [])
    (truncated : Truncated health group rollout gate startedAt) :
    Judges health group rollout gate startedAt (health.evaluate group rollout gate startedAt) := by
  by_cases emptied : u32 (considered health group rollout).length = 0
  · obtain ⟨passed, freshPct, -⟩ := evaluate_emptied gate startedAt emptied
    have ungated (service : String) : service ∉ gate.minProbeOkPct := fun listed => (truncated.failed service listed).1 emptied
    have full := (pct_eq_iff freshPct_le).mpr truncated.fresh
    rw [emptied] at full
    refine ⟨fun _ => freshPct.trans full, fun _ service listed => absurd listed (ungated service), fun outside => ?_⟩
    have within := (truncated.emptied emptied).resolve_left (Bool.eq_false_iff.mp outside)
    refine iff_of_true passed (Or.inr ⟨within.trans full.le, fun service required found => ?_⟩)
    exact absurd (AList.lookup_isSome.mp (Option.isSome_of_mem found)) (ungated service)
  · obtain ⟨freshPct, -, passed⟩ := evaluate_counted gate startedAt emptied
    have fresh := freshPct.trans ((pct_eq_iff freshPct_le).mpr truncated.fresh)
    have probes (service : String) (listed : service ∈ gate.minProbeOkPct) :
        (health.evaluate group rollout gate startedAt).probeOkPct.lookup service = some (okPct health group rollout service) := by
      rw [lookup_probeOkPct emptied listed, (pct_eq_iff okPct_le).mpr (truncated.failed service listed).2]
    refine ⟨fun _ => fresh, fun _ => probes, fun outside => ?_⟩
    rw [passed, or_iff_left (Bool.eq_false_iff.mp outside), or_iff_right filled, reasonsOf_eq_nil_iff, fresh]
    refine and_congr_right fun _ => forall₃_congr fun service required found => ?_
    rw [probes service (AList.lookup_isSome.mp (Option.isSome_of_mem found))]
    rfl

theorem truncated_of_judges (filled : considered health group rollout ≠ [])
    (judges : Judges health group rollout gate startedAt (health.evaluate group rollout gate startedAt)) :
    Truncated health group rollout gate startedAt := by
  by_cases emptied : u32 (considered health group rollout).length = 0
  · obtain ⟨passed, freshPct, probeOkPct⟩ := evaluate_emptied gate startedAt emptied
    have full := freshPct.symm.trans (judges.fresh filled)
    refine ⟨?_, fun service listed => ?_, fun _ => ?_⟩
    · rw [emptied, ← pct_eq_iff freshPct_le]
      exact full
    · have found := judges.probes filled service listed
      rw [probeOkPct] at found
      cases found
    · by_cases outside : inGracePeriod gate startedAt health.db.now = true
      · exact Or.inl outside
      · have met := ((judges.passed (Bool.eq_false_iff.mpr outside)).mp passed).resolve_left filled
        exact Or.inr (met.1.trans_eq full.symm)
  · obtain ⟨freshPct, -, -⟩ := evaluate_counted gate startedAt emptied
    refine ⟨?_, fun service listed => ⟨emptied, ?_⟩, fun none => absurd none emptied⟩
    · exact (pct_eq_iff freshPct_le).mp (freshPct.symm.trans (judges.fresh filled))
    rw [← pct_eq_iff okPct_le]
    have found := judges.probes filled service listed
    rw [lookup_probeOkPct emptied listed] at found
    exact Option.some.inj found

theorem judges_of_empty (empty : considered health group rollout = []) :
    Judges health group rollout gate startedAt (health.evaluate group rollout gate startedAt) := by
  have emptied : u32 (considered health group rollout).length = 0 := by
    rw [empty]
    rfl
  exact ⟨absurd empty, absurd empty, fun _ => iff_of_true (evaluate_emptied gate startedAt emptied).1 (Or.inl empty)⟩

/-! ## When the further rows do not show -/

theorem recentIds_eq (short : gate.heartbeatFreshnessSecs.toNat < 2 ^ 31) :
    recentIds health group rollout gate = freshRows health group rollout gate + strangers health group rollout gate := by
  unfold recentIds
  rw [BitVec.toInt_eq_toNat_of_lt (by omega), List.countP_eq_countP_filter_add _ _ (health.considers group rollout)]
  congr 1
  · refine List.countP_congr fun entry member => ?_
    have listed : entry.1.2 ∈ health.consideredInstanceIds group rollout := List.mem_map_of_mem member
    simp [listed, isFresh]
  · rw [List.countP_filter]
    refine List.countP_congr fun entry _ => ?_
    rw [Bool.and_comm]
    rfl

theorem failedIds_le {service : String} :
    failedIds health group rollout service ≤ (considered health group rollout).length := by
  rw [← length_consideredInstanceIds]
  exact List.countP_le_length.trans (List.dedup_sublist _).length_le

theorem share_more_iff {count more total : Nat} (within : count ≤ total) (filled : 0 < total) :
    min ((count + more) * 100 / total) 100 = 100 * count / total ↔
      count = total ∨ 100 * count % total + 100 * more < total := by
  have parts := Nat.div_add_mod (100 * count) total
  have below := Nat.mod_lt (100 * count) filled
  constructor
  · intro same
    by_cases full : count = total
    · exact Or.inl full
    · have partly : 100 * count / total < 100 := Nat.div_lt_of_lt_mul (by omega)
      have equal : (count + more) * 100 / total = 100 * count / total := by omega
      have above := Nat.lt_mul_div_succ ((count + more) * 100) filled
      rw [equal, Nat.mul_add, Nat.mul_one] at above
      exact Or.inr (by omega)
  · rintro (rfl | small)
    · rw [Nat.mul_div_cancel _ filled]
      exact min_eq_right ((Nat.le_div_iff_mul_le filled).mpr (by omega))
    · have equal : (count + more) * 100 / total = 100 * count / total := by
        refine Nat.div_eq_of_lt_le ?_ ?_
        · rw [Nat.mul_comm]
          omega
        · rw [Nat.succ_mul (100 * count / total), Nat.mul_comm (100 * count / total)]
          omega
      rw [equal]
      exact min_eq_left (Nat.div_le_of_le_mul (by omega))

theorem share_less {count total : Nat} (within : count ≤ total) (filled : 0 < total) :
    100 * (total - count) / total + (100 * count + total - 1) / total = 100 := by
  have parts := Nat.div_add_mod (100 * (total - count)) total
  have below := Nat.mod_lt (100 * (total - count)) filled
  have share : 100 * (total - count) / total ≤ 100 := Nat.div_le_of_le_mul (by omega)
  have removed : (100 * count + total - 1) / total = 100 - 100 * (total - count) / total := by
    generalize 100 * (total - count) / total = kept at *
    refine Nat.div_eq_of_lt_le ?_ ?_
    · rw [Nat.sub_mul, Nat.mul_comm kept]
      omega
    · rw [Nat.add_mul, Nat.sub_mul, Nat.mul_comm kept]
      omega
  omega

theorem u32_of_lt {count : Nat} (small : count < 2 ^ 32) : u32 count = count := Nat.mod_eq_of_lt small

theorem failedRows_le {service : String} :
    failedRows health group rollout service ≤ (considered health group rollout).length := List.countP_le_length

theorem pct_less {count total : Nat} (within : count ≤ total) (filled : 0 < total) :
    pct (total - count) total = 100 * (total - count) / total := by
  have share : 100 * (total - count) / total ≤ 100 := Nat.div_le_of_le_mul (by omega)
  unfold pct
  rw [if_neg filled.ne', Nat.mul_comm, min_eq_left share]

theorem truncated_iff_unmoved (filled : considered health group rollout ≠ []) (usual : Usual health group rollout gate) :
    Truncated health group rollout gate startedAt ↔ Unmoved health group rollout gate := by
  have rows : 0 < (considered health group rollout).length := List.length_pos_iff.mpr filled
  have fresh : IsShare (u32 (recentIds health group rollout gate)) (u32 (considered health group rollout).length)
        (freshPct health group rollout gate) ↔
      freshRows health group rollout gate = (considered health group rollout).length ∨
        100 * freshRows health group rollout gate % (considered health group rollout).length +
          100 * strangers health group rollout gate < (considered health group rollout).length := by
    rw [← pct_eq_iff freshPct_le, recentIds_eq usual.freshness, u32_of_lt usual.counted, u32_of_lt usual.rows, pct,
      if_neg rows.ne']
    exact share_more_iff List.countP_le_length rows
  have failed (service : String) :
      IsShare (u32 (considered health group rollout).length - u32 (failedIds health group rollout service))
        (u32 (considered health group rollout).length) (okPct health group rollout service) ↔
      (100 * failedRows health group rollout service + (considered health group rollout).length - 1) /
          (considered health group rollout).length =
        (100 * failedIds health group rollout service + (considered health group rollout).length - 1) /
          (considered health group rollout).length := by
    have withinIds : failedIds health group rollout service ≤ (considered health group rollout).length := failedIds_le
    have withinRows : failedRows health group rollout service ≤ (considered health group rollout).length := failedRows_le
    have ofIds := share_less withinIds rows
    have ofRows := share_less withinRows rows
    rw [← pct_eq_iff okPct_le, u32_of_lt usual.rows, u32_of_lt (withinIds.trans_lt usual.rows), pct_less withinIds rows, okPct]
    omega
  constructor
  · intro truncated
    exact ⟨fresh.mp truncated.fresh, fun service listed => (failed service).mp (truncated.failed service listed).2⟩
  · intro unmoved
    refine ⟨fresh.mpr unmoved.fresh, fun service listed => ⟨?_, (failed service).mpr (unmoved.failed service listed)⟩, ?_⟩
    · rw [u32_of_lt usual.rows]
      exact rows.ne'
    · intro emptied
      rw [u32_of_lt usual.rows] at emptied
      exact absurd emptied rows.ne'

/-! ## The gate -/

structure ActiveStage (health : HealthDb) (stageId : Uuid) where
  stage : Stage
  parsed : Option HealthGate
  rollout : Rollout
  found : health.db.stages.lookup stageId = some stage
  gated : health.healthGates stageId = some parsed
  rolling : stage.status = .rolling
  owned : health.db.rollouts.lookup stage.rolloutId = some rollout

def ActiveStage.healthGate {stageId : Uuid} (active : ActiveStage health stageId) : HealthGate := active.parsed.getD .default

theorem evaluateStage_active {stageId : Uuid} (active : ActiveStage health stageId) :
    health.evaluateStage stageId =
      .ok (some (health.evaluate active.stage.groupId active.rollout active.healthGate active.stage.startedAt)) := by
  unfold HealthDb.evaluateStage
  rw [active.found]
  dsimp only
  rw [active.gated]
  dsimp only
  rw [if_neg (not_not_intro active.rolling), active.owned]
  rfl

theorem active_of_evaluateStage {stageId : Uuid} {evaluation : HealthEvaluation}
    (evaluated : health.evaluateStage stageId = .ok (some evaluation)) : Nonempty (ActiveStage health stageId) := by
  unfold HealthDb.evaluateStage at evaluated
  split at evaluated
  · cases evaluated
  rename_i stage found
  split at evaluated
  · cases evaluated
  rename_i parsed gated
  split at evaluated
  · cases evaluated
  rename_i active
  split at evaluated
  · cases evaluated
  rename_i rollout owned
  exact ⟨⟨stage, parsed, rollout, found, gated, not_not.mp active, owned⟩⟩

/-- What is judged of an active stage is right iff the rows that are counted besides the considered ones do not show. -/
theorem evaluateStage_judges_iff (health : HealthDb) (stageId : Uuid) (active : ActiveStage health stageId) :
    ∃ evaluation, health.evaluateStage stageId = .ok (some evaluation) ∧
      (Judges health active.stage.groupId active.rollout active.healthGate active.stage.startedAt evaluation ↔
        considered health active.stage.groupId active.rollout = [] ∨
        Usual health active.stage.groupId active.rollout active.healthGate ∧
          Unmoved health active.stage.groupId active.rollout active.healthGate ∨
        ¬ Usual health active.stage.groupId active.rollout active.healthGate ∧
          Truncated health active.stage.groupId active.rollout active.healthGate active.stage.startedAt) := by
  refine ⟨_, evaluateStage_active active, ?_⟩
  by_cases filled : considered health active.stage.groupId active.rollout = []
  · exact iff_of_true (judges_of_empty filled) (Or.inl filled)
  rw [or_iff_right filled]
  by_cases usual : Usual health active.stage.groupId active.rollout active.healthGate
  · constructor
    · intro judges
      exact Or.inl ⟨usual, (truncated_iff_unmoved filled usual).mp (truncated_of_judges filled judges)⟩
    · rintro (⟨-, unmoved⟩ | ⟨unusual, -⟩)
      · exact judges_of_truncated filled ((truncated_iff_unmoved filled usual).mpr unmoved)
      · exact absurd usual unusual
  · constructor
    · intro judges
      exact Or.inr ⟨usual, truncated_of_judges filled judges⟩
    · rintro (⟨usually, -⟩ | ⟨-, truncated⟩)
      · exact absurd usually usual
      · exact judges_of_truncated filled truncated

/-! ## An instance of another cluster -/

def reported (reportedAt : DateTime) : InstanceHeartbeat :=
  { version := "1.1.0", nixpkgsCommit := none, chaos := false, reportedAt, sample := none }

/-- Only cluster 7 is in the cohort. Its instance was last heard of 2000 seconds ago, the one of cluster 8 just now. -/
def sharedId : HealthDb where
  db :=
    { now := seconds 2000
      rollouts := AList.singleton 1
        { targetVersion := some "1.1.0", nixpkgsCommit := none, status := .rolling, createdAt := 0, updatedAt := 0
          baselineVersion := none, baselineNixpkgsCommit := none }
      stages := AList.singleton 6
        { rolloutId := 1, groupId := 5, stageOrder := 0, status := .rolling, startedAt := some 0, completedAt := none
          rampMinutes := none }
      clusters := ∅, groupMembers := [(5, 7)], deliveries := [], heartbeats := [], daemonVersions := [] }
  healthGates := fun _ => some none
  daemonHeartbeats := (AList.singleton (7, "main") (reported 0)).insert (8, "main") (reported (seconds 2000))
  assessmentProbes := []

theorem considered_sharedId (rollout : Rollout) (found : sharedId.db.rollouts.lookup 1 = some rollout) :
    considered sharedId 5 rollout = [⟨(7, "main"), reported 0⟩] := by
  cases found
  rfl

/-- No considered instance is fresh, and the stage passes with all of them fresh. -/
theorem stale_instance_passes : ∃ rollout evaluation, sharedId.evaluateStage 6 = .ok (some evaluation) ∧
    sharedId.db.rollouts.lookup 1 = some rollout ∧ freshPct sharedId 5 rollout .default = 0 ∧
    evaluation.heartbeatFreshPct = 100 ∧ evaluation.passed = true ∧ evaluation.inGracePeriod = false ∧
    ¬ Judges sharedId 5 rollout .default (some 0) evaluation := by
  refine ⟨_, _, rfl, rfl, by decide, by decide, by decide, by decide, fun judges => ?_⟩
  have filled := considered_sharedId _ rfl
  have full := judges.fresh (by rw [filled]; exact List.cons_ne_nil _ _)
  revert full
  decide

end MacMgmt.Proof.Server.StageHealth
