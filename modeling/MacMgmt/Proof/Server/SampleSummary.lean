import MacMgmt.Server.StageHealth

/-!
# What a sample summary says

The summary is of the byte counts and utilizations that the samples have. It is right as long as no disk reports more free
bytes than it has, the sums stay in 64 bits and no count is so large that a saturated product shows in a percentage.
-/

namespace MacMgmt.Proof.Server.SampleSummary
open Lib MacMgmt.Server

/-! ## What the samples have -/

def memories (sample : Json) : List (Nat × Nat) :=
  if 0 < sample.u64Field "mem_total_bytes" then [(sample.u64Field "mem_used_bytes", sample.u64Field "mem_total_bytes")] else []

def disks (sample : Json) : List (Nat × Nat) :=
  ((sample.arrayField "disk_free").map fun disk => (disk.u64Field "total_bytes", disk.u64Field "free_bytes")).filter
    fun disk => 0 < disk.1

def utilization (gpu : Json) : List Nat := ((gpu.field "utilization_pct").bind Json.asU64).toList

def utilizations (sample : Json) : List Nat := (sample.arrayField "gpus").flatMap utilization

def alerts (sample : Json) : Nat :=
  match (sample.field "thermal_state").bind Json.asStr with
  | none => 0
  | some state => if state = "nominal" then 0 else 1

/-! ## One sample -/

def diskPct (disk : Nat × Nat) : Nat := min (saturatingMul (2 ^ 64) (disk.1 - disk.2) 100 / disk.1) 100

def raise (highest : Option Nat) (disk : Nat × Nat) : Option Nat :=
  some (highest.elim (diskPct disk) fun highest => max highest (diskPct disk))

def tally (totals : Totals) (sample : Json) : Totals where
  memAcc := totals.memAcc + ((memories sample).map fun memory => memUsedPct memory.1 memory.2).sum
  memCount := totals.memCount + (memories sample).length
  maxDiskUsedPct := (disks sample).foldl raise totals.maxDiskUsedPct
  gpuUtilAcc := totals.gpuUtilAcc + (utilizations sample).sum
  gpuUtilCount := totals.gpuUtilCount + (utilizations sample).length
  thermalAlerts := totals.thermalAlerts + alerts sample

structure InRange (totals : Totals) : Prop where
  memAcc : totals.memAcc < 2 ^ 64
  memCount : totals.memCount < 2 ^ 32
  gpuUtilAcc : totals.gpuUtilAcc < 2 ^ 64
  gpuUtilCount : totals.gpuUtilCount < 2 ^ 32
  thermalAlerts : totals.thermalAlerts < 2 ^ 32

def DisksFit (sample : Json) : Prop := ∀ disk ∈ disks sample, disk.2 ≤ disk.1

theorem addMemory_eq_some_iff {totals after : Totals} {sample : Json} (range : InRange totals) :
    addMemory totals sample = some after ↔
      totals.memAcc + ((memories sample).map fun memory => memUsedPct memory.1 memory.2).sum < 2 ^ 64 ∧
        totals.memCount + (memories sample).length < 2 ^ 32 ∧
        after = { totals with
          memAcc := totals.memAcc + ((memories sample).map fun memory => memUsedPct memory.1 memory.2).sum
          memCount := totals.memCount + (memories sample).length } := by
  unfold addMemory memories
  dsimp only
  split
  · simp only [bind, checkedAdd_bind_eq_some_iff, Option.some.injEq, List.map_cons, List.map_nil, List.sum_singleton,
      List.length_singleton, @eq_comm _ after]
  · simp only [Option.some.injEq, List.map_nil, List.sum_nil, List.length_nil, Nat.add_zero, range.memAcc, range.memCount,
      true_and, @eq_comm _ after]

theorem addDisk_eq_some_iff {highest after : Option Nat} {disk : Json} :
    addDisk highest disk = some after ↔
      (0 < disk.u64Field "total_bytes" → disk.u64Field "free_bytes" ≤ disk.u64Field "total_bytes") ∧
        after = if 0 < disk.u64Field "total_bytes" then
          raise highest (disk.u64Field "total_bytes", disk.u64Field "free_bytes") else highest := by
  unfold addDisk diskUsedPct raise diskPct
  dsimp only
  split
  · rename_i filled
    simp only [Option.map_map, checkedSub_map_eq_some_iff, filled, true_implies, Function.comp_apply, @eq_comm _ after]
  · rename_i empty
    simp only [empty, false_implies, true_and, Option.some.injEq, @eq_comm _ after]

theorem addGpu_eq_some_iff {totals after : Totals} {gpu : Json} (range : InRange totals) :
    addGpu totals gpu = some after ↔
      totals.gpuUtilAcc + (utilization gpu).sum < 2 ^ 64 ∧ totals.gpuUtilCount + (utilization gpu).length < 2 ^ 32 ∧
        after = { totals with
          gpuUtilAcc := totals.gpuUtilAcc + (utilization gpu).sum
          gpuUtilCount := totals.gpuUtilCount + (utilization gpu).length } := by
  unfold addGpu utilization
  cases (gpu.field "utilization_pct").bind Json.asU64 with
  | none =>
      simp only [Option.some.injEq, Option.toList_none, List.sum_nil, List.length_nil, Nat.add_zero, range.gpuUtilAcc,
        range.gpuUtilCount, true_and, @eq_comm _ after]
  | some utilization =>
      simp only [bind, checkedAdd_bind_eq_some_iff, Option.some.injEq, Option.toList_some, List.sum_singleton,
        List.length_singleton, @eq_comm _ after]

theorem addThermal_eq_some_iff {totals after : Totals} {sample : Json} (range : InRange totals) :
    addThermal totals sample = some after ↔ totals.thermalAlerts + alerts sample < 2 ^ 32 ∧
      after = { totals with thermalAlerts := totals.thermalAlerts + alerts sample } := by
  unfold addThermal alerts
  cases (sample.field "thermal_state").bind Json.asStr with
  | none => simp only [Option.some.injEq, Nat.add_zero, range.thermalAlerts, true_and, @eq_comm _ after]
  | some state =>
      dsimp only
      split
      · simp only [Option.some.injEq, Nat.add_zero, range.thermalAlerts, true_and, @eq_comm _ after]
      · simp only [checkedAdd_map_eq_some_iff, @eq_comm _ after]

theorem addDisks_eq_some_iff {highest after : Option Nat} {sample : Json} :
    (sample.arrayField "disk_free").foldlM addDisk highest = some after ↔
      DisksFit sample ∧ after = (disks sample).foldl raise highest := by
  have loop : (sample.arrayField "disk_free").foldlM addDisk highest = some after ↔
      (∀ disk ∈ sample.arrayField "disk_free",
        0 < disk.u64Field "total_bytes" → disk.u64Field "free_bytes" ≤ disk.u64Field "total_bytes") ∧ True ∧
      after = (sample.arrayField "disk_free").foldl (fun highest disk => if 0 < disk.u64Field "total_bytes" then
        raise highest (disk.u64Field "total_bytes", disk.u64Field "free_bytes") else highest) highest := by
    refine foldlM_eq_some_iff trivial (fun _ _ _ => trivial) fun old disk new _ => ?_
    rw [addDisk_eq_some_iff, true_and]
  rw [loop]
  simp [DisksFit, disks, List.foldl_filter, List.foldl_map]

def addUtilization (totals : Totals) (gpu : Json) : Totals :=
  { totals with
    gpuUtilAcc := totals.gpuUtilAcc + (utilization gpu).sum
    gpuUtilCount := totals.gpuUtilCount + (utilization gpu).length }

theorem foldl_addUtilization {totals : Totals} {gpus : List Json} :
    gpus.foldl addUtilization totals =
      { totals with
        gpuUtilAcc := totals.gpuUtilAcc + (gpus.flatMap utilization).sum
        gpuUtilCount := totals.gpuUtilCount + (gpus.flatMap utilization).length } := by
  induction gpus generalizing totals with
  | nil => simp
  | cons gpu gpus ih =>
      rw [List.foldl_cons, ih]
      simp [addUtilization, Nat.add_assoc]

theorem addGpus_eq_some_iff {totals after : Totals} {gpus : List Json} (range : InRange totals) :
    gpus.foldlM addGpu totals = some after ↔ InRange (gpus.foldl addUtilization totals) ∧
      after = gpus.foldl addUtilization totals := by
  have loop : gpus.foldlM addGpu totals = some after ↔ (∀ gpu ∈ gpus, True) ∧ InRange (gpus.foldl addUtilization totals) ∧
      after = gpus.foldl addUtilization totals := by
    refine foldlM_eq_some_iff range (fun old gpu fits => ?_) fun old gpu new fits => ?_
    · exact ⟨fits.memAcc, fits.memCount, (Nat.le_add_right _ _).trans_lt fits.gpuUtilAcc,
        (Nat.le_add_right _ _).trans_lt fits.gpuUtilCount, fits.thermalAlerts⟩
    · rw [addGpu_eq_some_iff fits]
      constructor
      · rintro ⟨acc, count, same⟩
        exact ⟨trivial, ⟨fits.memAcc, fits.memCount, acc, count, fits.thermalAlerts⟩, same⟩
      · rintro ⟨-, within, same⟩
        exact ⟨within.gpuUtilAcc, within.gpuUtilCount, same⟩
  rw [loop]
  exact and_iff_right fun _ _ => trivial

def remembered (totals : Totals) (sample : Json) : Totals :=
  { totals with
    memAcc := totals.memAcc + ((memories sample).map fun memory => memUsedPct memory.1 memory.2).sum
    memCount := totals.memCount + (memories sample).length
    maxDiskUsedPct := (disks sample).foldl raise totals.maxDiskUsedPct }

theorem addSample_eq_some_iff {totals after : Totals} {sample : Json} (range : InRange totals) :
    addSample totals sample = some after ↔
      DisksFit sample ∧ InRange (tally totals sample) ∧ after = tally totals sample := by
  unfold addSample
  simp only [bind, Option.bind_eq_some_iff]
  constructor
  · rintro ⟨remembered, memory, highest, diskStep, utilized, gpuStep, thermal⟩
    obtain ⟨acc, count, rfl⟩ := (addMemory_eq_some_iff range).mp memory
    obtain ⟨fits, rfl⟩ := addDisks_eq_some_iff.mp diskStep
    have filled : InRange (remembered totals sample) :=
      ⟨acc, count, range.gpuUtilAcc, range.gpuUtilCount, range.thermalAlerts⟩
    obtain ⟨within, rfl⟩ := (addGpus_eq_some_iff filled).mp gpuStep
    obtain ⟨alerting, rfl⟩ := (addThermal_eq_some_iff within).mp thermal
    rw [foldl_addUtilization] at within alerting ⊢
    exact ⟨fits, ⟨acc, count, within.gpuUtilAcc, within.gpuUtilCount, alerting⟩, rfl⟩
  · rintro ⟨fits, within, rfl⟩
    have filled : InRange (remembered totals sample) :=
      ⟨within.memAcc, within.memCount, range.gpuUtilAcc, range.gpuUtilCount, range.thermalAlerts⟩
    have utilized : InRange ((sample.arrayField "gpus").foldl addUtilization (remembered totals sample)) := by
      rw [foldl_addUtilization]
      exact ⟨within.memAcc, within.memCount, within.gpuUtilAcc, within.gpuUtilCount, range.thermalAlerts⟩
    refine ⟨_, (addMemory_eq_some_iff range).mpr ⟨within.memAcc, within.memCount, rfl⟩, _,
      addDisks_eq_some_iff.mpr ⟨fits, rfl⟩, _, (addGpus_eq_some_iff filled).mpr ⟨utilized, rfl⟩,
      (addThermal_eq_some_iff utilized).mpr ?_⟩
    rw [foldl_addUtilization]
    exact ⟨within.thermalAlerts, rfl⟩

/-! ## All samples -/

theorem addSamples_eq_some_iff {after : Totals} {samples : List Json} :
    samples.foldlM addSample .zero = some after ↔
      (∀ sample ∈ samples, DisksFit sample) ∧ InRange (samples.foldl tally .zero) ∧ after = samples.foldl tally .zero := by
  apply foldlM_eq_some_iff
  · exact ⟨by decide, by decide, by decide, by decide, by decide⟩
  · intro old sample fits
    exact ⟨(Nat.le_add_right _ _).trans_lt fits.memAcc, (Nat.le_add_right _ _).trans_lt fits.memCount,
      (Nat.le_add_right _ _).trans_lt fits.gpuUtilAcc, (Nat.le_add_right _ _).trans_lt fits.gpuUtilCount,
      (Nat.le_add_right _ _).trans_lt fits.thermalAlerts⟩
  · exact fun old sample new fits => addSample_eq_some_iff fits

section Fields
variable {totals : Totals} {samples : List Json}

theorem sum_map_flatMap {A B : Type*} (list : List A) (parts : A → List B) (amount : B → Nat) :
    ((list.flatMap parts).map amount).sum = (list.map fun item => ((parts item).map amount).sum).sum := by
  induction list with
  | nil => rfl
  | cons item list ih => simp [ih]

theorem memAcc_foldl : (samples.foldl tally totals).memAcc =
    totals.memAcc + ((samples.flatMap memories).map fun memory => memUsedPct memory.1 memory.2).sum := by
  rw [sum_map_flatMap]
  exact foldl_sum Totals.memAcc _ fun _ _ => rfl

theorem memCount_foldl : (samples.foldl tally totals).memCount = totals.memCount + (samples.flatMap memories).length := by
  rw [List.length_flatMap]
  exact foldl_sum Totals.memCount _ fun _ _ => rfl

theorem gpuUtilAcc_foldl : (samples.foldl tally totals).gpuUtilAcc =
    totals.gpuUtilAcc + (samples.flatMap utilizations).sum := by
  have sum := sum_map_flatMap samples utilizations id
  simp only [List.map_id] at sum
  rw [sum]
  exact foldl_sum Totals.gpuUtilAcc _ fun _ _ => rfl

theorem gpuUtilCount_foldl : (samples.foldl tally totals).gpuUtilCount =
    totals.gpuUtilCount + (samples.flatMap utilizations).length := by
  rw [List.length_flatMap]
  exact foldl_sum Totals.gpuUtilCount _ fun _ _ => rfl

theorem thermalAlerts_foldl : (samples.foldl tally totals).thermalAlerts = totals.thermalAlerts + (samples.map alerts).sum :=
  foldl_sum Totals.thermalAlerts _ fun _ _ => rfl

theorem maxDisk_foldl : (samples.foldl tally totals).maxDiskUsedPct =
    (samples.flatMap disks).foldl raise totals.maxDiskUsedPct := by
  induction samples generalizing totals with
  | nil => rfl
  | cons sample samples ih =>
      rw [List.foldl_cons, ih, List.flatMap_cons, List.foldl_append]
      rfl

theorem foldl_raise_some {highest : Nat} {list : List (Nat × Nat)} :
    list.foldl raise (some highest) = some ((list.map diskPct).foldl max highest) := by
  induction list generalizing highest with
  | nil => rfl
  | cons disk list ih => exact ih

theorem foldl_raise {list : List (Nat × Nat)} : list.foldl raise none = (list.map diskPct).max? := by
  cases list with
  | nil => rfl
  | cons disk list => exact foldl_raise_some

theorem length_memories_le : (samples.flatMap memories).length ≤ samples.length := by
  induction samples with
  | nil => exact le_rfl
  | cons sample samples ih =>
      have one : (memories sample).length ≤ 1 := by
        unfold memories
        split <;> simp
      rw [List.flatMap_cons, List.length_append, List.length_cons]
      omega

theorem sum_alerts_le : (samples.map alerts).sum ≤ samples.length := by
  induction samples with
  | nil => exact le_rfl
  | cons sample samples ih =>
      have one : alerts sample ≤ 1 := by
        unfold alerts
        split
        · exact Nat.zero_le 1
        · split <;> decide
      rw [List.map_cons, List.sum_cons, List.length_cons]
      omega

end Fields

/-! ## What the summary should say -/

def average (values : List Nat) : Nat := values.sum / values.length

def exactPct (used total : Nat) : Nat := 100 * used / total

/-- Every percentage is one, each disk contributes its used share, and the memory is the average of the shares. -/
structure Sound (samples : List Json) (summary : SampleSummary) : Prop where
  memoryRange : summary.avgMemUsedPct ≤ 100
  diskRange : ∀ pct ∈ summary.maxDiskUsedPct, pct ≤ 100
  gpuRange : ∀ pct ∈ summary.gpuAvgUtilPct, pct ≤ 100
  disk : ∀ disk ∈ samples.flatMap disks, diskUsedPct disk.1 disk.2 = some (exactPct (disk.1 - min disk.2 disk.1) disk.1)
  highest : summary.maxDiskUsedPct =
    ((samples.flatMap disks).map fun disk => exactPct (disk.1 - min disk.2 disk.1) disk.1).max?
  memory : summary.avgMemUsedPct = min (average ((samples.flatMap memories).map fun memory => exactPct memory.1 memory.2)) 100

def shortfall (memory : Nat × Nat) : Nat := exactPct memory.1 memory.2 - memUsedPct memory.1 memory.2

structure Fits (samples : List Json) : Prop where
  count : samples.length < 2 ^ 32
  gpus : (samples.flatMap utilizations).length < 2 ^ 32
  utilization : (samples.flatMap utilizations).sum < 2 ^ 64
  memory : ((samples.flatMap memories).map fun memory => memUsedPct memory.1 memory.2).sum < 2 ^ 64
  free : ∀ disk ∈ samples.flatMap disks, disk.2 ≤ disk.1
  bytes : ∀ disk ∈ samples.flatMap disks,
    100 * (disk.1 - disk.2) < 2 ^ 64 ∨ (2 ^ 64 - 1) / disk.1 = 100 * (disk.1 - disk.2) / disk.1
  saturation : ((samples.flatMap memories).map shortfall).sum ≤
      ((samples.flatMap memories).map fun memory => exactPct memory.1 memory.2).sum % (samples.flatMap memories).length ∨
    100 * (samples.flatMap memories).length + ((samples.flatMap memories).map shortfall).sum ≤
      ((samples.flatMap memories).map fun memory => exactPct memory.1 memory.2).sum

theorem diskUsedPct_eq_iff {disk : Nat × Nat} :
    diskUsedPct disk.1 disk.2 = some (exactPct (disk.1 - min disk.2 disk.1) disk.1) ↔ disk.2 ≤ disk.1 ∧
      (100 * (disk.1 - disk.2) < 2 ^ 64 ∨ (2 ^ 64 - 1) / disk.1 = 100 * (disk.1 - disk.2) / disk.1) := by
  unfold diskUsedPct exactPct saturatingMul
  rw [checkedSub_map_eq_some_iff]
  refine and_congr_right fun within => ?_
  have clamped : min disk.2 disk.1 = disk.2 := min_eq_left within
  have share : 100 * (disk.1 - disk.2) / disk.1 ≤ 100 :=
    Nat.div_le_of_le_mul ((Nat.mul_le_mul_left 100 (Nat.sub_le _ _)).trans_eq (Nat.mul_comm _ _))
  rw [clamped, Nat.mul_comm (disk.1 - disk.2) 100]
  by_cases fits : 100 * (disk.1 - disk.2) < 2 ^ 64
  · have exact_product : min (100 * (disk.1 - disk.2)) (2 ^ 64 - 1) = 100 * (disk.1 - disk.2) := min_eq_left (by omega)
    rw [exact_product, min_eq_left share]
    exact iff_of_true rfl (Or.inl fits)
  · have saturated : min (100 * (disk.1 - disk.2)) (2 ^ 64 - 1) = 2 ^ 64 - 1 := min_eq_right (by omega)
    have below : (2 ^ 64 - 1) / disk.1 ≤ 100 := (Nat.div_le_div_right (by omega)).trans share
    rw [saturated, min_eq_left below]
    exact (or_iff_right fits).symm

theorem memUsedPct_le (memory : Nat × Nat) : memUsedPct memory.1 memory.2 ≤ exactPct memory.1 memory.2 := by
  unfold memUsedPct saturatingMul exactPct
  exact Nat.div_le_div_right ((min_le_left _ _).trans_eq (Nat.mul_comm _ _))

theorem sum_shortfall (list : List (Nat × Nat)) :
    (list.map fun memory => memUsedPct memory.1 memory.2).sum + (list.map shortfall).sum =
      (list.map fun memory => exactPct memory.1 memory.2).sum := by
  rw [← List.sum_map_add]
  congr 2
  funext memory
  exact Nat.add_sub_cancel' (memUsedPct_le memory)

theorem min_average_eq_iff {sum lack whole count : Nat} (split : sum + lack = whole) (some : 0 < count) :
    min (sum / count) 100 = min (whole / count) 100 ↔ lack ≤ whole % count ∨ 100 * count + lack ≤ whole := by
  have below : sum / count ≤ whole / count := Nat.div_le_div_right (by omega)
  have wholeParts := Nat.div_add_mod whole count
  have sumParts := Nat.div_add_mod sum count
  constructor
  · intro same
    by_cases equal : sum / count = whole / count
    · rw [equal] at sumParts
      exact Or.inl (by omega)
    · have high : 100 ≤ sum / count := by omega
      have atLeast := (Nat.le_div_iff_mul_le some).mp high
      exact Or.inr (by omega)
  · rintro (small | high)
    · have atLeast : whole / count ≤ sum / count := by
        rw [Nat.le_div_iff_mul_le some, Nat.mul_comm]
        omega
      rw [le_antisymm below atLeast]
    · have atLeast : 100 ≤ sum / count := (Nat.le_div_iff_mul_le some).mpr (by omega)
      rw [min_eq_right atLeast, min_eq_right (atLeast.trans below)]

/-! ## The result -/

section Result
variable {samples : List Json}

theorem memAcc_zero : (samples.foldl tally .zero).memAcc =
    ((samples.flatMap memories).map fun memory => memUsedPct memory.1 memory.2).sum :=
  memAcc_foldl.trans (Nat.zero_add _)

theorem gpuUtilAcc_zero : (samples.foldl tally .zero).gpuUtilAcc = (samples.flatMap utilizations).sum :=
  gpuUtilAcc_foldl.trans (Nat.zero_add _)

theorem gpuUtilCount_zero : (samples.foldl tally .zero).gpuUtilCount = (samples.flatMap utilizations).length :=
  gpuUtilCount_foldl.trans (Nat.zero_add _)

theorem memCount_zero : (samples.foldl tally .zero).memCount = (samples.flatMap memories).length :=
  memCount_foldl.trans (Nat.zero_add _)

theorem inRange_foldl_iff (few : samples.length < 2 ^ 32) : InRange (samples.foldl tally .zero) ↔
    ((samples.flatMap memories).map fun memory => memUsedPct memory.1 memory.2).sum < 2 ^ 64 ∧
      (samples.flatMap utilizations).sum < 2 ^ 64 ∧ (samples.flatMap utilizations).length < 2 ^ 32 := by
  have memCount : (samples.foldl tally .zero).memCount < 2 ^ 32 := by
    rw [memCount_zero]
    exact length_memories_le.trans_lt few
  have thermalAlerts : (samples.foldl tally .zero).thermalAlerts < 2 ^ 32 := by
    rw [thermalAlerts_foldl]
    exact (Nat.zero_add _).trans_lt (sum_alerts_le.trans_lt few)
  rw [← memAcc_zero, ← gpuUtilAcc_zero, ← gpuUtilCount_zero]
  exact ⟨fun range => ⟨range.memAcc, range.gpuUtilAcc, range.gpuUtilCount⟩,
    fun ⟨memory, utilization, gpus⟩ => ⟨memory, memCount, utilization, gpus, thermalAlerts⟩⟩

def summarize (count : Nat) (totals : Totals) : SampleSummary where
  reportingInstances := count
  avgMemUsedPct := if totals.memCount = 0 then 0 else min (totals.memAcc / totals.memCount) 100
  maxDiskUsedPct := totals.maxDiskUsedPct
  gpuAvgUtilPct := if totals.gpuUtilCount = 0 then none else some (min (totals.gpuUtilAcc / totals.gpuUtilCount) 100)
  thermalAlerts := totals.thermalAlerts

theorem collectSampleSummary_eq_some_iff (filled : samples ≠ []) {result : Option SampleSummary} :
    collectSampleSummary samples = some result ↔
      ((∀ sample ∈ samples, DisksFit sample) ∧ InRange (samples.foldl tally .zero) ∧ samples.length < 2 ^ 32) ∧
        result = some (summarize samples.length (samples.foldl tally .zero)) := by
  unfold collectSampleSummary
  rw [if_neg filled]
  simp only [bind]
  rw [Option.bind_eq_some_iff]
  constructor
  · rintro ⟨totals, run, counted⟩
    obtain ⟨fits, range, rfl⟩ := addSamples_eq_some_iff.mp run
    obtain ⟨few, same⟩ := checkedAdd_bind_eq_some_iff.mp counted
    rw [Nat.zero_add] at few same
    cases same
    exact ⟨⟨fits, range, few⟩, rfl⟩
  · rintro ⟨⟨fits, range, few⟩, rfl⟩
    refine ⟨_, addSamples_eq_some_iff.mpr ⟨fits, range, rfl⟩, checkedAdd_bind_eq_some_iff.mpr ?_⟩
    rw [Nat.zero_add]
    exact ⟨few, rfl⟩

theorem avgMemUsedPct_eq : (summarize samples.length (samples.foldl tally .zero)).avgMemUsedPct =
    min (average ((samples.flatMap memories).map fun memory => memUsedPct memory.1 memory.2)) 100 := by
  unfold summarize average
  dsimp only
  rw [memAcc_zero, memCount_zero, List.length_map]
  split
  · rename_i empty
    rw [empty, Nat.div_zero]
    rfl
  · rfl

theorem disksFit_iff : (∀ sample ∈ samples, DisksFit sample) ↔ ∀ disk ∈ samples.flatMap disks, disk.2 ≤ disk.1 := by
  simp only [DisksFit, List.mem_flatMap]
  exact ⟨fun fits disk ⟨sample, member, listed⟩ => fits sample member disk listed,
    fun fits sample member disk listed => fits disk ⟨sample, member, listed⟩⟩

theorem diskUsedPct_fits {disk : Nat × Nat} (within : disk.2 ≤ disk.1) :
    diskUsedPct disk.1 disk.2 = some (diskPct disk) :=
  checkedSub_map_eq_some_iff.mpr ⟨within, rfl⟩

theorem memory_exact_iff : (summarize samples.length (samples.foldl tally .zero)).avgMemUsedPct =
      min (average ((samples.flatMap memories).map fun memory => exactPct memory.1 memory.2)) 100 ↔
    ((samples.flatMap memories).map shortfall).sum ≤
        ((samples.flatMap memories).map fun memory => exactPct memory.1 memory.2).sum % (samples.flatMap memories).length ∨
      100 * (samples.flatMap memories).length + ((samples.flatMap memories).map shortfall).sum ≤
        ((samples.flatMap memories).map fun memory => exactPct memory.1 memory.2).sum := by
  rw [avgMemUsedPct_eq, average, average, List.length_map, List.length_map]
  obtain empty | some := Nat.eq_zero_or_pos (samples.flatMap memories).length
  · have none : samples.flatMap memories = [] := List.length_eq_zero_iff.mp empty
    simp [none]
  · exact min_average_eq_iff (sum_shortfall _) some

theorem sound_iff (fits : ∀ sample ∈ samples, DisksFit sample) :
    Sound samples (summarize samples.length (samples.foldl tally .zero)) ↔
      (∀ disk ∈ samples.flatMap disks,
        100 * (disk.1 - disk.2) < 2 ^ 64 ∨ (2 ^ 64 - 1) / disk.1 = 100 * (disk.1 - disk.2) / disk.1) ∧
      (((samples.flatMap memories).map shortfall).sum ≤
          ((samples.flatMap memories).map fun memory => exactPct memory.1 memory.2).sum % (samples.flatMap memories).length ∨
        100 * (samples.flatMap memories).length + ((samples.flatMap memories).map shortfall).sum ≤
          ((samples.flatMap memories).map fun memory => exactPct memory.1 memory.2).sum) := by
  have highest : (summarize samples.length (samples.foldl tally .zero)).maxDiskUsedPct =
      ((samples.flatMap disks).map diskPct).max? := maxDisk_foldl.trans foldl_raise
  rw [← memory_exact_iff]
  constructor
  · intro sound
    exact ⟨fun disk listed => (diskUsedPct_eq_iff.mp (sound.disk disk listed)).2, sound.memory⟩
  · rintro ⟨bytes, memory⟩
    have shares (disk : Nat × Nat) (listed : disk ∈ samples.flatMap disks) :
        diskUsedPct disk.1 disk.2 = some (exactPct (disk.1 - min disk.2 disk.1) disk.1) :=
      diskUsedPct_eq_iff.mpr ⟨disksFit_iff.mp fits disk listed, bytes disk listed⟩
    refine ⟨?_, ?_, ?_, shares, ?_, memory⟩
    · rw [memory]
      exact min_le_right _ _
    · intro pct member
      rw [highest] at member
      obtain ⟨disk, -, rfl⟩ := List.mem_map.mp (List.max?_mem member)
      exact min_le_right _ _
    · intro pct member
      unfold summarize at member
      dsimp only at member
      split at member
      · cases member
      · cases member
        exact min_le_right _ _
    · rw [highest]
      congr 1
      refine List.map_congr_left fun disk listed => ?_
      have share := shares disk listed
      rw [diskUsedPct_fits (disksFit_iff.mp fits disk listed)] at share
      exact Option.some.inj share

end Result

theorem summary_sound_iff (samples : List Json) :
    (∃ result, collectSampleSummary samples = some result ∧ ∀ summary ∈ result, Sound samples summary) ↔ Fits samples := by
  by_cases empty : samples = []
  · subst empty
    exact iff_of_true ⟨none, rfl, nofun⟩ ⟨by decide, by decide, by decide, by decide, nofun, nofun, Or.inl le_rfl⟩
  constructor
  · rintro ⟨result, collected, sound⟩
    obtain ⟨⟨fits, range, few⟩, rfl⟩ := (collectSampleSummary_eq_some_iff empty).mp collected
    obtain ⟨memory, utilization, gpus⟩ := (inRange_foldl_iff few).mp range
    obtain ⟨bytes, saturation⟩ := (sound_iff fits).mp (sound _ rfl)
    exact ⟨few, gpus, utilization, memory, disksFit_iff.mp fits, bytes, saturation⟩
  · intro fits
    have within := disksFit_iff.mpr fits.free
    have range := (inRange_foldl_iff fits.count).mpr ⟨fits.memory, fits.utilization, fits.gpus⟩
    refine ⟨_, (collectSampleSummary_eq_some_iff empty).mpr ⟨⟨within, range, fits.count⟩, rfl⟩, ?_⟩
    rintro summary ⟨⟩
    exact (sound_iff within).mpr ⟨fits.bytes, fits.saturation⟩

def diskSample (total free : String) : Json :=
  .object [("disk_free", .array [.object [("free_bytes", .number free), ("total_bytes", .number total)]])]

/-- The subtraction has no value for a disk with more free bytes than bytes, and a full disk of 2^64 - 1 bytes counts as 1 %. -/
theorem disk_share_wrong :
    (¬ ∃ result, collectSampleSummary [diskSample "1" "2"] = some result ∧
      ∀ summary ∈ result, Sound [diskSample "1" "2"] summary) ∧
    ¬ ∃ result, collectSampleSummary [diskSample "18446744073709551615" "0"] = some result ∧
      ∀ summary ∈ result, Sound [diskSample "18446744073709551615" "0"] summary := by
  constructor
  · rintro ⟨result, collected, -⟩
    have none : collectSampleSummary [diskSample "1" "2"] = none := by decide +kernel
    rw [none] at collected
    cases collected
  · rintro ⟨result, collected, sound⟩
    have one : collectSampleSummary [diskSample "18446744073709551615" "0"] = some (some ⟨1, 0, some 1, none, 0⟩) := by
      decide +kernel
    rw [one] at collected
    cases collected
    have share := (sound _ rfl).disk (18446744073709551615, 0) (by decide +kernel)
    revert share
    decide +kernel

end MacMgmt.Proof.Server.SampleSummary
