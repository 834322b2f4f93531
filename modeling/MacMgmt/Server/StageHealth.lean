import MacMgmt.Lib.Checked
import MacMgmt.Lib.JsonValue
import MacMgmt.Server.Json
import MacMgmt.Server.Push
import MacMgmt.Server.RolloutCreation
import MacMgmt.Server.Rollouts
import Mathlib.Data.List.MinMax

/-!
# The health of a stage

`evaluate_stage` of `server/src/rollout_health.rs` with the queries it makes. All of them see the same rows at the same time.
The statistics of the probes, which are only reported, are left out.
-/

namespace MacMgmt.Server
open Lib

/-! ## The summary of the heartbeat samples

`collect_sample_summary` of `server/src/rollout_health.rs` over the samples that its query gives, with the arithmetic checked:
there is no result where an operation would wrap or panic. The average of the CPU load, which is a float, is left out. -/

namespace Json

def asU64 : Json → Option Nat
  | .number literal =>
      let digits := literal.toList
      if digits ≠ [] ∧ digits.all Char.isDigit ∧ decimal digits < 2 ^ 64 then some (decimal digits) else none
  | _ => none

def asArray : Json → List Json
  | .array items => items
  | _ => []

def asStr : Json → Option String
  | .string value => some value
  | _ => none

def u64Field (json : Json) (name : String) : Nat := ((json.field name).bind asU64).getD 0

def arrayField (json : Json) (name : String) : List Json := ((json.field name).map asArray).getD []

end Json

structure SampleSummary where
  reportingInstances : Nat
  avgMemUsedPct : Nat
  maxDiskUsedPct : Option Nat
  gpuAvgUtilPct : Option Nat
  thermalAlerts : Nat
deriving DecidableEq

structure Totals where
  memAcc : Nat
  memCount : Nat
  maxDiskUsedPct : Option Nat
  gpuUtilAcc : Nat
  gpuUtilCount : Nat
  thermalAlerts : Nat

def Totals.zero : Totals := ⟨0, 0, none, 0, 0, 0⟩

def memUsedPct (used total : Nat) : Nat := saturatingMul (2 ^ 64) used 100 / total

def addMemory (totals : Totals) (sample : Json) : Option Totals :=
  let used := sample.u64Field "mem_used_bytes"
  let total := sample.u64Field "mem_total_bytes"
  if 0 < total then do
    let memAcc ← checkedAdd (2 ^ 64) totals.memAcc (memUsedPct used total)
    let memCount ← checkedAdd (2 ^ 32) totals.memCount 1
    some { totals with memAcc, memCount }
  else some totals

def diskUsedPct (total free : Nat) : Option Nat :=
  (checkedSub total free).map fun used => min (saturatingMul (2 ^ 64) used 100 / total) 100

def addDisk (maxDiskUsedPct : Option Nat) (disk : Json) : Option (Option Nat) :=
  let free := disk.u64Field "free_bytes"
  let total := disk.u64Field "total_bytes"
  if 0 < total then
    (diskUsedPct total free).map fun usedPct => some (maxDiskUsedPct.elim usedPct fun highest => max highest usedPct)
  else some maxDiskUsedPct

def addGpu (totals : Totals) (gpu : Json) : Option Totals :=
  match (gpu.field "utilization_pct").bind Json.asU64 with
  | some utilization => do
      let gpuUtilAcc ← checkedAdd (2 ^ 64) totals.gpuUtilAcc utilization
      let gpuUtilCount ← checkedAdd (2 ^ 32) totals.gpuUtilCount 1
      some { totals with gpuUtilAcc, gpuUtilCount }
  | none => some totals

def addThermal (totals : Totals) (sample : Json) : Option Totals :=
  match (sample.field "thermal_state").bind Json.asStr with
  | none => some totals
  | some state =>
      if state = "nominal" then some totals
      else (checkedAdd (2 ^ 32) totals.thermalAlerts 1).map fun thermalAlerts => { totals with thermalAlerts }

def addSample (totals : Totals) (sample : Json) : Option Totals := do
  let totals ← addMemory totals sample
  let maxDiskUsedPct ← (sample.arrayField "disk_free").foldlM addDisk totals.maxDiskUsedPct
  let totals ← (sample.arrayField "gpus").foldlM addGpu { totals with maxDiskUsedPct }
  addThermal totals sample

def collectSampleSummary (samples : List Json) : Option (Option SampleSummary) :=
  if samples = [] then some none
  else do
    let totals ← samples.foldlM addSample .zero
    -- samples.len() as u32
    let reportingInstances ← checkedAdd (2 ^ 32) 0 samples.length
    some (some {
      reportingInstances
      avgMemUsedPct := if totals.memCount = 0 then 0 else min (totals.memAcc / totals.memCount) 100
      maxDiskUsedPct := totals.maxDiskUsedPct
      gpuAvgUtilPct :=
        if totals.gpuUtilCount = 0 then none else some (min (totals.gpuUtilAcc / totals.gpuUtilCount) 100)
      thermalAlerts := totals.thermalAlerts })

/-! ## The evaluation -/

/-- The two percentages are bytes, the two times are unsigned numbers of seconds. -/
structure HealthGate where
  minHeartbeatFreshPct : Nat
  heartbeatFreshnessSecs : BitVec 32
  minProbeOkPct : Table String Nat
  gracePeriodSecs : BitVec 32

def HealthGate.default : HealthGate where
  minHeartbeatFreshPct := 95
  heartbeatFreshnessSecs := 180
  minProbeOkPct := (AList.singleton "openclaw" 90).insert "ollama" 90
  gracePeriodSecs := 600

structure InstanceHeartbeat where
  version : String
  nixpkgsCommit : Option String
  chaos : Bool
  reportedAt : DateTime
  sample : Option Json

structure Probe where
  clusterId : Uuid
  instanceId : String
  service : String
  ok : Bool
  collectedAt : DateTime
deriving DecidableEq

/-- The rows that a gate is evaluated over. The gate of a stage is its column as it parses, `none` where it does not. -/
structure HealthDb where
  db : Database
  healthGates : Uuid → Option (Option HealthGate)
  daemonHeartbeats : Table (Uuid × String) InstanceHeartbeat
  assessmentProbes : List Probe

structure HealthEvaluation where
  passed : Bool
  cohortSize : Nat
  reasons : List String
  heartbeatFreshPct : Nat
  probeOkPct : Table String Nat
  inGracePeriod : Bool
  /-- `none` inside where no sample was reported, outside where the summary overflows. -/
  sampleSummary : Option (Option SampleSummary)

inductive SqlxError where
  | rowNotFound
deriving DecidableEq

def seconds (count : Int) : DateTime := count * 1000000

/-- `as u32` -/
def u32 (count : Nat) : Nat := count % 2 ^ 32

def pct (num denom : Nat) : Nat := if denom = 0 then 100 else min (num * 100 / denom) 100

def inGracePeriod (gate : HealthGate) (startedAt : Option DateTime) (now : DateTime) : Bool :=
  match startedAt with
  | some startedAt =>
      let age := (now - startedAt).tdiv 1000000
      0 ≤ age && age < gate.gracePeriodSecs.toNat
  | none => true

-- With all of Mathlib in scope the order found on `Int` is its conditionally complete one, which does not compute.
local instance : Preorder DateTime := Int.instLinearOrder.toPreorder

/-- The row that `ORDER BY collected_at DESC` has first. -/
def latest (probes : List Probe) : Option Probe := probes.argmax Probe.collectedAt

namespace HealthDb
variable (health : HealthDb) (group : Uuid) (rollout : Rollout)

def considers (entry : Σ _ : Uuid × String, InstanceHeartbeat) : Bool :=
  entry.1.1 ∈ stageMembers health.db group && !entry.2.chaos &&
    rollout.targetVersion.all (· = entry.2.version) && rollout.nixpkgsCommit.all fun commit => entry.2.nixpkgsCommit = some commit

def consideredInstanceIds : List String :=
  (health.daemonHeartbeats.entries.filter (health.considers group rollout)).map fun entry => entry.1.2

def freshCount (instanceIds : List String) (freshnessSecs : Int) : Nat :=
  health.daemonHeartbeats.entries.countP fun entry =>
    entry.1.2 ∈ instanceIds && decide (health.db.now - seconds freshnessSecs < entry.2.reportedAt)

def recentProbes (selects : Probe → Bool) : List Probe :=
  health.assessmentProbes.filter fun probe => selects probe && decide (health.db.now - minutes 30 < probe.collectedAt)

/-- The instances whose latest row for the service is a failure. -/
def failedCount (instanceIds : List String) (service : String) : Nat :=
  instanceIds.dedup.countP fun instanceId =>
    (latest (health.recentProbes fun probe => probe.instanceId = instanceId && probe.service = service)).any fun probe => !probe.ok

def collectProbeOkPctPerInstance (instanceIds : List String) (cohortSize : Nat) (services : List String) : Table String Nat :=
  Table.fill (fun _ _ => false) ∅ (services.map fun service => (service,
    if cohortSize = 0 ∨ instanceIds = [] then 100
    else
      let failed := min (u32 (health.failedCount instanceIds service)) cohortSize
      pct (cohortSize - failed) cohortSize))

def samplesOf (instanceIds : List String) : List Json :=
  health.daemonHeartbeats.entries.filterMap fun entry => if entry.1.2 ∈ instanceIds then entry.2.sample else none

def reasonsOf (gate : HealthGate) (heartbeatFreshPct : Nat) (probeOkPct : Table String Nat) : List String :=
  (if 0 < gate.minHeartbeatFreshPct ∧ heartbeatFreshPct < gate.minHeartbeatFreshPct then
    ["heartbeat freshness " ++ toString heartbeatFreshPct ++ "% < required " ++ toString gate.minHeartbeatFreshPct ++ "%"]
  else []) ++
    gate.minProbeOkPct.entries.filterMap fun required =>
      let got := (probeOkPct.lookup required.1).getD 0
      if got < required.2 then
        some (required.1 ++ " probe ok " ++ toString got ++ "% < required " ++ toString required.2 ++ "%")
      else none

def evaluate (gate : HealthGate) (startedAt : Option DateTime) : HealthEvaluation :=
  let instanceIds := health.consideredInstanceIds group rollout
  let cohortSize := u32 instanceIds.length
  let inGracePeriod := inGracePeriod gate startedAt health.db.now
  if cohortSize = 0 then
    { passed := true, cohortSize := 0, reasons := ["no heartbeats yet"], heartbeatFreshPct := 100, probeOkPct := ∅
      inGracePeriod, sampleSummary := some none }
  else
    -- gate.heartbeat_freshness_secs as i32
    let freshCount := health.freshCount instanceIds gate.heartbeatFreshnessSecs.toInt
    let heartbeatFreshPct := pct (u32 freshCount) cohortSize
    let probeOkPct := health.collectProbeOkPctPerInstance instanceIds cohortSize gate.minProbeOkPct.keys
    let reasons := reasonsOf gate heartbeatFreshPct probeOkPct
    { passed := reasons = [] || inGracePeriod, cohortSize, reasons, heartbeatFreshPct, probeOkPct, inGracePeriod
      sampleSummary := collectSampleSummary (health.samplesOf instanceIds) }

def evaluateStage (stageId : Uuid) : Except SqlxError (Option HealthEvaluation) :=
  match health.db.stages.lookup stageId with
  | none => .error .rowNotFound
  | some stage =>
      match health.healthGates stageId with
      | none => .ok none
      | some parsed =>
          if stage.status ≠ .rolling then .ok none
          else
            match health.db.rollouts.lookup stage.rolloutId with
            | none => .error .rowNotFound
            | some rollout => .ok (some (health.evaluate stage.groupId rollout (parsed.getD .default) stage.startedAt))

end HealthDb

/-! ## The gate of a stage and its editor

How `evaluate_stage` of `server/src/rollout_health.rs` reads a stored gate, and how the form of `server/src/web/gate_input.rs`
reads and writes it. -/

/-! ## The evaluator -/

def deserializeU8 (value : JsonValue) : Option Nat := value.asU64.filter (· < 2 ^ 8)

def deserializeU32 (value : JsonValue) : Option (BitVec 32) := (value.asU64.filter (· < 2 ^ 32)).map (BitVec.ofNat 32)

def deserializeMap (value : JsonValue) : Option (Table String Nat) := do
  let fields ← value.asObject
  fields.foldlM (fun map entry => (deserializeU8 entry.2).map fun pct => map.insert entry.1 pct) ∅

/-- A member with a default, which stands for a missing one only. -/
def deserializeOr {T : Type} (deserialize : JsonValue → Option T) (missing : T) : Option JsonValue → Option T
  | none => some missing
  | some value => deserialize value

namespace HealthGate

def ofMembers (pct freshness probes grace : Option JsonValue) : Option HealthGate := do
  let minHeartbeatFreshPct ← deserializeOr deserializeU8 95 pct
  let heartbeatFreshnessSecs ← deserializeOr deserializeU32 180 freshness
  let minProbeOkPct ← deserializeOr deserializeMap ∅ probes
  let gracePeriodSecs ← deserializeOr deserializeU32 600 grace
  return { minHeartbeatFreshPct, heartbeatFreshnessSecs, minProbeOkPct, gracePeriodSecs }

/-- `serde_json::from_value`, which takes an array for the members in their order. -/
def fromValue : JsonValue → Option HealthGate
  | .object fields =>
      ofMembers (fields.lookup "min_heartbeat_fresh_pct") (fields.lookup "heartbeat_freshness_secs")
        (fields.lookup "min_probe_ok_pct") (fields.lookup "grace_period_secs")
  | .array items => if items.length ≤ 4 then ofMembers items[0]? items[1]? items[2]? items[3]? else none
  | _ => none

/-- The gate that a stage with the value is evaluated with. -/
def evaluated (value : JsonValue) : HealthGate := (fromValue value).getD default

end HealthGate

/-! ## The editor -/

structure HealthGateInput where
  enabled : Bool
  minHeartbeatFreshPct : Nat
  heartbeatFreshnessSecs : BitVec 32
  gracePeriodSecs : BitVec 32
  probeThresholds : List (String × Nat)

namespace HealthGateInput

def default : HealthGateInput where
  enabled := true
  minHeartbeatFreshPct := 95
  heartbeatFreshnessSecs := 180
  gracePeriodSecs := 600
  probeThresholds := [("openclaw", 90), ("ollama", 90)]

def probeMap (thresholds : List (String × Nat)) : List (String × JsonValue) :=
  thresholds.foldl
    (fun map entry => if trim entry.1 = "" then map else insertSorted map (trim entry.1) (.ofNat (min entry.2 100))) []

def toJson (input : HealthGateInput) : Option JsonValue :=
  if input.enabled then
    some (.object [
      ("grace_period_secs", .ofNat input.gracePeriodSecs.toNat),
      ("heartbeat_freshness_secs", .ofNat (max input.heartbeatFreshnessSecs.toNat 10)),
      ("min_heartbeat_fresh_pct", .ofNat (min input.minHeartbeatFreshPct 100)),
      ("min_probe_ok_pct", .object (probeMap input.probeThresholds))])
  else none

def fromJson (v : JsonValue) : HealthGateInput where
  enabled := true
  minHeartbeatFreshPct :=
    (((v.field "min_heartbeat_fresh_pct").bind JsonValue.asU64).map fun n => min n 100).getD default.minHeartbeatFreshPct
  heartbeatFreshnessSecs :=
    (((v.field "heartbeat_freshness_secs").bind JsonValue.asU64).map (BitVec.ofNat 32)).getD default.heartbeatFreshnessSecs
  gracePeriodSecs := (((v.field "grace_period_secs").bind JsonValue.asU64).map (BitVec.ofNat 32)).getD default.gracePeriodSecs
  probeThresholds :=
    let thresholds := ((v.field "min_probe_ok_pct").bind JsonValue.asObject).map fun obj =>
      mapValues (fun value => value.asU64.map fun n => min n 100) obj
    (thresholds.getD []).mergeSort fun a b => a.1 ≤ b.1

end HealthGateInput

end MacMgmt.Server
