import Mathlib.Data.List.Dedup
import MacMgmt.Lib.JsonValue
import MacMgmt.Lib.Table

/-!
# Triggering the healer

`instance_is_unhealthy`, `tick` and `build_spawn_request` of `server/src/healer_auto_trigger.rs`, with `cluster_healer_config`
of `api/healer_routes.rs`. A tick whose first query fails does nothing and is left out. Of a request, what does not come from
the heartbeat row is left out, but for the ids and the provider. Times are in seconds.
-/

namespace MacMgmt.Server
open Lib

abbrev ClusterId := BitVec 128

/-- A row of `daemon_heartbeats`, whose key is the cluster and the instance. -/
structure HeartbeatRow where
  instanceId : String
  clusterId : ClusterId
  reportedAt : Int
  servicesExtended : Option JsonValue
  failureSignals : Option JsonValue
  relayProxyUrl : Option String
  fileTunnels : Option JsonValue
  shellTunnels : Option JsonValue
  sample : Option JsonValue
  hostname : Option String

/-- A row of `chat_sessions` whose type is `healer`. -/
structure HealerChat where
  subject : String
  state : String
  completedAt : Option Int

/-- A row of `healer_cluster_settings`. -/
structure HealerClusterSettings where
  enabled : Bool
  autoTrigger : Option Bool
  autoTriggerProvider : Option String
  autoTriggerModel : Option String
  autoApprove : Option Bool

structure HealerClusterConfig where
  autoTrigger : Option Bool
  autoTriggerProvider : Option String
  autoTriggerModel : Option String
  autoApprove : Option Bool

structure AutoTriggerConfig where
  threshold : UInt32
  provider : String
  model : Option String

/-- The database at a tick, and which of the later queries fail. The sessions stand in the order in which they began. -/
structure TickDb where
  now : Int
  heartbeats : List HeartbeatRow
  chats : List HealerChat
  settings : ClusterId → Option HealerClusterSettings
  chatsFail : String → Bool
  settingsFail : ClusterId → Bool

structure AutoSpawnRequest where
  clusterId : ClusterId
  instanceId : String
  relayUrl : String
  servicesExtended : Option JsonValue
  failureSignals : Option JsonValue
  sample : Option JsonValue
  fileTunnels : Option JsonValue
  shellTunnels : Option JsonValue
  hostname : String
  provider : String
  model : Option String
  autoApprove : Bool

def anyItem (value : Option JsonValue) (test : JsonValue → Bool) : Bool :=
  ((value.bind JsonValue.asArray).map fun items => items.any test).getD false

def instanceIsUnhealthy (servicesExtended failureSignals : Option JsonValue) : Bool :=
  let unhealthyProbe := anyItem servicesExtended fun svc => (svc.field "healthy").bind JsonValue.asBool = some false
  let criticalSignal := anyItem failureSignals fun signal => (signal.field "severity").bind JsonValue.asStr = some "critical"
  unhealthyProbe || criticalSignal

def HeartbeatRow.unhealthy (row : HeartbeatRow) : Bool := instanceIsUnhealthy row.servicesExtended row.failureSignals

namespace TickDb
variable (db : TickDb)

def recent : List HeartbeatRow := db.heartbeats.filter fun row => db.now - 600 < row.reportedAt

def knownInstances : List String := (db.recent.map HeartbeatRow.instanceId).dedup

def currentlyUnhealthy (instanceId : String) : Bool := db.recent.any fun row => row.instanceId = instanceId && row.unhealthy

/-- A later row of the instance replaces an earlier one. -/
def instanceCluster (instanceId : String) : Option ClusterId :=
  (db.recent.reverse.find? fun row => row.instanceId = instanceId).map HeartbeatRow.clusterId

def needsHuman (instanceId : String) : Bool :=
  !db.chatsFail instanceId && db.chats.any fun chat =>
    chat.subject = instanceId && chat.state = "needs_human_attention" && chat.completedAt.any fun time => db.now - 86400 < time

def clusterHealerConfig (clusterId : ClusterId) : HealerClusterConfig :=
  match if db.settingsFail clusterId then none else db.settings clusterId with
  | some row =>
      if row.enabled then ⟨row.autoTrigger, row.autoTriggerProvider, row.autoTriggerModel, row.autoApprove⟩
      else ⟨none, none, none, none⟩
  | none => ⟨none, none, none, none⟩

end TickDb

def requestFrom (config : AutoTriggerConfig) (clusterHealer : HealerClusterConfig) (instanceId : String) (clusterId : ClusterId)
    (hb : HeartbeatRow) : Except String AutoSpawnRequest :=
  match hb.relayProxyUrl.filter (· ≠ "") with
  | none => .error s!"no relay URL for instance {instanceId}"
  | some relayUrl => .ok
      { clusterId, instanceId, relayUrl
        servicesExtended := hb.servicesExtended
        failureSignals := hb.failureSignals
        sample := hb.sample
        fileTunnels := hb.fileTunnels
        shellTunnels := hb.shellTunnels
        hostname := hb.hostname.getD ""
        provider := clusterHealer.autoTriggerProvider.getD config.provider
        model := clusterHealer.autoTriggerModel.or config.model
        autoApprove := clusterHealer.autoApprove.getD true }

/-- The row is the first one of the instance, in any cluster. -/
def buildSpawnRequest (config : AutoTriggerConfig) (db : TickDb) (instanceId : String) (clusterId : ClusterId)
    (clusterHealer : HealerClusterConfig) : Except String AutoSpawnRequest :=
  match db.heartbeats.find? fun row => row.instanceId = instanceId with
  | none => .error "instance not found"
  | some hb => requestFrom config clusterHealer instanceId clusterId hb

structure SpawnAttempt where
  instanceId : String
  clusterId : ClusterId
  request : Except String AutoSpawnRequest

def trySpawn (config : AutoTriggerConfig) (db : TickDb) (instanceId : String) (clusterId : ClusterId) : Option SpawnAttempt :=
  let clusterHealer := db.clusterHealerConfig clusterId
  if db.needsHuman instanceId then none
  else if clusterHealer.autoTrigger = some false then none
  else some ⟨instanceId, clusterId, buildSpawnRequest config db instanceId clusterId clusterHealer⟩

abbrev Counters := Table String Nat

/-- The counters, which are 32 bits wide, with this tick counted. -/
def countTick (db : TickDb) (counters : Counters) : Counters :=
  db.knownInstances.foldl
    (fun map instanceId =>
      if db.currentlyUnhealthy instanceId then map.insert instanceId (((map.lookup instanceId).getD 0 + 1) % 2 ^ 32)
      else map.erase instanceId)
    (counters.retain fun instanceId _ => db.knownInstances.contains instanceId)

def toTrigger (config : AutoTriggerConfig) (db : TickDb) (counted : Counters) : List (String × ClusterId) :=
  counted.entries.filterMap fun entry =>
    if config.threshold.toNat ≤ entry.2 then (db.instanceCluster entry.1).map fun clusterId => (entry.1, clusterId) else none

/-- The counters after a tick, and the attempts that it makes. -/
def autoTriggerTick (config : AutoTriggerConfig) (db : TickDb) (counters : Counters) : Counters × List SpawnAttempt :=
  let counted := countTick db counters
  let triggered := toTrigger config db counted
  (triggered.foldl (fun map trigger => map.erase trigger.1) counted,
    triggered.filterMap fun trigger => trySpawn config db trigger.1 trigger.2)

/-! ## What should be attempted -/

namespace TickDb
variable (db : TickDb)

def lastNeedsHuman (instanceId : String) : Bool :=
  ((db.chats.filter fun chat => chat.subject = instanceId).getLast?).any fun chat => chat.state = "needs_human_attention"

def disabledAutoTrigger (clusterId : ClusterId) : Bool :=
  (db.settings clusterId).any fun row => row.enabled && row.autoTrigger = some false

def exempt (row : HeartbeatRow) : Bool := db.lastNeedsHuman row.instanceId || db.disabledAutoTrigger row.clusterId

/-- The ticks in a row, this one included, in which the instance was unhealthy in the cluster. -/
def streak (streaks : String → ClusterId → Nat) (instanceId : String) (clusterId : ClusterId) : Nat :=
  if db.recent.any fun row => row.instanceId = instanceId && row.clusterId = clusterId && row.unhealthy then
    streaks instanceId clusterId + 1
  else 0

def due (config : AutoTriggerConfig) (streaks : String → ClusterId → Nat) : List HeartbeatRow :=
  db.recent.filter fun row =>
    row.unhealthy && decide (config.threshold.toNat ≤ db.streak streaks row.instanceId row.clusterId) && !db.exempt row

end TickDb

/-- What should be attempted for a row: a request from the row itself. -/
def attemptFor (config : AutoTriggerConfig) (db : TickDb) (row : HeartbeatRow) : SpawnAttempt :=
  ⟨row.instanceId, row.clusterId,
    requestFrom config (db.clusterHealerConfig row.clusterId) row.instanceId row.clusterId row⟩

/-- `streaks` and `expected` are what the counters and the attempts of the last tick stand for. -/
structure AutoTrigger where
  counters : Counters
  attempts : List SpawnAttempt
  streaks : String → ClusterId → Nat
  expected : List SpawnAttempt

namespace AutoTrigger

def start : AutoTrigger := ⟨∅, [], fun _ _ => 0, []⟩

def step (config : AutoTriggerConfig) (state : AutoTrigger) (db : TickDb) : Option AutoTrigger :=
  let (counters, attempts) := autoTriggerTick config db state.counters
  let due := db.due config state.streaks
  some
    { counters, attempts
      streaks := fun instanceId clusterId =>
        if due.any fun row => row.instanceId = instanceId && row.clusterId = clusterId then 0
        else db.streak state.streaks instanceId clusterId
      expected := due.map (attemptFor config db) }

def NeverWraps (state : AutoTrigger) : Prop := ∀ instanceId count, state.counters.lookup instanceId = some count → count + 1 < 2 ^ 32

def Right (state : AutoTrigger) : Prop := ∀ attempt, attempt ∈ state.attempts ↔ attempt ∈ state.expected

/-- A streak of this length is a multiple of the threshold. -/
def Completes (config : AutoTriggerConfig) (length : Nat) : Prop := max config.threshold.toNat 1 ∣ length

/-- An instance has one recent row, in the cluster in which it was counted before, and where an attempt is due it is the first
one of it at all. Where a streak completes the threshold, once or again, the sessions of the last day say what the last one
does, and no query fails over an exemption. An exemption ends only where a streak completes. -/
structure Sound (config : AutoTriggerConfig) (state : AutoTrigger) (db : TickDb) : Prop where
  alone : (db.recent.map HeartbeatRow.instanceId).Nodup
  stays : ∀ row ∈ db.recent, ∀ clusterId, 0 < state.streaks row.instanceId clusterId → clusterId = row.clusterId
  first : ∀ row ∈ db.due config state.streaks, db.heartbeats.find? (fun other => other.instanceId = row.instanceId) = some row
  asks : ∀ row ∈ db.recent, row.unhealthy = true → Completes config (db.streak state.streaks row.instanceId row.clusterId) →
    db.needsHuman row.instanceId = db.lastNeedsHuman row.instanceId ∧
      (db.settingsFail row.clusterId = true → db.disabledAutoTrigger row.clusterId = false)
  waits : ∀ row ∈ db.due config state.streaks, Completes config (db.streak state.streaks row.instanceId row.clusterId)

end AutoTrigger
end MacMgmt.Server
