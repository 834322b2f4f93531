import MacMgmt.Agent.ServiceState
import MacMgmt.Lib.Run
import MacMgmt.Lib.Versioned

/-!
# Connectors

`run_connectors_tick` and `reload_connectors` of `mac-mgmt-agent/src/service_mgmt.rs` with the store of
`config_providers.rs`. A connector is run when it has not run yet or a provider it depends on has changed since; the
environment it contributes to a service is collected once. `Value` is `serde_json::Value`.
-/

namespace MacMgmt.Agent
open Lib Supervisor

inductive ConnectorPhase where
  | preStart
  | postStart
deriving DecidableEq

abbrev ConfigStore (Value : Type) := VersionedStore String Value

abbrev Configs (Value : Type) := Finmap fun _ : String => Value

structure Connector (Value : Type) where
  name : String
  phase : ConnectorPhase
  dependsOn : List String
  serviceEnv : ServiceName → Configs Value → Env

/-- What `connect` answers, `true` for `Ok`. It reads and writes files, so it may answer otherwise the next time. -/
abbrev Connect (Value : Type) := Connector Value → Configs Value → Bool

structure ConnectorRun (Value : Type) where
  configs : Configs Value
  ok : Bool

/-- `runs` is not in the source: the runs so far, the last one first. -/
structure ConnectorState (Value : Type) where
  connector : Connector Value
  lastSnapshot : Finmap fun _ : String => Nat
  ran : Bool
  runs : List (ConnectorRun Value)

structure ConnectorManager (Value : Type) where
  services : List ServiceState
  connectors : List (ConnectorState Value)
  configStore : ConfigStore Value

section
variable {Value : Type}

namespace ConnectorState

def new (connector : Connector Value) : ConnectorState Value := ⟨connector, ∅, false, []⟩

def connected (state : ConnectorState Value) (store : ConfigStore Value) (connect : Connect Value) : ConnectorState Value :=
  let deps := state.connector.dependsOn
  let configs := store.valuesFor deps
  { state with
    lastSnapshot := store.snapshot deps
    ran := true
    runs := ⟨configs, connect state.connector configs⟩ :: state.runs }

def shouldRun (state : ConnectorState Value) (store : ConfigStore Value) : Bool :=
  !state.ran || store.anyChanged state.connector.dependsOn state.lastSnapshot

def applied (state : ConnectorState Value) : Option (Configs Value) := (state.runs.find? (·.ok)).map (·.configs)

def lastFailed (state : ConnectorState Value) : Bool := (state.runs.head?.map (·.ok)) = some false

end ConnectorState

namespace ConnectorManager

def depBlockedByInstall (manager : ConnectorManager Value) (dep : String) : Bool :=
  manager.services.any fun state => state.name = dep && state.phase.awaitsInstall

def depReady (manager : ConnectorManager Value) (phase : ConnectorPhase) (dep : String) : Bool :=
  match phase with
  | .preStart => (manager.configStore.get dep).isSome && !manager.depBlockedByInstall dep
  | .postStart => !manager.depBlockedByInstall dep &&
      ((manager.configStore.get dep).isSome ||
        ((manager.services.find? fun state => state.name = dep).any fun state => state.postStartDone))

def ready (manager : ConnectorManager Value) (connector : Connector Value) : Bool :=
  connector.dependsOn.all (manager.depReady connector.phase)

def due (manager : ConnectorManager Value) (state : ConnectorState Value) : Bool :=
  manager.ready state.connector && state.shouldRun manager.configStore

/-- `run_prestart_connectors` and `run_connectors` -/
def runPhase (manager : ConnectorManager Value) (phase : ConnectorPhase) (connect : Connect Value) : ConnectorManager Value :=
  { manager with
    connectors := manager.connectors.map fun state =>
      if state.connector.phase = phase && manager.due state then state.connected manager.configStore connect else state }

/-- What the connectors contribute to a service; a later one overwrites an earlier one. -/
def envFor (manager : ConnectorManager Value) (name : ServiceName) : Env :=
  manager.connectors.foldl (fun env state =>
    state.connector.serviceEnv name (manager.configStore.valuesFor state.connector.dependsOn) ∪ env) ∅

def collectConnectorEnvForNew (manager : ConnectorManager Value) : ConnectorManager Value :=
  { manager with services := manager.services.map fun state => state.collectConnectorEnv (manager.envFor state.name) }

variable [DecidableEq Value]

def set (manager : ConnectorManager Value) (name : String) (value : Value) : ConnectorManager Value :=
  { manager with configStore := manager.configStore.set name value }

/-- `paths` is what the services say should be backed up. -/
def updateBackupPaths (manager : ConnectorManager Value) (paths : Value) : ConnectorManager Value :=
  manager.set "backup_paths" paths

def runConnectorsTick (manager : ConnectorManager Value) (connect : Connect Value) (paths : Value) : ConnectorManager Value :=
  (((manager.runPhase .preStart connect).collectConnectorEnvForNew).runPhase .postStart connect).updateBackupPaths paths

def reloadedSections : List String :=
  ["ollama", "lms", "unsloth", "litellm", "openclaw", "opencode", "hermes", "cloud", "backup", "memvault"]

/-- `config` gives the sections as JSON, `none` for one that does not serialise. -/
def setSections (manager : ConnectorManager Value) (config : String → Option Value) : ConnectorManager Value :=
  reloadedSections.foldl (fun manager name =>
    match config name with
    | some value => manager.set name value
    | none => manager) manager

def rebuilt (manager : ConnectorManager Value) (config : String → Option Value) (paths : Value)
    (connectors : List (Connector Value)) : ConnectorManager Value :=
  { (manager.setSections config).updateBackupPaths paths with connectors := connectors.map .new }

def reloadConnectors (manager : ConnectorManager Value) (config : String → Option Value) (paths : Value)
    (connectors : List (Connector Value)) (connect : Connect Value) : ConnectorManager Value :=
  ((manager.rebuilt config paths connectors).runPhase .preStart connect).collectConnectorEnvForNew

/-! ## Runs

`lifecycle` is what the rest of the manager does to a service, of which the connectors see the phase and whether
`post_start` is done. -/

inductive Event (Value : Type) where
  | set (name : String) (value : Value)
  | lifecycle (name : ServiceName) (phase : ServicePhase) (postStartDone : Bool)
  | addIntegratedService (service : Service)
  | tick (connect : Connect Value) (paths : Value)
  | reload (config : String → Option Value) (paths : Value) (connectors : List (Connector Value)) (connect : Connect Value)

def changeService (manager : ConnectorManager Value) (name : ServiceName) (phase : ServicePhase) (postStartDone : Bool) :
    ConnectorManager Value :=
  { manager with services := manager.services.map fun state =>
      if state.name = name then { state with phase := phase, postStartDone := postStartDone } else state }

def step (manager : ConnectorManager Value) : Event Value → Option (ConnectorManager Value)
  | .set name value => some (manager.set name value)
  | .lifecycle name phase postStartDone => some (manager.changeService name phase postStartDone)
  | .addIntegratedService service =>
      if service.mode = .integrated then
        some { manager with services := manager.services ++ [.new service .starting false true none] }
      else none
  | .tick connect paths => some (manager.runConnectorsTick connect paths)
  | .reload config paths connectors connect => some (manager.reloadConnectors config paths connectors connect)

def init (services : List Service) (connectors : List (Connector Value)) (configStore : ConfigStore Value) :
    ConnectorManager Value where
  services := services.map fun service => .new service .installing false false none
  connectors := connectors.map .new
  configStore := configStore

/-! ## What a tick should leave -/

/-- Each ready connector has applied the current values, and each service is spawned with what the connectors contribute
now. -/
def Applied (manager : ConnectorManager Value) : Prop :=
  (∀ state ∈ manager.connectors, manager.ready state.connector = true →
    state.applied = some (manager.configStore.valuesFor state.connector.dependsOn)) ∧
  ∀ state ∈ manager.services, state.service.mode = .managed → state.phase.awaitsInstall = false →
    state.connectorEnv = manager.envFor state.name

/-- The connector is ready, its last run failed and its inputs have not been applied. -/
def Failed (manager : ConnectorManager Value) (state : ConnectorState Value) : Prop :=
  manager.ready state.connector = true ∧ state.lastFailed = true ∧
    state.applied ≠ some (manager.configStore.valuesFor state.connector.dependsOn)

def TickApplies (manager : ConnectorManager Value) (connect : Connect Value) (paths : Value) : Prop :=
  ((∀ state ∈ manager.connectors, manager.due state = true →
      connect state.connector (manager.configStore.valuesFor state.connector.dependsOn) = true) →
    (manager.runConnectorsTick connect paths).Applied) ∧
  ∀ state ∈ manager.connectors, manager.Failed state →
    state.connected manager.configStore connect ∈ (manager.runConnectorsTick connect paths).connectors

/-- What the connectors contribute to the services that have been collected stays as it is. -/
def KeepsEnv (manager after : ConnectorManager Value) : Prop :=
  ∀ state ∈ manager.services, state.service.mode = .managed → state.connectorEnvCollected = true →
    after.envFor state.name = manager.envFor state.name

/-- At a tick no failed connector is left with providers that have not changed since, and the paths that the tick stores
at its end are those that the ready connectors and the services have been given. -/
def Settled (manager : ConnectorManager Value) : Event Value → Prop
  | .set name value => manager.KeepsEnv (manager.set name value)
  | .lifecycle _ _ _ | .addIntegratedService _ => True
  | .tick _ paths =>
      (∀ state ∈ manager.connectors, manager.Failed state → state.shouldRun manager.configStore = true) ∧
      (∀ state ∈ manager.connectors, (manager.updateBackupPaths paths).ready state.connector = true →
        "backup_paths" ∈ state.connector.dependsOn → manager.configStore.get "backup_paths" = some paths) ∧
      ∀ state ∈ manager.services, state.service.mode = .managed →
        (manager.updateBackupPaths paths).envFor state.name = manager.envFor state.name
  | .reload config paths connectors _ => manager.KeepsEnv (manager.rebuilt config paths connectors)

end ConnectorManager
end
end MacMgmt.Agent
