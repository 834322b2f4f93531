import MacMgmt.Agent.DaemonConfig

/-!
# Config reload

`handle_config_reload` of `daemon/src/daemon.rs`, as far as it concerns the services: the connectors are rebuilt and the
services restarted, where a section that is compared has changed. The service objects are those of the start.
-/

namespace MacMgmt.Daemon
open Lib Supervisor Agent

/-- What a connector of a kind does, and the sections of a config as JSON, `none` for one that does not serialise. -/
structure DaemonHost (Value : Type) where
  spawn : SpawnHost
  connector : ConnectorKind → Connector Value
  sections : DaemonConfig → String → Option Value

structure ConfiguredDaemon (Value : Type) where
  manager : ConnectorManager Value
  currentCfg : DaemonConfig

/-- `paths` are the backup paths of the services, `idle` is whether no install is under way. -/
structure ReloadInputs (Value : Type) where
  paths : Value
  connect : Connect Value
  idle : Bool
  answers : Answers

inductive DaemonEvent (Value : Type) where
  | services (event : ConnectorManager.Event Value)
  | restarts
  | reload (new : DaemonConfig) (inputs : ReloadInputs Value)

def needsRestart (new current : DaemonConfig) : Bool :=
  new.defaultLlm ≠ current.defaultLlm || new.defaultAgent ≠ current.defaultAgent || new.ollama ≠ current.ollama ||
    new.openclaw ≠ current.openclaw || new.opencode ≠ current.opencode || new.lms ≠ current.lms ||
    new.cloud ≠ current.cloud

/-- The spec with which a service is registered, given what the connectors contribute. -/
def withEnv (service : Service) (env : Env) : SpawnSpec :=
  { service.spawnSpec with env := service.spawnSpec.env ∪ env }

def mapServices {Value : Type} (manager : ConnectorManager Value) (change : ServiceState → ServiceState) :
    ConnectorManager Value :=
  { manager with services := manager.services.map change }

def restarted (state : ServiceState) : ServiceState :=
  if state.restartPending ∧ state.integrated = false then { state.started with restartPending := false } else state

namespace ConfiguredDaemon
variable {Value : Type} [DecidableEq Value]

/-- `store` is what the cache file of the config store holds. -/
def init (host : DaemonHost Value) (cfg : DaemonConfig) (store : ConfigStore Value) : ConfiguredDaemon Value where
  manager := (ConnectorManager.init ((buildServices host.spawn cfg).filter (·.mode ≠ .installOnly))
    ((buildConnectors cfg).map host.connector) store).setSections (host.sections cfg)
  currentCfg := cfg

def reload (host : DaemonHost Value) (state : ConfiguredDaemon Value) (new : DaemonConfig) (inputs : ReloadInputs Value) :
    ConfiguredDaemon Value :=
  let manager := state.manager.reloadConnectors (host.sections new) inputs.paths ((buildConnectors new).map host.connector)
    inputs.connect
  let manager := if inputs.idle then mapServices manager (·.requeue) else manager
  let manager := if needsRestart new state.currentCfg then mapServices manager (·.scheduleRestart inputs.answers) else manager
  ⟨manager, new⟩

def restarts (state : ConfiguredDaemon Value) : ConfiguredDaemon Value :=
  { state with manager := mapServices state.manager restarted }

def step (host : DaemonHost Value) (state : ConfiguredDaemon Value) : DaemonEvent Value → Option (ConfiguredDaemon Value)
  | .services (.reload ..) => none
  | .services event => (state.manager.step event).map fun manager => { state with manager := manager }
  | .restarts => some state.restarts
  | .reload new inputs => some (state.reload host new inputs)

/-! ## A reload and a fresh start -/

def managedService (services : List Service) (name : ServiceName) : Option Service :=
  services.find? fun service => service.name = name ∧ service.mode = .managed

def serviceState (state : ConfiguredDaemon Value) (name : ServiceName) : Option ServiceState :=
  state.manager.services.find? fun state => state.name = name ∧ state.service.mode = .managed

def collectedEnv (state : ConfiguredDaemon Value) (name : ServiceName) : Option Env :=
  (state.serviceState name).bind fun service => if service.connectorEnvCollected then some service.connectorEnv else none

/-- The spec of a managed service, `none` where the name is not enabled; what has not been collected yet will be. -/
def specFor (state : ConfiguredDaemon Value) (name : ServiceName) : Option SpawnSpec :=
  (state.serviceState name).map fun service =>
    withEnv service.service ((state.collectedEnv name).getD (state.manager.envFor name))

def connectorSet (state : ConfiguredDaemon Value) : List (Connector Value) := state.manager.connectors.map (·.connector)

/-- A fresh start with the new config finds the config store in its cache file. -/
def AsFresh (host : DaemonHost Value) (state : ConfiguredDaemon Value) (new : DaemonConfig) : Prop :=
  (∀ name, state.specFor name = (init host new state.manager.configStore).specFor name) ∧
  state.connectorSet = (init host new state.manager.configStore).connectorSet

/-- What the connectors of the new config will contribute. -/
def contributed (host : DaemonHost Value) (state : ConfiguredDaemon Value) (new : DaemonConfig) (paths : Value)
    (name : ServiceName) : Env :=
  (state.manager.rebuilt (host.sections new) paths ((buildConnectors new).map host.connector)).envFor name

/-- The config of the start enables the services that the new one enables, and each has the same spec, with the environment
that was collected for it in place of what the new connectors contribute. -/
def Unchanged (host : DaemonHost Value) (started : DaemonConfig) (state : ConfiguredDaemon Value) (new : DaemonConfig)
    (paths : Value) : Prop :=
  ∀ name, match managedService (buildServices host.spawn started) name, managedService (buildServices host.spawn new) name with
    | some old, some service =>
        withEnv old ((state.collectedEnv name).getD (state.contributed host new paths name)) =
          withEnv service (state.contributed host new paths name)
    | none, none => True
    | some _, none | none, some _ => False

end ConfiguredDaemon
end MacMgmt.Daemon
