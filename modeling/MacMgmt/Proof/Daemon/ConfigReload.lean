import MacMgmt.Daemon.ConfigReload
import MacMgmt.Proof.Agent.Connectors

/-!
# A reload beside a fresh start

A reload leaves the service objects and what has been collected for them, so it ends where a fresh start would exactly if the
config of the start gives the same services. The connectors are always those of the new config.
-/

namespace MacMgmt.Proof.ConfigReload
open Lib Supervisor MacMgmt.Agent Daemon ConfiguredDaemon Connectors
open MacMgmt.Agent.ConnectorManager (reloadedSections)

variable {Value : Type} {state : ConfiguredDaemon Value}

/-! ## Services that are changed in place -/

theorem serviceState_map {after : ConfiguredDaemon Value} {change : ServiceState → ServiceState}
    (services : after.manager.services = state.manager.services.map change)
    (keeps : ∀ service, (change service).service = service.service) (name : ServiceName) :
    after.serviceState name = (state.serviceState name).map change := by
  unfold serviceState
  rw [services, List.find?_map]
  congr 2
  funext service
  rw [Function.comp_apply, ServiceState.name, keeps]
  rfl

structure Keeps (change : ServiceState → ServiceState) : Prop where
  service : ∀ state, (change state).service = state.service
  env : ∀ state, (change state).connectorEnv = state.connectorEnv
  collected : ∀ state, (change state).connectorEnvCollected = state.connectorEnvCollected

theorem specFor_mapServices {change : ServiceState → ServiceState} (keeps : Keeps change)
    (state : ConfiguredDaemon Value) (name : ServiceName) :
    specFor { state with manager := mapServices state.manager change } name = state.specFor name := by
  have found : serviceState { state with manager := mapServices state.manager change } name =
      (state.serviceState name).map change := serviceState_map rfl keeps.service name
  have collected : collectedEnv { state with manager := mapServices state.manager change } name = state.collectedEnv name := by
    unfold collectedEnv
    rw [found, Option.bind_map]
    simp only [Function.comp_def, keeps.env, keeps.collected]
  unfold specFor
  rw [found, collected, Option.map_map]
  simp only [Function.comp_def, keeps.service]
  rfl

theorem keeps_requeue : Keeps ServiceState.requeue := by
  constructor <;> intro state <;> unfold ServiceState.requeue <;> split <;> rfl

theorem keeps_scheduleRestart (answers : Answers) : Keeps (·.scheduleRestart answers) := by
  constructor <;> intro state <;> unfold ServiceState.scheduleRestart <;> split
  all_goals first | rfl | split <;> rfl

theorem keeps_restarted : Keeps restarted := by
  constructor <;> intro state <;> unfold restarted <;> split <;> rfl

theorem specFor_collect (state : ConfiguredDaemon Value) (name : ServiceName) :
    specFor { state with manager := state.manager.collectConnectorEnvForNew } name = state.specFor name := by
  let change (service : ServiceState) := service.collectConnectorEnv (state.manager.envFor service.name)
  have keeps (service : ServiceState) : (change service).service = service.service := by
    show (service.collectConnectorEnv _).service = _
    unfold ServiceState.collectConnectorEnv
    split <;> rfl
  have found : serviceState { state with manager := state.manager.collectConnectorEnvForNew } name =
      (state.serviceState name).map change := serviceState_map rfl keeps name
  unfold specFor collectedEnv
  rw [found]
  cases held : state.serviceState name with
  | none => rfl
  | some service =>
      have named : service.name = name := by
        have chosen := List.find?_some held
        exact (of_decide_eq_true chosen).1
      by_cases skipped : (service.connectorEnvCollected || service.phase.awaitsInstall) = true
      · have same : change service = service := if_pos skipped
        rw [Option.map_some, same]
        rfl
      · have collected : change service =
            { service with connectorEnv := state.manager.envFor service.name, connectorEnvCollected := true } := if_neg skipped
        have new : service.connectorEnvCollected = false := by
          by_contra before
          exact skipped (by simp [before])
        rw [Option.map_some, collected]
        simp [new, named]

theorem specFor_runPhase (state : ConfiguredDaemon Value) (phase : ConnectorPhase) (connect : Connect Value)
    (name : ServiceName) :
    specFor { state with manager := state.manager.runPhase phase connect } name = state.specFor name := by
  unfold specFor
  rw [envFor_runPhase]
  rfl

theorem map_new (connectors : List (Connector Value)) : (connectors.map ConnectorState.new).map (·.connector) = connectors := by
  rw [List.map_map]
  exact List.map_id connectors

/-! ## The services of the start -/

def Built (host : DaemonHost Value) (started : DaemonConfig) (state : ConfiguredDaemon Value) : Prop :=
  ∀ name, (state.serviceState name).map (·.service) = managedService (buildServices host.spawn started) name

theorem Built.map {host : DaemonHost Value} {started : DaemonConfig} (built : Built host started state)
    {after : ConfiguredDaemon Value} {change : ServiceState → ServiceState}
    (services : after.manager.services = state.manager.services.map change)
    (keeps : ∀ service, (change service).service = service.service) : Built host started after := by
  intro name
  rw [serviceState_map services keeps, Option.map_map]
  simp only [Function.comp_def, keeps]
  exact built name

theorem Built.mapServices {host : DaemonHost Value} {started : DaemonConfig} {manager : ConnectorManager Value}
    {cfg : DaemonConfig} (built : Built host started ⟨manager, cfg⟩)
    {change : ServiceState → ServiceState} (keeps : Keeps change) :
    Built host started ⟨Daemon.mapServices manager change, cfg⟩ := built.map rfl keeps.service

theorem collectConnectorEnv_service (service : ServiceState) (env : Env) :
    (service.collectConnectorEnv env).service = service.service := by
  unfold ServiceState.collectConnectorEnv
  split <;> rfl

/-! ## The config store -/

section Store
variable [DecidableEq Value]

theorem connectors_setSections (manager : ConnectorManager Value) (config : String → Option Value) :
    (manager.setSections config).connectors = manager.connectors := by
  unfold ConnectorManager.setSections
  induction reloadedSections generalizing manager with
  | nil => rfl
  | cons name rest ih =>
      rw [List.foldl_cons, ih]
      split <;> rfl

theorem get_setSections (manager : ConnectorManager Value) (config : String → Option Value) (key : String) :
    (manager.setSections config).configStore.get key =
      if key ∈ reloadedSections then (config key).or (manager.configStore.get key) else manager.configStore.get key := by
  unfold ConnectorManager.setSections
  induction reloadedSections generalizing manager with
  | nil => rfl
  | cons name rest ih =>
      rw [List.foldl_cons, ih]
      cases section_ : config name with
      | none =>
          by_cases same : key = name
          · subst same
            simp [section_]
          · simp [same]
      | some value =>
          show (if key ∈ rest then (config key).or ((manager.configStore.set name value).get key)
            else (manager.configStore.set name value).get key) = _
          rw [VersionedStore.get_set]
          by_cases same : key = name
          · subst same
            simp [section_]
          · simp [same]

theorem get_fresh (manager fresh : ConnectorManager Value) (config : String → Option Value) (paths : Value)
    (stored : fresh.configStore = ((manager.setSections config).updateBackupPaths paths).configStore) (key : String) :
    (fresh.setSections config).configStore.get key = fresh.configStore.get key := by
  rw [get_setSections]
  split
  · rename_i member
    have apart : key ≠ "backup_paths" := by
      rintro rfl
      exact absurd member (by decide)
    have held : fresh.configStore.get key = (config key).or (manager.configStore.get key) := by
      rw [stored]
      show ((manager.setSections config).configStore.set "backup_paths" paths).get key = _
      rw [VersionedStore.get_set, if_neg apart, get_setSections, if_pos member]
    rw [held]
    cases config key <;> rfl
  · rfl

end Store

/-! ## One reload -/

section Reload
variable [DecidableEq Value] {host : DaemonHost Value}

theorem specFor_rebuilt (state : ConfiguredDaemon Value) (new cfg : DaemonConfig) (paths : Value) (name : ServiceName) :
    specFor ⟨state.manager.rebuilt (host.sections new) paths ((buildConnectors new).map host.connector), cfg⟩ name =
      (state.serviceState name).map fun service =>
        withEnv service.service ((state.collectedEnv name).getD (state.contributed host new paths name)) := by
  have same : serviceState ⟨state.manager.rebuilt (host.sections new) paths ((buildConnectors new).map host.connector), cfg⟩
      name = state.serviceState name := by
    unfold serviceState
    rw [services_rebuilt]
  unfold specFor collectedEnv
  rw [same]
  rfl

theorem specFor_reload (state : ConfiguredDaemon Value) (new : DaemonConfig) (inputs : ReloadInputs Value)
    (name : ServiceName) :
    (state.reload host new inputs).restarts.specFor name = (state.serviceState name).map fun service =>
      withEnv service.service ((state.collectedEnv name).getD (state.contributed host new inputs.paths name)) := by
  let rebuilt := state.manager.rebuilt (host.sections new) inputs.paths ((buildConnectors new).map host.connector)
  have connected : specFor ⟨(rebuilt.runPhase .preStart inputs.connect).collectConnectorEnvForNew, new⟩ name =
      specFor ⟨rebuilt, new⟩ name :=
    (specFor_collect ⟨rebuilt.runPhase .preStart inputs.connect, new⟩ name).trans
      (specFor_runPhase ⟨rebuilt, new⟩ .preStart inputs.connect name)
  rw [← specFor_rebuilt state new new inputs.paths name, ← connected]
  unfold restarts reload
  rw [specFor_mapServices keeps_restarted]
  dsimp only
  split
  · rw [specFor_mapServices (keeps_scheduleRestart inputs.answers) ⟨_, new⟩]
    split
    · exact specFor_mapServices keeps_requeue ⟨_, new⟩ name
    · rfl
  · split
    · exact specFor_mapServices keeps_requeue ⟨_, new⟩ name
    · rfl

theorem connectors_reload (state : ConfiguredDaemon Value) (new : DaemonConfig) (inputs : ReloadInputs Value) :
    (state.reload host new inputs).restarts.manager.connectors =
      ((state.manager.rebuilt (host.sections new) inputs.paths ((buildConnectors new).map host.connector)).runPhase .preStart
        inputs.connect).connectors := by
  unfold restarts reload
  dsimp only
  split <;> split <;> rfl

theorem configStore_reload (state : ConfiguredDaemon Value) (new : DaemonConfig) (inputs : ReloadInputs Value) :
    (state.reload host new inputs).restarts.manager.configStore =
      ((state.manager.setSections (host.sections new)).updateBackupPaths inputs.paths).configStore := by
  unfold restarts reload
  dsimp only
  split <;> split <;> rfl

theorem connectorSet_reload (state : ConfiguredDaemon Value) (new : DaemonConfig) (inputs : ReloadInputs Value) :
    (state.reload host new inputs).restarts.connectorSet = (buildConnectors new).map host.connector := by
  unfold connectorSet
  rw [connectors_reload]
  show ((((buildConnectors new).map host.connector).map ConnectorState.new).map _).map _ = _
  rw [List.map_map, List.map_map]
  conv_rhs => rw [← List.map_id ((buildConnectors new).map host.connector)]
  exact List.map_congr_left fun connector _ => connector_ran _ .preStart inputs.connect (.new connector)

theorem connectorSet_init (cfg : DaemonConfig) (store : ConfigStore Value) :
    (init host cfg store).connectorSet = (buildConnectors cfg).map host.connector := by
  unfold connectorSet init
  rw [connectors_setSections]
  exact map_new _

theorem serviceState_init (cfg : DaemonConfig) (store : ConfigStore Value) (name : ServiceName) :
    (init host cfg store).serviceState name = (managedService (buildServices host.spawn cfg) name).map fun service =>
      .new service .installing false false none := by
  unfold serviceState init managedService
  rw [services_setSections]
  show (((buildServices host.spawn cfg).filter (·.mode ≠ .installOnly)).map _).find? _ = _
  rw [List.find?_map, List.find?_filter]
  congr 2
  funext service
  simp only [Function.comp_apply, ServiceState.name, ServiceState.new]
  by_cases managed : service.mode = .managed
  · simp [managed]
  · simp [managed]

theorem specFor_init (cfg : DaemonConfig) (store : ConfigStore Value) (name : ServiceName) :
    (init host cfg store).specFor name = (managedService (buildServices host.spawn cfg) name).map fun service =>
      withEnv service ((init host cfg store).manager.envFor name) := by
  unfold specFor collectedEnv
  rw [serviceState_init]
  cases managedService (buildServices host.spawn cfg) name <;> rfl

theorem envFor_fresh (state : ConfiguredDaemon Value) (new : DaemonConfig) (inputs : ReloadInputs Value)
    (name : ServiceName) :
    (init host new (state.reload host new inputs).restarts.manager.configStore).manager.envFor name =
      state.contributed host new inputs.paths name := by
  refine envFor_congr name ?_ fun _ _ => VersionedStore.valuesFor_congr fun key _ => ?_
  · exact (connectorSet_init new _).trans (map_new _).symm
  · have fresh := get_fresh state.manager
      (ConnectorManager.init ((buildServices host.spawn new).filter (·.mode ≠ .installOnly))
        ((buildConnectors new).map host.connector) (state.reload host new inputs).restarts.manager.configStore)
      (host.sections new) inputs.paths (configStore_reload state new inputs) key
    refine fresh.trans ?_
    show VersionedStore.get (state.reload host new inputs).restarts.manager.configStore key = _
    rw [configStore_reload]
    rfl

theorem asFresh_iff {started : DaemonConfig} (built : Built host started state) (new : DaemonConfig)
    (inputs : ReloadInputs Value) :
    (state.reload host new inputs).restarts.AsFresh host new ↔ state.Unchanged host started new inputs.paths := by
  have connectors : (state.reload host new inputs).restarts.connectorSet =
      (init host new (state.reload host new inputs).restarts.manager.configStore).connectorSet :=
    (connectorSet_reload state new inputs).trans (connectorSet_init new _).symm
  unfold AsFresh Unchanged
  rw [and_iff_left connectors]
  refine forall_congr' fun name => ?_
  rw [specFor_reload, specFor_init, envFor_fresh, ← built name]
  cases state.serviceState name with
  | none =>
      cases managedService (buildServices host.spawn new) name with
      | none => simp
      | some service => simp
  | some old =>
      cases managedService (buildServices host.spawn new) name with
      | none => simp
      | some service => simp

end Reload

/-! ## Whole runs -/

section Run
variable [DecidableEq Value] {host : DaemonHost Value} {started : DaemonConfig}

theorem built_init (store : ConfigStore Value) : Built host started (init host started store) := by
  intro name
  rw [serviceState_init, Option.map_map]
  exact congrFun Option.map_id _

theorem Built.services (built : Built host started state) {event : ConnectorManager.Event Value}
    {after : ConfiguredDaemon Value} (taken : state.step host (.services event) = some after) : Built host started after := by
  cases event with
  | set name value =>
      cases taken
      exact built
  | lifecycle name phase postStartDone =>
      cases taken
      refine built.map rfl fun service => ?_
      split <;> rfl
  | addIntegratedService service =>
      obtain ⟨manager, added, same⟩ := Option.map_eq_some_iff.mp taken
      obtain ⟨integrated, appended⟩ := Option.ite_none_right_eq_some.mp added
      cases appended
      cases same
      intro name
      have found := built name
      unfold serviceState at found ⊢
      have other : [ServiceState.new service .starting false true none].find?
          (fun state => state.name = name ∧ state.service.mode = .managed) = none := by
        simp [ServiceState.new, integrated]
      rw [List.find?_append, other, Option.or_none]
      exact found
  | tick connect paths =>
      cases taken
      exact built.map rfl fun service => collectConnectorEnv_service service _
  | reload config paths connectors connect => cases taken

theorem Built.reload (built : Built host started state) (new : DaemonConfig) (inputs : ReloadInputs Value) :
    Built host started (state.reload host new inputs) := by
  let rebuilt := state.manager.rebuilt (host.sections new) inputs.paths ((buildConnectors new).map host.connector)
  have unchanged : Built host started ⟨rebuilt, new⟩ := by
    intro name
    unfold serviceState
    rw [services_rebuilt]
    exact built name
  have collected : Built host started ⟨(rebuilt.runPhase .preStart inputs.connect).collectConnectorEnvForNew, new⟩ :=
    unchanged.map rfl fun service => collectConnectorEnv_service service _
  unfold ConfiguredDaemon.reload
  dsimp only
  split
  · split
    · exact (collected.mapServices keeps_requeue).mapServices (keeps_scheduleRestart inputs.answers)
    · exact collected.mapServices (keeps_scheduleRestart inputs.answers)
  · split
    · exact collected.mapServices keeps_requeue
    · exact collected

theorem built_step {event : DaemonEvent Value} {after : ConfiguredDaemon Value} (built : Built host started state)
    (taken : state.step host event = some after) : Built host started after := by
  cases event with
  | services event => exact built.services taken
  | restarts =>
      cases taken
      exact built.map rfl keeps_restarted.service
  | reload new inputs =>
      cases taken
      exact built.reload new inputs

theorem reload_as_fresh_iff (host : DaemonHost Value) (started : DaemonConfig) (store : ConfigStore Value)
    (events : List (DaemonEvent Value)) (state : ConfiguredDaemon Value)
    (ran : run (ConfiguredDaemon.step host) (init host started store) events = some state) (new : DaemonConfig)
    (inputs : ReloadInputs Value) :
    (state.reload host new inputs).restarts.AsFresh host new ↔ state.Unchanged host started new inputs.paths :=
  asFresh_iff (run_invariant (fun _ _ _ built taken => built_step built taken) (built_init store) ran) new inputs

end Run

/-! ## One config -/

def opencodeConfig (port : Nat) (hermes : Bool) (agent : String) : DaemonConfig where
  defaultLlm := .ollama
  defaultAgent := agent
  openclaw := ⟨false, ""⟩
  opencode := ⟨true, "127.0.0.1", port, ""⟩
  hermes := ⟨hermes, none, none⟩
  ollama := ⟨false, "127.0.0.1", 11434, 4096, "", ""⟩
  lms := ⟨false, "", 0, "", ""⟩
  unsloth := ⟨false, "", 0, "", ""⟩
  litellm := ⟨false, "", 0⟩
  cloud := []
  backupEnabled := false
  aiProxyEnabled := false
  memvault := ⟨false, 0⟩
  customServices := []

/-- Only the relay's connectors are built; these contribute nothing. -/
def relayHost : DaemonHost String where
  spawn := ⟨"/cache", "/home/.hermes", "/home/litellm.yaml", ∅, fun _ => none, 8642⟩
  connector _ := ⟨"relay→opencode", .postStart, ["relay", "opencode"], fun _ _ => ∅⟩
  sections cfg name := if name = "opencode" then some (toString cfg.opencode.port) else none

def relayInputs : ReloadInputs String := ⟨"[]", fun _ _ => true, true, {}⟩

theorem collectedEnv_init {Value : Type} [DecidableEq Value] {host : DaemonHost Value} (cfg : DaemonConfig)
    (store : ConfigStore Value) (name : ServiceName) : (init host cfg store).collectedEnv name = none := by
  unfold collectedEnv
  rw [serviceState_init]
  cases managedService (buildServices host.spawn cfg) name <;> rfl

theorem reload_as_fresh_agent :
    ((init relayHost (opencodeConfig 4096 false "opencode") ∅).reload relayHost (opencodeConfig 4096 false "hermes")
      relayInputs).restarts.AsFresh relayHost (opencodeConfig 4096 false "hermes") := by
  refine (reload_as_fresh_iff relayHost (opencodeConfig 4096 false "opencode") ∅ [] _ rfl _ relayInputs).mpr fun name => ?_
  have same : managedService (buildServices relayHost.spawn (opencodeConfig 4096 false "hermes")) name =
      managedService (buildServices relayHost.spawn (opencodeConfig 4096 false "opencode")) name := rfl
  rw [same, collectedEnv_init]
  cases managedService (buildServices relayHost.spawn (opencodeConfig 4096 false "opencode")) name with
  | none => trivial
  | some service => rfl

/-- Another port, and another service. -/
theorem reload_not_fresh :
    ¬ ((init relayHost (opencodeConfig 4096 false "opencode") ∅).reload relayHost (opencodeConfig 4097 false "opencode")
      relayInputs).restarts.AsFresh relayHost (opencodeConfig 4097 false "opencode") ∧
    ¬ ((init relayHost (opencodeConfig 4096 false "opencode") ∅).reload relayHost (opencodeConfig 4096 true "opencode")
      relayInputs).restarts.AsFresh relayHost (opencodeConfig 4096 true "opencode") := by
  constructor
  · intro fresh
    have spec := fresh.1 "opencode"
    rw [specFor_reload, specFor_init, serviceState_init] at spec
    have args := congrArg (Option.map (·.args)) spec
    rw [Option.map_map, Option.map_map, Option.map_map] at args
    have ports : some (opencodeService ⟨true, "127.0.0.1", 4096, ""⟩).spawnSpec.args =
        some (opencodeService ⟨true, "127.0.0.1", 4097, ""⟩).spawnSpec.args := args
    exact absurd ports (by decide)
  · intro fresh
    have spec := fresh.1 "hermes"
    rw [specFor_reload, specFor_init, serviceState_init] at spec
    have enabled := congrArg Option.isSome spec
    rw [Option.isSome_map, Option.isSome_map, Option.isSome_map] at enabled
    exact absurd enabled (by decide)

end MacMgmt.Proof.ConfigReload
