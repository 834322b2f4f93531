import MacMgmt.Agent.Connectors

/-!
# Connectors and the values they have applied

A connector that is not due last ran on the values the store holds now, so a ready connector whose inputs are unapplied
is due unless its last run failed. The environment of a service is what was collected once; it stays right as long as
nothing changes what would be collected.
-/

namespace MacMgmt.Proof.Connectors
open Lib Supervisor MacMgmt.Agent MacMgmt.Agent.ConnectorManager

variable {Value : Type}

/-! ## What the operations leave alone -/

theorem ready_congr {manager other : ConnectorManager Value} {connector : Connector Value}
    (services : other.services.map (fun state => (state.name, state.phase, state.postStartDone)) =
      manager.services.map (fun state => (state.name, state.phase, state.postStartDone)))
    (present : ∀ dep ∈ connector.dependsOn,
      (other.configStore.get dep).isSome = (manager.configStore.get dep).isSome) :
    other.ready connector = manager.ready connector := by
  have blocked (dep : String) : other.depBlockedByInstall dep = manager.depBlockedByInstall dep := by
    have viewed (list : List ServiceState) : (list.any fun state => state.name = dep && state.phase.awaitsInstall) =
        (list.map fun state => (state.name, state.phase, state.postStartDone)).any fun view =>
          view.1 = dep && view.2.1.awaitsInstall := by
      rw [List.any_map]
      rfl
    rw [depBlockedByInstall, depBlockedByInstall, viewed, viewed, services]
  have done (dep : String) :
      (other.services.find? fun state => state.name = dep).any (fun state => state.postStartDone) =
        (manager.services.find? fun state => state.name = dep).any fun state => state.postStartDone := by
    have viewed (list : List ServiceState) :
        ((list.find? fun state => state.name = dep).any fun state => state.postStartDone) =
        ((list.map fun state => (state.name, state.phase, state.postStartDone)).find? fun view => view.1 = dep).any
          fun view => view.2.2 := by
      rw [List.find?_map, Option.any_map]
      rfl
    rw [viewed, viewed, services]
  rw [ready, ready, Bool.eq_iff_iff, List.all_eq_true, List.all_eq_true]
  refine forall₂_congr fun dep member => ?_
  cases connector.phase with
  | preStart => rw [depReady, depReady, present dep member, blocked]
  | postStart => rw [depReady, depReady, present dep member, blocked, done]

theorem ready_collect (manager : ConnectorManager Value) (connector : Connector Value) :
    manager.collectConnectorEnvForNew.ready connector = manager.ready connector := by
  refine ready_congr ?_ fun _ _ => rfl
  rw [collectConnectorEnvForNew, List.map_map]
  apply List.map_congr_left
  intro state _
  rw [Function.comp_apply, ServiceState.collectConnectorEnv]
  split <;> rfl

theorem connector_ran (manager : ConnectorManager Value) (phase : ConnectorPhase) (connect : Connect Value)
    (state : ConnectorState Value) :
    (if state.connector.phase = phase && manager.due state then state.connected manager.configStore connect
      else state).connector = state.connector := by
  split <;> rfl

theorem envFor_congr {manager other : ConnectorManager Value} (name : ServiceName)
    (connectors : other.connectors.map (·.connector) = manager.connectors.map (·.connector))
    (values : ∀ state ∈ manager.connectors,
      other.configStore.valuesFor state.connector.dependsOn = manager.configStore.valuesFor state.connector.dependsOn) :
    other.envFor name = manager.envFor name := by
  have folded (some : ConnectorManager Value) : some.envFor name =
      (some.connectors.map (·.connector)).foldl (fun env connector =>
        connector.serviceEnv name (some.configStore.valuesFor connector.dependsOn) ∪ env) ∅ := by
    rw [envFor, List.foldl_map]
  rw [folded, folded, connectors]
  apply List.foldl_ext
  intro env connector member
  obtain ⟨state, held, rfl⟩ := List.mem_map.mp member
  rw [values state held]

theorem envFor_runPhase (manager : ConnectorManager Value) (phase : ConnectorPhase) (connect : Connect Value)
    (name : ServiceName) : (manager.runPhase phase connect).envFor name = manager.envFor name := by
  refine envFor_congr name ?_ fun _ _ => rfl
  rw [runPhase, List.map_map]
  exact List.map_congr_left fun state _ => connector_ran manager phase connect state

theorem envFor_collect (manager : ConnectorManager Value) (name : ServiceName) :
    manager.collectConnectorEnvForNew.envFor name = manager.envFor name := rfl

theorem services_setSections [DecidableEq Value] (manager : ConnectorManager Value) (config : String → Option Value) :
    (manager.setSections config).services = manager.services := by
  unfold setSections
  induction reloadedSections generalizing manager with
  | nil => rfl
  | cons name rest ih =>
      rw [List.foldl_cons, ih]
      split <;> rfl

theorem services_rebuilt [DecidableEq Value] (manager : ConnectorManager Value) (config : String → Option Value)
    (paths : Value) (connectors : List (Connector Value)) :
    (manager.rebuilt config paths connectors).services = manager.services := services_setSections manager config

/-! ## The invariant -/

/-- A connector that has run knows what it ran on, and a collected environment is what would be collected now. -/
structure Tracked (manager : ConnectorManager Value) : Prop where
  seen : ∀ state ∈ manager.connectors, state.ran = true → ∃ last rest, state.runs = last :: rest ∧
    manager.configStore.Seen state.connector.dependsOn state.lastSnapshot last.configs
  env : ∀ state ∈ manager.services, state.service.mode = .managed → state.connectorEnvCollected = true →
    state.connectorEnv = manager.envFor state.name

namespace Tracked
variable {manager : ConnectorManager Value}

theorem runPhase (tracked : Tracked manager) (phase : ConnectorPhase) (connect : Connect Value) :
    Tracked (manager.runPhase phase connect) where
  seen state member ran := by
    obtain ⟨before, held, rfl⟩ := List.mem_map.mp member
    by_cases runs : (decide (before.connector.phase = phase) && manager.due before) = true
    · rw [if_pos runs]
      exact ⟨_, _, rfl, manager.configStore.seen_snapshot _⟩
    · rw [if_neg runs] at ran ⊢
      exact tracked.seen before held ran
  env state member managed collected := by
    rw [envFor_runPhase]
    exact tracked.env state member managed collected

theorem collect (tracked : Tracked manager) : Tracked manager.collectConnectorEnvForNew where
  seen := tracked.seen
  env state member managed collected := by
    obtain ⟨before, held, rfl⟩ := List.mem_map.mp member
    rw [envFor_collect]
    unfold ServiceState.collectConnectorEnv at managed collected ⊢
    split at collected
    · rename_i skipped
      rw [if_pos skipped] at managed ⊢
      exact tracked.env before held managed collected
    · rename_i new
      rw [if_neg new]
      rfl

theorem init (services : List Service) (connectors : List (Connector Value)) (store : ConfigStore Value) :
    Tracked (init services connectors store) where
  seen state member ran := by
    obtain ⟨connector, _, rfl⟩ := List.mem_map.mp member
    cases ran
  env state member _ collected := by
    obtain ⟨service, _, rfl⟩ := List.mem_map.mp member
    cases collected

theorem changeService (tracked : Tracked manager) (name : ServiceName) (phase : ServicePhase) (postStartDone : Bool) :
    Tracked (manager.changeService name phase postStartDone) where
  seen := tracked.seen
  env state member managed collected := by
    obtain ⟨before, held, rfl⟩ := List.mem_map.mp member
    by_cases same : before.name = name
    · rw [if_pos same] at managed collected ⊢
      exact tracked.env before held managed collected
    · rw [if_neg same] at managed collected ⊢
      exact tracked.env before held managed collected

theorem addIntegrated (tracked : Tracked manager) {service : Service} (integrated : service.mode = .integrated) :
    Tracked { manager with services := manager.services ++ [.new service .starting false true none] } where
  seen := tracked.seen
  env state member managed collected := by
    rcases List.mem_append.mp member with held | added
    · exact tracked.env state held managed collected
    · rw [List.mem_singleton.mp added] at managed
      exact absurd (integrated.symm.trans managed) (by decide)

variable [DecidableEq Value]

theorem set (tracked : Tracked manager) (name : String) (value : Value) (keeps : manager.KeepsEnv (manager.set name value)) :
    Tracked (manager.set name value) where
  seen state member ran := by
    obtain ⟨last, rest, runs, seen⟩ := tracked.seen state member ran
    exact ⟨last, rest, runs, seen.set name value⟩
  env state member managed collected := by
    rw [keeps state member managed collected]
    exact tracked.env state member managed collected

theorem rebuilt (tracked : Tracked manager) {config : String → Option Value} {paths : Value}
    {connectors : List (Connector Value)} (keeps : manager.KeepsEnv (manager.rebuilt config paths connectors)) :
    Tracked (manager.rebuilt config paths connectors) where
  seen state member ran := by
    obtain ⟨connector, _, rfl⟩ := List.mem_map.mp member
    cases ran
  env state member managed collected := by
    rw [services_rebuilt] at member
    rw [keeps state member managed collected]
    exact tracked.env state member managed collected

end Tracked

/-! ## One tick -/

theorem due_collect_runPhase (manager : ConnectorManager Value) (phase : ConnectorPhase) (connect : Connect Value)
    (state : ConnectorState Value) :
    (manager.runPhase phase connect).collectConnectorEnvForNew.due state = manager.due state := by
  rw [due, ready_collect]
  rfl

theorem connectors_both (manager : ConnectorManager Value) (connect : Connect Value) :
    (((manager.runPhase .preStart connect).collectConnectorEnvForNew).runPhase .postStart connect).connectors =
      manager.connectors.map fun state =>
        if manager.due state then state.connected manager.configStore connect else state := by
  rw [runPhase]
  simp only [due_collect_runPhase]
  show (manager.connectors.map _).map _ = _
  rw [List.map_map]
  apply List.map_congr_left
  intro state _
  cases phase : state.connector.phase with
  | preStart =>
      by_cases due : manager.due state = true
      · simp [phase, due, ConnectorState.connected]
      · simp [phase, due]
  | postStart =>
      by_cases due : manager.due state = true
      · simp [phase, due]
        rfl
      · simp [phase, due]

theorem collected_of_tick {manager : ConnectorManager Value} {state : ServiceState}
    (member : state ∈ manager.collectConnectorEnvForNew.services) (installed : state.phase.awaitsInstall = false) :
    state.connectorEnvCollected = true := by
  obtain ⟨before, held, rfl⟩ := List.mem_map.mp member
  unfold ServiceState.collectConnectorEnv at installed ⊢
  split
  · rename_i skipped
    rw [if_pos skipped] at installed
    rw [installed, Bool.or_false] at skipped
    exact skipped
  · rfl

theorem applied_of_not_due {manager : ConnectorManager Value} {state : ConnectorState Value} (tracked : Tracked manager)
    (member : state ∈ manager.connectors) (ready : manager.ready state.connector = true) (idle : manager.due state = false)
    (steady : manager.Failed state → state.shouldRun manager.configStore = true) :
    state.applied = some (manager.configStore.valuesFor state.connector.dependsOn) := by
  have rests : state.shouldRun manager.configStore = false := by
    rw [due, ready, Bool.true_and] at idle
    exact idle
  obtain ⟨ran, unchanged⟩ := Bool.or_eq_false_iff.mp rests
  obtain ⟨last, rest, runs, seen⟩ := tracked.seen state member (Bool.not_eq_false' _ ▸ ran)
  cases ok : last.ok with
  | true =>
      rw [ConnectorState.applied, runs, List.find?_cons_of_pos ok, Option.map_some, seen.valuesFor_eq unchanged]
  | false =>
      by_contra unapplied
      have failed : state.lastFailed = true := by
        rw [ConnectorState.lastFailed, runs]
        simp [ok]
      have runsAgain := steady ⟨ready, failed, unapplied⟩
      rw [rests] at runsAgain
      cases runsAgain

section Tick
variable [DecidableEq Value] {manager : ConnectorManager Value} {connect : Connect Value} {paths : Value}

theorem tracked_tick (tracked : Tracked manager) (settled : manager.Settled (.tick connect paths)) :
    Tracked (manager.runConnectorsTick connect paths) := by
  refine (((tracked.runPhase .preStart connect).collect).runPhase .postStart connect).set _ _ ?_
  intro state member managed _
  obtain ⟨before, held, rfl⟩ := List.mem_map.mp member
  have same : (before.collectConnectorEnv ((manager.runPhase .preStart connect).envFor before.name)).service =
      before.service := by
    rw [ServiceState.collectConnectorEnv]
    split <;> rfl
  have kept := settled.2.2 before held (same ▸ managed)
  have named : (before.collectConnectorEnv ((manager.runPhase .preStart connect).envFor before.name)).name = before.name :=
    congrArg Service.name same
  rw [named, envFor_runPhase, envFor_collect, envFor_runPhase, ← kept]
  refine envFor_congr _ ?_ fun _ _ => rfl
  show (((manager.runPhase .preStart connect).collectConnectorEnvForNew).runPhase .postStart connect).connectors.map _ = _
  rw [connectors_both, List.map_map]
  apply List.map_congr_left
  intro state _
  rw [Function.comp_apply]
  split <;> rfl

theorem store_tick (manager : ConnectorManager Value) (connect : Connect Value) (paths : Value) :
    (manager.runConnectorsTick connect paths).configStore = manager.configStore.set "backup_paths" paths := rfl

theorem ready_tick (manager : ConnectorManager Value) (connect : Connect Value) (paths : Value) (connector : Connector Value) :
    (manager.runConnectorsTick connect paths).ready connector = (manager.updateBackupPaths paths).ready connector := by
  refine ready_congr ?_ fun _ _ => rfl
  show (manager.runPhase .preStart connect).collectConnectorEnvForNew.services.map _ = manager.services.map _
  rw [collectConnectorEnvForNew, List.map_map]
  apply List.map_congr_left
  intro state _
  rw [Function.comp_apply, ServiceState.collectConnectorEnv]
  split <;> rfl

theorem settled_reads (settled : manager.Settled (.tick connect paths)) {state : ConnectorState Value}
    (member : state ∈ manager.connectors) (ready : (manager.updateBackupPaths paths).ready state.connector = true) :
    ∀ dep ∈ state.connector.dependsOn,
      (manager.configStore.set "backup_paths" paths).get dep = manager.configStore.get dep := by
  intro dep depends
  rw [VersionedStore.get_set]
  split
  · rename_i same
    subst same
    exact (settled.2.1 state member ready depends).symm
  · rfl

theorem applied_tick (tracked : Tracked manager) (settled : manager.Settled (.tick connect paths))
    {state : ConnectorState Value} (member : state ∈ manager.connectors)
    (succeeds : manager.due state = true →
      connect state.connector (manager.configStore.valuesFor state.connector.dependsOn) = true)
    (ready : (manager.updateBackupPaths paths).ready state.connector = true) :
    (if manager.due state then state.connected manager.configStore connect else state).applied =
      some ((manager.configStore.set "backup_paths" paths).valuesFor state.connector.dependsOn) := by
  have reads := settled_reads settled member ready
  rw [VersionedStore.valuesFor_congr reads]
  split
  · rename_i due
    simp [ConnectorState.applied, ConnectorState.connected, succeeds due]
  · rename_i idle
    have same : (manager.updateBackupPaths paths).ready state.connector = manager.ready state.connector :=
      ready_congr rfl fun dep depends => congrArg Option.isSome (reads dep depends)
    rw [same] at ready
    exact applied_of_not_due tracked member ready (Bool.eq_false_of_not_eq_true idle) (settled.1 state member)

theorem tickApplies_of_settled (tracked : Tracked manager) (settled : manager.Settled (.tick connect paths)) :
    manager.TickApplies connect paths := by
  have connectors : (manager.runConnectorsTick connect paths).connectors = _ := connectors_both manager connect
  refine ⟨fun succeeds => ⟨?_, ?_⟩, ?_⟩
  · intro after member ready
    rw [connectors] at member
    obtain ⟨state, held, rfl⟩ := List.mem_map.mp member
    have same : (if manager.due state then state.connected manager.configStore connect else state).connector =
        state.connector := by split <;> rfl
    rw [same, ready_tick] at ready
    rw [same, store_tick]
    exact applied_tick tracked settled held (succeeds state held) ready
  · intro state member managed installed
    exact (tracked_tick tracked settled).env state member managed (collected_of_tick member installed)
  · intro state member failed
    rw [connectors]
    have due : manager.due state = true := by
      rw [due, failed.1, settled.1 state member failed, Bool.and_self]
    exact List.mem_map.mpr ⟨state, member, if_pos due⟩

end Tick

/-! ## Whole runs -/

section Runs
variable [DecidableEq Value]

theorem tracked_step {manager after : ConnectorManager Value} {event : Event Value} (tracked : Tracked manager)
    (settled : manager.Settled event) (taken : step manager event = some after) : Tracked after := by
  cases event with
  | set name value =>
      cases taken
      exact tracked.set name value settled
  | lifecycle name phase postStartDone =>
      cases taken
      exact tracked.changeService name phase postStartDone
  | addIntegratedService service =>
      obtain ⟨integrated, same⟩ := Option.ite_none_right_eq_some.mp taken
      cases same
      exact tracked.addIntegrated integrated
  | tick connect paths =>
      cases taken
      exact tracked_tick tracked settled
  | reload config paths connectors connect =>
      cases taken
      exact ((tracked.rebuilt settled).runPhase .preStart connect).collect

/-- A run up to a tick, all of whose steps are settled. -/
theorem ticks_apply (services : List Service) (connectors : List (Connector Value)) (store : ConfigStore Value)
    (events : List (Event Value)) (connect : Connect Value) (paths : Value) (manager : ConnectorManager Value)
    (settled : Meets step Settled (init services connectors store) (events ++ [.tick connect paths]))
    (ran : run step (init services connectors store) events = some manager) : manager.TickApplies connect paths := by
  obtain ⟨before, last⟩ := (meets_append_iff ran).mp settled
  have tracked : Tracked manager :=
    run_invariant_of_meets (fun _ _ _ tracked settled taken => tracked_step tracked settled taken)
      (Tracked.init services connectors store) before ran
  exact tickApplies_of_settled tracked last.1

end Runs

/-! ## OpenCode and its cloud provider -/

def opencode : Service := ⟨"opencode", .managed, "opencode", ⟨"opencode", [], ∅⟩, false⟩

def cloudOpencode : Connector String where
  name := "cloud→opencode"
  phase := .preStart
  dependsOn := ["opencode", "cloud"]
  serviceEnv name configs :=
    if name = "opencode" then (configs.lookup "cloud").elim ∅ (Finmap.insert "ANTHROPIC_API_KEY" · ∅) else ∅

def providers : ConfigStore String :=
  VersionedStore.set (VersionedStore.set (VersionedStore.set ∅ "opencode" "") "cloud" "old") "backup_paths" ""

theorem ticks_apply_after_install :
    ∃ manager, run step (init [opencode] [cloudOpencode] providers) [.lifecycle "opencode" .stopped false] = some manager ∧
      manager.TickApplies (fun _ _ => true) "" := by
  refine ⟨_, rfl, ticks_apply [opencode] [cloudOpencode] providers [.lifecycle "opencode" .stopped false]
    (fun _ _ => true) "" _ ?_ rfl⟩
  refine ⟨trivial, fun _ first => ?_⟩
  cases first
  refine ⟨⟨?_, ?_, ?_⟩, fun _ _ => trivial⟩
  · rintro state (_ | ⟨_, ⟨⟩⟩) -
    rfl
  · rintro state (_ | ⟨_, ⟨⟩⟩) - depends
    exact absurd depends (by decide)
  · rintro state (_ | ⟨_, ⟨⟩⟩) -
    rfl

/-- A connector that failed is not run again, and a key that changes does not reach the service. -/
theorem failed_connector_or_stale_env :
    (∃ manager, run step (init [opencode] [cloudOpencode] providers)
        [.lifecycle "opencode" .stopped false, .tick (fun _ _ => false) ""] = some manager ∧
      ¬ manager.TickApplies (fun _ _ => true) "") ∧
    ∃ manager, run step (init [opencode] [cloudOpencode] providers)
        [.lifecycle "opencode" .stopped false, .tick (fun _ _ => true) "", .set "cloud" "new"] = some manager ∧
      ¬ manager.TickApplies (fun _ _ => true) "" := by
  constructor
  · refine ⟨_, rfl, fun applies => ?_⟩
    have applied := (applies.1 fun _ _ _ => rfl).1 _ (List.mem_singleton.mpr rfl) (by decide)
    cases applied
  · refine ⟨_, rfl, fun applies => ?_⟩
    have env := (applies.1 fun _ _ _ => rfl).2 _ (List.mem_singleton.mpr rfl) rfl rfl
    have key := congrArg (Finmap.lookup "ANTHROPIC_API_KEY") env
    exact absurd key (by decide)

end MacMgmt.Proof.Connectors
