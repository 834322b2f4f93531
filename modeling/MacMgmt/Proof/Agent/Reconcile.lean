import MacMgmt.Agent.ServiceManager

/-!
# What a reconcile keeps

`apply_config` and `apply_services` seen through the service objects the manager holds. Both are the same function of
the held objects: it takes away the names that are no longer desired, whatever the supervisor answered, and adds the
names that are new.
-/

namespace MacMgmt.Agent
open Lib Supervisor

/-- What a reconcile is about: the objects of the services and of the install-only services, and the names
registered in the supervisor. -/
structure Held where
  services : List Service
  installOnly : List Service
  supervisor : List ServiceName
deriving DecidableEq

namespace Held

def objects (held : Held) : List Service := held.services ++ held.installOnly

def names (held : Held) : List ServiceName := held.objects.map Service.name

def unregister (held : Held) (dropped : ServiceName → Bool) : Held :=
  { held with supervisor := held.supervisor.filter fun name => !dropped name }

def retain (held : Held) (removed : List ServiceName) : Held :=
  { held with
    services := held.services.filter fun service => service.name ∉ removed
    installOnly := held.installOnly.filter fun service => service.name ∉ removed }

def add (held : Held) (current : List ServiceName) (desired : List Service) : Held :=
  let new := desired.filter fun service => service.name ∉ current
  { held with
    services := held.services ++ new.filter fun service => service.mode ≠ .installOnly
    installOnly := held.installOnly ++ new.filter fun service => service.mode = .installOnly }

def reconcile (held : Held) (current : List ServiceName) (desired : List Service) (unregistered : ServiceName → Bool) :
    Held :=
  let removed := ServiceManager.toRemove current desired
  ((held.unregister fun name => name ∈ removed && unregistered name).retain removed).add current desired

end Held

/-! ## The manager refines it -/

namespace ServiceManager

def held (manager : ServiceManager) : Held :=
  ⟨manager.services.map ServiceState.service, manager.installOnly, manager.supervisor⟩

theorem held_mapServices {manager : ServiceManager} {change : ServiceState → ServiceState}
    (same : ∀ state, (change state).service = state.service) : (manager.mapServices change).held = manager.held := by
  simp [held, mapServices, same]

theorem ensureClient_result (manager : ServiceManager) (connects : Bool) :
    ((ensureClient connects).finish manager).1 = manager.available connects := by
  cases manager with
  | mk services installOnly client =>
      cases client with
      | none => cases connects <;> rfl
      | some client => cases client <;> cases connects <;> rfl

theorem held_ensureClient (manager : ServiceManager) (connects : Bool) :
    ((ensureClient connects).finish manager).2.held = manager.held := by
  have torn : (manager.mapServices (·.tornDown .disconnected)).held = manager.held :=
    held_mapServices fun _ => rfl
  cases manager with
  | mk services installOnly client =>
      cases client with
      | none => cases connects <;> rfl
      | some client =>
          cases client with
          | connected => rfl
          | disconnected => cases connects <;> exact torn

theorem held_unregister (manager : ServiceManager) (name : ServiceName) (rpc : Rpc) :
    (manager.unregister name rpc).held = manager.held.unregister fun other => other = name && rpc.carriedOut := by
  cases rpc with
  | mk carriedOut ok => cases carriedOut <;> simp [held, unregister, Held.unregister]

theorem held_stopAndUnregister (inputs : ReconcileInputs) (removed : List ServiceName) (manager : ServiceManager) :
    ((Async.forEach (stopAndUnregister inputs) removed).finish manager).2.held =
      manager.held.unregister fun name => name ∈ removed && (inputs.unregisters name).carriedOut := by
  induction removed generalizing manager with
  | nil => simp [Async.forEach, Held.unregister]
  | cons name names ih =>
      have one : ((stopAndUnregister inputs name).finish manager).2.held = manager.held.unregister fun other =>
          other = name && (inputs.unregisters name).carriedOut := held_unregister _ _ _
      rw [Async.finish_forEach_cons, ih, one]
      simp only [Held.unregister, List.filter_filter]
      congr 1
      refine List.filter_congr fun other _ => ?_
      by_cases same : other = name
      · subst same
        cases (inputs.unregisters other).carriedOut <;> simp
      · simp [same]

theorem held_retain (manager : ServiceManager) (removed : List ServiceName) :
    (manager.retain removed).held = manager.held.retain removed := by
  simp only [held, retain, Held.retain, List.filter_map]
  rfl

theorem held_removeServices (inputs : ReconcileInputs) (removed : List ServiceName) (manager : ServiceManager) :
    ((removeServices inputs removed).finish manager).2.held =
      (manager.held.unregister fun name => name ∈ removed &&
        (manager.available inputs.connects && (inputs.unregisters name).carriedOut)).retain removed := by
  cases removed with
  | nil => simp [removeServices, held_retain, Held.unregister]
  | cons name names =>
      cases found : manager.available inputs.connects with
      | false =>
          simp [removeServices, ensureClient_result, found, held_retain, held_ensureClient, Held.unregister]
      | true =>
          simp [removeServices, ensureClient_result, found, held_retain, held_ensureClient, held_stopAndUnregister]

theorem held_addServices (manager : ServiceManager) (current : List ServiceName) (desired : List Service)
    (restartPending connectorEnvCollected : Bool) :
    (manager.addServices current desired restartPending connectorEnvCollected).held =
      manager.held.add current desired := by
  have added (keep : Service → Bool) : ((manager.newServices current desired).filter (keep ∘ Prod.fst)).map Prod.fst =
      (desired.filter fun service => service.name ∉ current).filter keep := by
    rw [newServices, ← List.filter_map, List.zipIdx_map_fst]
  simp only [held, addServices, Held.add, List.map_append, List.map_map, ← added]
  rfl

theorem held_applyServices (manager : ServiceManager) (desired : List Service) (restartNames : List ServiceName)
    (inputs : ReconcileInputs) :
    ((applyServices desired restartNames inputs).finish manager).2.held =
      manager.held.reconcile manager.configuredNames desired fun name =>
        manager.available inputs.connects && (inputs.unregisters name).carriedOut := by
  simp only [applyServices, Async.finish_bind, Async.finish_read, Async.finish_modify]
  rw [held_mapServices fun state => by split <;> rfl, held_addServices, held_removeServices]
  rfl

theorem restartChanged_service (current : List ServiceName) (before after : Sections) (answers : Answers)
    (state : ServiceState) : (restartChanged current before after answers state).service = state.service := by
  unfold restartChanged ServiceState.scheduleRestart
  repeat' split
  all_goals rfl

theorem held_applyConfig (manager : ServiceManager) (config : Config) (inputs : ReconcileInputs) (answers : Answers) :
    ((applyConfig config inputs answers).finish manager).2.held =
      manager.held.reconcile manager.currentNames config.services fun name =>
        manager.available inputs.connects && (inputs.unregisters name).carriedOut := by
  have collected : ({ manager with lastConfig := config.sections }.collectConnectorEnvForNew config.serviceEnv).held =
      manager.held := by
    refine held_mapServices fun state => ?_
    unfold ServiceState.collectConnectorEnv
    split <;> rfl
  simp only [applyConfig, Async.finish_bind, Async.finish_read, Async.finish_modify]
  rw [held_mapServices (restartChanged_service _ _ _ _), held_addServices, held_removeServices, collected]
  rfl

end ServiceManager

/-! ## The three requirements

No integrated service is removed, a service that is dropped is not registered in the supervisor any more, and every
desired service is held as the object of the desired list. For each of them there is the condition on the state before
under which a reconcile meets it. -/

def KeepsIntegrated (before after : Held) : Prop :=
  ∀ service ∈ before.services, service.mode = .integrated → service ∈ after.services

def DropsUnregistered (before after : Held) : Prop :=
  ∀ name ∈ before.names, name ∉ after.names → name ∉ after.supervisor

def HoldsDesired (desired : List Service) (after : Held) : Prop := ∀ service ∈ desired, service ∈ after.objects

structure Reconciled (before : Held) (desired : List Service) (after : Held) : Prop where
  integrated : KeepsIntegrated before after
  registered : DropsUnregistered before after
  desired : HoldsDesired desired after

def IntegratedDesired (held : Held) (current : List ServiceName) (desired : List Service) : Prop :=
  ∀ service ∈ held.services, service.mode = .integrated → service.name ∈ current →
    service.name ∈ desired.map Service.name

def RemovedUnregistered (held : Held) (current : List ServiceName) (desired : List Service)
    (unregistered : ServiceName → Bool) : Prop :=
  ∀ name ∈ current, name ∉ desired.map Service.name → name ∈ held.supervisor → unregistered name

def PresentUnchanged (held : Held) (current : List ServiceName) (desired : List Service) : Prop :=
  ∀ service ∈ desired, service.name ∈ current → service ∈ held.objects

namespace Held
variable {held : Held} {current : List ServiceName} {desired : List Service} {unregistered : ServiceName → Bool}
variable {service : Service} {name : ServiceName}

theorem mem_toRemove :
    name ∈ ServiceManager.toRemove current desired ↔ name ∈ current ∧ name ∉ desired.map Service.name := by
  simp [ServiceManager.toRemove]

theorem mem_reconcile_services : service ∈ (held.reconcile current desired unregistered).services ↔
    (service ∈ held.services ∧ service.name ∉ ServiceManager.toRemove current desired) ∨
      (service ∈ desired ∧ service.name ∉ current ∧ service.mode ≠ .installOnly) := by
  simp [reconcile, add, retain, unregister]
  tauto

theorem mem_reconcile_objects : service ∈ (held.reconcile current desired unregistered).objects ↔
    (service ∈ held.objects ∧ service.name ∉ ServiceManager.toRemove current desired) ∨
      (service ∈ desired ∧ service.name ∉ current) := by
  by_cases kind : service.mode = .installOnly <;>
    simp [objects, reconcile, add, retain, unregister, kind] <;> tauto

theorem mem_reconcile_supervisor : name ∈ (held.reconcile current desired unregistered).supervisor ↔
    name ∈ held.supervisor ∧ ¬(name ∈ ServiceManager.toRemove current desired ∧ unregistered name) := by
  simp [reconcile, add, retain, unregister]
  tauto

theorem mem_names : name ∈ held.names ↔ ∃ service ∈ held.objects, service.name = name := List.mem_map

theorem dropped_iff (known : ∀ name ∈ current, name ∈ held.names) :
    (name ∈ held.names ∧ name ∉ (held.reconcile current desired unregistered).names) ↔
      name ∈ ServiceManager.toRemove current desired := by
  constructor
  · intro ⟨present, gone⟩
    obtain ⟨service, member, same⟩ := mem_names.mp present
    by_contra kept
    subst same
    exact gone (mem_names.mpr ⟨service, mem_reconcile_objects.mpr (.inl ⟨member, kept⟩), rfl⟩)
  · intro removed
    obtain ⟨compared, undesired⟩ := mem_toRemove.mp removed
    refine ⟨known name compared, fun present => ?_⟩
    obtain ⟨service, member, same⟩ := mem_names.mp present
    subst same
    cases mem_reconcile_objects.mp member with
    | inl kept => exact kept.2 removed
    | inr added => exact undesired (List.mem_map_of_mem added.1)

theorem keepsIntegrated_iff :
    KeepsIntegrated held (held.reconcile current desired unregistered) ↔ IntegratedDesired held current desired := by
  constructor
  · intro keeps service member integrated compared
    by_contra undesired
    cases mem_reconcile_services.mp (keeps service member integrated) with
    | inl kept => exact kept.2 (mem_toRemove.mpr ⟨compared, undesired⟩)
    | inr added => exact undesired (List.mem_map_of_mem added.1)
  · intro desired service member integrated
    refine mem_reconcile_services.mpr (.inl ⟨member, fun removed => ?_⟩)
    obtain ⟨compared, undesired⟩ := mem_toRemove.mp removed
    exact undesired (desired service member integrated compared)

theorem dropsUnregistered_iff (known : ∀ name ∈ current, name ∈ held.names) :
    DropsUnregistered held (held.reconcile current desired unregistered) ↔
      RemovedUnregistered held current desired unregistered := by
  constructor
  · intro drops name compared undesired registered
    have removed := mem_toRemove.mpr ⟨compared, undesired⟩
    obtain ⟨present, gone⟩ := (dropped_iff known).mpr removed
    by_contra kept
    exact drops name present gone (mem_reconcile_supervisor.mpr ⟨registered, fun both => kept both.2⟩)
  · intro unregistered name present gone registered
    have removed := (dropped_iff known).mp ⟨present, gone⟩
    obtain ⟨before, kept⟩ := mem_reconcile_supervisor.mp registered
    obtain ⟨compared, undesired⟩ := mem_toRemove.mp removed
    exact kept ⟨removed, unregistered name compared undesired before⟩

theorem holdsDesired_iff :
    HoldsDesired desired (held.reconcile current desired unregistered) ↔ PresentUnchanged held current desired := by
  constructor
  · intro holds service member compared
    cases mem_reconcile_objects.mp (holds service member) with
    | inl kept => exact kept.1
    | inr added => exact absurd compared added.2
  · intro unchanged service member
    refine mem_reconcile_objects.mpr ?_
    by_cases compared : service.name ∈ current
    · refine .inl ⟨unchanged service member compared, fun removed => ?_⟩
      exact (mem_toRemove.mp removed).2 (List.mem_map_of_mem member)
    · exact .inr ⟨member, compared⟩

theorem reconciled_reconcile_iff (known : ∀ name ∈ current, name ∈ held.names) :
    Reconciled held desired (held.reconcile current desired unregistered) ↔
      IntegratedDesired held current desired ∧ RemovedUnregistered held current desired unregistered ∧
        PresentUnchanged held current desired := by
  constructor
  · intro reconciled
    exact ⟨keepsIntegrated_iff.mp reconciled.integrated, (dropsUnregistered_iff known).mp reconciled.registered,
      holdsDesired_iff.mp reconciled.desired⟩
  · intro ⟨integrated, registered, desired⟩
    exact ⟨keepsIntegrated_iff.mpr integrated, (dropsUnregistered_iff known).mpr registered,
      holdsDesired_iff.mpr desired⟩

end Held

namespace ServiceManager
variable (manager : ServiceManager)

theorem currentNames_eq : manager.currentNames = manager.held.names := by
  simp [currentNames, Held.names, Held.objects, held, ServiceState.name]

theorem mem_configuredNames {name : ServiceName} (configured : name ∈ manager.configuredNames) :
    name ∈ manager.held.names := by
  rw [← currentNames_eq]
  simp only [configuredNames, currentNames, List.mem_append, List.mem_map, List.mem_filter] at configured ⊢
  exact configured.imp_left fun ⟨state, member, same⟩ => ⟨state, member.1, same⟩

def unregisters (inputs : ReconcileInputs) (name : ServiceName) : Bool :=
  manager.available inputs.connects && (inputs.unregisters name).carriedOut

/-- A reconcile meets its three requirements exactly when every integrated service whose name is compared is desired,
every removed name that the supervisor has registered is unregistered, and every desired service whose name is
present is the object that is held. -/
theorem reconciled_iff (desired : List Service) (restartNames : List ServiceName) (config : Config)
    (inputs : ReconcileInputs) (answers : Answers) :
    (Reconciled manager.held desired ((applyServices desired restartNames inputs).finish manager).2.held ↔
      IntegratedDesired manager.held manager.configuredNames desired ∧
      RemovedUnregistered manager.held manager.configuredNames desired (manager.unregisters inputs) ∧
      PresentUnchanged manager.held manager.configuredNames desired) ∧
    (Reconciled manager.held config.services ((applyConfig config inputs answers).finish manager).2.held ↔
      IntegratedDesired manager.held manager.currentNames config.services ∧
      RemovedUnregistered manager.held manager.currentNames config.services (manager.unregisters inputs) ∧
      PresentUnchanged manager.held manager.currentNames config.services) := by
  constructor
  · rw [held_applyServices]
    exact Held.reconciled_reconcile_iff fun name configured => manager.mem_configuredNames configured
  · rw [held_applyConfig, currentNames_eq]
    exact Held.reconciled_reconcile_iff fun name present => present

/-! A manager with one managed service, registered in the supervisor, and one integrated service. -/

def ollama (args : List String) : Service := ⟨"ollama", .managed, "ollama", ⟨"ollama", args, ∅⟩, false⟩

def swarm : Service := ⟨"swarm", .integrated, "swarm", ⟨"swarm", [], ∅⟩, false⟩

def serving : ServiceManager :=
  { init [ollama ["serve"]] false ∅ ["ollama"] with
    services := [{ ServiceState.new (ollama ["serve"]) .healthy false true (some 0) with registered := true },
      .new swarm .healthy false true none]
    installRx := none
    succeeded := [0] }

theorem reconcile_loses_services :
    (¬KeepsIntegrated serving.held
      ((applyConfig ⟨∅, [ollama ["serve"]], fun _ => ∅⟩ ⟨true, fun _ => ⟨true, true⟩⟩ {}).finish serving).2.held) ∧
    (¬DropsUnregistered serving.held
      ((applyServices [] [] ⟨false, fun _ => ⟨false, false⟩⟩).finish serving).2.held) ∧
    (¬HoldsDesired [ollama ["serve", "--verbose"]]
      ((applyServices [ollama ["serve", "--verbose"]] ["ollama"] ⟨true, fun _ => ⟨true, true⟩⟩).finish serving).2.held) := by
  refine ⟨?_, ?_, ?_⟩
  · rw [held_applyConfig, Held.keepsIntegrated_iff]
    intro desired
    exact absurd (desired swarm (by decide) rfl (by decide)) (by decide)
  · rw [held_applyServices, Held.dropsUnregistered_iff fun name => serving.mem_configuredNames]
    intro unregistered
    exact absurd (unregistered "ollama" (by decide) (by decide) (by decide)) (by decide)
  · rw [held_applyServices, Held.holdsDesired_iff]
    intro unchanged
    exact absurd (unchanged _ (List.mem_singleton.mpr rfl) (by decide)) (by decide)

end ServiceManager
end MacMgmt.Agent
