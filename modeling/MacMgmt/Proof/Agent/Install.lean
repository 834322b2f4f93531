import MacMgmt.Lib.Run
import MacMgmt.Proof.Agent.Tracks

/-!
# Services are registered after their install

Every operation of the manager keeps the services guarded, so that the Register requests and the phase changes of a
run are right. The operations that do not look at the phase before they assign it, or before they register, do so under
the conditions of `InstallSafe` only.
-/

namespace MacMgmt.Agent.ServiceManager
open Lib Supervisor ServiceState

/-- Every Register request was sent for a service whose last install attempt had succeeded, and every service left the
install phases properly. -/
structure InstallsGuarded (manager : ServiceManager) : Prop where
  registers : ∀ sent ∈ manager.registers, sent.installed = true
  changes : ∀ state ∈ manager.services, ∀ change ∈ state.history, change.Proper

/-! ## The condition -/

def nextUpdate (manager : ServiceManager) : Option InstallUpdate :=
  manager.installRx.bind fun task => task.channel.head?

def RestartsSafe (services : List ServiceState) (inputs : TickInputs) : Prop :=
  ∀ state ∈ services, state.awaitsInstall → state.integrated = false →
    state.restartDue inputs.gate inputs.answers = false

/-- The conditions on the crashes and restarts matter when the tick gets past `ensure_client`, which a manager without
managed services does not call; the running store paths are refreshed before the restarts are decided. -/
def TickSafe (manager : ServiceManager) (inputs : TickInputs) : Prop :=
  manager.hasManaged → manager.ResetSafe ∧ (manager.available inputs.connects →
    CrashesSafe manager.services inputs.notifications ∧
      RestartsSafe (refreshed inputs.answers inputs.refresh manager.services) inputs)

/-- An operation is safe when it resets no phase of a service that awaits its install and registers no such service,
and when the install update it handles comes from the last attempt of the service it names. -/
def InstallSafe (manager : ServiceManager) : Event → Prop
  | .recvInstallUpdate => ∀ update ∈ manager.nextUpdate, update.ok →
      ∀ state ∈ firstNamed manager.services update.name, state.attempt = some update.attempt
  | .healthTick inputs | .healthTickDropped inputs _ => manager.TickSafe inputs
  | .connectAll _ => manager.ResetSafe
  | .applyConfig config _ _ => toRemove manager.currentNames config.services ≠ [] → manager.ResetSafe
  | .applyServices desired _ _ => toRemove manager.configuredNames desired ≠ [] → manager.ResetSafe
  | .sendUpdateSelf reply => manager.tearsDown reply → manager.NoneAwaitsInstall
  | .installed _ | .installedDetached .. | .disconnected | .retryFailedInstalls | .addIntegratedService _
  | .connectorsTick _ | .checkUpgrades _ | .scheduleRestart _ => True

variable {base : List ServiceState} {client : Option Client} {manager : ServiceManager}

/-! ## The health tick -/

theorem Tracks.ensureRegistered (inputs : TickInputs) (i : Nat) (tracks : Tracks base client manager) :
    (ensureRegistered inputs i).wp (fun _ => Tracks base client) Guarded manager := by
  unfold ServiceManager.ensureRegistered
  rw [Async.wp_bind, Async.wp_read]
  split
  · rename_i state found
    refine Async.wp_when (fun wanted => ?_) fun _ => tracks
    simp only [Bool.and_eq_true, Bool.not_eq_true', decide_eq_true_eq] at wanted
    refine tracks.registerService _ fun other same => ?_
    rw [found] at same
    cases same
    exact ⟨wanted.2, by simp [integrated, wanted.1.2]⟩
  · exact Async.wp_pure.mpr tracks

theorem Tracks.supervisorLiveMap (listing : Listing) (tracks : Tracks base client manager) :
    (supervisorLiveMap listing).wp (fun _ => Tracks base client) Guarded manager := by
  unfold ServiceManager.supervisorLiveMap
  rw [Async.wp_bind, Async.wp_read]
  split
  · exact Async.wp_bind.mpr (Async.wp_await.mpr ⟨Async.wp_pure.mpr tracks, tracks.guarded⟩)
  · exact Async.wp_pure.mpr tracks

theorem Tracks.lifecycle (inputs : TickInputs) (live : LiveMap) (tracks : Tracks base client manager)
    (safe : RestartsSafe base inputs) :
    (lifecycle inputs live).wp (fun pending after => Tracks after.services client after ∧
      ∀ i ∈ pending, Ready after.services i) Guarded manager := by
  have guarded : Guarded { manager with services := (manager.services.map fun state =>
      state.advance inputs.gate inputs.answers inputs.now live).map Prod.fst } := by
    refine tracks.guarded.withServices fun state member => ?_
    simp only [List.mem_map] at member
    obtain ⟨_, ⟨before, earlier, rfl⟩, rfl⟩ := member
    exact guarded_advance _ _ _ _ (tracks.guarded.services before earlier)
  refine Async.wp_bind.mpr (Async.wp_read.mpr (Async.wp_bind.mpr (Async.wp_modify.mpr (Async.wp_pure.mpr ⟨?_, ?_⟩))))
  · exact ⟨guarded, List.forall₂_same.mpr fun state _ => .refl state, tracks.client⟩
  · intro i wanted state found
    simp only [List.mem_filter, List.getElem?_map] at wanted found
    cases earlier : manager.services[i]? with
    | none => simp [earlier] at found
    | some before =>
        simp only [earlier, Option.map_some, Option.any_some, Option.some.injEq] at wanted found
        subst found
        refine advance_reregister wanted.2 fun awaits managed => ?_
        obtain ⟨first, member, evolved⟩ := forall₂_mem tracks.evolved (List.mem_of_getElem? earlier)
        have same := evolved.same awaits
        subst same
        exact safe _ member awaits managed

theorem Tracks.readSupervisor (inputs : TickInputs) (tracks : Tracks base (some .connected) manager)
    (safe : CrashesSafe base inputs.notifications) :
    (readSupervisor inputs).wp
      (fun _ => Tracks (refreshed inputs.answers inputs.refresh base) (some .connected)) Guarded manager := by
  refine Async.wp_bind.mpr (Async.wp_mono (tracks.refreshRunningStorePaths _ _) fun _ after current => ?_)
  exact current.drainNotifications _ (safe.refreshed inputs.answers inputs.refresh)

theorem Tracks.manageLifecycle (inputs : TickInputs) (hasManaged : Bool) (live : LiveMap)
    (tracks : Tracks base client manager) (connected : hasManaged = true → client = some .connected)
    (safe : RestartsSafe base inputs) :
    (manageLifecycle inputs hasManaged live).wp (fun _ => Guarded) Guarded manager := by
  have expired := tracks.evolve (forall₂_map fun state _ => .expireCrashBackoff state inputs.now)
  refine Async.wp_bind.mpr (Async.wp_modify.mpr (Async.wp_bind.mpr ?_))
  refine Async.wp_mono (expired.lifecycle inputs live safe) fun pending stepped ⟨current, ready⟩ => ?_
  have loop := Async.wp_forEach (fun i wanted other (reached : Tracks stepped.services client other) =>
    reached.reregisterService (inputs.unregisters i) (inputs.reregisters i) (reached.ready (ready i wanted))) current
  refine Async.wp_bind.mpr (Async.wp_mono loop fun _ restarted done => ?_)
  refine Async.wp_when (fun again => ?_) fun _ => done.guarded
  obtain rfl := connected (Bool.and_eq_true_iff.mp again).2
  exact Async.wp_mono (done.refreshRunningStorePaths _ _) fun _ after reached => reached.guarded

theorem Guarded.checkHealth (inputs : TickInputs) (live : LiveMap) (guarded : manager.Guarded) :
    (checkHealth inputs live).wp (fun _ => Guarded) Guarded manager := by
  refine Async.wp_bind.mpr (Async.wp_await.mpr ⟨Async.wp_modify.mpr ?_, guarded⟩)
  exact (guarded.tracks.evolve (forall₂_map fun state _ => .applyHealthCheck state inputs.answers live)).guarded

theorem Guarded.integrated (guarded : manager.Guarded) (unmanaged : manager.hasManaged = false) :
    ∀ state ∈ manager.services, state.integrated = true := by
  intro state member
  simp only [hasManaged, List.any_eq_false, decide_eq_true_eq] at unmanaged
  have mode := (guarded.services state member).mode
  cases kind : state.service.mode with
  | managed => exact absurd kind (unmanaged state member)
  | installOnly => exact absurd kind mode
  | integrated => simp [ServiceState.integrated, kind]

theorem Tracks.registered (inputs : TickInputs) (count : Nat) (tracks : Tracks base client manager) :
    (Async.forEach (ServiceManager.ensureRegistered inputs) (List.range count)).wp (fun _ => Tracks base client)
      Guarded manager :=
  Async.wp_forEach (fun i _ _ reached => reached.ensureRegistered inputs i) tracks

theorem Tracks.phases (inputs : TickInputs) (hasManaged : Bool) (live : LiveMap) (tracks : Tracks base client manager)
    (connected : hasManaged = true → client = some .connected) (safe : RestartsSafe base inputs) :
    (do ServiceManager.manageLifecycle inputs hasManaged live
        checkHealth inputs live).wp (fun _ => Guarded) Guarded manager :=
  Async.wp_bind.mpr (Async.wp_mono (tracks.manageLifecycle inputs hasManaged live connected safe)
    fun _ _ guarded => guarded.checkHealth inputs live)

theorem Tracks.healthTickManaged (inputs : TickInputs) (count : Nat) (tracks : Tracks base (some .connected) manager)
    (crashes : CrashesSafe base inputs.notifications)
    (restarts : RestartsSafe (refreshed inputs.answers inputs.refresh base) inputs) :
    (healthTickBody inputs true count).wp (fun _ => Guarded) Guarded manager := by
  refine Async.wp_bind.mpr (Async.wp_mono (tracks.registered inputs count) fun _ registered current => ?_)
  refine Async.wp_bind.mpr (Async.wp_mono (current.readSupervisor inputs crashes) fun _ gathered reached => ?_)
  refine Async.wp_bind.mpr (Async.wp_mono (reached.supervisorLiveMap inputs.live) fun live listed known => ?_)
  exact known.phases inputs true live (fun _ => rfl) restarts

theorem Tracks.healthTickUnmanaged (inputs : TickInputs) (count : Nat) (tracks : Tracks base client manager)
    (restarts : RestartsSafe base inputs) :
    (healthTickBody inputs false count).wp (fun _ => Guarded) Guarded manager := by
  refine Async.wp_bind.mpr (Async.wp_mono (tracks.registered inputs count) fun _ registered current => ?_)
  exact current.phases inputs false (liveMap none) (fun absurd => by cases absurd) restarts

theorem Guarded.healthTick (inputs : TickInputs) (guarded : manager.Guarded) (safe : manager.TickSafe inputs) :
    (healthTick inputs).wp (fun _ => Guarded) Guarded manager := by
  unfold ServiceManager.healthTick
  rw [Async.wp_bind, Async.wp_read]
  split
  · exact Async.wp_pure.mpr guarded
  · cases managed : manager.hasManaged with
    | false =>
        refine guarded.tracks.healthTickUnmanaged inputs _ fun state member _ unintegrated => ?_
        rw [guarded.integrated managed state member] at unintegrated
        cases unintegrated
    | true =>
        obtain ⟨reset, later⟩ := safe managed
        refine Async.wp_bind.mpr (Async.wp_mono (guarded.tracks.ensureClient inputs.connects reset) ?_)
        intro clientOk after ⟨result, kept, connected⟩
        refine Async.wp_when (fun ok => ?_) fun _ => kept
        obtain ⟨crashes, restarts⟩ := later (result ▸ ok)
        exact (connected ok).healthTickManaged inputs _ crashes restarts

/-! ## Connecting -/

theorem Tracks.connectService (inputs : ConnectInputs) (running : List ServiceStatus) (i : Nat)
    (tracks : Tracks base client manager) :
    (connectService inputs running i).wp (fun _ => Tracks base client) Guarded manager := by
  unfold ServiceManager.connectService
  rw [Async.wp_bind, Async.wp_read]
  split
  · rename_i state found
    split
    · exact Async.wp_pure.mpr tracks
    · rename_i wanted
      simp only [Bool.or_eq_true, not_or, Bool.not_eq_true] at wanted
      have ready : Ready manager.services i := by
        intro other same
        rw [found] at same
        cases same
        exact ⟨wanted.2, wanted.1⟩
      split
      · rename_i status listed
        refine Async.wp_modify.mpr (tracks.evolve (forall₂_modify .refl fun other same => ?_))
        exact .adopt inputs.answers status (ready other same).1
      · exact tracks.registerService _ ready
  · exact Async.wp_pure.mpr tracks

theorem Guarded.connectAll (inputs : ConnectInputs) (guarded : manager.Guarded) (safe : manager.ResetSafe) :
    (connectAll inputs).wp (fun _ => Guarded) Guarded manager := by
  refine Async.wp_bind.mpr (Async.wp_mono (guarded.tracks.ensureClient inputs.connects safe) ?_)
  intro clientOk after ⟨result, kept, connected⟩
  refine Async.wp_when (fun ok => ?_) fun _ => kept
  have current := connected ok
  refine Async.wp_bind.mpr (Async.wp_await.mpr ⟨Async.wp_bind.mpr (Async.wp_read.mpr ?_), current.guarded⟩)
  refine Async.wp_bind.mpr (Async.wp_mono (Async.wp_forEach
    (fun i _ _ reached => Tracks.connectService inputs _ i reached) current) fun _ reached done => ?_)
  exact Async.wp_mono (done.refreshRunningStorePaths _ _) fun _ _ last => last.guarded

/-! ## Reconciling -/

theorem Guarded.stopAndUnregister (inputs : ReconcileInputs) (name : ServiceName) (guarded : manager.Guarded) :
    (stopAndUnregister inputs name).wp (fun _ => Guarded) Guarded manager := by
  have dropped := (guarded.tracks.unregister name (inputs.unregisters name)).guarded
  unfold ServiceManager.stopAndUnregister
  simp only [Async.wp_bind, Async.wp_await, Async.wp_modify]
  exact ⟨⟨dropped, dropped⟩, guarded⟩

theorem Guarded.removeServices (inputs : ReconcileInputs) (removed : List ServiceName) (guarded : manager.Guarded)
    (safe : removed ≠ [] → manager.ResetSafe) :
    (removeServices inputs removed).wp (fun _ => Guarded) Guarded manager := by
  have retained (after : ServiceManager) (kept : after.Guarded) : (after.retain removed).Guarded :=
    ⟨kept.registers, fun state member => kept.services state (List.mem_of_mem_filter member), kept.updates⟩
  refine Async.wp_bind.mpr (Async.wp_when (fun some => Async.wp_bind.mpr ?_) fun _ =>
    Async.wp_modify.mpr (retained manager guarded))
  have reset := safe (by simpa using some)
  refine Async.wp_mono (guarded.tracks.ensureClient inputs.connects reset) ?_
  intro clientOk after ⟨result, kept, connected⟩
  refine Async.wp_when (fun ok => ?_) fun _ => Async.wp_modify.mpr (retained after kept)
  refine Async.wp_mono (Async.wp_forEach (fun name _ _ reached => Guarded.stopAndUnregister inputs name reached) kept) ?_
  exact fun _ last reached => Async.wp_modify.mpr (retained last reached)

theorem Guarded.addServices (current : List ServiceName) (desired : List Service)
    (restartPending connectorEnvCollected : Bool) (guarded : manager.Guarded) :
    (manager.addServices current desired restartPending connectorEnvCollected).Guarded := by
  refine ⟨guarded.registers, fun state member => ?_, guarded.updates⟩
  cases List.mem_append.mp member with
  | inl before => exact guarded.services state before
  | inr added =>
      obtain ⟨⟨service, attempt⟩, new, same⟩ := List.mem_map.mp added
      subst same
      have mode := (List.mem_filter.mp new).2
      exact guarded_new (by simpa using mode) (.inl rfl)

theorem sameInstall_restartPending (state : ServiceState) (pending : Bool) :
    SameInstall state { state with restartPending := pending } :=
  ⟨rfl, rfl, rfl, rfl⟩

theorem sameInstall_restartChanged (current : List ServiceName) (before after : Sections) (answers : Answers)
    (state : ServiceState) : SameInstall state (restartChanged current before after answers state) := by
  unfold restartChanged
  split
  · exact sameInstall_restartPending state true
  · split
    · exact .refl state
    · exact sameInstall_scheduleRestart state answers

theorem Guarded.applyConfig (config : Config) (inputs : ReconcileInputs) (answers : Answers) (guarded : manager.Guarded)
    (safe : toRemove manager.currentNames config.services ≠ [] → manager.ResetSafe) :
    (applyConfig config inputs answers).wp (fun _ => Guarded) Guarded manager := by
  unfold ServiceManager.applyConfig
  simp only [Async.wp_bind, Async.wp_read, Async.wp_modify]
  have collected : ({ manager with lastConfig := config.sections }.collectConnectorEnvForNew
      config.serviceEnv).Guarded := by
    have edited : Guarded { manager with lastConfig := config.sections } :=
      ⟨guarded.registers, guarded.services, guarded.updates⟩
    exact edited.mapServices fun state => sameInstall_collectConnectorEnv state _
  refine Async.wp_mono (collected.removeServices inputs _ fun some disconnected => ?_) fun _ after kept => ?_
  · intro state member
    obtain ⟨before, earlier, changed⟩ := List.mem_map.mp member
    subst changed
    rw [(sameInstall_collectConnectorEnv before _).awaitsInstall]
    exact safe some disconnected before earlier
  · exact (kept.addServices _ _ _ _).mapServices (sameInstall_restartChanged _ _ _ _)

theorem Guarded.applyServices (desired : List Service) (restartNames : List ServiceName) (inputs : ReconcileInputs)
    (guarded : manager.Guarded) (safe : toRemove manager.configuredNames desired ≠ [] → manager.ResetSafe) :
    (applyServices desired restartNames inputs).wp (fun _ => Guarded) Guarded manager := by
  unfold ServiceManager.applyServices
  simp only [Async.wp_bind, Async.wp_read, Async.wp_modify]
  refine Async.wp_mono (guarded.removeServices inputs _ safe) fun _ after kept => ?_
  refine (kept.addServices _ _ _ _).mapServices fun state => ?_
  split
  · exact sameInstall_restartPending state true
  · exact .refl state

/-! ## Installs -/

theorem Guarded.succeed (attempt : AttemptId) (ok : Bool) (guarded : manager.Guarded) :
    (manager.succeed attempt ok).Guarded := by
  have grown : ∀ {other}, other ∈ manager.succeeded → other ∈ (manager.succeed attempt ok).succeeded := by
    intro other member
    cases ok with
    | false => exact member
    | true => exact List.mem_cons_of_mem attempt member
  refine ⟨guarded.registers, fun state member => ?_, fun task held update sent good => ?_⟩
  · have kept := guarded.services state member
    refine ⟨kept.changes, fun out managed => ?_, kept.mode⟩
    have installed := kept.installed out managed
    simp only [Option.any_eq_true, decide_eq_true_eq] at installed ⊢
    obtain ⟨last, latest, member⟩ := installed
    exact ⟨last, latest, grown member⟩
  · exact grown (guarded.updates task held update sent good)

theorem Guarded.installed {ok : Bool} {after : ServiceManager} (guarded : manager.Guarded)
    (done : manager.installed ok = some after) : after.Guarded := by
  simp only [ServiceManager.installed, Option.bind_eq_bind, Option.bind_eq_some_iff] at done
  obtain ⟨task, held, ⟨next, attempt⟩, finished, same⟩ := done
  cases same
  have base := guarded.succeed attempt ok
  refine ⟨base.registers, base.services, fun other same update sent good => ?_⟩
  cases same
  unfold InstallTask.installed at finished
  split at finished
  · cases finished
  · cases finished
    cases List.mem_append.mp sent with
    | inl earlier => exact base.updates task held update earlier good
    | inr last =>
        cases List.mem_singleton.mp last
        simp [ServiceManager.succeed, show ok = true from good]

theorem Guarded.installedDetached {i : Nat} {ok : Bool} {after : ServiceManager} (guarded : manager.Guarded)
    (done : manager.installedDetached i ok = some after) : after.Guarded := by
  simp only [ServiceManager.installedDetached, Option.bind_eq_bind, Option.bind_eq_some_iff] at done
  obtain ⟨task, held, ⟨next, attempt⟩, finished, same⟩ := done
  cases same
  have base := guarded.succeed attempt ok
  exact ⟨base.registers, base.services, base.updates⟩

theorem Guarded.updateNamed {name : ServiceName} {change : ServiceState → ServiceState} (guarded : manager.Guarded)
    (one : ∀ state, firstNamed manager.services name = some state → (change state).Guarded manager.succeeded) :
    (manager.updateNamed name change).Guarded := by
  refine guarded.withServices fun state member => ?_
  have related : List.Forall₂ (fun before after => before.Guarded manager.succeeded → after.Guarded manager.succeeded)
      manager.services (updateFirst name change manager.services) :=
    forall₂_updateFirst (fun _ kept => kept) fun state found _ => one state found
  obtain ⟨before, earlier, kept⟩ := forall₂_mem related member
  exact kept (guarded.services before earlier)

theorem Guarded.handleInstallUpdate {update : InstallUpdate} (guarded : manager.Guarded)
    (good : update.ok → update.attempt ∈ manager.succeeded)
    (latest : update.ok → ∀ state ∈ firstNamed manager.services update.name, state.attempt = some update.attempt) :
    (manager.handleInstallUpdate update).Guarded := by
  unfold ServiceManager.handleInstallUpdate
  split
  · rename_i ok
    refine guarded.updateNamed fun state found => ?_
    have kept := guarded.services state (List.mem_of_find?_eq_some found)
    exact guarded_installSucceeded kept (by simp [latest ok state found, good ok])
  · refine guarded.updateNamed fun state found => ?_
    exact guarded_installFails (guarded.services state (List.mem_of_find?_eq_some found))

theorem Guarded.recvInstallUpdate {after : ServiceManager} (guarded : manager.Guarded)
    (safe : manager.InstallSafe .recvInstallUpdate) (received : manager.recvInstallUpdate = some after) :
    after.Guarded := by
  simp only [ServiceManager.recvInstallUpdate, Option.bind_eq_bind, Option.bind_eq_some_iff] at received
  obtain ⟨⟨queue, channel⟩, held, received⟩ := received
  cases channel with
  | cons update channel =>
      cases received
      have rest : Guarded { manager with installRx := some ⟨queue, channel⟩ } := by
        refine ⟨guarded.registers, guarded.services, fun other same later member => ?_⟩
        cases same
        exact guarded.updates _ held later (List.mem_cons_of_mem update member)
      refine rest.handleInstallUpdate (guarded.updates _ held update List.mem_cons_self) ?_
      exact safe update (by simp [nextUpdate, held])
  | nil =>
      cases queue with
      | nil =>
          cases received
          exact ⟨guarded.registers, guarded.services, fun task absent => by cases absent⟩
      | cons next queue => cases received

theorem Guarded.retryFailedInstalls (guarded : manager.Guarded) : manager.retryFailedInstalls.Guarded := by
  unfold ServiceManager.retryFailedInstalls
  split
  · exact guarded
  · split
    · refine ⟨guarded.registers, fun state member => ?_, fun task same update sent => ?_⟩
      · obtain ⟨i, bound, requeued⟩ := List.mem_mapIdx.mp member
        subst requeued
        exact guarded_withAttempt _ (guarded_requeue (guarded.services _ (List.getElem_mem bound)))
      · cases same
        cases sent
    · exact guarded

theorem guarded_initWith (services : List Service) (connectorEnvCollected inprocess : Bool) (config : Sections)
    (supervisor : List ServiceName) :
    (initWith services connectorEnvCollected inprocess config supervisor).Guarded := by
  refine ⟨fun sent member => (by cases member), fun state member => ?_, fun task same update sent => ?_⟩
  · obtain ⟨⟨service, attempt⟩, managed, made⟩ := List.mem_map.mp member
    subst made
    have mode := (List.mem_filter.mp (List.fst_mem_of_mem_zipIdx managed)).2
    exact guarded_new (by simpa using mode) (.inl rfl)
  · cases same
    cases sent

/-! ## Runs -/

theorem Guarded.step {after : ServiceManager} (event : Event) (guarded : manager.Guarded)
    (safe : manager.InstallSafe event) (taken : manager.step event = some after) : after.Guarded := by
  cases event with
  | installed ok => exact guarded.installed taken
  | installedDetached i ok => exact guarded.installedDetached taken
  | disconnected =>
      cases taken
      exact ⟨guarded.registers, guarded.services, guarded.updates⟩
  | recvInstallUpdate => exact guarded.recvInstallUpdate safe taken
  | retryFailedInstalls =>
      cases taken
      exact guarded.retryFailedInstalls
  | addIntegratedService service =>
      simp only [ServiceManager.step] at taken
      split at taken
      · rename_i integrated
        cases taken
        refine guarded.withServices fun state member => ?_
        cases List.mem_append.mp member with
        | inl before => exact guarded.services state before
        | inr new =>
            cases List.mem_singleton.mp new
            exact guarded_new (by simp [integrated]) (.inr integrated)
      · cases taken
  | connectorsTick serviceEnv =>
      cases taken
      exact guarded.mapServices fun state => sameInstall_collectConnectorEnv state _
  | checkUpgrades answers =>
      cases taken
      exact guarded.mapServices fun state => sameInstall_checkUpgrade state answers
  | healthTick inputs =>
      cases taken
      exact (guarded.healthTick inputs safe).1
  | healthTickDropped inputs i =>
      exact (guarded.healthTick inputs safe).2 after (List.mem_of_getElem? taken)
  | connectAll inputs =>
      cases taken
      exact (guarded.connectAll inputs safe).1
  | scheduleRestart answers =>
      cases taken
      exact guarded.mapServices fun state => sameInstall_scheduleRestart state answers
  | applyConfig config inputs answers =>
      cases taken
      exact (guarded.applyConfig config inputs answers safe).1
  | applyServices desired restartNames inputs =>
      cases taken
      exact (guarded.applyServices desired restartNames inputs safe).1
  | sendUpdateSelf reply =>
      cases taken
      unfold sendUpdateSelf
      split
      · rename_i torn
        exact (guarded.tracks.tearDown .updateSelf (safe torn)).guarded
      · exact guarded

theorem Guarded.installsGuarded (guarded : manager.Guarded) : manager.InstallsGuarded :=
  ⟨guarded.registers, fun state member => (guarded.services state member).changes⟩

/-- In a run whose steps are all safe, every Register request is for a service whose last install attempt has
succeeded, and services leave the install phases properly. -/
theorem installs_guarded (services : List Service) (connectorEnvCollected inprocess : Bool) (config : Sections)
    (supervisor : List ServiceName) (events : List Event) {final : ServiceManager}
    (safe : Meets step InstallSafe (initWith services connectorEnvCollected inprocess config supervisor) events)
    (ran : run step (initWith services connectorEnvCollected inprocess config supervisor) events = some final) :
    final.InstallsGuarded :=
  Guarded.installsGuarded (run_invariant_of_meets
    (fun _ event _ guarded safe taken => guarded.step event safe taken)
    (guarded_initWith services connectorEnvCollected inprocess config supervisor) safe ran)

instance (manager : ServiceManager) : Decidable manager.NoneAwaitsInstall :=
  inferInstanceAs (Decidable (∀ state ∈ manager.services, state.awaitsInstall = false))

instance (manager : ServiceManager) : Decidable manager.ResetSafe :=
  inferInstanceAs (Decidable (manager.client = some .disconnected → manager.NoneAwaitsInstall))

instance (services : List ServiceState) (notifications : List Notification) :
    Decidable (CrashesSafe services notifications) :=
  inferInstanceAs (Decidable (∀ notification ∈ notifications, ∀ name ∈ crashedName notification,
    ∀ state ∈ firstNamed services name, state.awaitsInstall = false))

instance (services : List ServiceState) (inputs : TickInputs) : Decidable (RestartsSafe services inputs) :=
  inferInstanceAs (Decidable (∀ state ∈ services, state.awaitsInstall → state.integrated = false →
    state.restartDue inputs.gate inputs.answers = false))

instance (manager : ServiceManager) (inputs : TickInputs) : Decidable (manager.TickSafe inputs) :=
  inferInstanceAs (Decidable (manager.hasManaged → manager.ResetSafe ∧ (manager.available inputs.connects →
    CrashesSafe manager.services inputs.notifications ∧
      RestartsSafe (refreshed inputs.answers inputs.refresh manager.services) inputs)))

instance (manager : ServiceManager) (event : Event) : Decidable (manager.InstallSafe event) :=
  match event with
  | .recvInstallUpdate => inferInstanceAs (Decidable (∀ update ∈ manager.nextUpdate, update.ok →
      ∀ state ∈ firstNamed manager.services update.name, state.attempt = some update.attempt))
  | .healthTick inputs | .healthTickDropped inputs _ => inferInstanceAs (Decidable (manager.TickSafe inputs))
  | .connectAll _ => inferInstanceAs (Decidable manager.ResetSafe)
  | .applyConfig config _ _ =>
      inferInstanceAs (Decidable (toRemove manager.currentNames config.services ≠ [] → manager.ResetSafe))
  | .applyServices desired _ _ =>
      inferInstanceAs (Decidable (toRemove manager.configuredNames desired ≠ [] → manager.ResetSafe))
  | .sendUpdateSelf reply => inferInstanceAs (Decidable (manager.tearsDown reply → manager.NoneAwaitsInstall))
  | .installed _ | .installedDetached .. | .disconnected | .retryFailedInstalls | .addIntegratedService _
  | .connectorsTick _ | .checkUpgrades _ | .scheduleRestart _ => .isTrue trivial

def hermes : Service := ⟨"hermes", .managed, "hermes", ⟨"hermes", ["gateway"], ∅⟩, false⟩

def calmTick : TickInputs where
  gate := .deferred
  connects := true
  registers := fun _ => ⟨true, true⟩
  refresh := none
  notifications := []
  live := none
  unregisters := fun _ => ⟨true, true⟩
  reregisters := fun _ => ⟨true, true⟩
  refreshAgain := none
  answers := {}
  now := 0

/-- The install fails and is retried, a tick goes by while it is under way, and the service crashes later. -/
def retriedInstall : List Event :=
  [.installed false, .recvInstallUpdate, .recvInstallUpdate, .retryFailedInstalls, .healthTick calmTick,
    .installed true, .recvInstallUpdate, .healthTickDropped calmTick 1, .healthTick calmTick,
    .healthTick { calmTick with notifications := [.crashed "hermes" (some 1)] }, .disconnected,
    .healthTick calmTick]

theorem installs_guarded_retried : ∃ final, run step (init [hermes] false ∅ []) retriedInstall = some final ∧
    final.registers.length = 3 ∧ final.InstallsGuarded :=
  ⟨_, rfl, rfl, @installs_guarded [hermes] false false ∅ [] retriedInstall _ (by decide) rfl⟩

/-- `schedule_restart` before the install has ended makes the next tick register the service. -/
theorem registered_before_install : ¬ ∀ (services : List Service) (inprocess : Bool) (config : Sections)
    (supervisor : List ServiceName) (events : List Event) (final : ServiceManager),
    run step (initWithServices services inprocess config supervisor) events = some final → final.InstallsGuarded := by
  intro all
  have guarded := all [hermes] true ∅ [] [.scheduleRestart {}, .healthTick calmTick] _ rfl
  exact absurd (guarded.registers ⟨"hermes", hermes.spawnSpec, false⟩ (by decide)) (by decide)

end MacMgmt.Agent.ServiceManager
