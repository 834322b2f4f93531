import MacMgmt.Proof.Agent.TickPasses

/-!
# What a healthy phase means

The last pass of a tick settles the phase: a service leaves it healthy only with a check that returned `true` and a list that
shows it live. The same pass is the only one that resets the crash count.
-/

namespace MacMgmt.Proof.Agent.HealthyPhase
open Lib MacMgmt.Supervisor MacMgmt.Agent MacMgmt.Agent.ServiceManager MacMgmt.Proof.Agent.TickPasses

/-- The list shows the service live, with a pid or as an entry without a spec, and its check returned `true`. -/
def ShownLive (listing : Listing) (answers : Answers) (service : Service) : Prop :=
  answers.checkHealth service = some true ∧ ∃ statuses status, listing = some statuses ∧
    lastNamed statuses service.name = some status ∧ status.stopped = false ∧
      (status.pid.isSome = true ∨ status.spec = none)

theorem shownLive_of_allows {listing : Listing} {answers : Answers} {state : ServiceState}
    (managed : state.service.mode = .managed) (checked : answers.checkHealth state.service = some true)
    (allows : state.supervisorAllowsHealthy (liveMap listing) = true) : ShownLive listing answers state.service := by
  simp only [ServiceState.supervisorAllowsHealthy, managed, liveMap] at allows
  cases listing with
  | none => simp [lastNamed] at allows
  | some statuses =>
      cases found : lastNamed statuses state.name with
      | none => simp [found] at allows
      | some status =>
          simp [found, supervisorStatusLive] at allows
          exact ⟨checked, statuses, status, rfl, found, allows.1, allows.2⟩

/-! ## The last pass -/

structure SameCrashes (before after : ServiceState) : Prop where
  service : after.service = before.service
  consecutiveCrashes : after.consecutiveCrashes = before.consecutiveCrashes

theorem service_applyHealthCheck (state : ServiceState) (answers : Answers) (live : ServiceState.LiveMap) :
    (state.applyHealthCheck answers live).service = state.service :=
  (ServiceState.Evolves.applyHealthCheck state answers live).service

theorem shownLive_of_healthy {listing : Listing} {answers : Answers} {state : ServiceState}
    (managed : state.service.mode = .managed)
    (healthy : (state.applyHealthCheck answers (liveMap listing)).phase = .healthy) :
    ShownLive listing answers state.service := by
  unfold ServiceState.applyHealthCheck at healthy
  split at healthy
  · split at healthy
    · rename_i checked
      split at healthy
      · rename_i allows
        exact shownLive_of_allows managed checked allows
      · cases healthy
    · cases healthy
    · split at healthy
      · rename_i unhealthy
        rw [unhealthy] at healthy
        cases healthy
      · cases healthy
  · rename_i unchecked
    simp [ServiceState.checkable, healthy] at unchecked

theorem crashes_applyHealthCheck {listing : Listing} {answers : Answers} {state : ServiceState}
    (managed : state.service.mode = .managed) :
    (state.applyHealthCheck answers (liveMap listing)).consecutiveCrashes = state.consecutiveCrashes ∨
      (state.applyHealthCheck answers (liveMap listing)).consecutiveCrashes = 0 ∧
        ShownLive listing answers state.service := by
  unfold ServiceState.applyHealthCheck
  split
  · split
    · rename_i checked
      split
      · rename_i allows
        exact .inr ⟨rfl, shownLive_of_allows managed checked allows⟩
      · exact .inl rfl
    · exact .inl rfl
    · split
      · exact .inl rfl
      · exact .inl rfl
  · exact .inl rfl

/-! ## The passes before it -/

theorem sameCrashes_passes : Passes SameCrashes where
  refl _ := ⟨rfl, rfl⟩
  trans one two := ⟨two.service.trans one.service, two.consecutiveCrashes.trans one.consecutiveCrashes⟩
  started _ := ⟨rfl, rfl⟩
  listed _ _ := ⟨rfl, rfl⟩

theorem sameCrashes_expire (state : ServiceState) (now : Nat) : SameCrashes state (state.expireCrashBackoff now) := by
  unfold ServiceState.expireCrashBackoff
  split
  · exact ⟨rfl, rfl⟩
  · split
    · exact ⟨rfl, rfl⟩
    · exact ⟨rfl, rfl⟩

theorem sameCrashes_checkDrift (state : ServiceState) (current : Option String) (timestamp : Nat) :
    SameCrashes state (state.checkDrift current timestamp) := by
  unfold ServiceState.checkDrift
  split
  · exact ⟨rfl, rfl⟩
  · split
    · exact ⟨rfl, rfl⟩
    · exact ⟨rfl, rfl⟩
    · exact ⟨rfl, rfl⟩

theorem sameCrashes_lifecycleStep (state : ServiceState) (gate : UpgradeGate) (answers : Answers) (timestamp : Nat) :
    SameCrashes state (state.lifecycleStep gate answers timestamp).1 := by
  have drifted (restartPending : Bool) (current : Option String) :
      SameCrashes state ({ state with restartPending := restartPending }.checkDrift current timestamp) :=
    ⟨(sameCrashes_checkDrift _ current timestamp).service, (sameCrashes_checkDrift _ current timestamp).consecutiveCrashes⟩
  unfold ServiceState.lifecycleStep
  simp only
  split
  · exact ⟨rfl, rfl⟩
  · split
    · exact ⟨rfl, rfl⟩
    · split
      · split
        · exact ⟨(drifted _ _).service, (drifted _ _).consecutiveCrashes⟩
        · exact ⟨(drifted _ _).service, (drifted _ _).consecutiveCrashes⟩
      · exact drifted _ _

theorem sameCrashes_advance (state : ServiceState) (gate : UpgradeGate) (answers : Answers) (timestamp : Nat)
    (live : ServiceState.LiveMap) : SameCrashes state (state.advance gate answers timestamp live).1 := by
  have stepped := sameCrashes_lifecycleStep state gate answers timestamp
  unfold ServiceState.advance
  generalize state.lifecycleStep gate answers timestamp = result at stepped ⊢
  obtain ⟨after, step⟩ := result
  simp only
  split
  · exact ⟨stepped.service, stepped.consecutiveCrashes⟩
  · exact stepped

theorem sameCrashes_updateFirst_crash {before after : List ServiceState} (same : List.Forall₂ SameCrashes before after)
    (name : ServiceName) (now : Nat) :
    List.Forall₂ SameCrashes (updateFirst name (·.crash now) before) (updateFirst name (·.crash now) after) := by
  induction same with
  | nil => exact .nil
  | @cons old new olds news first rest ih =>
      have names : new.name = old.name := congrArg Service.name first.service
      by_cases here : old.name = name
      · simp only [updateFirst, names, here, if_true]
        exact .cons ⟨first.service, congrArg (· + 1) first.consecutiveCrashes⟩ rest
      · simp only [updateFirst, names, here, if_false]
        exact .cons first ih

theorem sameCrashes_notifications {before after : List ServiceState} (same : List.Forall₂ SameCrashes before after)
    (notifications : List Notification) (now : Nat) :
    List.Forall₂ SameCrashes (notifications.foldl (notify now) before) (notifications.foldl (notify now) after) := by
  induction notifications generalizing before after with
  | nil => exact same
  | cons notification notifications ih =>
      cases notification with
      | log name line isStderr => exact ih same
      | crashed name exitCode => exact ih (sameCrashes_updateFirst_crash same name now)

/-! ## The tick -/

theorem drained_spec (inputs : TickInputs) {base : List ServiceState} {manager : ServiceManager}
    (moved : Moved SameCrashes base (some .connected) manager) :
    (readSupervisor inputs).wp
      (fun _ => Moved SameCrashes (inputs.notifications.foldl (notify inputs.now) base) (some .connected))
      (fun _ => True) manager := by
  refine Async.wp_bind.mpr (Async.wp_mono (Async.wp_weaken_dropped
    (moved_refresh sameCrashes_passes inputs.answers inputs.refresh moved) fun _ _ => trivial) fun _ after refreshed => ?_)
  unfold drainNotifications
  rw [Async.wp_bind, Async.wp_read, refreshed.client]
  exact Async.wp_modify.mpr ⟨sameCrashes_notifications refreshed.services _ _, refreshed.client⟩

theorem healthTickBody_spec (inputs : TickInputs) (count : Nat) (manager : ServiceManager)
    (connected : manager.client = some .connected) :
    (healthTickBody inputs true count).wp
      (fun _ after => ∃ services,
        List.Forall₂ SameCrashes (inputs.notifications.foldl (notify inputs.now) manager.services) services ∧
        after.services = services.map (·.applyHealthCheck inputs.answers (liveMap inputs.live)))
      (fun _ => True) manager := by
  have start := connected ▸ moved_refl sameCrashes_passes manager
  have registered := moved_ensureRegistered sameCrashes_passes inputs count start
  refine Async.wp_bind.mpr (Async.wp_mono (Async.wp_weaken_dropped registered fun _ _ => trivial) fun _ _ registered => ?_)
  refine Async.wp_bind.mpr (Async.wp_mono (drained_spec inputs registered) fun _ _ drained => ?_)
  have listed := moved_supervisorLiveMap inputs.live drained
  refine Async.wp_bind.mpr (Async.wp_mono (Async.wp_weaken_dropped listed fun _ _ => trivial) fun live after listed => ?_)
  obtain ⟨rfl, listed⟩ := listed
  have managed := moved_manageLifecycle sameCrashes_passes inputs true (liveMap inputs.live)
    (fun state => sameCrashes_expire state inputs.now)
    (fun state => sameCrashes_advance state inputs.gate inputs.answers inputs.now _) listed
  refine Async.wp_bind.mpr (Async.wp_mono (Async.wp_weaken_dropped managed fun _ _ => trivial) fun _ _ managed => ?_)
  exact Async.wp_bind.mpr (Async.wp_await.mpr ⟨Async.wp_modify.mpr ⟨_, managed.services, rfl⟩, trivial⟩)

theorem healthTick_spec (inputs : TickInputs) {manager : ServiceManager} (connected : manager.client = some .connected)
    (managed : manager.hasManaged = true) :
    (healthTick inputs).wp
      (fun _ after => ∃ services,
        List.Forall₂ SameCrashes (inputs.notifications.foldl (notify inputs.now) manager.services) services ∧
        after.services = services.map (·.applyHealthCheck inputs.answers (liveMap inputs.live)))
      (fun _ => True) manager := by
  have inhabited : ¬ manager.services.isEmpty = true := by
    intro empty
    rw [List.isEmpty_iff] at empty
    simp [hasManaged, empty] at managed
  unfold healthTick ensureClient
  rw [Async.wp_bind, Async.wp_read, if_neg inhabited, managed, if_pos rfl]
  simp only [Async.wp_bind, Async.wp_read, connected, Async.wp_pure]
  exact Async.wp_when (fun _ => healthTickBody_spec inputs _ manager connected) (absurd · (by decide))

theorem forall₂_notifications (notifications : List Notification) (now : Nat) (services : List ServiceState) :
    List.Forall₂ (fun before after => after.service = before.service) services
      (notifications.foldl (notify now) services) := by
  induction notifications generalizing services with
  | nil => exact List.forall₂_same.mpr fun _ _ => rfl
  | cons notification notifications ih =>
      cases notification with
      | log name line isStderr => exact ih services
      | crashed name exitCode =>
          have first : List.Forall₂ (fun before after : ServiceState => after.service = before.service) services
              (updateFirst name (·.crash now) services) := forall₂_updateFirst (fun _ => rfl) fun _ _ => rfl
          exact forall₂_trans (fun one two => two.trans one) first (ih _)

/-- With a connected supervisor a managed service ends a tick healthy, or with its crashes reset, only if it was shown live. -/
theorem healthy_and_reset (inputs : TickInputs) (manager : ServiceManager) (connected : manager.client = some .connected)
    (i : Nat) (before : ServiceState) (found : manager.services[i]? = some before)
    (managed : before.service.mode = .managed) :
    ∃ noted after, (inputs.notifications.foldl (notify inputs.now) manager.services)[i]? = some noted ∧
      ((healthTick inputs).finish manager).2.services[i]? = some after ∧
      after.service = before.service ∧
      (after.phase = .healthy → ShownLive inputs.live inputs.answers after.service) ∧
      (after.consecutiveCrashes = noted.consecutiveCrashes ∨
        after.consecutiveCrashes = 0 ∧ ShownLive inputs.live inputs.answers after.service) := by
  have some : manager.hasManaged = true :=
    List.any_eq_true.mpr ⟨before, List.mem_of_getElem? found, decide_eq_true managed⟩
  obtain ⟨services, same, ended⟩ := (healthTick_spec inputs connected some).1
  obtain ⟨noted, counted, kept⟩ :=
    forall₂_getElem? (forall₂_notifications inputs.notifications inputs.now manager.services).flip found
  obtain ⟨last, here, one⟩ := forall₂_getElem? same.flip counted
  have service : last.service = before.service := one.service.trans kept
  rw [← service] at managed
  refine ⟨noted, last.applyHealthCheck inputs.answers (liveMap inputs.live), counted, by simp [ended, here], ?_, ?_, ?_⟩
  · exact (service_applyHealthCheck last _ _).trans service
  · intro healthy
    rw [service_applyHealthCheck]
    exact shownLive_of_healthy managed healthy
  · rw [service_applyHealthCheck, ← one.consecutiveCrashes]
    exact crashes_applyHealthCheck managed

def web : Service := ⟨"web", .managed, "web", ⟨"web", [], ∅⟩, false⟩

def restarted : ServiceManager :=
  { ServiceManager.init [] false ∅ [] with
    services := [{ ServiceState.new web .starting false true none with registered := true, consecutiveCrashes := 2 }]
    client := some .connected }

def liveTick : TickInputs where
  gate := .anytime
  connects := true
  registers _ := ⟨true, true⟩
  refresh := none
  notifications := [.crashed "other" none]
  live := some [⟨"web", some 42, none, none, none, false⟩]
  unregisters _ := ⟨true, true⟩
  reregisters _ := ⟨true, true⟩
  refreshAgain := none
  answers := {}
  now := 100

theorem healthy_and_reset_web :
    ∃ noted after : ServiceState, (liveTick.notifications.foldl (notify liveTick.now) restarted.services)[0]? = some noted ∧
      ((healthTick liveTick).finish restarted).2.services[0]? = some after ∧
      after.service = web ∧
      (after.phase = .healthy → ShownLive liveTick.live liveTick.answers after.service) ∧
      (after.consecutiveCrashes = noted.consecutiveCrashes ∨
        after.consecutiveCrashes = 0 ∧ ShownLive liveTick.live liveTick.answers after.service) :=
  healthy_and_reset liveTick restarted rfl 0 _ rfl rfl

end MacMgmt.Proof.Agent.HealthyPhase
