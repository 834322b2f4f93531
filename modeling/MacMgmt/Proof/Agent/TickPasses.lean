import MacMgmt.Proof.Agent.Tracks

/-!
# The passes of a health tick over its services

A tick changes its services one by one, in passes. `Passes` lists what a relation between a service before and after must
allow for the passes that ask the supervisor, and each rule says that such a pass relates the services one by one.
-/

namespace MacMgmt.Proof.Agent.TickPasses
open Lib MacMgmt.Supervisor MacMgmt.Agent MacMgmt.Agent.ServiceManager

structure Passes (R : ServiceState → ServiceState → Prop) : Prop where
  refl : ∀ state, R state state
  trans : ∀ {a b c}, R a b → R b c → R a c
  started : ∀ state : ServiceState, R state state.started
  listed : ∀ (state : ServiceState) (path : Option String), R state { state with runningStorePath := path }

/-- The services have moved from `base`, and the client is as it was. -/
structure Moved (R : ServiceState → ServiceState → Prop) (base : List ServiceState) (client : Option Client)
    (manager : ServiceManager) : Prop where
  services : List.Forall₂ R base manager.services
  client : manager.client = client

abbrev Cut (R : ServiceState → ServiceState → Prop) (base : List ServiceState) (manager : ServiceManager) : Prop :=
  List.Forall₂ R base manager.services

section
variable {R : ServiceState → ServiceState → Prop} {base : List ServiceState} {client : Option Client}
  {manager : ServiceManager} (passes : Passes R)
include passes

theorem moved_refl (manager : ServiceManager) : Moved R manager.services manager.client manager :=
  ⟨List.forall₂_same.mpr fun state _ => passes.refl state, rfl⟩

theorem moved_change {services : List ServiceState} (moved : Moved R base client manager)
    (changed : List.Forall₂ R manager.services services) : Moved R base client { manager with services := services } :=
  ⟨forall₂_trans passes.trans moved.services changed, moved.client⟩

theorem moved_map {change : ServiceState → ServiceState} (moved : Moved R base client manager)
    (one : ∀ state, R state (change state)) : Moved R base client (manager.mapServices change) :=
  moved_change passes moved (forall₂_map fun state _ => one state)

theorem moved_registerService (rpc : Rpc) (i : Nat) (moved : Moved R base client manager) :
    (registerService rpc i).wp (fun _ => Moved R base client) (Cut R base) manager := by
  unfold ServiceManager.registerService
  rw [Async.wp_bind, Async.wp_read]
  split
  · simp only [Async.wp_bind, Async.wp_await, Async.wp_modify]
    refine ⟨⟨Async.wp_when (fun _ => Async.wp_modify.mpr ?_) fun _ => ⟨moved.services, moved.client⟩, moved.services⟩,
      moved.services⟩
    exact ⟨forall₂_trans passes.trans moved.services (forall₂_modify passes.refl fun state _ => passes.started state),
      moved.client⟩
  · exact Async.wp_pure.mpr moved

omit passes in
theorem moved_unregisterService (rpc : Rpc) (i : Nat) (moved : Moved R base client manager) :
    (unregisterService rpc i).wp (fun _ => Moved R base client) (Cut R base) manager := by
  unfold ServiceManager.unregisterService
  rw [Async.wp_bind, Async.wp_read]
  split
  · simp only [Async.wp_bind, Async.wp_await, Async.wp_modify]
    exact ⟨⟨⟨moved.services, moved.client⟩, moved.services⟩, moved.services⟩
  · exact Async.wp_pure.mpr moved

theorem moved_reregisterService (unregisters registers : Rpc) (i : Nat) (moved : Moved R base client manager) :
    (reregisterService unregisters registers i).wp (fun _ => Moved R base client) (Cut R base) manager :=
  Async.wp_bind.mpr (Async.wp_mono (moved_unregisterService unregisters i moved) fun _ _ dropped =>
    moved_registerService passes registers i dropped)

theorem forall₂_assignStorePaths (byName : Table ServiceName (Option String)) (services : List ServiceState) :
    List.Forall₂ R services (assignStorePaths byName services) := by
  induction services generalizing byName with
  | nil => exact .nil
  | cons state states ih =>
      simp only [assignStorePaths]
      split
      · exact .cons (passes.listed state _) (ih _)
      · exact .cons (passes.refl state) (ih _)

theorem forall₂_refreshed (answers : Answers) (listing : Listing) (services : List ServiceState) :
    List.Forall₂ R services (refreshed answers listing services) := by
  cases listing with
  | none => exact List.forall₂_same.mpr fun state _ => passes.refl state
  | some statuses => exact forall₂_assignStorePaths passes _ services

theorem moved_refresh (answers : Answers) (listing : Listing) (moved : Moved R base client manager) :
    (refreshRunningStorePaths answers listing).wp (fun _ => Moved R base client) (Cut R base) manager := by
  unfold ServiceManager.refreshRunningStorePaths
  rw [Async.wp_bind, Async.wp_read]
  refine Async.wp_when (fun _ => ?_) fun _ => moved
  refine Async.wp_bind.mpr (Async.wp_await.mpr ⟨Async.wp_modify.mpr ?_, moved.services⟩)
  exact moved_change passes moved (forall₂_refreshed passes answers listing manager.services)

theorem moved_ensureRegistered (inputs : TickInputs) (count : Nat) (moved : Moved R base client manager) :
    (Async.forEach (ensureRegistered inputs) (List.range count)).wp (fun _ => Moved R base client) (Cut R base)
      manager := by
  refine Async.wp_forEach (fun i _ manager moved => ?_) moved
  unfold ServiceManager.ensureRegistered
  rw [Async.wp_bind, Async.wp_read]
  split
  · exact Async.wp_when (fun _ => moved_registerService passes _ i moved) fun _ => moved
  · exact Async.wp_pure.mpr moved

omit passes in
theorem moved_supervisorLiveMap (listing : Listing) (moved : Moved R base (some .connected) manager) :
    (supervisorLiveMap listing).wp (fun live after => live = liveMap listing ∧ Moved R base (some .connected) after)
      (Cut R base) manager := by
  unfold ServiceManager.supervisorLiveMap
  rw [Async.wp_bind, Async.wp_read, moved.client]
  exact Async.wp_bind.mpr (Async.wp_await.mpr ⟨Async.wp_pure.mpr ⟨rfl, moved⟩, moved.services⟩)

theorem moved_manageLifecycle (inputs : TickInputs) (hasManaged : Bool) (live : ServiceState.LiveMap)
    (expired : ∀ state : ServiceState, R state (state.expireCrashBackoff inputs.now))
    (advanced : ∀ state : ServiceState, R state (state.advance inputs.gate inputs.answers inputs.now live).1)
    (moved : Moved R base client manager) :
    (manageLifecycle inputs hasManaged live).wp (fun _ => Moved R base client) (Cut R base) manager := by
  unfold ServiceManager.manageLifecycle ServiceManager.lifecycle
  simp only [Async.wp_bind, Async.wp_modify, Async.wp_read, Async.wp_pure]
  refine Async.wp_mono (Async.wp_forEach (fun i _ manager moved => moved_reregisterService passes _ _ i moved) ?_)
    fun _ after moved => Async.wp_when (fun _ => moved_refresh passes _ _ moved) fun _ => moved
  rw [List.map_map]
  exact moved_change passes (moved_map passes moved expired) (forall₂_map fun state _ => advanced state)

theorem moved_drainNotifications (notifications : List Notification) (now : Nat)
    (crashed : ∀ state : ServiceState, R state (state.crash now)) (moved : Moved R base client manager) :
    (drainNotifications notifications now).wp (fun _ => Moved R base client) (Cut R base) manager := by
  have one (services : List ServiceState) (notification : Notification) :
      List.Forall₂ R services (notify now services notification) := by
    cases notification with
    | log name line isStderr => exact List.forall₂_same.mpr fun state _ => passes.refl state
    | crashed name exitCode => exact forall₂_updateFirst passes.refl fun state _ => crashed state
  have all (services : List ServiceState) : List.Forall₂ R services (notifications.foldl (notify now) services) := by
    induction notifications generalizing services with
    | nil => exact List.forall₂_same.mpr fun state _ => passes.refl state
    | cons notification notifications ih => exact forall₂_trans passes.trans (one services notification) (ih _)
  refine Async.wp_bind.mpr (Async.wp_read.mpr (Async.wp_when (fun _ => Async.wp_modify.mpr ?_) fun _ => moved))
  exact moved_change passes moved (all manager.services)

theorem moved_ensureClient (connects : Bool) (tornDown : ∀ (state : ServiceState) (cause : Cause), R state (state.tornDown cause))
    (moved : Moved R base client manager) :
    (ensureClient connects).wp
      (fun ok after => Cut R base after ∧ (ok = true → Moved R base (some .connected) after)) (Cut R base) manager := by
  have connected (manager : ServiceManager) (services : Cut R base manager) :
      (connect connects).wp
        (fun ok after => Cut R base after ∧ (ok = true → Moved R base (some .connected) after)) (Cut R base) manager := by
    refine Async.wp_bind.mpr (Async.wp_await.mpr ⟨?_, services⟩)
    cases connects with
    | false => exact Async.wp_pure.mpr ⟨services, fun ok => nomatch ok⟩
    | true => exact Async.wp_bind.mpr (Async.wp_modify.mpr (Async.wp_pure.mpr ⟨services, fun _ => ⟨services, rfl⟩⟩))
  unfold ServiceManager.ensureClient
  rw [Async.wp_bind, Async.wp_read]
  split
  · rename_i there
    exact Async.wp_pure.mpr ⟨moved.services, fun _ => ⟨moved.services, there⟩⟩
  · rw [Async.wp_bind, Async.wp_modify]
    exact connected _ (moved_map passes moved fun state => tornDown state .disconnected).services
  · exact connected manager moved.services

end
end MacMgmt.Proof.Agent.TickPasses
