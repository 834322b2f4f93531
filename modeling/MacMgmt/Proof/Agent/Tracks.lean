import MacMgmt.Agent.ServiceManager
import MacMgmt.Lib.Pointwise
import MacMgmt.Proof.Agent.Phases

/-!
# Services that evolve

The parts that the manager's operations share (requests to the supervisor, the reconnect, the refresh of the store
paths, the notifications) keep the services guarded, and leave a service in an install phase exactly as they found it.
`Tracks base` says so relative to the services at an earlier point of the operation.
-/

namespace MacMgmt.Agent.ServiceManager
open Lib Supervisor ServiceState

def NoneAwaitsInstall (manager : ServiceManager) : Prop := ∀ state ∈ manager.services, state.awaitsInstall = false

def ResetSafe (manager : ServiceManager) : Prop :=
  manager.client = some .disconnected → manager.NoneAwaitsInstall

def firstNamed (services : List ServiceState) (name : ServiceName) : Option ServiceState :=
  services.find? fun state => state.name = name

def crashedName : Notification → Option ServiceName
  | .crashed name _ => some name
  | .log .. => none

def CrashesSafe (services : List ServiceState) (notifications : List Notification) : Prop :=
  ∀ notification ∈ notifications, ∀ name ∈ crashedName notification,
    ∀ state ∈ firstNamed services name, state.awaitsInstall = false

/-! ## Lists of services that evolve -/

section Lists
variable {R : ServiceState → ServiceState → Prop} {base services : List ServiceState}

theorem forall₂_updateFirst {change : ServiceState → ServiceState} {name : ServiceName}
    (reflexive : ∀ state, R state state)
    (one : ∀ state, firstNamed services name = some state → R state (change state)) :
    List.Forall₂ R services (updateFirst name change services) := by
  induction services with
  | nil => exact .nil
  | cons state states ih =>
      by_cases same : state.name = name
      · simp only [updateFirst, same, if_true]
        exact .cons (one state (by simp [firstNamed, same])) (List.forall₂_same.mpr fun other _ => reflexive other)
      · simp only [updateFirst, same, if_false]
        exact .cons (reflexive state) (ih fun other found => one other (by simpa [firstNamed, same] using found))

theorem forall₂_firstNamed {name : ServiceName} {state : ServiceState} (related : List.Forall₂ R base services)
    (same : ∀ {a b}, R a b → b.service = a.service) (found : firstNamed services name = some state) :
    ∃ before, firstNamed base name = some before ∧ R before state := by
  induction related with
  | nil => cases found
  | @cons before after befores afters first rest ih =>
      have names : after.name = before.name := congrArg Service.name (same first)
      by_cases here : before.name = name
      · simp only [firstNamed, List.find?_cons, names, here, decide_true] at found ⊢
        cases found
        exact ⟨before, rfl, first⟩
      · simp only [firstNamed, List.find?_cons, names, here, decide_false] at found ⊢
        exact ih found

end Lists

/-! ## The invariant -/

structure Guarded (manager : ServiceManager) : Prop where
  registers : ∀ sent ∈ manager.registers, sent.installed = true
  services : ∀ state ∈ manager.services, state.Guarded manager.succeeded
  updates : ∀ task ∈ manager.installRx, ∀ update ∈ task.channel, update.ok → update.attempt ∈ manager.succeeded

/-- The services have evolved from `base` since some point of an operation. -/
structure Tracks (base : List ServiceState) (client : Option Client) (manager : ServiceManager) : Prop where
  guarded : manager.Guarded
  evolved : List.Forall₂ Evolves base manager.services
  client : manager.client = client

def Ready (services : List ServiceState) (i : Nat) : Prop :=
  ∀ state, services[i]? = some state → state.awaitsInstall = false ∧ state.integrated = false

variable {base : List ServiceState} {client : Option Client} {manager : ServiceManager}

theorem Guarded.tracks (guarded : manager.Guarded) : Tracks manager.services manager.client manager :=
  ⟨guarded, List.forall₂_same.mpr fun state _ => .refl state, rfl⟩

theorem Guarded.withServices {services : List ServiceState} (guarded : manager.Guarded)
    (kept : ∀ state ∈ services, state.Guarded manager.succeeded) : { manager with services := services }.Guarded :=
  ⟨guarded.registers, kept, guarded.updates⟩

theorem Guarded.mapServices {change : ServiceState → ServiceState} (guarded : manager.Guarded)
    (same : ∀ state, SameInstall state (change state)) : (manager.mapServices change).Guarded := by
  refine guarded.withServices fun state member => ?_
  obtain ⟨before, earlier, changed⟩ := List.mem_map.mp member
  subst changed
  exact (same before).guarded (guarded.services before earlier)

theorem Tracks.evolve {services : List ServiceState} (tracks : Tracks base client manager)
    (evolved : List.Forall₂ Evolves manager.services services) :
    Tracks base client { manager with services := services } := by
  refine ⟨tracks.guarded.withServices fun state member => ?_, forall₂_trans .trans tracks.evolved evolved,
    tracks.client⟩
  obtain ⟨before, earlier, step⟩ := forall₂_mem evolved member
  exact step.guarded _ (tracks.guarded.services before earlier)

theorem Tracks.ready {i : Nat} (tracks : Tracks base client manager) (ready : Ready base i) :
    Ready manager.services i := by
  intro state found
  obtain ⟨before, earlier, evolved⟩ := forall₂_getElem? tracks.evolved found
  obtain ⟨out, managed⟩ := ready before earlier
  constructor
  · by_contra awaits
    rw [evolved.same (by simpa using awaits), out] at awaits
    exact awaits rfl
  · rw [← managed, integrated, integrated, evolved.service]

/-! ## Requests to the supervisor -/

theorem Tracks.register {state : ServiceState} {i : Nat} (rpc : Rpc) (tracks : Tracks base client manager)
    (found : manager.services[i]? = some state) (ready : Ready manager.services i) :
    Tracks base client (manager.register state rpc) := by
  refine ⟨⟨fun sent member => ?_, tracks.guarded.services, tracks.guarded.updates⟩, tracks.evolved, tracks.client⟩
  cases List.mem_cons.mp member with
  | inl new =>
      subst new
      obtain ⟨out, managed⟩ := ready state found
      exact (tracks.guarded.services state (List.mem_of_getElem? found)).installed out managed
  | inr earlier => exact tracks.guarded.registers sent earlier

theorem Tracks.unregister (name : ServiceName) (rpc : Rpc) (tracks : Tracks base client manager) :
    Tracks base client (manager.unregister name rpc) :=
  ⟨⟨tracks.guarded.registers, tracks.guarded.services, tracks.guarded.updates⟩, tracks.evolved, tracks.client⟩

theorem Tracks.registerService {i : Nat} (rpc : Rpc) (tracks : Tracks base client manager)
    (ready : Ready manager.services i) :
    (registerService rpc i).wp (fun _ => Tracks base client) Guarded manager := by
  unfold ServiceManager.registerService
  rw [Async.wp_bind, Async.wp_read]
  split
  · rename_i state _ found
    have sent := tracks.register rpc found ready
    simp only [Async.wp_bind, Async.wp_await, Async.wp_modify]
    refine ⟨⟨Async.wp_when (fun _ => Async.wp_modify.mpr ?_) fun _ => sent, sent.guarded⟩, tracks.guarded⟩
    refine sent.evolve (forall₂_modify .refl fun other same => .started ?_)
    exact (ready other same).1
  · exact Async.wp_pure.mpr tracks

theorem Tracks.unregisterService (i : Nat) (rpc : Rpc) (tracks : Tracks base client manager) :
    (unregisterService rpc i).wp (fun _ after => Tracks base client after ∧ after.services = manager.services)
      Guarded manager := by
  unfold ServiceManager.unregisterService
  rw [Async.wp_bind, Async.wp_read]
  split
  · rename_i state _ found
    have dropped := tracks.unregister state.name rpc
    simp only [Async.wp_bind, Async.wp_await, Async.wp_modify]
    exact ⟨⟨⟨dropped, rfl⟩, dropped.guarded⟩, tracks.guarded⟩
  · exact Async.wp_pure.mpr ⟨tracks, rfl⟩

theorem Tracks.reregisterService {i : Nat} (unregisters registers : Rpc) (tracks : Tracks base client manager)
    (ready : Ready manager.services i) :
    (reregisterService unregisters registers i).wp (fun _ => Tracks base client) Guarded manager := by
  refine Async.wp_bind.mpr (Async.wp_mono (tracks.unregisterService i unregisters) fun _ after dropped => ?_)
  exact dropped.1.registerService registers (dropped.2 ▸ ready)

theorem Tracks.tearDown (cause : Cause) (tracks : Tracks base client manager) (safe : manager.NoneAwaitsInstall) :
    Tracks base none (manager.tearDown cause) := by
  have torn := tracks.evolve (forall₂_map fun state member => .tornDown cause (safe state member))
  exact ⟨⟨torn.guarded.registers, torn.guarded.services, torn.guarded.updates⟩, torn.evolved, rfl⟩

theorem Tracks.connect (connects : Bool) (tracks : Tracks base client manager) :
    (connect connects).wp (fun result after => result = connects ∧ after.Guarded ∧
      (result = true → Tracks base (some .connected) after)) Guarded manager := by
  have guarded := tracks.guarded
  refine Async.wp_bind.mpr (Async.wp_await.mpr ⟨?_, guarded⟩)
  cases connects with
  | false => exact Async.wp_pure.mpr ⟨rfl, guarded, fun ok => by cases ok⟩
  | true =>
      have connected : Tracks base (some .connected) { manager with client := some .connected } :=
        ⟨⟨guarded.registers, guarded.services, guarded.updates⟩, tracks.evolved, rfl⟩
      exact Async.wp_bind.mpr (Async.wp_modify.mpr (Async.wp_pure.mpr ⟨rfl, connected.guarded, fun _ => connected⟩))

theorem Tracks.ensureClient (connects : Bool) (tracks : Tracks base client manager) (safe : manager.ResetSafe) :
    (ensureClient connects).wp (fun result after => result = manager.available connects ∧ after.Guarded ∧
      (result = true → Tracks base (some .connected) after)) Guarded manager := by
  unfold ServiceManager.ensureClient
  rw [Async.wp_bind, Async.wp_read]
  split
  · rename_i connected
    refine Async.wp_pure.mpr ⟨by simp [available, connected], tracks.guarded, fun _ => ?_⟩
    exact ⟨tracks.guarded, tracks.evolved, connected⟩
  · rename_i disconnected
    have unconnected : manager.available connects = connects := by simp [available, disconnected]
    rw [Async.wp_bind, Async.wp_modify, unconnected]
    exact (tracks.tearDown .disconnected (safe disconnected)).connect connects
  · rename_i absent
    have unconnected : manager.available connects = connects := by simp [available, absent]
    rw [unconnected]
    exact tracks.connect connects

/-! ## The running store paths -/

theorem evolved_assignStorePaths {services : List ServiceState} (byName : Table ServiceName (Option String))
    (evolved : List.Forall₂ Evolves base services) :
    List.Forall₂ Evolves (assignStorePaths byName base) (assignStorePaths byName services) := by
  induction evolved generalizing byName with
  | nil => exact .nil
  | @cons before after _ _ first rest ih =>
      have names : after.name = before.name := congrArg Service.name first.service
      cases found : byName.lookup before.name with
      | none =>
          have absent : byName.lookup after.name = none := names ▸ found
          simp only [assignStorePaths, found, absent]
          exact .cons first (ih _)
      | some path =>
          have present : byName.lookup after.name = some path := names ▸ found
          simp only [assignStorePaths, found, present, names]
          exact .cons (first.withStorePath path) (ih _)

theorem sameInstall_assignStorePaths (byName : Table ServiceName (Option String)) (services : List ServiceState) :
    List.Forall₂ SameInstall services (assignStorePaths byName services) := by
  induction services generalizing byName with
  | nil => exact .nil
  | cons state states ih =>
      simp only [assignStorePaths]
      split
      · exact .cons ⟨rfl, rfl, rfl, rfl⟩ (ih _)
      · exact .cons (.refl state) (ih _)

theorem sameInstall_refreshed (answers : Answers) (listing : Listing) (services : List ServiceState) :
    List.Forall₂ SameInstall services (refreshed answers listing services) := by
  cases listing with
  | none => exact List.forall₂_same.mpr fun state _ => .refl state
  | some statuses => exact sameInstall_assignStorePaths _ services

theorem Tracks.refresh (answers : Answers) (listing : Listing) (tracks : Tracks base client manager) :
    Tracks (refreshed answers listing base) client
      { manager with services := refreshed answers listing manager.services } := by
  refine ⟨tracks.guarded.withServices fun state member => ?_, ?_, tracks.client⟩
  · obtain ⟨before, earlier, same⟩ := forall₂_mem (sameInstall_refreshed answers listing manager.services) member
    exact same.guarded (tracks.guarded.services before earlier)
  · cases listing with
    | none => exact tracks.evolved
    | some statuses => exact evolved_assignStorePaths _ tracks.evolved

theorem Tracks.refreshRunningStorePaths (answers : Answers) (listing : Listing)
    (tracks : Tracks base (some .connected) manager) :
    (refreshRunningStorePaths answers listing).wp
      (fun _ => Tracks (refreshed answers listing base) (some .connected)) Guarded manager := by
  unfold ServiceManager.refreshRunningStorePaths
  rw [Async.wp_bind, Async.wp_read, tracks.client]
  exact Async.wp_bind.mpr (Async.wp_await.mpr ⟨Async.wp_modify.mpr (tracks.refresh answers listing), tracks.guarded⟩)

/-! ## Crashes -/

theorem CrashesSafe.mono {services : List ServiceState} {notifications : List Notification}
    (safe : CrashesSafe base notifications)
    (kept : ∀ name state, firstNamed services name = some state → state.awaitsInstall →
      ∃ before, firstNamed base name = some before ∧ before.awaitsInstall) : CrashesSafe services notifications := by
  intro notification member name named state found
  by_contra awaits
  obtain ⟨before, earlier, awaited⟩ := kept name state found (by simpa using awaits)
  rw [safe notification member name named before earlier] at awaited
  cases awaited

theorem CrashesSafe.evolved {services : List ServiceState} {notifications : List Notification}
    (safe : CrashesSafe base notifications) (evolved : List.Forall₂ Evolves base services) :
    CrashesSafe services notifications := by
  refine safe.mono fun name state found awaits => ?_
  obtain ⟨before, earlier, evolves⟩ := forall₂_firstNamed evolved (fun one => one.service) found
  exact ⟨before, earlier, by rwa [← evolves.same awaits]⟩

theorem CrashesSafe.refreshed {notifications : List Notification} (answers : Answers) (listing : Listing)
    (safe : CrashesSafe base notifications) : CrashesSafe (refreshed answers listing base) notifications := by
  refine safe.mono fun name state found awaits => ?_
  obtain ⟨before, earlier, same⟩ :=
    forall₂_firstNamed (sameInstall_refreshed answers listing base) (fun one => one.service) found
  exact ⟨before, earlier, by rwa [← same.awaitsInstall]⟩

theorem evolves_notify {services : List ServiceState} {notifications : List Notification} {notification : Notification}
    (now : Nat) (safe : CrashesSafe services notifications) (member : notification ∈ notifications) :
    List.Forall₂ Evolves services (notify now services notification) := by
  cases notification with
  | log name line isStderr => exact List.forall₂_same.mpr fun state _ => .refl state
  | crashed name exitCode =>
      refine forall₂_updateFirst .refl fun state found => .crash now ?_
      exact safe _ member name rfl state found

theorem evolves_notifications {services : List ServiceState} {notifications : List Notification} (now : Nat)
    (safe : CrashesSafe services notifications) :
    List.Forall₂ Evolves services (notifications.foldl (notify now) services) := by
  induction notifications generalizing services with
  | nil => exact List.forall₂_same.mpr fun state _ => .refl state
  | cons notification notifications ih =>
      have one := evolves_notify now safe List.mem_cons_self
      have later : CrashesSafe services notifications := fun other member =>
        safe other (List.mem_cons_of_mem notification member)
      exact forall₂_trans .trans one (ih (later.evolved one))

theorem Tracks.drainNotifications {notifications : List Notification} (now : Nat)
    (tracks : Tracks base client manager) (safe : CrashesSafe base notifications) :
    (drainNotifications notifications now).wp (fun _ => Tracks base client) Guarded manager := by
  refine Async.wp_bind.mpr (Async.wp_read.mpr (Async.wp_when (fun _ => Async.wp_modify.mpr ?_) fun _ => tracks))
  exact tracks.evolve (evolves_notifications now (safe.evolved tracks.evolved))

end MacMgmt.Agent.ServiceManager
