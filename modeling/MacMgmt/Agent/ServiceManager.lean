import MacMgmt.Agent.ServiceState
import MacMgmt.Lib.Async
import MacMgmt.Lib.Table

/-!
# The service manager

`ServiceManager` of `mac-mgmt-agent/src/service_mgmt.rs`, together with the install tasks it spawns and the names
registered in the supervisor. An async operation is an `Async` program; what the supervisor answers is an argument,
with `none` for a `list` or an `update_self` that fails.
-/

namespace MacMgmt.Agent
open Lib Supervisor

/-! ## State -/

/-- A client whose background reader has ended is `disconnected`. -/
inductive Client where
  | connected
  | disconnected
deriving DecidableEq

structure InstallUpdate where
  name : ServiceName
  ok : Bool
  attempt : AttemptId
deriving DecidableEq

/-- A background install: the services still to install, and the updates sent and not received yet. -/
structure InstallTask where
  queue : List (Service × AttemptId)
  channel : List InstallUpdate
deriving DecidableEq

def InstallTask.installed (task : InstallTask) (ok : Bool) : Option (InstallTask × AttemptId) :=
  match task.queue with
  | [] => none
  | (service, attempt) :: queue => some (⟨queue, task.channel ++ [⟨service.name, ok, attempt⟩]⟩, attempt)

/-- A Register request that was sent. `installed` is whether the last install attempt of the service had succeeded
by then. -/
structure RegisterSent where
  name : ServiceName
  spec : SpawnSpec
  installed : Bool
deriving DecidableEq

abbrev Sections := Table String String

/-- The fields from `detached` on are not in the source: the install tasks whose receiver was dropped, the names
registered in the supervisor, the numbering of install attempts with those that succeeded, and the Register requests
sent so far. -/
structure ServiceManager where
  services : List ServiceState
  installOnly : List Service
  client : Option Client
  inprocess : Bool
  installRx : Option InstallTask
  lastConfig : Sections
  detached : List InstallTask
  supervisor : List ServiceName
  nextAttempt : AttemptId
  succeeded : List AttemptId
  registers : List RegisterSent
deriving DecidableEq

/-- How a request ended: whether the supervisor carried it out, and whether the client got `Ok` for it. -/
structure Rpc where
  carriedOut : Bool
  ok : Bool
deriving DecidableEq

namespace ServiceManager

def mapServices (manager : ServiceManager) (change : ServiceState → ServiceState) : ServiceManager :=
  { manager with services := manager.services.map change }

def updateAt (manager : ServiceManager) (i : Nat) (change : ServiceState → ServiceState) : ServiceManager :=
  { manager with services := manager.services.modify i change }

def updateFirst (name : ServiceName) (change : ServiceState → ServiceState) : List ServiceState → List ServiceState
  | [] => []
  | state :: states =>
      if state.name = name then change state :: states else state :: updateFirst name change states

def updateNamed (manager : ServiceManager) (name : ServiceName) (change : ServiceState → ServiceState) :
    ServiceManager :=
  { manager with services := updateFirst name change manager.services }

def hasInstalled (manager : ServiceManager) (state : ServiceState) : Bool :=
  state.attempt.any fun attempt => attempt ∈ manager.succeeded

/-! ## Installs

An attempt ends in the background, in the task of `install_rx` or in one whose receiver was dropped; `recvInstallUpdate`
is `recv_install_update` with the two branches of its caller. -/

def initWith (services : List Service) (connectorEnvCollected inprocess : Bool) (config : Sections)
    (supervisor : List ServiceName) : ServiceManager :=
  let managed := (services.filter fun service => service.mode ≠ .installOnly).zipIdx
  let installOnly := services.filter fun service => service.mode = .installOnly
  { services := managed.map fun (service, attempt) =>
      .new service .installing false connectorEnvCollected (some attempt)
    installOnly := installOnly
    client := none
    inprocess := inprocess
    installRx := some ⟨managed ++ installOnly.zipIdx managed.length, []⟩
    lastConfig := config
    detached := []
    supervisor := supervisor
    nextAttempt := services.length
    succeeded := []
    registers := [] }

def init (services : List Service) (inprocess : Bool) (config : Sections) (supervisor : List ServiceName) :
    ServiceManager :=
  initWith services false inprocess config supervisor

def initWithServices (provided : List Service) (inprocess : Bool) (config : Sections)
    (supervisor : List ServiceName) : ServiceManager :=
  initWith provided true inprocess config supervisor

def addIntegratedService (manager : ServiceManager) (service : Service) : ServiceManager :=
  { manager with services := manager.services ++ [.new service .starting false true none] }

def succeed (manager : ServiceManager) (attempt : AttemptId) (ok : Bool) : ServiceManager :=
  { manager with succeeded := if ok then attempt :: manager.succeeded else manager.succeeded }

def installed (manager : ServiceManager) (ok : Bool) : Option ServiceManager := do
  let task ← manager.installRx
  let (after, attempt) ← task.installed ok
  return { manager with installRx := some after }.succeed attempt ok

def installedDetached (manager : ServiceManager) (i : Nat) (ok : Bool) : Option ServiceManager := do
  let task ← manager.detached[i]?
  let (after, attempt) ← task.installed ok
  return { manager with detached := manager.detached.set i after }.succeed attempt ok

def handleInstallUpdate (manager : ServiceManager) (update : InstallUpdate) : ServiceManager :=
  if update.ok then manager.updateNamed update.name ServiceState.installSucceeded
  else manager.updateNamed update.name ServiceState.installFails

def finishInstalls (manager : ServiceManager) : ServiceManager := { manager with installRx := none }

def recvInstallUpdate (manager : ServiceManager) : Option ServiceManager := do
  let task ← manager.installRx
  match task.channel, task.queue with
  | update :: channel, queue =>
      return { manager with installRx := some ⟨queue, channel⟩ }.handleInstallUpdate update
  | [], [] => return manager.finishInstalls
  | [], _ :: _ => none

def requeue (first : AttemptId) (services : List ServiceState) : List ServiceState :=
  services.mapIdx fun i state => state.requeue.withAttempt (first + i)

def retryQueue (services : List ServiceState) : List (Service × AttemptId) :=
  (services.filter fun state => state.phase = .installing).filterMap fun state =>
    state.attempt.map fun attempt => (state.service, attempt)

def retryFailedInstalls (manager : ServiceManager) : ServiceManager :=
  if manager.installRx.isSome then manager
  else if manager.services.any fun state => state.phase = .installFailed then
    let services := requeue manager.nextAttempt manager.services
    { manager with
      services := services
      installRx := some ⟨retryQueue services, []⟩
      nextAttempt := manager.nextAttempt + manager.services.length }
  else manager

/-! ## The supervisor connection -/

def tearDown (manager : ServiceManager) (cause : Cause) : ServiceManager :=
  { manager.mapServices (·.tornDown cause) with client := none }

/-- What `ensure_client` returns; `connects` is whether `SupervisorClient::connect` succeeds. -/
def available (manager : ServiceManager) (connects : Bool) : Bool :=
  manager.client = some .connected || connects

def connect (connects : Bool) : Async ServiceManager Bool := do
  Async.await
  if connects then
    Async.modify fun manager => { manager with client := some .connected }
    return true
  else return false

def ensureClient (connects : Bool) : Async ServiceManager Bool := do
  let manager ← Async.read
  match manager.client with
  | some .connected => return true
  | some .disconnected => do
      Async.modify (·.tearDown .disconnected)
      connect connects
  | none => connect connects

def register (manager : ServiceManager) (state : ServiceState) (rpc : Rpc) : ServiceManager :=
  { manager with
    registers := ⟨state.name, state.desiredSpec, manager.hasInstalled state⟩ :: manager.registers
    supervisor := if rpc.carriedOut then state.name :: manager.supervisor else manager.supervisor }

def unregister (manager : ServiceManager) (name : ServiceName) (rpc : Rpc) : ServiceManager :=
  { manager with
    supervisor := if rpc.carriedOut then manager.supervisor.filter (· ≠ name) else manager.supervisor }

/-- The first await is the write of the request, the second its response. -/
def registerService (rpc : Rpc) (i : Nat) : Async ServiceManager Unit := do
  let manager ← Async.read
  match manager.client, manager.services[i]? with
  | some _, some state => do
      Async.await
      Async.modify (·.register state rpc)
      Async.await
      Async.when rpc.ok (Async.modify (·.updateAt i ServiceState.started))
  | _, _ => return ()

def unregisterService (rpc : Rpc) (i : Nat) : Async ServiceManager Unit := do
  let manager ← Async.read
  match manager.client, manager.services[i]? with
  | some _, some state => do
      Async.await
      Async.modify (·.unregister state.name rpc)
      Async.await
  | _, _ => return ()

def reregisterService (unregisters registers : Rpc) (i : Nat) : Async ServiceManager Unit := do
  unregisterService unregisters i
  registerService registers i

abbrev Listing := Option (List ServiceStatus)

/-- Collecting into a `HashMap`: of two statuses with one name the last counts. -/
def lastNamed (statuses : List ServiceStatus) (name : ServiceName) : Option ServiceStatus :=
  statuses.reverse.find? fun status => status.name = name

def storePaths (answers : Answers) (statuses : List ServiceStatus) : Table ServiceName (Option String) :=
  statuses.foldl (fun table status => table.insert status.name
    ((status.resolvedProgram.bind answers.storePathPrefix).or (status.exe.bind answers.storePathPrefix))) ∅

/-- Each entry goes to the first service of its name, as `by_name.remove` hands it out. -/
def assignStorePaths : Table ServiceName (Option String) → List ServiceState → List ServiceState
  | _, [] => []
  | byName, state :: states =>
      match byName.lookup state.name with
      | some path => { state with runningStorePath := path } :: assignStorePaths (byName.erase state.name) states
      | none => state :: assignStorePaths byName states

def refreshed (answers : Answers) (listing : Listing) (services : List ServiceState) : List ServiceState :=
  match listing with
  | some statuses => assignStorePaths (storePaths answers statuses) services
  | none => services

def refreshRunningStorePaths (answers : Answers) (listing : Listing) : Async ServiceManager Unit := do
  let manager ← Async.read
  Async.when manager.client.isSome do
    Async.await
    Async.modify fun manager => { manager with services := refreshed answers listing manager.services }

structure ConnectInputs where
  connects : Bool
  running : Listing
  registers : Nat → Rpc
  refresh : Listing
  answers : Answers

def connectService (inputs : ConnectInputs) (running : List ServiceStatus) (i : Nat) : Async ServiceManager Unit := do
  let manager ← Async.read
  match manager.services[i]? with
  | some state =>
      if state.integrated || state.phase.awaitsInstall then return ()
      else
        match lastNamed running state.name with
        | some status => Async.modify (·.updateAt i (·.adopt inputs.answers status))
        | none => registerService (inputs.registers i) i
  | none => return ()

def connectAll (inputs : ConnectInputs) : Async ServiceManager Unit := do
  let clientOk ← ensureClient inputs.connects
  Async.when clientOk do
    Async.await
    let running := (inputs.running.getD []).filter fun status => status.pid.isSome
    let manager ← Async.read
    Async.forEach (connectService inputs running) (List.range manager.services.length)
    refreshRunningStorePaths inputs.answers inputs.refresh

def notify (now : Nat) (services : List ServiceState) : Notification → List ServiceState
  | .log .. => services
  | .crashed name _ => updateFirst name (·.crash now) services

def drainNotifications (notifications : List Notification) (now : Nat) : Async ServiceManager Unit := do
  let manager ← Async.read
  Async.when manager.client.isSome
    (Async.modify fun manager => { manager with services := notifications.foldl (notify now) manager.services })

/-! ## The health tick

`lifecycle` steps every service and returns the indices to reregister; `manageLifecycle` is phases 0 and 1 of the
source, `checkHealth` phases 2 and 3. -/

def supervisorStatusLive (status : ServiceStatus) : Bool :=
  !status.stopped && (status.pid.isSome || status.spec.isNone)

def liveMap (listing : Listing) : ServiceState.LiveMap :=
  fun name => (lastNamed (listing.getD []) name).map supervisorStatusLive

def supervisorLiveMap (listing : Listing) : Async ServiceManager ServiceState.LiveMap := do
  let manager ← Async.read
  match manager.client with
  | some _ => do
      Async.await
      return liveMap listing
  | none => return liveMap none

/-- What a health tick meets: the answers of the supervisor to its requests in the order it makes them, the
notifications it finds in the queue, and the clock. -/
structure TickInputs where
  gate : UpgradeGate
  connects : Bool
  registers : Nat → Rpc
  refresh : Listing
  notifications : List Notification
  live : Listing
  unregisters : Nat → Rpc
  reregisters : Nat → Rpc
  refreshAgain : Listing
  answers : Answers
  now : Nat

def hasManaged (manager : ServiceManager) : Bool :=
  manager.services.any fun state => state.service.mode = .managed

def ensureRegistered (inputs : TickInputs) (i : Nat) : Async ServiceManager Unit := do
  let manager ← Async.read
  match manager.services[i]? with
  | some state =>
      Async.when (!state.registered && state.service.mode = .managed && !state.phase.awaitsInstall)
        (registerService (inputs.registers i) i)
  | none => return ()

def lifecycle (inputs : TickInputs) (live : ServiceState.LiveMap) : Async ServiceManager (List Nat) := do
  let manager ← Async.read
  let stepped := manager.services.map (·.advance inputs.gate inputs.answers inputs.now live)
  Async.modify fun manager => { manager with services := stepped.map Prod.fst }
  return (List.range stepped.length).filter fun i => stepped[i]?.any Prod.snd

def readSupervisor (inputs : TickInputs) : Async ServiceManager Unit := do
  refreshRunningStorePaths inputs.answers inputs.refresh
  drainNotifications inputs.notifications inputs.now

def manageLifecycle (inputs : TickInputs) (hasManaged : Bool) (live : ServiceState.LiveMap) :
    Async ServiceManager Unit := do
  Async.modify (·.mapServices (·.expireCrashBackoff inputs.now))
  let pending ← lifecycle inputs live
  Async.forEach (fun i => reregisterService (inputs.unregisters i) (inputs.reregisters i) i) pending
  Async.when (!pending.isEmpty && hasManaged) (refreshRunningStorePaths inputs.answers inputs.refreshAgain)

def checkHealth (inputs : TickInputs) (live : ServiceState.LiveMap) : Async ServiceManager Unit := do
  Async.await
  Async.modify (·.mapServices (·.applyHealthCheck inputs.answers live))

/-- The tick from the point where the client is there, or where no managed service needs one. -/
def healthTickBody (inputs : TickInputs) (hasManaged : Bool) (count : Nat) : Async ServiceManager Unit := do
  Async.forEach (ensureRegistered inputs) (List.range count)
  Async.when hasManaged (readSupervisor inputs)
  let live ← if hasManaged then supervisorLiveMap inputs.live else pure (liveMap none)
  manageLifecycle inputs hasManaged live
  checkHealth inputs live

def healthTick (inputs : TickInputs) : Async ServiceManager Unit := do
  let manager ← Async.read
  if manager.services.isEmpty then return ()
  else
    let clientOk ← if manager.hasManaged then ensureClient inputs.connects else pure true
    Async.when clientOk (healthTickBody inputs manager.hasManaged manager.services.length)

/-! ## Upgrades and restarts -/

def checkUpgrades (manager : ServiceManager) (answers : Answers) : ServiceManager :=
  manager.mapServices (·.checkUpgrade answers)

def scheduleRestart (manager : ServiceManager) (answers : Answers) : ServiceManager :=
  manager.mapServices (·.scheduleRestart answers)

def tearsDown (manager : ServiceManager) (reply : Option Bool) : Bool :=
  !manager.inprocess && manager.client.isSome && reply ≠ some false

def sendUpdateSelf (manager : ServiceManager) (reply : Option Bool) : ServiceManager :=
  if manager.tearsDown reply then manager.tearDown .updateSelf else manager

def collectConnectorEnvForNew (manager : ServiceManager) (serviceEnv : ServiceName → Env) : ServiceManager :=
  manager.mapServices fun state => state.collectConnectorEnv (serviceEnv state.name)

/-! ## Reconciling the service set

The two functions compare different names with the desired ones: `currentNames` in `apply_config`, `configuredNames`,
which leaves the integrated services out, in `apply_services`. -/

/-- What the supervisor does during a reconcile: whether the client can connect, and how the Unregister of each name
ends. -/
structure ReconcileInputs where
  connects : Bool
  unregisters : ServiceName → Rpc

def toRemove (current : List ServiceName) (desired : List Service) : List ServiceName :=
  (current.filter fun name => name ∉ desired.map Service.name).dedup

def stopAndUnregister (inputs : ReconcileInputs) (name : ServiceName) : Async ServiceManager Unit := do
  Async.await
  Async.modify (·.unregister name (inputs.unregisters name))
  Async.await

def retain (manager : ServiceManager) (removed : List ServiceName) : ServiceManager :=
  { manager with
    services := manager.services.filter fun state => state.name ∉ removed
    installOnly := manager.installOnly.filter fun service => service.name ∉ removed }

def removeServices (inputs : ReconcileInputs) (removed : List ServiceName) : Async ServiceManager Unit := do
  Async.when (!removed.isEmpty) do
    let clientOk ← ensureClient inputs.connects
    Async.when clientOk (Async.forEach (stopAndUnregister inputs) removed)
  Async.modify (·.retain removed)

/-- The desired services whose name is new, each with the install attempt the detached task makes for it. -/
def newServices (manager : ServiceManager) (current : List ServiceName) (desired : List Service) :
    List (Service × AttemptId) :=
  (desired.filter fun service => service.name ∉ current).zipIdx manager.nextAttempt

def addServices (manager : ServiceManager) (current : List ServiceName) (desired : List Service)
    (restartPending connectorEnvCollected : Bool) : ServiceManager :=
  let added := manager.newServices current desired
  { manager with
    services := manager.services ++ (added.filter fun new => new.1.mode ≠ .installOnly).map fun (service, attempt) =>
      .new service .installing restartPending connectorEnvCollected (some attempt)
    installOnly := manager.installOnly ++ (added.filter fun new => new.1.mode = .installOnly).map Prod.fst
    nextAttempt := manager.nextAttempt + added.length
    detached := if added.isEmpty then manager.detached else ⟨added, []⟩ :: manager.detached }

/-- An edited config: its sections, the services `build_services` makes of it, and the variables its connectors
contribute. -/
structure Config where
  sections : Sections
  services : List Service
  serviceEnv : ServiceName → Env

def sectionOf (name : ServiceName) : String := String.ofList (name.toList.takeWhile (· ≠ '-'))

def restartChanged (current : List ServiceName) (before after : Sections) (answers : Answers) (state : ServiceState) :
    ServiceState :=
  if state.name ∉ current then { state with restartPending := true }
  else if before.lookup (sectionOf state.name) = after.lookup (sectionOf state.name) then state
  else state.scheduleRestart answers

def currentNames (manager : ServiceManager) : List ServiceName :=
  manager.services.map ServiceState.name ++ manager.installOnly.map Service.name

def configuredNames (manager : ServiceManager) : List ServiceName :=
  (manager.services.filter fun state => !state.integrated).map ServiceState.name ++
    manager.installOnly.map Service.name

def applyConfig (config : Config) (inputs : ReconcileInputs) (answers : Answers) : Async ServiceManager Unit := do
  let manager ← Async.read
  let current := manager.currentNames
  Async.modify fun manager => { manager with lastConfig := config.sections }
  Async.modify (·.collectConnectorEnvForNew config.serviceEnv)
  removeServices inputs (toRemove current config.services)
  Async.modify (·.addServices current config.services false false)
  Async.modify (·.mapServices (restartChanged current manager.lastConfig config.sections answers))

def applyServices (desired : List Service) (restartNames : List ServiceName) (inputs : ReconcileInputs) :
    Async ServiceManager Unit := do
  let manager ← Async.read
  let current := manager.configuredNames
  removeServices inputs (toRemove current desired)
  Async.modify (·.addServices current desired true true)
  Async.modify (·.mapServices fun state =>
    if state.name ∈ restartNames then { state with restartPending := true } else state)

/-! ## Runs -/

/-- `installed` and `disconnected` are steps of the environment. A health tick runs under a timeout, which can drop
it at any of its awaits. -/
inductive Event where
  | installed (ok : Bool)
  | installedDetached (i : Nat) (ok : Bool)
  | disconnected
  | recvInstallUpdate
  | retryFailedInstalls
  | addIntegratedService (service : Service)
  | connectorsTick (serviceEnv : ServiceName → Env)
  | checkUpgrades (answers : Answers)
  | healthTick (inputs : TickInputs)
  | healthTickDropped (inputs : TickInputs) (i : Nat)
  | connectAll (inputs : ConnectInputs)
  | scheduleRestart (answers : Answers)
  | applyConfig (config : Config) (inputs : ReconcileInputs) (answers : Answers)
  | applyServices (desired : List Service) (restartNames : List ServiceName) (inputs : ReconcileInputs)
  | sendUpdateSelf (reply : Option Bool)

def step (manager : ServiceManager) : Event → Option ServiceManager
  | .installed ok => manager.installed ok
  | .installedDetached i ok => manager.installedDetached i ok
  | .disconnected => some { manager with client := manager.client.map fun _ => .disconnected }
  | .recvInstallUpdate => manager.recvInstallUpdate
  | .retryFailedInstalls => some manager.retryFailedInstalls
  | .addIntegratedService service =>
      if service.mode = .integrated then some (manager.addIntegratedService service) else none
  | .connectorsTick serviceEnv => some (manager.collectConnectorEnvForNew serviceEnv)
  | .checkUpgrades answers => some (manager.checkUpgrades answers)
  | .healthTick inputs => some ((healthTick inputs).finish manager).2
  | .healthTickDropped inputs i => ((healthTick inputs).drops manager)[i]?
  | .connectAll inputs => some ((connectAll inputs).finish manager).2
  | .scheduleRestart answers => some (manager.scheduleRestart answers)
  | .applyConfig config inputs answers => some ((applyConfig config inputs answers).finish manager).2
  | .applyServices desired restartNames inputs => some ((applyServices desired restartNames inputs).finish manager).2
  | .sendUpdateSelf reply => some (manager.sendUpdateSelf reply)

end ServiceManager
end MacMgmt.Agent
