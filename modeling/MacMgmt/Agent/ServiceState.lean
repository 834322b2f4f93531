import MacMgmt.Supervisor.Connection

/-!
# The state of one service

`ServiceState` of `mac-mgmt-agent/src/service_mgmt.rs` with what its operations do to a single service: the functions
`lifecycle_step` and `expire_crash_backoff`, and one round of each loop over the services. What a `ManagedService`
object and the file system answer during an operation comes in as `Answers`; times are in seconds.
-/

namespace MacMgmt.Agent
open Supervisor

inductive ServicePhase where
  | installing
  | installFailed
  | stopped
  | starting
  | healthy
  | unhealthy
  | crashBackoff
deriving DecidableEq

def ServicePhase.isHealthy (phase : ServicePhase) : Bool := phase = .healthy

def ServicePhase.awaitsInstall : ServicePhase → Bool
  | .installing | .installFailed => true
  | .stopped | .starting | .healthy | .unhealthy | .crashBackoff => false

inductive UpgradeGate where
  | anytime
  | inWindow
  | deferred
deriving DecidableEq

def UpgradeGate.allowsUpgrades : UpgradeGate → Bool
  | .anytime | .inWindow => true
  | .deferred => false

def UpgradeGate.forcesBusyRestarts : UpgradeGate → Bool
  | .inWindow => true
  | .anytime | .deferred => false

inductive DriftDecision where
  | none
  | schedule
  | suppressedLoop
deriving DecidableEq

def driftDecision (running current lastTarget : Option String) : DriftDecision :=
  match running, current with
  | some old, some new =>
      if old ≠ new then
        if lastTarget = some new then .suppressedLoop else .schedule
      else .none
  | _, _ => .none

structure LifecycleStep where
  busy : Bool
  reregister : Bool
deriving DecidableEq

def crashBackoffDelay (consecutiveCrashes : Nat) : Nat :=
  min (5 * 2 ^ (min consecutiveCrashes 4 - 1)) 60

inductive ServiceMode where
  | managed
  | installOnly
  | integrated
deriving DecidableEq

/-- A `ManagedService` object: what its methods return for as long as it lives. -/
structure Service where
  name : ServiceName
  mode : ServiceMode
  binaryName : String
  spawnSpec : SpawnSpec
  supportsHotReload : Bool
deriving DecidableEq

abbrev Env := Finmap fun _ : String => String

/-- The answers of the methods that depend on the outside world, `none` for `Err`; the defaults are the trait's.
`which` and `canonicalize` look at the file system. -/
structure Answers where
  isBusy : Service → Option Bool := fun _ => some false
  needsRestart : Service → Bool := fun _ => false
  configure : Service → Option Unit := fun _ => some ()
  checkHealth : Service → Option Bool := fun _ => some true
  checkAndUpgrade : Service → Option Bool := fun _ => some false
  which : String → Option String := fun _ => none
  canonicalize : String → Option String := fun _ => none

def Answers.storePathPrefix (answers : Answers) (path : String) : Option String := do
  let resolved ← answers.canonicalize path
  let rest ← "/nix/store/".toList.isPrefixOf? resolved.toList
  if rest.contains '/' then
    return "/nix/store/" ++ String.ofList (rest.takeWhile (· ≠ '/'))
  else return resolved

def Answers.binaryStorePath (answers : Answers) (binaryName : String) : Option String := do
  let path ← answers.which binaryName
  answers.storePathPrefix path

inductive SignalSeverity where
  | warning
  | critical
deriving DecidableEq

structure FailureSignal where
  kind : String
  severity : SignalSeverity
  subject : String
  message : String
  since : Nat
deriving DecidableEq

/-! ## Installs and phase changes -/

abbrev AttemptId := Nat

inductive Cause where
  | installUpdate (ok : Bool)
  | retry
  | disconnected
  | adopted
  | registered
  | crashed
  | backoffExpired
  | promoted
  | healthCheck
  | updateSelf
deriving DecidableEq

structure PhaseChange where
  before : ServicePhase
  after : ServicePhase
  cause : Cause
deriving DecidableEq

/-- `attempt` and `history` are not in the source: the last install attempt of the service and the assignments of
its phase, the last one first. -/
structure ServiceState where
  service : Service
  phase : ServicePhase
  upgradePending : Bool
  restartPending : Bool
  postStartDone : Bool
  consecutiveCrashes : Nat
  runningStorePath : Option String
  lastDriftTarget : Option String
  driftSignal : Option FailureSignal
  registered : Bool
  restartAt : Option Nat
  connectorEnv : Env
  connectorEnvCollected : Bool
  attempt : Option AttemptId
  history : List PhaseChange
deriving DecidableEq

namespace ServiceState

def name (state : ServiceState) : ServiceName := state.service.name

def new (service : Service) (phase : ServicePhase) (restartPending connectorEnvCollected : Bool)
    (attempt : Option AttemptId) : ServiceState where
  service := service
  phase := phase
  upgradePending := false
  restartPending := restartPending
  postStartDone := false
  consecutiveCrashes := 0
  runningStorePath := none
  lastDriftTarget := none
  driftSignal := none
  registered := false
  restartAt := none
  connectorEnv := ∅
  connectorEnvCollected := connectorEnvCollected
  attempt := attempt
  history := []

def setPhase (state : ServiceState) (cause : Cause) (phase : ServicePhase) : ServiceState :=
  { state with
    phase := phase
    history := ⟨state.phase, phase, cause⟩ :: state.history }

def integrated (state : ServiceState) : Bool := state.service.mode = .integrated

/-- The spec sent with a Register: the service's own, with the connectors' variables where it sets none. -/
def desiredSpec (state : ServiceState) : SpawnSpec :=
  { state.service.spawnSpec with env := state.service.spawnSpec.env ∪ state.connectorEnv }

def installSucceeded (state : ServiceState) : ServiceState :=
  { state.setPhase (.installUpdate true) (if state.integrated then .starting else .stopped) with
    registered := state.integrated }

def installFails (state : ServiceState) : ServiceState := state.setPhase (.installUpdate false) .installFailed

def requeue (state : ServiceState) : ServiceState :=
  if state.phase = .installFailed then state.setPhase .retry .installing else state

def withAttempt (state : ServiceState) (attempt : AttemptId) : ServiceState :=
  if state.phase = .installing then { state with attempt := some attempt } else state

/-! ## The lifecycle

`started` is what a successful Register leaves, `tornDown` what the end of a connection leaves, `adopt` the branch of
`connect_all` for a service that runs already; `advance` is one round of phase 1 of `health_tick`, `applyHealthCheck` one
of phases 2 and 3. -/

def started (state : ServiceState) : ServiceState :=
  { state.setPhase .registered .starting with registered := true, postStartDone := false }

def tornDown (state : ServiceState) (cause : Cause) : ServiceState :=
  { state.setPhase cause .stopped with registered := false }

def adopt (state : ServiceState) (answers : Answers) (status : ServiceStatus) : ServiceState :=
  let changed := status.spec.any fun running => running ≠ state.desiredSpec
  let restartPending := state.restartPending || changed
  let moved :=
    match (answers.which state.desiredSpec.program).bind answers.canonicalize, status.resolvedProgram with
    | some desired, some running => decide (desired ≠ running)
    | _, _ => false
  { state.setPhase .adopted .starting with
    registered := true
    restartPending := restartPending
    upgradePending := state.upgradePending || (!restartPending && moved) }

def crash (state : ServiceState) (now : Nat) : ServiceState :=
  let crashes := state.consecutiveCrashes + 1
  { state.setPhase .crashed .crashBackoff with
    consecutiveCrashes := crashes
    postStartDone := false
    restartAt := some (now + crashBackoffDelay crashes) }

def expireCrashBackoff (state : ServiceState) (now : Nat) : ServiceState :=
  if state.integrated || state.phase ≠ .crashBackoff then state
  else if state.restartAt.all fun time => time ≤ now then
    { state.setPhase .backoffExpired .starting with restartAt := none, postStartDone := false }
  else state

def driftSignalFor (state : ServiceState) (severity : SignalSeverity) (message : String) (timestamp : Nat) :
    Option FailureSignal :=
  some ⟨"drift", severity, state.name, message, timestamp⟩

def checkDrift (state : ServiceState) (current : Option String) (timestamp : Nat) : ServiceState :=
  if state.upgradePending then state
  else
    match driftDecision state.runningStorePath current state.lastDriftTarget with
    | .schedule =>
        let new := current.getD ""
        { state with
          driftSignal := state.driftSignalFor .warning
            (state.name ++ " binary drifted to " ++ new ++ "; reregister scheduled") timestamp
          lastDriftTarget := some new
          upgradePending := true }
    | .suppressedLoop =>
        { state with
          driftSignal := state.driftSignalFor .critical
            (state.name ++ " store-path drift persists after reregister (target " ++ current.getD "?" ++
              "); resolver mismatch / restart loop") timestamp }
    | .none => { state with driftSignal := none }

def lifecycleStep (state : ServiceState) (gate : UpgradeGate) (answers : Answers) (timestamp : Nat) :
    ServiceState × LifecycleStep :=
  let inBackoff : Bool := state.phase = .crashBackoff
  let busy := !inBackoff && (answers.isBusy state.service).getD false
  if state.integrated then (state, ⟨busy, false⟩)
  else
    let restartPending := state.restartPending ||
      (!inBackoff && state.phase.isHealthy && answers.needsRestart state.service)
    if !inBackoff && restartPending && (!busy || gate.forcesBusyRestarts) then
      ({ state with restartPending := false, upgradePending := false }, ⟨busy, true⟩)
    else
      let current := answers.binaryStorePath state.service.binaryName
      let checked := { state with restartPending := restartPending }.checkDrift current timestamp
      if checked.upgradePending && gate.allowsUpgrades then
        if current.isSome && current = checked.runningStorePath then
          ({ checked with upgradePending := false }, ⟨busy, false⟩)
        else ({ checked with upgradePending := false }, ⟨busy, true⟩)
      else (checked, ⟨busy, false⟩)

abbrev LiveMap := ServiceName → Option Bool

def supervisorAllowsHealthy (state : ServiceState) (live : LiveMap) : Bool :=
  match state.service.mode with
  | .managed => (live state.name).getD false
  | .integrated | .installOnly => true

def advance (state : ServiceState) (gate : UpgradeGate) (answers : Answers) (timestamp : Nat) (live : LiveMap) :
    ServiceState × Bool :=
  let (stepped, step) := state.lifecycleStep gate answers timestamp
  if !step.reregister && stepped.phase = .starting && stepped.supervisorAllowsHealthy live then
    (stepped.setPhase .promoted .healthy, false)
  else (stepped, step.reregister)

def checkable (state : ServiceState) : Bool :=
  state.phase = .healthy || state.phase = .unhealthy || (state.phase = .stopped && state.integrated)

def applyHealthCheck (state : ServiceState) (answers : Answers) (live : LiveMap) : ServiceState :=
  if state.checkable then
    match answers.checkHealth state.service with
    | some true =>
        if state.supervisorAllowsHealthy live then
          { state.setPhase .healthCheck .healthy with consecutiveCrashes := 0, postStartDone := true }
        else state.setPhase .healthCheck .unhealthy
    | some false => state.setPhase .healthCheck .unhealthy
    | none => if state.phase = .unhealthy then state else state.setPhase .healthCheck .unhealthy
  else state

def scheduleRestart (state : ServiceState) (answers : Answers) : ServiceState :=
  if state.service.supportsHotReload then
    match answers.configure state.service with
    | some () => state
    | none => { state with restartPending := true }
  else { state with restartPending := true }

def checkUpgrade (state : ServiceState) (answers : Answers) : ServiceState :=
  if state.upgradePending then state
  else { state with upgradePending := (answers.checkAndUpgrade state.service).getD false }

def collectConnectorEnv (state : ServiceState) (env : Env) : ServiceState :=
  if state.connectorEnvCollected || state.phase.awaitsInstall then state
  else { state with connectorEnv := env, connectorEnvCollected := true }

end ServiceState

/-! ## What happens to one service

The changes that the health tick, the upgrade check and the requests to the supervisor make to a single service, as events. -/

/-- `register` is a Register request that was answered, `listed` the path that a list answer gives for the service. -/
inductive ServiceEvent where
  | register (ok : Bool)
  | listed (path : Option String)
  | crashed (now : Nat)
  | backoffExpires (now : Nat)
  | lifecycle (gate : UpgradeGate) (answers : Answers) (timestamp : Nat) (live : ServiceState.LiveMap)
  | healthCheck (answers : Answers) (live : ServiceState.LiveMap)
  | tornDown (cause : Cause)
  | checkUpgrade (answers : Answers)

def ServiceState.apply (state : ServiceState) : ServiceEvent → ServiceState
  | .register ok => if ok then state.started else state
  | .listed path => { state with runningStorePath := path }
  | .crashed now => state.crash now
  | .backoffExpires now => state.expireCrashBackoff now
  | .lifecycle gate answers timestamp live => (state.advance gate answers timestamp live).1
  | .healthCheck answers live => state.applyHealthCheck answers live
  | .tornDown cause => state.tornDown cause
  | .checkUpgrade answers => state.checkUpgrade answers

end MacMgmt.Agent
