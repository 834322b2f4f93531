import MacMgmt.Lib.Run
import MacMgmt.Lib.Table
import MacMgmt.Lib.Tasks

/-!
# The fleet orchestrator

`runner/src/orchestrator.rs` with `FleetState` of `state.rs`. Every call of the management server or of Incus, every turn
with the state mutex and every write of the state file is a step of its own. What a call answers, the clock and the dice come
from outside; a call that fails may have taken effect. The configuration of a cell, rollout groups, labels and log texts are
left out, and so is `chaos_tick`, which writes neither the state nor the resources.
-/

namespace MacMgmt.Runner
open Lib

abbrev Uuid := Nat

structure InstanceSpec where
  instanceName : String
  instanceId : Nat
  stoppedAt : Option Nat
deriving DecidableEq

inductive CellStage where
  | pending
  | clusterCreated (clusterId : Uuid) (time : Nat)
  | configPushed (clusterId : Uuid) (time : Nat)
  | launching (clusterId : Uuid) (instances : List InstanceSpec) (since : Nat)
  | running (clusterId : Uuid) (instances : List InstanceSpec) (since : Nat)
deriving DecidableEq

/-- What can be destroyed: a cluster, or the instance that was launched under a name with a host key. -/
inductive Resource where
  | cluster (id : Uuid)
  | machine (name : String) (id : Nat)
deriving DecidableEq

namespace CellStage

def clusterId : CellStage → Option Uuid
  | .pending => none
  | .clusterCreated id _ | .configPushed id _ | .launching id _ _ | .running id _ _ => some id

def instances : CellStage → List InstanceSpec
  | .launching _ instances _ | .running _ instances _ => instances
  | .pending | .clusterCreated _ _ | .configPushed _ _ => []

def isRunning : CellStage → Bool
  | .running _ _ _ => true
  | .pending | .clusterCreated _ _ | .configPushed _ _ | .launching _ _ _ => false

def isLaunching : CellStage → Bool
  | .launching _ _ _ => true
  | .pending | .clusterCreated _ _ | .configPushed _ _ | .running _ _ _ => false

/-- `instances_mut` -/
def mapInstances (change : InstanceSpec → InstanceSpec) : CellStage → CellStage
  | .launching id instances since => .launching id (instances.map change) since
  | .running id instances since => .running id (instances.map change) since
  | stage => stage

def refers (stage : CellStage) : Resource → Bool
  | .cluster id => stage.clusterId = some id
  | .machine name id => stage.instances.any fun spec => spec.instanceName = name && spec.instanceId = id

end CellStage

structure CellState where
  key : String
  stage : CellStage
  deployFailures : Nat
  lastReprovisionedAt : Nat
deriving DecidableEq

structure FleetState where
  cells : List CellState
  paused : Bool
deriving DecidableEq

def upsertCells (cell : CellState) : List CellState → List CellState
  | [] => [cell]
  | existing :: cells => if existing.key = cell.key then cell :: cells else existing :: upsertCells cell cells

namespace FleetState
variable (fleet : FleetState)

def find (key : String) : Option CellState := fleet.cells.find? fun cell => cell.key = key

def upsert (cell : CellState) : FleetState := { fleet with cells := upsertCells cell fleet.cells }

def remove (key : String) : FleetState := { fleet with cells := fleet.cells.filter fun cell => cell.key ≠ key }

def launching : Nat := fleet.cells.countP fun cell => cell.stage.isLaunching

/-- Set when the instances of a name were stopped, in the first cell of the key. -/
def markStopped (key name : String) (stopped : Option Nat) : FleetState :=
  match fleet.find key with
  | none => fleet
  | some cell => fleet.upsert { cell with
      stage := cell.stage.mapInstances fun spec => if spec.instanceName = name then { spec with stoppedAt := stopped } else spec }

end FleetState

structure MatrixCell where
  key : String
  nodeCount : Nat

structure RunnerConfig where
  namePrefix : String
  matrix : List MatrixCell
  maxConcurrentLaunches : Nat
  deployTimeout : Nat

def sanitizeChar (c : Char) : Char := if c.isAlphanum || c = '-' then c.toLower else '-'

def sanitize (raw : String) : String := String.ofList ((raw.toList.map sanitizeChar).take 63)

namespace RunnerConfig
variable (config : RunnerConfig)

def instanceName (key : String) (index total : Nat) : String :=
  let base := config.namePrefix ++ key
  sanitize (if total ≤ 1 then base else base ++ "-" ++ toString index)

def clusterName (key : String) : String := config.namePrefix ++ key

/-- `starts_with` the prefix. -/
def carries (name : String) : Bool := config.namePrefix.toList.isPrefixOf name.toList

end RunnerConfig

/-- An instance of Incus, with the host key in its cloud-init. `madeFor` is the key of the cell that it was launched for. -/
structure Machine where
  instanceId : Nat
  madeFor : Option String
deriving DecidableEq

/-- `fleet` is the state in memory and `saved` the state file. `next` is the next id that is handed out. `destroyed` lists what
the operation at work has destroyed, `deleted` the names of everything that was deleted; `overwrote` says that a stage was
written over one that the writer had not read. -/
structure World where
  fleet : FleetState
  saved : FleetState
  clusters : Table Uuid String
  machines : Table String Machine
  next : Nat
  destroyed : List Resource
  deleted : List String
  overwrote : Bool

inductive Power where
  | running
  | stopped
  | other
deriving DecidableEq

/-- `ok` says that a call succeeds, `took` that one that does not has taken effect, and `saves` that the file is written. -/
structure Answer where
  ok : Bool
  took : Bool
  saves : Bool
  now : Nat
  pick : Nat
  roll : Bool
  alive : List Nat
  power : Option Power

namespace World
variable (world : World)

def deleteCluster (id : Uuid) : World :=
  match world.clusters.lookup id with
  | none => world
  | some name => { world with
      clusters := world.clusters.erase id
      destroyed := world.destroyed ++ [.cluster id], deleted := world.deleted ++ [name] }

def deleteMachine (name : String) : World :=
  match world.machines.lookup name with
  | none => world
  | some machine => { world with
      machines := world.machines.erase name
      destroyed := world.destroyed ++ [.machine name machine.instanceId], deleted := world.deleted ++ [name] }

def nameFree (name : String) : Bool := world.clusters.entries.all fun row => row.2 ≠ name

def createCluster (name : String) : World :=
  { world with clusters := world.clusters.insert world.next name, next := world.next + 1 }

def stageOf (key : String) : Option CellStage := (world.fleet.find key).map CellState.stage

/-- Write a state over one in which the cell was expected to be at a stage. -/
def write (key : String) (expected : Option CellStage) (fleet : FleetState) : World :=
  { world with fleet, overwrote := world.overwrote || world.stageOf key ≠ expected }

end World

abbrev Orchestrator := Task World Answer

namespace Orchestrator
open Task

def ask {A : Type} (result : World → Answer → A) : Orchestrator A := act (fun world _ => world) result

def effect (answer : Answer) (change : World → World) (world : World) : World :=
  if answer.ok || answer.took then change world else world

/-! ## The server and Incus -/

def clock : Orchestrator Nat := ask fun _ answer => answer.now

def choose {A : Type} (items : List A) : Orchestrator (Option A) := ask fun _ answer => items[answer.pick % items.length]?

def listClusters : Orchestrator (Option (List (Uuid × String))) :=
  ask fun world answer => if answer.ok then some (world.clusters.entries.map fun row => (row.1, row.2)) else none

def listInstances : Orchestrator (Option (List String)) :=
  ask fun world answer => if answer.ok then some world.machines.keys else none

def createCluster (name : String) : Orchestrator (Option Uuid) :=
  act (fun world answer => effect answer (fun world => if world.nameFree name then world.createCluster name else world) world)
    fun world answer => if answer.ok && world.nameFree name then some world.next else none

def deleteCluster (id : Uuid) : Orchestrator Bool :=
  act (fun world answer => effect answer (fun world => world.deleteCluster id) world) fun _ answer => answer.ok

def deleteInstance (name : String) : Orchestrator Bool :=
  act (fun world answer => effect answer (fun world => world.deleteMachine name) world) fun _ answer => answer.ok

def instanceExists (name : String) : Orchestrator Bool :=
  ask fun world answer => answer.ok && (world.machines.lookup name).isSome

def createInstance (key : String) (spec : InstanceSpec) : Orchestrator Bool :=
  act (fun world answer => effect answer (fun world =>
      match world.machines.lookup spec.instanceName with
      | some _ => world
      | none => { world with machines := world.machines.insert spec.instanceName ⟨spec.instanceId, some key⟩ }) world)
    fun world answer => answer.ok && (world.machines.lookup spec.instanceName).isNone

/-- `put_config` and `get_cloud_init`, for a cluster that exists. -/
def onCluster (id : Uuid) : Orchestrator Bool := ask fun world answer => answer.ok && (world.clusters.lookup id).isSome

def listClusterMachines (_id : Uuid) : Orchestrator (Option (List Nat)) :=
  ask fun _ answer => if answer.ok then some answer.alive else none

def instanceStatus (_name : String) : Orchestrator (Option Power) := ask fun _ answer => answer.power

def setInstanceState (_name : String) : Orchestrator Bool := ask fun _ answer => answer.ok

def generateHostKey : Orchestrator Nat :=
  act (fun world _ => { world with next := world.next + 1 }) fun world _ => world.next

/-! ## The state -/

def saveState : Orchestrator Bool :=
  act (fun world answer => if answer.saves then { world with saved := world.fleet } else world) fun _ answer => answer.saves

def setPaused (paused : Bool) : Orchestrator Bool := do
  alter fun world => { world with fleet := { world.fleet with paused } }
  saveState

def isPaused : Orchestrator Bool := look fun world => world.fleet.paused

def persistCell (expected : Option CellStage) (cell : CellState) : Orchestrator Bool := do
  alter fun world => world.write cell.key expected (world.fleet.upsert cell)
  saveState

def removeCell (key : String) (expected : Option CellStage) : Orchestrator Unit :=
  alter fun world => world.write key expected (world.fleet.remove key)

def cellWithStage (cell : MatrixCell) (stage : CellStage) (fallback : Nat) : Orchestrator CellState :=
  look fun world =>
    let existing := world.fleet.find cell.key
    { key := cell.key, stage
      deployFailures := (existing.map CellState.deployFailures).getD 0
      lastReprovisionedAt := (existing.map CellState.lastReprovisionedAt).getD fallback }

/-- The end of a transition: `cell_with_stage`, changed as the transition needs, and `persist_cell`. -/
def persistStage (cell : MatrixCell) (expected : Option CellStage) (stage : CellStage) (now : Nat)
    (change : CellState → CellState) : Orchestrator (Option CellStage) := do
  let state ← cellWithStage cell stage now
  let saved ← persistCell expected (change state)
  return if saved then some stage else none

/-! ## Transitions -/

variable (config : RunnerConfig)

def deleteStray (name : String) : Option (List (Uuid × String)) → Orchestrator Unit
  | none => pure ()
  | some rows =>
      match rows.find? fun row => row.2 = name with
      | none => pure ()
      | some stray => do
          let _ ← deleteInstance name
          let _ ← deleteCluster stray.1

def enterClusterCreated (cell : MatrixCell) (expected : Option CellStage) : Orchestrator (Option CellStage) := do
  let name := config.clusterName cell.key
  deleteStray name (← listClusters)
  match ← createCluster name with
  | none => return none
  | some clusterId =>
      let now ← clock
      persistStage cell expected (.clusterCreated clusterId now) now id

def enterConfigPushed (cell : MatrixCell) (expected : Option CellStage) (clusterId : Uuid) : Orchestrator (Option CellStage) := do
  if ← onCluster clusterId then
    let now ← clock
    persistStage cell expected (.configPushed clusterId now) now id
  else return none

def deleteLeftover (name : String) : Orchestrator Unit := do
  if ← instanceExists name then
    let _ ← deleteInstance name

def planInstances (clusterId : Uuid) : List String → Orchestrator (Option (List InstanceSpec))
  | [] => return some []
  | name :: names => do
      let instanceId ← generateHostKey
      if ← onCluster clusterId then
        match ← planInstances clusterId names with
        | none => return none
        | some planned => return some (⟨name, instanceId, none⟩ :: planned)
      else return none

def createInstances (key : String) : List InstanceSpec → Orchestrator Bool
  | [] => return true
  | spec :: planned => do
      if ← createInstance key spec then createInstances key planned
      else return false

def instanceNames (cell : MatrixCell) : List String :=
  let nodeCount := max cell.nodeCount 1
  (List.range' 1 nodeCount).map fun index => config.instanceName cell.key index nodeCount

def enterLaunching (cell : MatrixCell) (expected : Option CellStage) (clusterId : Uuid) : Orchestrator (Option CellStage) := do
  forEach deleteLeftover (instanceNames config cell)
  match ← planInstances clusterId (instanceNames config cell) with
  | none => return none
  | some instances =>
      let now ← clock
      match ← persistStage cell expected (.launching clusterId instances now) now id with
      | none => return none
      | some stage =>
          let created ← createInstances cell.key instances
          return if created then some stage else none

def deleteInstances (names : List String) : Orchestrator Unit :=
  forEach (fun name => do let _ ← deleteInstance name) names

def namesOf (stage : CellStage) : List String := stage.instances.map InstanceSpec.instanceName

def onLaunchTimeout (cell : MatrixCell) (current : CellStage) (expected : Option CellStage) (clusterId : Uuid) :
    Orchestrator (Option CellStage) := do
  let failures ← look fun world => ((world.fleet.find cell.key).map CellState.deployFailures).getD 0 + 1
  deleteInstances (namesOf current)
  let now ← clock
  persistStage cell expected (.configPushed clusterId now) now fun state => { state with deployFailures := failures }

def pollLaunching (cell : MatrixCell) (expected : Option CellStage) (clusterId : Uuid) (instances : List InstanceSpec)
    (since : Nat) : Orchestrator (Option CellStage) := do
  let current := CellStage.launching clusterId instances since
  let rows ← listClusterMachines clusterId
  if rows.any fun rows => instances.all fun spec => spec.instanceId ∈ rows then
    let now ← clock
    persistStage cell expected (.running clusterId instances now) now fun state => { state with deployFailures := 0 }
  else
    let now ← clock
    if since + config.deployTimeout < now then onLaunchTimeout cell current expected clusterId
    else return some current

def driveCell (cell : MatrixCell) : Orchestrator (Option CellStage) := do
  let found ← look fun world => world.stageOf cell.key
  match found.getD .pending with
  | .running clusterId instances since =>
      let _ ← onCluster clusterId
      return some (.running clusterId instances since)
  | .pending => enterClusterCreated config cell found
  | .clusterCreated clusterId _ => enterConfigPushed cell found clusterId
  | .configPushed clusterId time =>
      let launching ← look fun world => world.fleet.launching
      if 0 < config.maxConcurrentLaunches ∧ config.maxConcurrentLaunches ≤ launching then
        return some (.configPushed clusterId time)
      else enterLaunching config cell found clusterId
  | .launching clusterId instances since => pollLaunching config cell found clusterId instances since

/-! ## Reconcile and teardown -/

def settles : CellStage → Bool
  | .running _ _ _ | .launching _ _ _ => true
  | .pending | .clusterCreated _ _ | .configPushed _ _ => false

def reconcileCell (cell : MatrixCell) : Nat → Orchestrator (Option CellStage)
  | 0 => return none
  | steps + 1 => do
      match ← driveCell config cell with
      | none => return none
      | some last => if settles last || steps = 0 then return some last else reconcileCell cell steps

/-- `MAX_STEPS` -/
def maxSteps : Nat := 5

def deleteOwn : Option Uuid → Orchestrator Unit
  | none => pure ()
  | some id => do
      let _ ← deleteCluster id

def destroyCell (key : String) : Orchestrator Bool := do
  match ← look fun world => world.stageOf key with
  | none => return true
  | some stage =>
      deleteInstances (namesOf stage)
      deleteOwn stage.clusterId
      removeCell key (some stage)
      saveState

def trackedNames (fleet : FleetState) : List String := fleet.cells.flatMap fun cell => namesOf cell.stage

def trackedClusters (fleet : FleetState) : List Uuid := fleet.cells.filterMap fun cell => cell.stage.clusterId

def staleKeys (rows : List (Uuid × String)) (fleet : FleetState) : List String :=
  (fleet.cells.filter fun cell => cell.stage.clusterId.any fun id => id ∉ rows.map Prod.fst).map CellState.key

def dropStale (key : String) : Orchestrator Unit := do
  let found ← look fun world => world.stageOf key
  deleteInstances ((found.map namesOf).getD [])
  removeCell key found

def sweepClusters (rows : List (Uuid × String)) : Orchestrator Unit :=
  forEach (fun row => do let _ ← deleteCluster row.1) rows

def gcInner : Orchestrator Bool := do
  if ← isPaused then return true
  else
    let tracked ← look fun world => (trackedNames world.fleet, trackedClusters world.fleet)
    match ← listInstances with
    | none => return true
    | some names =>
        match ← listClusters with
        | none => return true
        | some rows =>
            deleteInstances (names.filter fun name => config.carries name && name ∉ tracked.1)
            sweepClusters (rows.filter fun row => config.carries row.2 && row.1 ∉ tracked.2)
            let stale ← look fun world => staleKeys rows world.fleet
            forEach dropStale stale
            saveState

def reconcileInner : Orchestrator Unit := do
  if ← isPaused then return ()
  else
    forEach (fun cell => do let _ ← reconcileCell config cell maxSteps) config.matrix
    let stale ← look fun world =>
      (world.fleet.cells.filter fun cell => cell.key ∉ config.matrix.map MatrixCell.key).map CellState.key
    forEach (fun key => do let _ ← destroyCell key) stale
    let _ ← gcInner config

def reprovisionCellInner (key : String) : Orchestrator Unit := do
  match config.matrix.find? fun cell => cell.key = key with
  | none => return ()
  | some cell =>
      if ← setPaused false then
        if ← destroyCell key then
          let now ← clock
          if ← persistCell none ⟨cell.key, .pending, 0, now⟩ then
            let _ ← reconcileCell config cell maxSteps

/-- Delete the clusters of the server that carry the prefix, and the instances of their names. -/
def sweepPrefix : Option (List (Uuid × String)) → Orchestrator Unit
  | none => pure ()
  | some rows =>
      forEach (fun row => do
        let _ ← deleteInstance row.2
        let _ ← deleteCluster row.1) (rows.filter fun row => config.carries row.2)

def teardownInner : Orchestrator Bool := do
  let keys ← look fun world => world.fleet.cells.map CellState.key
  forEach (fun key => do let _ ← destroyCell key) keys
  if ← setPaused true then
    sweepPrefix config (← listClusters)
    return true
  else return false

def redeployInner : Orchestrator Unit := do
  if ← teardownInner config then
    if ← setPaused false then
      sweepPrefix config (← listClusters)
      alter fun world => { world with fleet := { world.fleet with cells := [] } }
      if ← saveState then reconcileInner config

def runningCells (fleet : FleetState) : List CellState := fleet.cells.filter fun cell => cell.stage.isRunning

def reprovisionRandomInner : Orchestrator Unit := do
  if ← setPaused false then
    let keys ← look fun world => (runningCells world.fleet).map CellState.key
    match ← choose keys with
    | none => return ()
    | some key => reprovisionCellInner config key

/-! ## The chaos loop -/

/-- `CHAOS_STOP_MAX` in seconds. -/
def chaosStopMax : Nat := 2 * 3600

def cellStillRunning (key : String) : Orchestrator Bool := look fun world => (world.stageOf key).any CellStage.isRunning

def markStopped (key name : String) (stopped : Option Nat) : Orchestrator Unit := do
  alter fun world => { world with fleet := world.fleet.markStopped key name stopped }
  let _ ← saveState

def overdue (now : Nat) (fleet : FleetState) : Option (String × String) :=
  (runningCells fleet).findSome? fun cell =>
    (cell.stage.instances.find? fun spec => spec.stoppedAt.any fun stopped => stopped + chaosStopMax < now).map fun spec =>
      (cell.key, spec.instanceName)

/-- The tick ends here when an instance was started or could not be. -/
def restartOverdueStops : Orchestrator Bool := do
  let now ← clock
  match ← look fun world => overdue now world.fleet with
  | none => return false
  | some (key, name) =>
      if ← cellStillRunning key then
        if ← setInstanceState name then
          markStopped key name none
          return true
        else return true
      else return false

def toggle (key name : String) : Orchestrator Unit := do
  match ← instanceStatus name with
  | none | some .other => return ()
  | some power =>
      if ← cellStillRunning key then
        if ← setInstanceState name then
          let now ← clock
          markStopped key name (if power = .running then some now else none)

def chaosVmTick : Orchestrator Unit := do
  if ← isPaused then return ()
  else if ← restartOverdueStops then return ()
  else
    let candidates ← look fun world => (runningCells world.fleet).map fun cell => (cell.key, namesOf cell.stage)
    match ← choose candidates with
    | none => return ()
    | some (key, instances) =>
        if ← ask fun _ answer => answer.roll then reprovisionCellInner config key
        else
          match ← choose instances with
          | none => return ()
          | some name => toggle key name

end Orchestrator

/-! ## The daemon -/

/-- The entry points that hold `op_lock`. -/
inductive Call where
  | resume
  | reconcile
  | gc
  | teardown
  | redeploy
  | reprovision (key : String)
  | reprovisionRandom

def program (config : RunnerConfig) : Call → Orchestrator Unit
  | .resume => do let _ ← Orchestrator.setPaused false
  | .reconcile => Orchestrator.reconcileInner config
  | .gc => do let _ ← Orchestrator.gcInner config
  | .teardown => do let _ ← Orchestrator.teardownInner config
  | .redeploy => Orchestrator.redeployInner config
  | .reprovision key => Orchestrator.reprovisionCellInner config key
  | .reprovisionRandom => Orchestrator.reprovisionRandomInner config

structure Job where
  program : Orchestrator Unit
  destroyed : List Resource

/-- `op` holds `op_lock`; `tick` is the turn of the loop that calls `chaos_vm_tick`. `gone` is what the operations that have
finished destroyed. -/
structure Daemon where
  world : World
  op : Option Job
  tick : Option Job
  gone : List Resource

inductive DaemonEvent where
  | call (call : Call)
  | turn (answer : Answer)
  | tick
  | tickTurn (answer : Answer)
  | crash

/-- The world and the operation after its next step; none when it has finished. -/
def Job.turn (job : Job) (world : World) (answer : Answer) : Option (World × Job) :=
  match job.program with
  | .done _ => none
  | .step change next =>
      let before := { world with destroyed := job.destroyed }
      let after := change before answer
      some (after, ⟨next before answer, after.destroyed⟩)

namespace Daemon
variable (config : RunnerConfig) (state : Daemon)

def restart (world : World) (gone : List Resource) : Daemon := ⟨{ world with fleet := world.saved }, none, none, gone⟩

def step : DaemonEvent → Option Daemon
  | .call call =>
      match state.op with
      | some _ => none
      | none => some { state with op := some ⟨program config call, []⟩ }
  | .turn answer =>
      match state.op with
      | none => none
      | some job =>
          match job.turn state.world answer with
          | none => some { state with op := none, gone := state.gone ++ job.destroyed }
          | some (world, job) => some { state with world, op := some job }
  | .tick =>
      match state.tick with
      | some _ => none
      | none => some { state with tick := some ⟨Orchestrator.chaosVmTick config, []⟩ }
  | .tickTurn answer =>
      match state.tick with
      | none => none
      | some job =>
          match job.turn state.world answer with
          | none => some { state with tick := none, gone := state.gone ++ job.destroyed }
          | some (world, job) => some { state with world, tick := some job }
  | .crash => some (restart state.world state.gone)

end Daemon

/-! ## What has to hold -/

variable (config : RunnerConfig)

/-- The cell of a key uses a name for an instance: it may launch it, has recorded it, or has made it. -/
def Owns (world : World) (key name : String) : Prop :=
  (∃ cell ∈ config.matrix, cell.key = key ∧ name ∈ Orchestrator.instanceNames config cell) ∨
  (∃ cell ∈ world.saved.cells, cell.key = key ∧ name ∈ Orchestrator.namesOf cell.stage) ∨
  ∃ machine, world.machines.lookup name = some machine ∧ machine.madeFor = some key

/-- An id that was handed out; if it is the one of a cluster, then of the cell's. -/
def World.Named (world : World) (key : String) (id : Uuid) : Prop :=
  id < world.next ∧ ∀ name, world.clusters.lookup id = some name → name = config.clusterName key

structure Recorded (world : World) (fleet : FleetState) : Prop where
  keys : (fleet.cells.map CellState.key).Nodup
  clusters : ∀ cell ∈ fleet.cells, ∀ id, cell.stage.clusterId = some id → world.Named config cell.key id

/-- A world in which the runner may start: a cell has one state, its cluster is its own, and the ids in use were handed
out. -/
structure Begins (world : World) : Prop where
  recorded : Recorded config world world.saved
  known : ∀ id name, world.clusters.lookup id = some name → id < world.next
  keyed : ∀ name machine, world.machines.lookup name = some machine → machine.instanceId < world.next
  undeleted : world.deleted = []
  owned : world.overwrote = false

/-- No state that is saved refers to what an operation that has finished destroyed, no stage was written over one that another
operation had written, and no more cells are launching than may be. -/
structure Consistent (state : Daemon) : Prop where
  live : ∀ resource ∈ state.gone, ∀ cell ∈ state.world.saved.cells, cell.stage.refers resource = false
  owned : state.world.overwrote = false
  throttled : 0 < config.maxConcurrentLaunches → state.world.fleet.launching ≤ config.maxConcurrentLaunches ∧
    state.world.saved.launching ≤ config.maxConcurrentLaunches

/-- The state file can be written, and a turn of the chaos loop overlaps with no other operation. -/
def Careful (state : Daemon) : DaemonEvent → Prop
  | .call _ => state.tick.isNone = true
  | .tick => state.op.isNone = true
  | .turn answer | .tickTurn answer => answer.saves = true
  | .crash => True

instance (state : Daemon) : (event : DaemonEvent) → Decidable (Careful state event)
  | .call _ => inferInstanceAs (Decidable (state.tick.isNone = true))
  | .tick => inferInstanceAs (Decidable (state.op.isNone = true))
  | .turn answer | .tickTurn answer => inferInstanceAs (Decidable (answer.saves = true))
  | .crash => .isTrue trivial

/-- No cell uses a name of another one, or the name of its cluster. -/
def Apart (world : World) : Prop :=
  ∀ key name, Owns config world key name →
    (∀ other, Owns config world other name → other = key) ∧ ∀ cell ∈ config.matrix, cell.key ≠ key →
      name ≠ config.clusterName cell.key

/-- The resources that carry the prefix are those that are recorded, no instance was made for another cell, and nothing without
the prefix has been deleted. -/
structure Exact (world : World) : Prop where
  machines : ∀ name, (∃ cell ∈ world.saved.cells, name ∈ Orchestrator.namesOf cell.stage) ↔
    (world.machines.lookup name).isSome = true ∧ config.carries name = true
  clusters : ∀ id, (∃ cell ∈ world.saved.cells, cell.stage.clusterId = some id) ↔
    (world.clusters.lookup id).any config.carries = true
  own : ∀ cell ∈ world.saved.cells, ∀ name ∈ Orchestrator.namesOf cell.stage, ∀ machine key,
    world.machines.lookup name = some machine → machine.madeFor = some key → key = cell.key
  tidy : ∀ name ∈ world.deleted, config.carries name = true

/-- What carries the prefix is recorded, and a cluster that is recorded is there and is the cell's. An instance that is
recorded, if there, is the cell's own where no two cells use one name; and where all their names carry the prefix, nothing
else has been deleted. -/
structure Swept (start world : World) : Prop where
  machines : ∀ name machine, world.machines.lookup name = some machine → config.carries name = true →
    ∃ cell ∈ world.saved.cells, name ∈ Orchestrator.namesOf cell.stage
  clusters : ∀ id name, world.clusters.lookup id = some name → config.carries name = true →
    ∃ cell ∈ world.saved.cells, cell.stage.clusterId = some id
  standing : ∀ cell ∈ world.saved.cells, ∀ id, cell.stage.clusterId = some id →
    world.clusters.lookup id = some (config.clusterName cell.key)
  own : (∀ name key other, Owns config start key name → Owns config start other name → other = key) →
    ∀ cell ∈ world.saved.cells, ∀ name ∈ Orchestrator.namesOf cell.stage, ∀ machine key,
      world.machines.lookup name = some machine → machine.madeFor = some key → key = cell.key
  tidy : (∀ key name, Owns config start key name → config.carries name = true) →
    (∀ cell ∈ world.saved.cells, ∀ name ∈ Orchestrator.namesOf cell.stage, config.carries name = true) ∧
      ∀ name ∈ world.deleted, config.carries name = true

end MacMgmt.Runner
