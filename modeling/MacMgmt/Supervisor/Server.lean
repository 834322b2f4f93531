import MacMgmt.Lib.Run
import MacMgmt.Lib.Table
import MacMgmt.Lib.Utf8
import MacMgmt.Supervisor.Connection

/-!
# The supervisor

`SupervisorState` and the request loop of `mac-mgmt-services/src/server.rs`, with the runner tasks it
spawns (`run_service`, `monitor_adopted`) and the operating system's process table. A runner moves from one await or
store to the next; the request loop runs a request up to the point where it awaits a runner it has told to stop.
-/

namespace MacMgmt.Supervisor
open Lib

abbrev Pid := Nat

abbrev TaskId := Nat

/-! ## Processes -/

/-- A child with the name and spec it was spawned for. One that is not `alive` is a zombie. -/
structure Proc where
  name : ServiceName
  spec : SpawnSpec
  alive : Bool
deriving DecidableEq

/-- Pids are not reused: the next child gets `nextPid`. -/
structure Processes where
  table : Table Pid Proc
  nextPid : Pid
deriving DecidableEq

namespace Processes

def spawn (processes : Processes) (name : ServiceName) (spec : SpawnSpec) : Processes where
  table := processes.table.insert processes.nextPid ⟨name, spec, true⟩
  nextPid := processes.nextPid + 1

def exit (processes : Processes) (pid : Pid) : Processes :=
  { processes with table := processes.table.modify pid fun proc => { proc with alive := false } }

def reap (processes : Processes) (pid : Pid) : Processes :=
  { processes with table := processes.table.erase pid }

/-- `waitpid` with `WNOHANG` also reports a pid that is no child any more. -/
def hasExited (processes : Processes) (pid : Pid) : Bool :=
  match processes.table.lookup pid with
  | some proc => !proc.alive
  | none => true

def isAlive (processes : Processes) (pid : Pid) : Bool := (processes.table.lookup pid).isSome

end Processes

/-! ## Runners -/

/-- Where a runner is: `spawned` lies between `spawn_child` and `pid.store`, `stopped` and `exited` between the
end of the child and the store of 0; the `adopted` states are the loop of `monitor_adopted`. -/
inductive RunnerPc where
  | spawning
  | spawned (child : Pid)
  | waiting (child : Pid)
  | stopping (child : Pid)
  | killing (child : Pid)
  | stopped
  | exited
  | respawnDelay
  | adopted (child : Pid)
  | adoptedWait (child : Pid)
  | adoptedStopping (child : Pid)
  | done
deriving DecidableEq

def RunnerPc.child : RunnerPc → Option Pid
  | .spawned child | .waiting child | .stopping child | .killing child | .adopted child | .adoptedWait child
  | .adoptedStopping child => some child
  | .spawning | .stopped | .exited | .respawnDelay | .done => none

def RunnerPc.awaits : RunnerPc → Bool
  | .waiting _ | .stopping _ | .killing _ | .respawnDelay | .adoptedWait _ | .adoptedStopping _ | .done => true
  | .spawning | .spawned _ | .stopped | .exited | .adopted _ => false

/-- `stopRequested` is whether `stop_rx.recv()` is ready: a message was sent or the sender is gone. `pid` is the cell
the runner shares with its entry. -/
structure Runner where
  name : ServiceName
  spec : SpawnSpec
  stopRequested : Bool
  pid : Pid
  pc : RunnerPc
  aborted : Bool
deriving DecidableEq

inductive Move where
  | spawn
  | spawnFails
  | storePid
  | childExited
  | stop
  | graceOver
  | kill
  | clearPid
  | delayOver
  | stillRunning
  | pollAgain
deriving DecidableEq

def Runner.move (runner : Runner) (processes : Processes) (move : Move) : Option (Runner × Processes) :=
  match runner.pc, move with
  | .spawning, .spawn =>
      some ({ runner with pc := .spawned processes.nextPid }, processes.spawn runner.name runner.spec)
  | .spawning, .spawnFails => some ({ runner with pc := .respawnDelay }, processes)
  | .spawned child, .storePid => some ({ runner with pc := .waiting child, pid := child }, processes)
  | .waiting child, .childExited =>
      if processes.hasExited child then some ({ runner with pc := .exited }, processes.reap child) else none
  | .waiting child, .stop => if runner.stopRequested then some ({ runner with pc := .stopping child }, processes) else none
  | .stopping child, .childExited =>
      if processes.hasExited child then some ({ runner with pc := .stopped }, processes.reap child) else none
  | .stopping child, .graceOver => some ({ runner with pc := .killing child }, processes)
  -- SIGKILL ends the child and the wait after it reaps it.
  | .killing child, .kill => some ({ runner with pc := .stopped }, processes.reap child)
  | .stopped, .clearPid => some ({ runner with pc := .done, pid := 0 }, processes)
  | .exited, .clearPid => some ({ runner with pc := .respawnDelay, pid := 0 }, processes)
  | .respawnDelay, .delayOver => some ({ runner with pc := .spawning }, processes)
  | .respawnDelay, .stop => if runner.stopRequested then some ({ runner with pc := .done }, processes) else none
  | .adopted child, .childExited =>
      if processes.hasExited child then some ({ runner with pc := .exited }, processes.reap child) else none
  | .adopted child, .stillRunning =>
      if processes.hasExited child then none else some ({ runner with pc := .adoptedWait child }, processes)
  | .adoptedWait child, .pollAgain => some ({ runner with pc := .adopted child }, processes)
  | .adoptedWait child, .stop =>
      if runner.stopRequested then some ({ runner with pc := .adoptedStopping child }, processes) else none
  -- After the grace period the child is reaped, if need be by SIGKILL first.
  | .adoptedStopping child, .graceOver => some ({ runner with pc := .stopped }, processes.reap child)
  | _, _ => none

/-! ## The registry -/

/-- `supervisor` and `stopTx` name the runner they belong to, and so does `pid`, the cell shared with it. -/
structure Entry where
  spec : SpawnSpec
  supervisor : Option TaskId
  stopTx : Option TaskId
  pid : TaskId
  resolvedProgram : Option String
  stopped : Bool
deriving DecidableEq

structure SavedService where
  name : ServiceName
  spec : SpawnSpec
  pid : Pid
  resolvedProgram : Option String
deriving DecidableEq

inductive AfterJoin where
  | unregister (name : ServiceName)
  | register (name : ServiceName) (spec : SpawnSpec)
  | stop (name : ServiceName)
  | restart (name : ServiceName)
deriving DecidableEq

/-- `leaving` lies between the snapshot of a reexec and `abort_all_tasks`, `aborted` between that and the new image,
`adopting` is the new image's pass over the state file. -/
inductive LoopPc where
  | idle
  | joining (task : TaskId) (next : AfterJoin)
  | leaving
  | aborted
  | adopting (saved : List SavedService)
deriving DecidableEq

/-- `answered` are the requests this image has handled, `imagePid` the first pid it can give to a child. -/
structure SupervisorState where
  services : Table ServiceName Entry
  runners : Table TaskId Runner
  nextTask : TaskId
  processes : Processes
  loop : LoopPc
  answered : List (Request × Response)
  saved : List SavedService
  imagePid : Pid
deriving DecidableEq

structure Os where
  resolveProgram : String → Option String
  resolveExe : Pid → Option String
  sendSignal : Pid → Int → Option String

namespace SupervisorState

def new : SupervisorState where
  services := ∅
  runners := ∅
  nextTask := 0
  processes := ⟨∅, 1⟩
  loop := .idle
  answered := []
  saved := []
  imagePid := 1

def respond (state : SupervisorState) (request : Request) (response : Response) : SupervisorState :=
  { state with loop := .idle, answered := state.answered ++ [(request, response)] }

def requestStop (state : SupervisorState) (stopTx : Option TaskId) : SupervisorState :=
  match stopTx with
  | some task => { state with runners := state.runners.modify task fun runner => { runner with stopRequested := true } }
  | none => state

/-- `tokio::spawn` of a runner together with the entry that holds its handle. -/
def spawnRunner (state : SupervisorState) (name : ServiceName) (spec : SpawnSpec) (resolved : Option String) (pid : Pid)
    (pc : RunnerPc) : SupervisorState :=
  { state with
    runners := state.runners.insert state.nextTask ⟨name, spec, false, pid, pc, false⟩
    nextTask := state.nextTask + 1
    services := state.services.insert name ⟨spec, some state.nextTask, some state.nextTask, state.nextTask, resolved, false⟩ }

def unknownService (name : ServiceName) : Response := .error s!"unknown service '{name}'"

def unregister (state : SupervisorState) (name : ServiceName) : SupervisorState × Option TaskId :=
  match state.services.lookup name with
  | none => (state, none)
  | some entry => ({ state with services := state.services.erase name }.requestStop entry.stopTx, entry.supervisor)

/-- `stop_svc` up to the await of the runner, if there is one. -/
def stopSvc (state : SupervisorState) (name : ServiceName) : SupervisorState × Response × Option TaskId :=
  match state.services.lookup name with
  | none => (state, unknownService name, none)
  | some entry =>
      if entry.stopped then (state, .ok, none)
      else
        let detached : Entry := { entry with stopTx := none, supervisor := none, stopped := entry.supervisor.isNone }
        ({ state with services := state.services.insert name detached }.requestStop entry.stopTx, .ok, entry.supervisor)

def markStopped (state : SupervisorState) (name : ServiceName) : SupervisorState :=
  { state with services := state.services.modify name fun entry => { entry with stopped := true } }

def startSvc (state : SupervisorState) (name : ServiceName) (os : Os) : SupervisorState × Response :=
  match state.services.lookup name with
  | none => (state, unknownService name)
  | some entry =>
      if entry.stopped then
        (state.spawnRunner name entry.spec (os.resolveProgram entry.spec.program) 0 .spawning, .ok)
      else (state, .ok)

def trackedPid (state : SupervisorState) (entry : Entry) : Pid :=
  match state.runners.lookup entry.pid with
  | some runner => runner.pid
  | none => 0

def killSvc (state : SupervisorState) (name : ServiceName) (signal : Int) (os : Os) : Response :=
  match state.services.lookup name with
  | none => unknownService name
  | some entry =>
      let pid := state.trackedPid entry
      if pid = 0 then .error s!"service '{name}' has no running process"
      else
        match os.sendSignal pid signal with
        | none => .ok
        | some err => .error s!"kill({pid}, {signal}): {err}"

def list (state : SupervisorState) (os : Os) : Response :=
  .ofStatuses <| state.services.entries.map fun item =>
    let pid := if state.trackedPid item.2 = 0 then none else some (state.trackedPid item.2)
    { name := item.1
      pid := pid
      exe := pid.bind os.resolveExe
      resolvedProgram := item.2.resolvedProgram
      spec := some item.2.spec
      stopped := item.2.stopped }

def register (state : SupervisorState) (name : ServiceName) (spec : SpawnSpec) (os : Os) : SupervisorState :=
  let insertNew (state : SupervisorState) : SupervisorState :=
    (state.spawnRunner name spec (os.resolveProgram spec.program) 0 .spawning).respond (.register name spec) .ok
  match state.services.lookup name with
  | none => insertNew state
  | some entry =>
      if entry.spec = spec then
        if entry.stopped then (state.startSvc name os).1.respond (.register name spec) .ok
        else state.respond (.register name spec) .ok
      else
        match state.unregister name with
        | (rest, none) => insertNew rest
        | (rest, some task) => { rest with loop := .joining task (.register name spec) }

/-- `SupervisorState::handle`, up to the await of a runner. -/
def handle (state : SupervisorState) (request : Request) (os : Os) : SupervisorState :=
  match request with
  | .register name spec => state.register name spec os
  | .unregister name =>
      match state.unregister name with
      | (rest, none) => rest.respond request .ok
      | (rest, some task) => { rest with loop := .joining task (.unregister name) }
  | .stop name =>
      match state.stopSvc name with
      | (rest, response, none) => rest.respond request response
      | (rest, _, some task) => { rest with loop := .joining task (.stop name) }
  | .start name => (state.startSvc name os).1.respond request (state.startSvc name os).2
  | .restart name =>
      if (state.services.lookup name).isNone then state.respond request (unknownService name)
      else
        match state.stopSvc name with
        | (rest, _, none) => (rest.startSvc name os).1.respond request (rest.startSvc name os).2
        | (rest, _, some task) => { rest with loop := .joining task (.restart name) }
  | .kill name signal => state.respond request (state.killSvc name signal os)
  | .list => state.respond request (state.list os)
  | .shutdown | .updateSelf => state.respond request (.error "handled by main loop")

def joined (state : SupervisorState) (next : AfterJoin) (os : Os) : SupervisorState :=
  match next with
  | .unregister name => state.respond (.unregister name) .ok
  | .register name spec =>
      (state.spawnRunner name spec (os.resolveProgram spec.program) 0 .spawning).respond (.register name spec) .ok
  | .stop name => (state.markStopped name).respond (.stop name) .ok
  | .restart name =>
      ((state.markStopped name).startSvc name os).1.respond (.restart name) ((state.markStopped name).startSvc name os).2

/-! ## Reexec -/

def saveStateForReexec (state : SupervisorState) : List SavedService :=
  state.services.entries.filterMap fun item =>
    if state.trackedPid item.2 = 0 then none
    else some ⟨item.1, item.2.spec, state.trackedPid item.2, item.2.resolvedProgram⟩

/-- The task is aborted and, with its entry, the sender of its stop channel dropped. -/
def abortRunner (runners : Table TaskId Runner) (entry : Entry) : Table TaskId Runner :=
  match entry.supervisor with
  | some task => runners.modify task fun runner => { runner with aborted := true, stopRequested := true }
  | none => runners

def abortAllTasks (state : SupervisorState) : SupervisorState :=
  { state with runners := state.services.values.foldl abortRunner state.runners, services := ∅, loop := .aborted }

def adopt (state : SupervisorState) (service : SavedService) : SupervisorState :=
  if state.processes.isAlive service.pid then
    state.spawnRunner service.name service.spec service.resolvedProgram service.pid (.adopted service.pid)
  else state

end SupervisorState

inductive SupervisorEvent where
  | request (request : Request) (os : Os)
  | join (os : Os)
  | runner (task : TaskId) (move : Move)
  | exit (pid : Pid)
  | updateSelf (changed : Bool)
  | abort
  | exec
  | adopt
  | serve

def supervisorStep (state : SupervisorState) : SupervisorEvent → Option SupervisorState
  | .request request os =>
      match state.loop, request with
      | .idle, .shutdown | .idle, .updateSelf => none
      | .idle, request => some (state.handle request os)
      | _, _ => none
  | .join os =>
      match state.loop with
      | .joining task next =>
          match state.runners.lookup task with
          | some runner => if runner.pc = .done then some (state.joined next os) else none
          | none => none
      | _ => none
  | .runner task move =>
      match state.runners.lookup task with
      | none => none
      | some runner =>
          if runner.aborted && runner.pc.awaits then none
          else
            match runner.move state.processes move with
            | none => none
            | some (moved, processes) =>
                some { state with runners := state.runners.insert task moved, processes := processes }
  | .exit pid => some { state with processes := state.processes.exit pid }
  | .updateSelf changed =>
      match state.loop with
      | .idle =>
          if changed then some { state with
            saved := state.saveStateForReexec
            answered := state.answered ++ [(.updateSelf, .ok)]
            loop := .leaving }
          else some (state.respond .updateSelf .noChange)
      | _ => none
  | .abort =>
      match state.loop with
      | .leaving => some state.abortAllTasks
      | _ => none
  | .exec =>
      match state.loop with
      | .aborted => some { state with
          runners := ∅
          loop := .adopting state.saved
          saved := []
          answered := []
          imagePid := state.processes.nextPid }
      | _ => none
  | .adopt =>
      match state.loop with
      | .adopting (service :: rest) => some { state.adopt service with loop := .adopting rest }
      | _ => none
  | .serve =>
      match state.loop with
      | .adopting [] => some { state with loop := .idle }
      | _ => none

/-! ## Terminal escapes in log lines

`strip_ansi` of `mac-mgmt-services/src/server.rs`. The scanner takes anything that carries a byte, so that the places of the bytes
it keeps can be followed. -/

def isFinal (b : UInt8) : Bool := 0x40 ≤ b && b ≤ 0x7e

def isInOsc (b : UInt8) : Bool := b ≠ 0x07 && b ≠ 0x1b

section Scanner
variable {T : Type*} (byte : T → UInt8)

def afterCsi (rest : List T) : List T := (rest.dropWhile fun x => !isFinal (byte x)).drop 1

def afterOsc (rest : List T) : List T :=
  match rest.dropWhile fun x => isInOsc (byte x) with
  | stop :: next :: more => if byte stop = 0x1b ∧ byte next = 0x5c then more else next :: more
  | _ => []

theorem afterCsi_sublist (rest : List T) : (afterCsi byte rest).Sublist rest :=
  (List.drop_sublist 1 _).trans (List.dropWhile_sublist _)

theorem afterOsc_sublist (rest : List T) : (afterOsc byte rest).Sublist rest := by
  have dropped := List.dropWhile_sublist (fun x => isInOsc (byte x)) (l := rest)
  rw [afterOsc]
  split
  · next found =>
      rw [found] at dropped
      split_ifs
      · exact ((List.sublist_cons_self _ _).trans (List.sublist_cons_self _ _)).trans dropped
      · exact (List.sublist_cons_self _ _).trans dropped
  · exact List.nil_sublist _

def stripBytes : List T → List T
  | [] => []
  | [b] => [b]
  | b :: next :: rest =>
      if byte b = 0x1b then
        if byte next = 0x5b then stripBytes (afterCsi byte rest)
        else if byte next = 0x5d then stripBytes (afterOsc byte rest)
        else stripBytes rest
      else b :: stripBytes (next :: rest)
termination_by input => input.length
decreasing_by
  · exact Nat.lt_add_right 1 (Nat.lt_succ_of_le (afterCsi_sublist byte rest).length_le)
  · exact Nat.lt_add_right 1 (Nat.lt_succ_of_le (afterOsc_sublist byte rest).length_le)
  · exact Nat.lt_add_right 1 (Nat.lt_succ_self _)
  · exact Nat.lt_succ_self _

end Scanner

def stripAnsi (input : List Char) : List Char := (fromUtf8 (stripBytes id (utf8Encode input))).getD input

end MacMgmt.Supervisor
