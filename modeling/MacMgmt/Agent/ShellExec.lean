import MacMgmt.Lib.Run
import Mathlib.Logic.Function.Basic

/-!
# A command of a shell tunnel

The loop of `handle_exec_session` (`mac-mgmt-agent/src/shell_tunnels.rs`), `handle_streamed_shell` (`mac-mgmt-agent/src/p2p/mod.rs`)
and `LocalInstanceAccess::shell_exec` (`daemon/src/healer_bridge.rs`) once the child runs: they differ in where a line goes and in the
text of the timeout. The child's standard input is null. A pipe holds what `next_line` is going to return.
-/

namespace MacMgmt.Agent
open Lib

inductive PipeName where
  | stdout
  | stderr
deriving DecidableEq

def PipeName.other : PipeName → PipeName
  | .stdout => .stderr
  | .stderr => .stdout

/-- `failed` is a read that fails, also for a line that is no UTF-8. -/
inductive PipeItem where
  | line (data : String)
  | failed
deriving DecidableEq

/-- `closed` when no process holds the other end. -/
structure Pipe where
  ready : List PipeItem
  closed : Bool
deriving DecidableEq

inductive NextLine where
  | item (item : PipeItem)
  | end_
deriving DecidableEq

/-- `none` waits. -/
def Pipe.nextLine (pipe : Pipe) : Option NextLine :=
  match pipe.ready with
  | item :: _ => some (.item item)
  | [] => if pipe.closed then some .end_ else none

def Pipe.rest (pipe : Pipe) : Pipe := { pipe with ready := pipe.ready.tail }

inductive ShellMessage where
  | line (stream : PipeName) (data : String)
  | result (exitCode : Int) (error : Option String)
deriving DecidableEq

/-- `killing` waits for the child that was killed; without a result the client is gone. -/
inductive ShellPhase where
  | looping
  | draining (pipe : PipeName)
  | waiting
  | killing (result : Option ShellMessage)
  | done
deriving DecidableEq

/-- `exited` is the status of the child, without a code after a signal. `read` is history: the lines that `next_line` has returned. So
is `waitFailed`. -/
structure ShellRun where
  phase : ShellPhase
  pipes : PipeName → Pipe
  exited : Option (Option Int)
  killed : Bool
  elapsed : Bool
  read : List (PipeName × String)
  given : List ShellMessage
  broken : Bool
  waitFailed : Bool

def ShellRun.start : ShellRun where
  phase := .looping
  pipes _ := ⟨[], false⟩
  exited := none
  killed := false
  elapsed := false
  read := []
  given := []
  broken := false
  waitFailed := false

/-- The first four are the child's, its descendants' and the clock's. `poll` is the branch of a pipe, with whether the line can be sent
on; `timeout` is the branch of the timer. -/
inductive ShellEvent where
  | write (pipe : PipeName) (item : PipeItem)
  | close (pipe : PipeName)
  | exit (status : Option Int)
  | elapse
  | poll (pipe : PipeName) (sent : Bool)
  | timeout
  | reap (works : Bool)

/-- `sends` is false for the local variant, which collects the lines. -/
structure ShellVariant where
  sends : Bool
  timeoutText : Nat → String

section Step
variable (variant : ShellVariant) (execTimeout : Nat)

def timeoutResult : ShellMessage := .result (-1) (some (variant.timeoutText execTimeout))

def takeLine (state : ShellRun) (pipe : PipeName) (data : String) (sent : Bool) : ShellRun :=
  let state := { state with read := state.read ++ [(pipe, data)], pipes := Function.update state.pipes pipe (state.pipes pipe).rest }
  if variant.sends && !sent then { state with phase := .killing none, killed := true, broken := true }
  else { state with given := state.given ++ [ShellMessage.line pipe data] }

def pollPipe (state : ShellRun) (pipe : PipeName) (sent : Bool) (atEnd : ShellPhase) : Option ShellRun :=
  (state.pipes pipe).nextLine.map fun
    | .item (.line data) => takeLine variant state pipe data sent
    | .item .failed => { state with phase := .waiting }
    | .end_ => { state with phase := atEnd }

def shellStep (state : ShellRun) : ShellEvent → Option ShellRun
  | .write pipe item =>
      if (state.pipes pipe).closed then none
      else some { state with
        pipes := Function.update state.pipes pipe { state.pipes pipe with ready := (state.pipes pipe).ready ++ [item] } }
  | .close pipe => some { state with pipes := Function.update state.pipes pipe { state.pipes pipe with closed := true } }
  | .exit status => if state.exited.isSome then none else some { state with exited := some status }
  | .elapse => some { state with elapsed := true }
  | .poll pipe sent =>
      match state.phase with
      | .looping => pollPipe variant state pipe sent (.draining pipe.other)
      | .draining left =>
          -- the end and a failed read are the same to `while let`
          if pipe = left then pollPipe variant state pipe sent .waiting else none
      | .waiting | .killing _ | .done => none
  | .timeout =>
      match state.phase with
      | .looping =>
          if state.elapsed then some { state with phase := .killing (some (timeoutResult variant execTimeout)), killed := true } else none
      | .draining _ | .waiting | .killing _ | .done => none
  | .reap works =>
      match state.phase with
      | .waiting =>
          if !works then some { state with phase := .done, given := state.given ++ [ShellMessage.result (-1) none], waitFailed := true }
          else state.exited.map fun status => { state with phase := .done, given := state.given ++ [ShellMessage.result (status.getD (-1)) none] }
      | .killing result =>
          if works && state.exited.isNone then none
          else some { state with phase := .done, given := state.given ++ result.toList }
      | .looping | .draining _ | .done => none

end Step

inductive ShellHandler where
  | handleExecSession
  | handleStreamedShell
  | shellExec
deriving DecidableEq

def ShellHandler.variant : ShellHandler → ShellVariant
  | .handleExecSession => ⟨true, fun secs => "command timed out after " ++ toString secs ++ "s"⟩
  | .handleStreamedShell => ⟨true, fun secs => "timeout (" ++ toString secs ++ "s)"⟩
  | .shellExec => ⟨false, fun secs => "command timed out after " ++ toString secs ++ "s"⟩

def defaultExecSecs : Nat := 300

def ShellHandler.step (handler : ShellHandler) (timeoutSecs : Option Nat) : ShellRun → ShellEvent → Option ShellRun :=
  shellStep handler.variant (timeoutSecs.getD defaultExecSecs)

end MacMgmt.Agent
