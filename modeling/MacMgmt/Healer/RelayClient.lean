import MacMgmt.Tunnel.Bodies

/-!
# The healer's calls through the relay

`guarded_request`, `file_write` and `shell_exec` of `mac-mgmt-healer/src/relay_client.rs`, the relay's endpoints for them in
`relay/src/proxy_handler.rs`, and the daemon's `handle_streamed_shell` of `mac-mgmt-agent/src/p2p/mod.rs`. Where a request, an
answer or a connection is lost is chosen from outside. What a command prints, its regular expressions and the texts of errors
come from outside as well.
-/

namespace MacMgmt.Healer
open Lib Agent Tunnel

/-! ## The client -/

/-- `lowercase` is `to_lowercase` of the message. -/
structure ReqwestError where
  isConnect : Bool
  isTimeout : Bool
  message : String
  lowercase : String
deriving DecidableEq

def isDaemonOfflineStatus (status : Nat) : Bool := status = 404 || status = 502 || status = 503 || status = 504

def textContains (text part : String) : Bool := decide (part.toList <:+: text.toList)

def isConnectionError (error : ReqwestError) : Bool :=
  error.isConnect || error.isTimeout || textContains error.lowercase "connection refused" ||
    textContains error.lowercase "connection reset" || textContains error.lowercase "broken pipe"

/-- The daemon's answer is in the body unless the relay answers by itself. -/
structure Response (A : Type) where
  status : Nat
  answer : Option A

/-- What the client gets of one request, and what the daemon did on receiving it, if it did. -/
structure Attempt (A : Type) where
  result : Except ReqwestError (Response A)
  handled : Option A

inductive CallError (A : Type) where
  | offline (status : Nat)
  | disconnected (error : ReqwestError)
  | failedAfterReconnect (error : ReqwestError)
  | requestFailed (error : ReqwestError)
  | returned (response : Response A)
  | unreadBody

/-- The pings every five seconds until the deadline; it returns at the first one that succeeds. -/
def waitForDaemon (pings : List Bool) : Bool := pings.any id

/-- The result with everything that the daemon handled for it. -/
def guardedRequest {A : Type} (first : Attempt A) (pings : List Bool) (second : Attempt A) :
    Except (CallError A) (Response A) × List A :=
  let retry := (second.result.mapError CallError.failedAfterReconnect, first.handled.toList ++ second.handled.toList)
  match first.result with
  | .ok response =>
      if isDaemonOfflineStatus response.status then
        if waitForDaemon pings then retry else (.error (.offline response.status), first.handled.toList)
      else (.ok response, first.handled.toList)
  | .error error =>
      if isConnectionError error then
        if waitForDaemon pings then retry else (.error (.disconnected error), first.handled.toList)
      else (.error (.requestFailed error), first.handled.toList)

/-- What is lost between the client and the relay. A response that comes too late is a timeout. -/
inductive Loss where
  | nothing
  | request (error : ReqwestError)
  | response (error : ReqwestError)

def Loss.attempt {A : Type} (loss : Loss) (served : Response A × Option A) : Attempt A :=
  match loss with
  | .nothing => ⟨.ok served.1, served.2⟩
  | .request error => ⟨.error error, none⟩
  | .response error => ⟨.error error, served.2⟩

def isSuccess (status : Nat) : Bool := 200 ≤ status && status < 300

/-! ## The relay -/

inductive Opening where
  | opened
  | failed
  | timedOut
deriving DecidableEq

/-- `refusal` is an answer before the tunnel is opened: a bad host, no access, an unknown daemon. `sent` is whether the relay's
writes to the tunnel return without an error. -/
structure Route where
  refusal : Option Nat
  opening : Opening
  sent : Bool

/-- The relay's own answer, if it does not come to reading the daemon's. -/
def Route.failure (route : Route) : Option Nat :=
  match route.refusal, route.opening, route.sent with
  | some status, _, _ => some status
  | none, .failed, _ => some 502
  | none, .timedOut, _ => some 504
  | none, .opened, false => some 502
  | none, .opened, true => none

def Route.reaches (route : Route) : Bool := route.refusal.isNone && route.opening = .opened

/-! ## Writing a file -/

/-- One request from the client's body to the daemon as it is then. -/
structure WriteTry where
  loss : Loss
  route : Route
  client : BodyStream
  transport : Transport
  daemon : FileDaemon

def answerStatus (outcome : WriteOutcome) : Nat :=
  match outcome.result with
  | .ok _ => 200
  | .error (status, _) => status

namespace WriteTry
variable (query : FileWriteQuery) (request : WriteTry)

def handled : Option WriteOutcome :=
  if request.route.reaches then (FileUpload.streamed request.client).outcome request.daemon query request.transport else none

def serve : Response WriteOutcome × Option WriteOutcome :=
  let outcome := request.handled query
  match request.route.failure with
  | some status => (⟨status, none⟩, outcome)
  | none =>
      match outcome, request.transport.answered with
      | some answer, true => (⟨answerStatus answer, some answer⟩, outcome)
      | _, _ => (⟨502, none⟩, outcome)

def attempt : Attempt WriteOutcome := request.loss.attempt (request.serve query)

end WriteTry

def fileWrite (query : FileWriteQuery) (first : WriteTry) (pings : List Bool) (second : WriteTry) :
    Except (CallError WriteOutcome) (Response WriteOutcome) × List WriteOutcome :=
  let guarded := guardedRequest (first.attempt query) pings (second.attempt query)
  (guarded.1.bind fun response => if isSuccess response.status then .ok response else .error (.returned response), guarded.2)

/-- The content was put in place; a validator may have had it taken back. -/
def wrote (outcome : WriteOutcome) : Bool :=
  match outcome.result with
  | .ok _ => true
  | .error (status, _) => status = 422

/-! ## Running a command -/

inductive ShellFrame where
  | line (stream data : String)
  | exit (code : Int) (error : Option String)
  | streamError
deriving DecidableEq

structure ShellTunnel where
  name : String
  argTemplate : Option (Option String)

structure ShellOutcome where
  frames : List ShellFrame
  ran : Bool
deriving DecidableEq

/-- `regex` compiles an anchored pattern, `process` is what a spawned child yields. -/
structure ShellDaemon where
  regex : String → Except String (String → Bool)
  registry : Table String ShellTunnel
  virtualHandlers : Table String (Option String → List (String × String) × Int)
  spawn : Except String Unit
  process : List ShellFrame

namespace ShellDaemon
variable (daemon : ShellDaemon)

def validateArgs (tunnel : ShellTunnel) (userArg : Option String) : Except String Unit :=
  match tunnel.argTemplate, userArg with
  | some (some pattern), some arg =>
      match daemon.regex ("^(?:" ++ pattern ++ ")$") with
      | .ok accepts => if accepts arg then .ok () else .error ("argument does not match required pattern: " ++ pattern)
      | .error error => .error ("invalid validation pattern configured for " ++ tunnel.name ++ ": " ++ error)
  | some (some _), none | some none, _ | none, none => .ok ()
  | none, some _ => .error "this command does not accept arguments"

def handleStreamedShell (commandName : String) (userArg : Option String) : ShellOutcome :=
  match daemon.registry.lookup commandName with
  | none => ⟨[.exit (-1) (some ("unknown command: " ++ commandName))], false⟩
  | some tunnel =>
      match daemon.validateArgs tunnel userArg with
      | .error error => ⟨[.exit (-1) (some error)], false⟩
      | .ok () =>
          match daemon.virtualHandlers.lookup commandName with
          | some handler =>
              let output := handler userArg
              ⟨output.1.map (fun line => .line line.1 line.2) ++ [.exit output.2 none], true⟩
          | none =>
              match daemon.spawn with
              | .error error => ⟨[.exit (-1) (some ("spawn failed: " ++ error))], false⟩
              | .ok () => ⟨daemon.process, true⟩

end ShellDaemon

/-- `delivered` is whether the handshake arrives whole, `cut` after how many frames the answer breaks off. -/
structure ShellTry where
  loss : Loss
  route : Route
  delivered : Bool
  cut : Option (Nat × Ending)
  daemon : ShellDaemon

def passedFrames (frames : List ShellFrame) : Option (Nat × Ending) → List ShellFrame
  | none => frames
  | some (count, .closed) => frames.take count
  | some (count, .failed) => frames.take count ++ [.streamError]

namespace ShellTry
variable (commandName : String) (userArg : Option String) (request : ShellTry)

def handled : Option ShellOutcome :=
  if request.route.reaches && request.delivered then some (request.daemon.handleStreamedShell commandName userArg) else none

/-- The stream of events begins as soon as the handshake is written. -/
def serve : Response ShellOutcome × Option ShellOutcome :=
  let outcome := request.handled commandName userArg
  match request.route.failure with
  | some status => (⟨status, none⟩, outcome)
  | none => (⟨200, outcome.map fun run => { run with frames := passedFrames run.frames request.cut }⟩, outcome)

def attempt : Attempt ShellOutcome := request.loss.attempt (request.serve commandName userArg)

end ShellTry

structure ShellOutput where
  lines : List (String × String)
  exitCode : Option Int
  error : Option String
deriving DecidableEq

def ShellOutput.add (output : ShellOutput) : ShellFrame → ShellOutput
  | .line stream data => { output with lines := output.lines ++ [(stream, data)] }
  | .exit code error => { output with exitCode := some code, error }
  | .streamError => output

def shellOutput (response : Response ShellOutcome) : ShellOutput :=
  ((response.answer.map ShellOutcome.frames).getD []).foldl ShellOutput.add ⟨[], none, none⟩

/-- `bodyRead` is whether the rest of the response comes through. -/
def shellExec (commandName : String) (userArg : Option String) (first : ShellTry) (pings : List Bool) (second : ShellTry)
    (bodyRead : Bool) : Except (CallError ShellOutcome) ShellOutput × List ShellOutcome :=
  let guarded := guardedRequest (first.attempt commandName userArg) pings (second.attempt commandName userArg)
  (guarded.1.bind fun response =>
    if !isSuccess response.status then .error (.returned response)
    else if bodyRead then .ok (shellOutput response)
    else .error .unreadBody,
    guarded.2)

end MacMgmt.Healer
