import MacMgmt.Lib.Framing
import MacMgmt.Lib.Run
import Mathlib.Data.Finmap

/-!
# The supervisor's side of a connection

The types of `mac-mgmt-services/src/protocol.rs` and `handle_client` of its `server.rs`. Each turn of the loop clears the line buffer and waits in
`select!` for `read_line` or for a broadcast notification. A notification that wins drops the `read_line` future,
which had moved the bytes it consumed out of the `BufReader`. After a whole line the handler forwards the request,
waits for its response and writes it before it reads again.
-/

namespace MacMgmt.Supervisor
open Lib

abbrev ServiceName := String

/-- The environment is a `HashMap`, compared as a map. -/
structure SpawnSpec where
  program : String
  args : List String
  env : Finmap fun _ : String => String
deriving DecidableEq

inductive Request where
  | register (name : ServiceName) (spec : SpawnSpec)
  | unregister (name : ServiceName)
  | list
  | stop (name : ServiceName)
  | start (name : ServiceName)
  | restart (name : ServiceName)
  | kill (name : ServiceName) (signal : Int)
  | shutdown
  | updateSelf
deriving DecidableEq

structure ServiceStatus where
  name : ServiceName
  pid : Option Nat
  exe : Option String
  resolvedProgram : Option String
  spec : Option SpawnSpec
  stopped : Bool
deriving DecidableEq

inductive Response where
  | ok
  | error (message : String)
  | noChange
  | services (statuses : List ServiceStatus) (names : List ServiceName)
deriving DecidableEq

def Response.ofStatuses (statuses : List ServiceStatus) : Response :=
  .services statuses (statuses.map ServiceStatus.name)

inductive Notification where
  | crashed (name : ServiceName) (exitCode : Option Int)
  | log (name : ServiceName) (line : String) (isStderr : Bool)
deriving DecidableEq

inductive Message where
  | request (request : Request)
  | response (response : Response)
  | notification (notification : Notification)
deriving DecidableEq

/-! ## Lines -/

def newline : UInt8 := 10

def readLineByte (line : List UInt8) (byte : UInt8) : Progress (List UInt8) (List UInt8) :=
  if byte = newline then .done line else .more (line ++ [byte])

/-- `read_line`; its frames are lines without their newline. -/
def lineDecoder : Decoder UInt8 (List UInt8) where
  State := List UInt8
  fresh := []
  feed := readLineByte

/-- What `read_line` and `serde_json::from_str` make of a line. -/
inductive LineContent where
  | notUtf8
  | invalid
  | message (message : Message)
deriving DecidableEq

inductive ConnectionPhase where
  | reading
  | forwarding (request : Request)
  | waiting (request : Request)
  | ended
deriving DecidableEq

/-- A line written to the daemon; a response line with the request it answers. -/
inductive Outbound where
  | response (request : Request) (response : Response)
  | notification (notification : Notification)
deriving DecidableEq

/-- `hungUp` is whether the daemon has closed its end. -/
structure Connection where
  intake : Intake lineDecoder
  hungUp : Bool
  phase : ConnectionPhase
  forwarded : List Request
  written : List Outbound

def Connection.start : Connection where
  intake := Intake.start lineDecoder
  hungUp := false
  phase := .reading
  forwarded := []
  written := []

def Connection.writeMsg (connection : Connection) (line : Outbound) (succeeds : Bool) : Connection :=
  if succeeds then { connection with phase := .reading, written := connection.written ++ [line] }
  else { connection with phase := .ended }

section
variable (fromStr : List UInt8 → LineContent)

def Connection.takeLine (connection : Connection) (line : List UInt8) : Connection :=
  match fromStr line with
  | .notUtf8 => { connection with phase := .ended }
  | .invalid => connection
  | .message (.request request) => { connection with phase := .forwarding request }
  | .message _ => connection

def Connection.pollLine (connection : Connection) : Connection :=
  if connection.hungUp && connection.intake.avail.isEmpty then
    match connection.intake.reading with
    | [] => { connection with phase := .ended }
    -- At the end of the stream `read_line` returns what there is of a line.
    | byte :: bytes => Connection.takeLine fromStr { connection with intake := connection.intake.cancel } (byte :: bytes)
  else
    match lineDecoder.poll connection.intake.reading connection.intake.avail with
    | (.done line, _) => Connection.takeLine fromStr { connection with intake := connection.intake.poll } line
    | _ => { connection with intake := connection.intake.poll }

inductive ConnectionEvent where
  | arrive (chunk : List UInt8)
  | hangUp
  | poll
  | notify (notification : Notification) (succeeds : Bool)
  | lagged
  | notifClosed
  | forward
  | respond (response : Response) (succeeds : Bool)
  | loopGone
deriving DecidableEq

def connectionStep (connection : Connection) : ConnectionEvent → Option Connection
  | .arrive chunk =>
      if connection.hungUp then none else some { connection with intake := connection.intake.arrive chunk }
  | .hangUp => some { connection with hungUp := true }
  | .poll =>
      match connection.phase with
      | .reading => some (connection.pollLine fromStr)
      | _ => none
  | .notify notification succeeds =>
      match connection.phase with
      | .reading => some (Connection.writeMsg { connection with intake := connection.intake.cancel }
          (.notification notification) succeeds)
      | _ => none
  | .lagged =>
      match connection.phase with
      | .reading => some { connection with intake := connection.intake.cancel }
      | _ => none
  | .notifClosed =>
      match connection.phase with
      | .reading => some { connection with phase := .ended }
      | _ => none
  | .forward =>
      match connection.phase with
      | .forwarding request => some { connection with
          phase := .waiting request
          forwarded := connection.forwarded ++ [request] }
      | _ => none
  | .respond response succeeds =>
      match connection.phase with
      | .waiting request => some (connection.writeMsg (.response request response) succeeds)
      | _ => none
  | .loopGone =>
      match connection.phase with
      | .forwarding _ | .waiting _ => some { connection with phase := .ended }
      | _ => none

end

def receivedBytes (events : List ConnectionEvent) : List UInt8 :=
  events.flatMap fun
    | .arrive chunk => chunk
    | _ => []

end MacMgmt.Supervisor
