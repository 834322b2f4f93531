import MacMgmt.Lib.Run
import MacMgmt.Supervisor.Connection

/-!
# The supervisor's client

`Client` of `mac-mgmt-services/src/client.rs` with its reader task and the connection to the supervisor. A
request in progress is `phase`; its caller may drop it at any await, and the wait for the response may
time out. The supervisor answers the requests of a connection once each and in order.
-/

namespace MacMgmt.Supervisor
open Lib

/-- A request with the number it was sent under. No line carries the number. -/
structure Asked where
  id : Nat
  request : Request
deriving DecidableEq

structure Answer where
  asked : Asked
  response : Response
deriving DecidableEq

inductive Inbound where
  | response (answer : Answer)
  | notification (notification : Notification)
deriving DecidableEq

/-- Where `send` is: in `write_all`, with or without a part of the line in the socket, or in the wait for
`resp_rx`. -/
inductive SendPhase where
  | idle
  | writing (asked : Asked) (partly : Bool)
  | waiting (asked : Asked)
deriving DecidableEq

/-- `torn` is whether the socket holds the beginning of a line that nobody will finish, `unanswered` the
requests the supervisor has or will read, `wire` its lines that the reader task has not read. -/
structure Client where
  phase : SendPhase
  nextId : Nat
  torn : Bool
  unanswered : List Asked
  wire : List Inbound
  reader : Bool
  respRx : List Answer
  notifRx : List Notification
  returned : List (Asked × Answer)
deriving DecidableEq

def respCapacity : Nat := 8

def notifCapacity : Nat := 256

def Client.start : Client where
  phase := .idle
  nextId := 0
  torn := false
  unanswered := []
  wire := []
  reader := true
  respRx := []
  notifRx := []
  returned := []

/-- The reader task forwards the next line once its channel has room. -/
def Client.readLine (client : Client) : Option Client :=
  match client.reader, client.wire with
  | true, .response answer :: wire =>
      if client.respRx.length < respCapacity then
        some { client with wire := wire, respRx := client.respRx ++ [answer] }
      else none
  | true, .notification notification :: wire =>
      if client.notifRx.length < notifCapacity then
        some { client with wire := wire, notifRx := client.notifRx ++ [notification] }
      else none
  | _, _ => none

/-- The line is complete. Behind a torn line it is part of a line the supervisor cannot parse and skips. -/
def Client.written (client : Client) (asked : Asked) : Client :=
  { client with
    phase := .waiting asked
    torn := false
    unanswered := if client.torn then client.unanswered else client.unanswered ++ [asked] }

/-- The future of `send` is gone, by an error, by its timeout or because its caller dropped it. -/
def Client.giveUp (client : Client) : Client :=
  match client.phase with
  | .writing _ true => { client with phase := .idle, torn := true }
  | _ => { client with phase := .idle }

inductive ClientEvent where
  | send (request : Request)
  | writeSome
  | written
  | writeFailed
  | receive
  | timedOut
  | closedConnection
  | dropped
  | answer (response : Response)
  | notify (notification : Notification)
  | readLine
  | readerEnds
  | tryRecvNotification
  | connect
deriving DecidableEq

def clientStep (client : Client) : ClientEvent → Option Client
  | .send request =>
      match client.phase with
      | .idle => some { client with
          phase := .writing ⟨client.nextId, request⟩ false
          nextId := client.nextId + 1 }
      | _ => none
  | .writeSome =>
      match client.phase with
      | .writing asked _ => some { client with phase := .writing asked true }
      | _ => none
  | .written =>
      match client.phase with
      | .writing asked _ => some (client.written asked)
      | _ => none
  | .writeFailed =>
      match client.phase with
      | .writing _ _ => some client.giveUp
      | _ => none
  | .receive =>
      match client.phase, client.respRx with
      | .waiting asked, answer :: respRx => some { client with
          phase := .idle
          respRx := respRx
          returned := client.returned ++ [(asked, answer)] }
      | _, _ => none
  | .timedOut =>
      match client.phase with
      | .waiting _ => some client.giveUp
      | _ => none
  | .closedConnection =>
      match client.phase, client.respRx, client.reader with
      | .waiting _, [], false => some client.giveUp
      | _, _, _ => none
  | .dropped =>
      match client.phase with
      | .idle => none
      | _ => some client.giveUp
  | .answer response =>
      match client.unanswered with
      | asked :: unanswered => some { client with
          unanswered := unanswered
          wire := client.wire ++ [.response ⟨asked, response⟩] }
      | [] => none
  | .notify notification => some { client with wire := client.wire ++ [.notification notification] }
  | .readLine => client.readLine
  | .readerEnds => some { client with reader := false }
  | .tryRecvNotification =>
      match client.notifRx with
      | _ :: notifRx => some { client with notifRx := notifRx }
      | [] => none
  | .connect =>
      match client.phase with
      | .idle => some { Client.start with nextId := client.nextId, returned := client.returned }
      | _ => none

end MacMgmt.Supervisor
