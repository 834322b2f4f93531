import MacMgmt.Agent.ServerPush
import MacMgmt.Lib.Broadcast
import MacMgmt.Lib.Run
import MacMgmt.Server.Rollouts

/-!
# Push streams

The channels of `server/src/api/push.rs` with `notify`, `notify_clusters` and `sse_events`, and the federation's with
`notify_federation` and `federation_events` of `server/src/api/federation.rs`. A stream's loop takes one branch of its
`select!` at a time, whenever its client lets it go on. Channels are never removed.
-/

namespace MacMgmt.Server
open Lib Agent

inductive FederationEvent where
  | ping
  | catalogChanged
deriving DecidableEq

/-- The capacity of every `broadcast::channel`. -/
def channelCapacity : Nat := 64

abbrev ClientId := Nat

/-- A yielded keepalive is the `Ping` of the channel's own kind of event. -/
abbrev PushChannel (M : Type) := Broadcast M ClientId

structure PushChannels where
  channels : Table Uuid (PushChannel PushCommand)
  federation : PushChannel FederationEvent

namespace PushChannels
variable (push : PushChannels)

def start : PushChannels := ⟨∅, Broadcast.empty⟩

/-- The channels after `notify_counted` with how many receivers were reached. -/
def notifyCounted (clusterId : Uuid) (message : PushCommand) : PushChannels × Nat :=
  match push.channels.lookup clusterId with
  | some channel =>
      let sent := channel.send channelCapacity message
      ({ push with channels := push.channels.insert clusterId sent.1 }, sent.2)
  | none => (push, 0)

def notify (clusterId : Uuid) (message : PushCommand) : PushChannels := (push.notifyCounted clusterId message).1

def notifyClusters (clusterIds : List Uuid) (message : PushCommand) : PushChannels :=
  clusterIds.foldl (fun push clusterId => push.notify clusterId message) push

def notifyFederation : PushChannels :=
  { push with federation := (push.federation.send channelCapacity .catalogChanged).1 }

def sseEvents (token : Option (Option Uuid × String)) (client : ClientId) : Option PushChannels :=
  match token with
  | some (some clusterId, kind) =>
      if kind ≠ "sync" then none
      else
        let channel := (push.channels.lookup clusterId).getD Broadcast.empty
        if client ∈ channel.receivers then none
        else some { push with channels := push.channels.insert clusterId (channel.subscribe client) }
  | some (none, _) | none => none

def federationEvents (kind : Option String) (client : ClientId) : Option PushChannels :=
  if kind ≠ some "federation" ∨ client ∈ push.federation.receivers then none
  else some { push with federation := push.federation.subscribe client }

end PushChannels

inductive PushChange where
  | notify (clusterId : Uuid) (message : PushCommand)
  | notifyClusters (clusterIds : List Uuid) (message : PushCommand)
  | notifyFederation
  | sseEvents (token : Option (Option Uuid × String)) (client : ClientId)
  | federationEvents (kind : Option String) (client : ClientId)
  | stream (clusterId : Uuid) (client : ClientId) (turn : Broadcast.Turn)
  | federationStream (client : ClientId) (turn : Broadcast.Turn)

def PushChannels.step (push : PushChannels) : PushChange → Option PushChannels
  | .notify clusterId message => some (push.notify clusterId message)
  | .notifyClusters clusterIds message => some (push.notifyClusters clusterIds message)
  | .notifyFederation => some push.notifyFederation
  | .sseEvents token client => push.sseEvents token client
  | .federationEvents kind client => push.federationEvents kind client
  | .stream clusterId client turn =>
      (push.channels.lookup clusterId).map fun channel =>
        { push with channels := push.channels.insert clusterId (channel.turn channelCapacity client turn) }
  | .federationStream client turn =>
      some { push with federation := push.federation.turn channelCapacity client turn }

end MacMgmt.Server
