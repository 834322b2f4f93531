import MacMgmt.Agent.ClusterPeers
import Mathlib.Data.Finset.Filter

/-!
# The connections behind the swarm's events

`swarm_loop` of `mac-mgmt-agent/src/p2p/mod.rs` once more, with the connections that its events are about: a peer may have
several, each with an Identify and a reported close of its own. A connection that has been closed stays in the list until its
close is reported. The loop's own state is that of `ClusterPeers`, and changes as it does there.
-/

namespace MacMgmt.Agent
open Lib

structure Connection where
  id : Nat
  peer : PeerId
  isOpen : Bool
  identified : Bool
deriving DecidableEq

/-- `peers` is the loop's own state, the rest is what is the case. `passed` are the peers that have passed the Identify check
since they last had no open connection, `reached` those that a dial of the relay address has led to, and `reset` the relay that
the last event has made the loop give up. -/
structure SwarmConnections where
  peers : ClusterPeers
  connections : List Connection
  passed : Finset PeerId
  reached : Finset PeerId
  reset : Option PeerId

/-- `dialled` is the address of a connection that the daemon has opened itself; `closes` is not reported to the daemon. -/
inductive ConnectionEvent where
  | established (id : Nat) (peer : PeerId) (dialled : Option String) (now : Nat)
  | closes (id : Nat)
  | closed (id : Nat) (now : Nat)
  | identify (id : Nat) (agent : List Char) (now : Nat)
  | relayTick (now : Nat) (opened : Bool) (outcome : RegisterOutcome)
  | rpcError (now : Nat)

namespace SwarmConnections

def start (clusterPsk : Option (List UInt8)) (relayAddr : Option String) : SwarmConnections where
  peers := { ClusterPeers.start [] none with clusterPsk, relay := .new relayAddr }
  connections := []
  passed := ∅
  reached := ∅
  reset := none

def find (swarm : SwarmConnections) (id : Nat) : Option Connection := swarm.connections.find? (·.id = id)

def HasOpen (connections : List Connection) (peer : PeerId) : Prop := ∃ other ∈ connections, other.peer = peer ∧ other.isOpen

instance (connections : List Connection) (peer : PeerId) : Decidable (HasOpen connections peer) :=
  inferInstanceAs (Decidable (∃ other ∈ connections, _))

def setConnections (swarm : SwarmConnections) (connections : List Connection) : SwarmConnections :=
  { swarm with connections, passed := swarm.passed.filter fun peer => HasOpen connections peer }

def closeWhere (swarm : SwarmConnections) (closes : Connection → Bool) : SwarmConnections :=
  swarm.setConnections (swarm.connections.map fun connection =>
    if closes connection then { connection with isOpen := false } else connection)

/-- `disconnect_peer_id` -/
def disconnectPeerId (swarm : SwarmConnections) (peer : PeerId) : SwarmConnections := swarm.closeWhere (·.peer = peer)

def dropRelayConnection (swarm : SwarmConnections) (now : Nat) : SwarmConnections :=
  match swarm.peers.relay.peerId with
  | some peer => { swarm.disconnectPeerId peer with peers := swarm.peers.dropRelayConnection none now }
  | none => swarm

def onEstablished (swarm : SwarmConnections) (relayAddr : Option String) (id : Nat) (peer : PeerId) (dialled : Option String)
    (now : Nat) : SwarmConnections :=
  { swarm with
    peers := swarm.peers.feedRelay now (.connectionEstablished peer)
    connections := ⟨id, peer, true, false⟩ :: swarm.connections
    reached := if dialled.isSome ∧ dialled = relayAddr then insert peer swarm.reached else swarm.reached }

def onClosed (swarm : SwarmConnections) (connection : Connection) (now : Nat) : SwarmConnections :=
  { swarm with
    peers := { swarm.peers.forget none connection.peer with authorized := swarm.peers.authorized.erase connection.peer }.feedRelay
      now (.connectionClosed connection.peer)
    connections := swarm.connections.erase connection }

def accept (swarm : SwarmConnections) (connection : Connection) (peers : ClusterPeers) : SwarmConnections :=
  { swarm with peers, passed := insert connection.peer swarm.passed }.setConnections (swarm.connections.map fun other =>
    if other = connection then { other with identified := true } else other)

def onIdentify (sha256 : List UInt8 → List UInt8) (swarm : SwarmConnections) (connection : Connection) (agent : List Char)
    (now : Nat) : SwarmConnections :=
  let peers := (swarm.peers.hear none connection.peer agent).onIdentify sha256 connection.peer agent now
  if swarm.peers.verified sha256 connection.peer agent then swarm.accept connection peers
  else { swarm.disconnectPeerId connection.peer with peers }

def tickRelay (peers : ClusterPeers) (now : Nat) (opened : Bool) : ClusterPeers :=
  let ticked := peers.feedRelay now .tick
  if opened then ticked.feedRelay now .rpcStreamOpened else ticked

def onRelayTick (swarm : SwarmConnections) (now : Nat) (opened : Bool) (outcome : RegisterOutcome) : SwarmConnections :=
  let opened := tickRelay swarm.peers now opened
  if opened.relay.needsReregister now ∧ outcome = .failed then { swarm with peers := opened }.dropRelayConnection now
  else { swarm with peers := opened.reregister none now outcome }

def givenUp (before after : SwarmConnections) : Option PeerId :=
  if after.peers.relay.isDisconnected then before.peers.relay.peerId else none

def react (sha256 : List UInt8 → List UInt8) (relayAddr : Option String) (swarm : SwarmConnections) :
    ConnectionEvent → Option SwarmConnections
  | .established id peer dialled now =>
      if swarm.find id = none then some (swarm.onEstablished relayAddr id peer dialled now) else none
  | .closes id => some (swarm.closeWhere (·.id = id))
  | .closed id now =>
      (swarm.find id).bind fun connection => if connection.isOpen then none else some (swarm.onClosed connection now)
  | .identify id agent now => (swarm.find id).map fun connection => swarm.onIdentify sha256 connection agent now
  | .relayTick now opened outcome => some (swarm.onRelayTick now opened outcome)
  | .rpcError now => if swarm.peers.relay.peerId.isSome then some (swarm.dropRelayConnection now) else none

def step (sha256 : List UInt8 → List UInt8) (relayAddr : Option String) (swarm : SwarmConnections) (event : ConnectionEvent) :
    Option SwarmConnections :=
  (swarm.react sha256 relayAddr event).map fun after => { after with reset := swarm.givenUp after }

/-! ## What the peers and the relay are to be -/

/-- A peer with an open connection that has passed stays authorised, and a relay with an open connection on which it has
identified itself is not given up. -/
structure Linked (swarm : SwarmConnections) : Prop where
  authorized : ∀ connection ∈ swarm.connections, connection.isOpen → connection.peer ∈ swarm.passed →
    connection.peer ∈ swarm.peers.authorized
  kept : ∀ relay, swarm.reset = some relay → swarm.peers.relayPeerId = none ∧
    ∀ connection ∈ swarm.connections, connection.peer = relay → connection.identified → ¬connection.isOpen
  relay : swarm.peers.relayPeerId = swarm.peers.relay.peerId

/-- No close is reported of a peer that has passed and has an open connection left. -/
def Last (swarm : SwarmConnections) : ConnectionEvent → Prop
  | .closed id _ => ∀ connection ∈ swarm.find id, connection.peer ∈ swarm.passed →
      ¬HasOpen swarm.connections connection.peer
  | _ => True

/-- The relay is a peer that a dial of the configured address has led to. -/
def Dialled (swarm : SwarmConnections) : Prop := ∀ relay, swarm.peers.relayPeerId = some relay → relay ∈ swarm.reached

/-- While there is no relay, no other peer that passes the check calls itself one. -/
def NoImpostor (sha256 : List UInt8 → List UInt8) (swarm : SwarmConnections) : ConnectionEvent → Prop
  | .identify id agent _ => ∀ connection ∈ swarm.find id,
      swarm.peers.verified sha256 connection.peer agent → "mac-mgmt-relay/".toList.isPrefixOf agent →
      swarm.peers.relay.isDisconnected → connection.peer ∈ swarm.reached
  | _ => True

instance (swarm : SwarmConnections) : (event : ConnectionEvent) → Decidable (swarm.Last event)
  | .closed id _ => inferInstanceAs (Decidable (∀ connection ∈ swarm.find id, _ → _))
  | .established _ _ _ _ | .closes _ | .identify _ _ _ | .relayTick _ _ _ | .rpcError _ => inferInstanceAs (Decidable True)

instance (sha256 : List UInt8 → List UInt8) (swarm : SwarmConnections) :
    (event : ConnectionEvent) → Decidable (swarm.NoImpostor sha256 event)
  | .identify id _ _ => inferInstanceAs (Decidable (∀ connection ∈ swarm.find id, _ → _ → _ → _))
  | .established _ _ _ _ | .closes _ | .closed _ _ | .relayTick _ _ _ | .rpcError _ => inferInstanceAs (Decidable True)

end SwarmConnections
end MacMgmt.Agent
