import MacMgmt.Agent.ClusterPeers
import MacMgmt.Lib.Table
import Mathlib.Data.List.MinMax

/-!
# The registry of the cluster's backends

`PeerRegistry` of `mac-mgmt-agent/src/p2p/discovery.rs`, and what `handle_general_event` of `p2p/mod.rs` does to it. `parse`
reads a peer id from its text. A hash map is read in an order of its own.
-/

namespace MacMgmt.Agent
open Lib

structure BackendInfo where
  name : String
  baseUrl : String
deriving DecidableEq

structure BackendAdvertisement where
  peerId : String
  backends : List BackendInfo
  activeJobs : Nat
  models : List String
deriving DecidableEq

structure PeerEntry where
  advertisement : BackendAdvertisement
  lastSeen : Nat
deriving DecidableEq

abbrev PeerRegistry := Table PeerId PeerEntry

namespace PeerRegistry

def staleTimeoutSecs : Nat := 60

def fresh (now : Nat) (entry : PeerEntry) : Bool := now < entry.lastSeen + staleTimeoutSecs

def update (registry : PeerRegistry) (peer : PeerId) (advertisement : BackendAdvertisement) (now : Nat) : PeerRegistry :=
  registry.insert peer ⟨advertisement, now⟩

def evictStale (registry : PeerRegistry) (now : Nat) : PeerRegistry := Table.retain registry fun _ entry => fresh now entry

abbrev Order := List (PeerId × PeerEntry)

def Iterates (registry : PeerRegistry) (order : Order) : Prop :=
  order.Nodup ∧ ∀ peer entry, (peer, entry) ∈ order ↔ registry.lookup peer = some entry

def offers (now : Nat) (entry : PeerEntry) : Bool := fresh now entry && decide (entry.advertisement.backends ≠ [])

/-- `min_by_key` takes the first of several. -/
def leastLoadedPeer (order : Order) (now : Nat) : Option (PeerId × BackendAdvertisement) :=
  ((order.filter fun entry => offers now entry.2).argmin fun entry => entry.2.advertisement.activeJobs).map fun entry =>
    (entry.1, entry.2.advertisement)

def leastLoadedPeerBelow (order : Order) (now localJobs : Nat) : Option (PeerId × BackendAdvertisement) :=
  ((order.filter fun entry => offers now entry.2 && decide (entry.2.advertisement.activeJobs < localJobs)).argmin fun entry =>
    entry.2.advertisement.activeJobs).map fun entry => (entry.1, entry.2.advertisement)

def freshPeers (order : Order) (now : Nat) : List (PeerId × BackendAdvertisement) :=
  (order.filter fun entry => fresh now entry.2).map fun entry => (entry.1, entry.2.advertisement)

end PeerRegistry

/-- `published` is what each peer has itself said last of itself on the cluster topic. -/
structure ClusterRegistry where
  peers : PeerRegistry
  authorized : Finset PeerId
  published : PeerId → Option BackendAdvertisement

/-- `publisher` is the peer that signed the message, which holds an advertisement or something else. The last two are the
loop's changes to the authorised peers. -/
inductive ClusterEvent where
  | gossip (publisher : PeerId) (message : Option BackendAdvertisement) (now : Nat)
  | mdnsExpired (peers : List PeerId)
  | evictStale (now : Nat)
  | authorize (peer : PeerId)
  | deauthorize (peer : PeerId)

namespace ClusterRegistry

def start : ClusterRegistry := ⟨∅, ∅, fun _ => none⟩

def onAdvertisement (cluster : ClusterRegistry) (publisher peer : PeerId) (advertisement : BackendAdvertisement) (now : Nat) :
    ClusterRegistry :=
  { cluster with
    peers := cluster.peers.update peer advertisement now
    published := if publisher = peer then Function.update cluster.published peer (some advertisement) else cluster.published }

def step (parse : String → Option PeerId) (cluster : ClusterRegistry) : ClusterEvent → Option ClusterRegistry
  | .gossip publisher message now =>
      some (match message.bind fun advertisement => (parse advertisement.peerId).map (·, advertisement) with
        | some (peer, advertisement) => cluster.onAdvertisement publisher peer advertisement now
        | none => cluster)
  | .mdnsExpired peers => some { cluster with peers := peers.foldl (fun registry peer => registry.erase peer) cluster.peers }
  | .evictStale now => some { cluster with peers := cluster.peers.evictStale now }
  | .authorize peer => some { cluster with authorized := insert peer cluster.authorized }
  | .deauthorize peer => some { cluster with authorized := cluster.authorized.erase peer }

def Vouched (cluster : ClusterRegistry) (peer : PeerId) (advertisement : BackendAdvertisement) : Prop :=
  peer ∈ cluster.authorized ∧ cluster.published peer = some advertisement

/-- An advertisement names its publisher, or repeats what the named peer has said, and this peer is authorised; no peer with
an entry is deauthorised. -/
def Genuine (parse : String → Option PeerId) (cluster : ClusterRegistry) : ClusterEvent → Prop
  | .gossip publisher message _ => ∀ advertisement ∈ message, ∀ peer ∈ parse advertisement.peerId,
      peer ∈ cluster.authorized ∧ (peer = publisher ∨ cluster.published peer = some advertisement)
  | .deauthorize peer => cluster.peers.lookup peer = none
  | .mdnsExpired _ | .evictStale _ | .authorize _ => True

end ClusterRegistry
end MacMgmt.Agent
