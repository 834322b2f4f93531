import MacMgmt.Lib.Base64
import MacMgmt.Lib.Run
import MacMgmt.Lib.Utf8
import Mathlib.Data.Finset.Erase
import Mathlib.Data.Finset.Insert

/-!
# Authorised peers of the swarm

The PSK check of `swarm_loop` in `mac-mgmt-agent/src/p2p/mod.rs`, the relay state machine of `p2p/relay_state.rs` and the
agent strings that daemons and relays send with Identify. A peer is its bytes; `sha256` is the hash function. Times are in
seconds.
-/

namespace MacMgmt.Agent
open Lib

abbrev PeerId := List UInt8

/-! ## Agent strings -/

/-- `str::splitn` -/
def splitn : Nat → Char → List Char → List (List Char)
  | 0, _, _ => []
  | 1, _, text => [text]
  | count + 2, separator, text =>
      match text.dropWhile (· ≠ separator) with
      | [] => [text]
      | _ :: after => text.takeWhile (· ≠ separator) :: splitn (count + 1) separator after

def pskAuth (sha256 : List UInt8 → List UInt8) (psk : List UInt8) (peer : PeerId) : List Char :=
  hexEncode ((sha256 (psk ++ peer)).take 8)

def agentVersion (sha256 : List UInt8 → List UInt8) (psk : Option (List UInt8)) (version instanceId : List Char)
    (peer : PeerId) : List Char :=
  "mac-mgmt/".toList ++ version ++ '/' :: instanceId ++ (psk.elim [] fun psk => '/' :: pskAuth sha256 psk peer)

/-- The relay that is configured. `version` is that of its crate. -/
structure RelayNode where
  addr : String
  peer : PeerId
  version : List Char
  bare : '/' ∉ version
  proxyUrl : Option (List Char)

def RelayNode.agentVersion (node : RelayNode) : List Char :=
  "mac-mgmt-relay/".toList ++ node.version ++ '/' :: base64UrlEncode (utf8Encode (node.proxyUrl.getD []))

def constantTimeEq (a b : List UInt8) : Bool :=
  if a.length ≠ b.length then false
  else (a.zip b).foldl (fun diff pair => diff ||| (pair.1 ^^^ pair.2)) 0 = 0

def verifyPskAuth (sha256 : List UInt8 → List UInt8) (agent : List Char) (peer : PeerId) (psk : List UInt8) : Bool :=
  match splitn 4 '/' agent with
  | [_, _, _, auth] => constantTimeEq (utf8Encode auth) (utf8Encode (pskAuth sha256 psk peer))
  | _ => false

def parseRelayProxyUrl (agent : List Char) : Option (List Char) :=
  match splitn 3 '/' agent with
  | [_, _, b64] => if b64 = [] then none else (base64UrlDecode b64).bind fromUtf8
  | _ => none

/-! ## The relay state machine -/

inductive RelayState where
  | disabled
  | disconnected (relayAddr : String) (nextDial : Nat)
  | connected (relayAddr : String) (peer : PeerId)
  | identified (relayAddr : String) (peer : PeerId) (proxyUrl : Option (List Char))
  | registered (relayAddr : String) (peer : PeerId) (proxyUrl : Option (List Char)) (lastRegister : Int)

inductive RelayEvent where
  | connectionEstablished (peer : PeerId)
  | identified (peer : PeerId) (agent : List Char)
  | connectionClosed (peer : PeerId)
  | tick
  | rpcStreamOpened
  | rpcStreamFailed (error : String)

inductive RelayAction where
  | dial (addr : String)
  | openRpcStream (peer : PeerId)
  | setProxyUrl (url : Option (List Char))
  | authorizePeer (peer : PeerId)
  | deauthorizePeer (peer : PeerId)

namespace RelayState

def reconnectInterval : Nat := 30

def reregisterInterval : Nat := 60

def new : Option String → RelayState
  | some addr => .disconnected addr 0
  | none => .disabled

def peerId : RelayState → Option PeerId
  | .connected _ peer | .identified _ peer _ | .registered _ peer _ _ => some peer
  | .disabled | .disconnected _ _ => none

def isDisconnected : RelayState → Bool
  | .disconnected _ _ => true
  | .disabled | .connected _ _ | .identified _ _ _ | .registered _ _ _ _ => false

def becomeIdentified (state : RelayState) (peer : PeerId) (proxyUrl : Option (List Char)) : RelayState × List RelayAction :=
  match state with
  | .connected relayAddr _ | .disconnected relayAddr _ =>
      (.identified relayAddr peer proxyUrl, [.setProxyUrl proxyUrl, .authorizePeer peer, .openRpcStream peer])
  | .disabled | .identified _ _ _ | .registered _ _ _ _ => (state, [])

def close (state : RelayState) (peer : PeerId) (now : Nat) : RelayState × List RelayAction :=
  match state with
  | .connected relayAddr _ | .identified relayAddr _ _ | .registered relayAddr _ _ _ =>
      (.disconnected relayAddr (now + reconnectInterval), [.deauthorizePeer peer, .setProxyUrl none])
  | .disabled | .disconnected _ _ => (state, [])

def handleEvent (state : RelayState) (now : Nat) : RelayEvent → RelayState × List RelayAction
  | .connectionEstablished _ => (state, [])
  | .identified peer agent =>
      if "mac-mgmt-relay/".toList.isPrefixOf agent ∧ (state.peerId = some peer ∨ state.isDisconnected) then
        state.becomeIdentified peer (parseRelayProxyUrl agent)
      else (state, [])
  | .connectionClosed peer => if state.peerId = some peer then state.close peer now else (state, [])
  | .tick =>
      match state with
      | .disconnected relayAddr nextDial =>
          if nextDial ≤ now then (.disconnected relayAddr (now + reconnectInterval), [.dial relayAddr]) else (state, [])
      | .identified _ peer _ => (state, [.openRpcStream peer])
      | .disabled | .connected _ _ | .registered _ _ _ _ => (state, [])
  | .rpcStreamOpened =>
      match state with
      | .identified relayAddr peer proxyUrl => (.registered relayAddr peer proxyUrl (now - reregisterInterval), [])
      | .disabled | .disconnected _ _ | .connected _ _ | .registered _ _ _ _ => (state, [])
  | .rpcStreamFailed _ => (state, [])

def needsReregister (state : RelayState) (now : Nat) : Bool :=
  match state with
  | .registered _ _ _ lastRegister => reregisterInterval ≤ now - lastRegister
  | .disabled | .disconnected _ _ | .connected _ _ | .identified _ _ _ => false

def markRegistered (state : RelayState) (now : Nat) : RelayState :=
  match state with
  | .registered relayAddr peer proxyUrl _ => .registered relayAddr peer proxyUrl now
  | .disabled | .disconnected _ _ | .connected _ _ | .identified _ _ _ => state

def isIdentified (state : RelayState) (peer : PeerId) : Bool :=
  match state with
  | .identified _ other _ | .registered _ other _ _ => other = peer
  | .disabled | .disconnected _ _ | .connected _ _ => false

end RelayState

/-! ## The swarm loop -/

inductive RegisterOutcome where
  | rejected
  | registered
  | failed
deriving DecidableEq

/-- `opened` is whether a stream could be opened, if the tick tries it. -/
inductive SwarmEvent where
  | connectionEstablished (peer : PeerId) (now : Nat)
  | connectionClosed (peer : PeerId) (now : Nat)
  | identify (peer : PeerId) (agent : List Char) (now : Nat)
  | relayTick (now : Nat) (opened : Bool) (outcome : RegisterOutcome)
  | rpcError (now : Nat)

/-- The last three are not in the source: the Identify messages of the connected peers, the peers that the check has
disconnected, and whether the configured relay has been heard since it was connected. -/
structure ClusterPeers where
  clusterPsk : Option (List UInt8)
  authorized : Finset PeerId
  relay : RelayState
  relayPeerId : Option PeerId
  relayProxyUrl : Option (List Char)
  relayRegistered : Bool
  heard : List (PeerId × List Char)
  refused : List PeerId
  greeted : Bool

namespace ClusterPeers

def start (clusterPsk : List Char) (node : Option RelayNode) : ClusterPeers where
  clusterPsk := hexDecode clusterPsk
  authorized := ∅
  relay := .new (node.map (·.addr))
  relayPeerId := none
  relayProxyUrl := none
  relayRegistered := false
  heard := []
  refused := []
  greeted := false

def executeRelayAction (peers : ClusterPeers) : RelayAction → ClusterPeers
  | .dial _ | .openRpcStream _ => peers
  | .setProxyUrl url => { peers with relayProxyUrl := url }
  | .authorizePeer peer => { peers with relayPeerId := some peer, authorized := insert peer peers.authorized }
  | .deauthorizePeer peer =>
      { peers with relayPeerId := none, authorized := peers.authorized.erase peer, relayRegistered := false }

def feedRelay (peers : ClusterPeers) (now : Nat) (event : RelayEvent) : ClusterPeers :=
  let (relay, actions) := peers.relay.handleEvent now event
  actions.foldl executeRelayAction { peers with relay := relay }

def feed (peers : ClusterPeers) (events : List (Nat × RelayEvent)) : ClusterPeers :=
  events.foldl (fun peers event => peers.feedRelay event.1 event.2) peers

def forget (peers : ClusterPeers) (node : Option RelayNode) (peer : PeerId) : ClusterPeers :=
  { peers with
    heard := peers.heard.filter (·.1 ≠ peer)
    greeted := peers.greeted && node.map (·.peer) ≠ some peer }

def dropRelayConnection (peers : ClusterPeers) (node : Option RelayNode) (now : Nat) : ClusterPeers :=
  match peers.relay.peerId with
  | some peer => (peers.forget node peer).feedRelay now (.connectionClosed peer)
  | none => peers

def verified (sha256 : List UInt8 → List UInt8) (peers : ClusterPeers) (peer : PeerId) (agent : List Char) : Bool :=
  peers.clusterPsk.all (verifyPskAuth sha256 agent peer)

def hear (peers : ClusterPeers) (node : Option RelayNode) (peer : PeerId) (agent : List Char) : ClusterPeers :=
  { peers with
    heard := (peer, agent) :: peers.heard
    greeted := peers.greeted || node.map (·.peer) = some peer }

def onIdentify (sha256 : List UInt8 → List UInt8) (peers : ClusterPeers) (peer : PeerId) (agent : List Char) (now : Nat) :
    ClusterPeers :=
  if peers.verified sha256 peer agent then
    { peers with authorized := insert peer peers.authorized }.feedRelay now (.identified peer agent)
  else { peers with refused := peer :: peers.refused }

def reregister (peers : ClusterPeers) (node : Option RelayNode) (now : Nat) (outcome : RegisterOutcome) : ClusterPeers :=
  if peers.relay.needsReregister now then
    match outcome with
    | .rejected => peers
    | .registered => { peers with relay := peers.relay.markRegistered now, relayRegistered := true }
    | .failed => peers.dropRelayConnection node now
  else peers

def onRelayTick (peers : ClusterPeers) (node : Option RelayNode) (now : Nat) (opened : Bool) (outcome : RegisterOutcome) :
    ClusterPeers :=
  let ticked := peers.feedRelay now .tick
  let opened := if opened then ticked.feedRelay now .rpcStreamOpened else ticked
  opened.reregister node now outcome

def step (sha256 : List UInt8 → List UInt8) (node : Option RelayNode) (peers : ClusterPeers) : SwarmEvent → Option ClusterPeers
  | .connectionEstablished peer now => some (peers.feedRelay now (.connectionEstablished peer))
  | .connectionClosed peer now =>
      some ({ peers.forget node peer with authorized := peers.authorized.erase peer }.feedRelay now (.connectionClosed peer))
  | .identify peer agent now =>
      if ∀ relay ∈ node, relay.peer = peer → agent = relay.agentVersion then
        some ((peers.hear node peer agent).onIdentify sha256 peer agent now)
      else none
  | .relayTick now opened outcome => some (peers.onRelayTick node now opened outcome)
  | .rpcError now => if peers.relay.peerId.isSome then some (peers.dropRelayConnection node now) else none

/-! ## Who may be authorised -/

def Proves (sha256 : List UInt8 → List UInt8) (psk : List UInt8) (peer : PeerId) (agent : List Char) : Prop :=
  ∃ name version instanceId : List Char, '/' ∉ name ∧ '/' ∉ version ∧ '/' ∉ instanceId ∧
    agent = name ++ '/' :: version ++ '/' :: instanceId ++ '/' :: pskAuth sha256 psk peer

def Guarded (sha256 : List UInt8 → List UInt8) (clusterPsk : List Char) (node : Option RelayNode) (peers : ClusterPeers) :
    Prop :=
  (∀ peer ∈ peers.authorized, node.map (·.peer) ≠ some peer →
    ∃ psk, hexDecode clusterPsk = some psk ∧ ∃ agent, (peer, agent) ∈ peers.heard ∧ Proves sha256 psk peer agent) ∧
  ∀ relay ∈ node, relay.peer ∉ peers.refused ∧ (peers.greeted = true → peers.relay.isIdentified relay.peer = true)

/-- Where the PSK could be decoded the relay does not identify itself, and where it could not no other peer does. -/
def Fits (clusterPsk : List Char) (node : Option RelayNode) (_ : ClusterPeers) : SwarmEvent → Prop
  | .identify peer _ _ => (hexDecode clusterPsk).isSome = true ↔ node.map (·.peer) ≠ some peer
  | .connectionEstablished _ _ | .connectionClosed _ _ | .relayTick _ _ _ | .rpcError _ => True

end ClusterPeers
end MacMgmt.Agent
