import MacMgmt.Relay.Registry

/-!
# The relay's RPC streams

The accept loop of `RelaySwarm::start` and the handlers it spawns (`handle_daemon_rpc` in
`relay/src/p2p.rs`). A handler is a sequence of calls into the registry and the SSH bridge, each of which
takes its locks once; between two calls any other handler may run. `Pc` names the call that comes next.
-/

namespace MacMgmt.Relay
open Lib

abbrev StreamId := Nat

/-- What `validate_token` reads of the server's answer. -/
structure SelfInfo where
  clusterId : Option Uuid
  clusterName : Option String
  tokenKind : String
deriving DecidableEq

structure RegisterFrame where
  instanceId : InstanceId
  hostname : Option String
  agentName : Option String
  token : String
  sshEnabled : Bool
deriving DecidableEq

/-- A list that the frame lacks is read as `null`. -/
structure AdvertisementFrame where
  tunnels : List (Option String × Option Nat)
  fileTunnels : JsonText := "null"
  shellTunnels : JsonText := "null"
  sshEnabled : Bool
deriving DecidableEq

inductive Frame where
  | register (frame : RegisterFrame)
  | tunnelAdvertisement (frame : AdvertisementFrame)
  | other (msgType : String)
deriving DecidableEq

inductive Reply where
  | error (error : String)
  | unknownRequest
  | registered (clusterId : Option Uuid) (sshPort : Option Nat)
  | ok
deriving DecidableEq

inductive GossipCmd where
  | subscribe (cluster : Uuid)
  | unsubscribe (cluster : Uuid)
deriving DecidableEq

inductive Pc where
  | idle
  | validate (frame : RegisterFrame) (now : DateTime)
  | canRegister (frame : RegisterFrame) (now : DateTime) (info : SelfInfo)
  | register (frame : RegisterFrame) (now : DateTime) (info : SelfInfo)
  | startBridge (frame : RegisterFrame) (info : SelfInfo)
  | subscribe (frame : RegisterFrame) (info : SelfInfo)
  | readBack (instanceId : InstanceId) (clusterId : Option Uuid)
  | advertise (instanceId : InstanceId) (frame : AdvertisementFrame)
  | updateSsh (instanceId : InstanceId) (enabled : Bool)
  | syncBridge (instanceId : InstanceId) (enabled prev : Bool)
  | enableBridge (instanceId : InstanceId)
  | unregister
  | disconnect (instanceId : InstanceId)
  | unsubscribe
  | forget
deriving DecidableEq

/-- `wire` is whether the stream is still open; the handler learns of a close when its read fails.
`bridge` is whether the SSH bridge had been set when the stream was accepted. -/
structure Handler where
  peer : PeerId
  bridge : Bool
  wire : Bool
  instanceId : Option InstanceId
  connectedAt : Option DateTime
  registeredClusterId : Option Uuid
  pc : Pc
deriving DecidableEq

structure Swarm where
  relay : RelayState
  bridgeSet : Bool
  rpcMap : Table PeerId StreamId
  handlers : Table StreamId Handler
  nextStream : StreamId
  gossip : List GossipCmd
  replies : List (StreamId × Reply)

def Swarm.start (relay : RelayState) : Swarm :=
  { relay, bridgeSet := false, rpcMap := ∅, handlers := ∅, nextStream := 0, gossip := [], replies := [] }

/-- `RelaySwarm::send_request` up to the point where it has the sender of a stream. -/
def Swarm.sendRequest (swarm : Swarm) (peer : PeerId) : Except String StreamId :=
  match swarm.rpcMap.lookup peer with
  | some stream => .ok stream
  | none => .error s!"no RPC stream for peer {peer}"

def parseTunnels (tunnels : List (Option String × Option Nat)) : List ServiceTunnel :=
  tunnels.filterMap fun tunnel =>
    match tunnel with
    | (some name, some port) => some ⟨name, port % 2 ^ 16⟩
    | _ => none

def newConn (peer : PeerId) (frame : RegisterFrame) (now : DateTime) (info : SelfInfo) : DaemonConn :=
  { instanceId := frame.instanceId, clusterId := info.clusterId, clusterName := info.clusterName
    agentName := frame.agentName, hostname := frame.hostname, connectedAt := now, tunnels := []
    fileTunnels := "[]", shellTunnels := "[]", peerId := some peer, sshEnabled := frame.sshEnabled, sshPort := none }

namespace Swarm
variable (swarm : Swarm) (stream : StreamId) (handler : Handler)

def setHandler : Swarm := { swarm with handlers := swarm.handlers.insert stream handler }

def goto (pc : Pc) : Swarm := swarm.setHandler stream { handler with pc }

def reply (answer : Reply) : Swarm :=
  { swarm.goto stream handler .idle with replies := swarm.replies ++ [(stream, answer)] }

def withRelay (relay : RelayState) : Swarm := { swarm with relay }

def receive : Frame → Swarm
  | .register frame =>
      if frame.token = "" then swarm.reply stream handler (.error "token required")
      else swarm.goto stream handler (.validate frame swarm.relay.now)
  | .tunnelAdvertisement frame =>
      match handler.instanceId with
      | some instanceId => swarm.goto stream handler (.advertise instanceId frame)
      | none => swarm.reply stream handler .ok
  | .other _ => swarm.reply stream handler .unknownRequest

def validated (frame : RegisterFrame) (now : DateTime) : Except Nat SelfInfo → Swarm
  | .error _ => swarm.reply stream handler (.error "token validation failed")
  | .ok info =>
      if info.tokenKind ≠ "sync" then swarm.reply stream handler (.error "daemon (sync) token required")
      else if frame.instanceId = "" then swarm.reply stream handler (.error "empty instance_id")
      else swarm.goto stream handler (.canRegister frame now info)

def actRegister (frame : RegisterFrame) (now : DateTime) (info : SelfInfo) : Swarm :=
  match swarm.relay.register (newConn handler.peer frame now info) with
  | (false, _) => swarm.reply stream handler (.error "relay at capacity")
  | (true, relay) => (swarm.withRelay relay).goto stream
      { handler with instanceId := some frame.instanceId, connectedAt := some now } (.startBridge frame info)

def actSubscribe (frame : RegisterFrame) (info : SelfInfo) : Swarm :=
  match info.clusterId with
  | none => swarm.goto stream handler (.readBack frame.instanceId none)
  | some cluster => { swarm.goto stream { handler with registeredClusterId := some cluster }
      (.readBack frame.instanceId (some cluster)) with gossip := swarm.gossip ++ [.subscribe cluster] }

def actSyncBridge (instanceId : InstanceId) (enabled prev : Bool) : Swarm :=
  if !handler.bridge then swarm.reply stream handler .ok
  else if enabled && !prev then
    (swarm.withRelay (swarm.relay.onSshEnabled instanceId)).reply stream handler .ok
  else if enabled && !swarm.relay.hasSshPort instanceId then swarm.goto stream handler (.enableBridge instanceId)
  else if !enabled && prev then
    (swarm.withRelay (swarm.relay.onSshDisabled instanceId)).reply stream handler .ok
  else swarm.reply stream handler .ok

def actUnregister : Swarm :=
  match handler.instanceId, handler.connectedAt with
  | some instanceId, some connectedAt =>
      match swarm.relay.unregister instanceId connectedAt with
      | (hadSshPort, relay) => (swarm.withRelay relay).goto stream handler
          (if hadSshPort.isSome && handler.bridge then .disconnect instanceId else .unsubscribe)
  | _, _ => swarm.goto stream handler .unsubscribe

def actUnsubscribe : Swarm :=
  match handler.registeredClusterId with
  | none => swarm.goto stream handler .forget
  | some cluster => { swarm.goto stream handler .forget with gossip := swarm.gossip ++ [.unsubscribe cluster] }

/-- The next call of a handler; `none` while it waits for a frame or for the token to be validated. -/
def act : Option Swarm :=
  match handler.pc with
  | .idle | .validate _ _ => none
  | .canRegister frame now info =>
      if swarm.relay.canRegister frame.instanceId info.clusterId then
        some (swarm.goto stream handler (.register frame now info))
      else some (swarm.reply stream handler (.error "instance id registered under another cluster"))
  | .register frame now info => some (swarm.actRegister stream handler frame now info)
  | .startBridge frame info =>
      let relay := if frame.sshEnabled && handler.bridge then swarm.relay.onSshEnabled frame.instanceId
        else swarm.relay
      some ((swarm.withRelay relay).goto stream handler (.subscribe frame info))
  | .subscribe frame info => some (swarm.actSubscribe stream handler frame info)
  | .readBack instanceId clusterId =>
      let target := swarm.relay.listSshTargets.find? fun target => target.instanceId = instanceId
      some (swarm.reply stream handler (.registered clusterId (target.bind SshTarget.sshPort)))
  | .advertise instanceId frame =>
      some ((swarm.withRelay (swarm.relay.updateAllTunnels instanceId (parseTunnels frame.tunnels) frame.fileTunnels
        frame.shellTunnels)).goto stream handler (.updateSsh instanceId frame.sshEnabled))
  | .updateSsh instanceId enabled =>
      match swarm.relay.updateSshEnabled instanceId enabled with
      | (prev, relay) =>
          some ((swarm.withRelay relay).goto stream handler (.syncBridge instanceId enabled prev))
  | .syncBridge instanceId enabled prev => some (swarm.actSyncBridge stream handler instanceId enabled prev)
  | .enableBridge instanceId =>
      some ((swarm.withRelay (swarm.relay.onSshEnabled instanceId)).reply stream handler .ok)
  | .unregister => some (swarm.actUnregister stream handler)
  | .disconnect instanceId =>
      some ((swarm.withRelay (swarm.relay.onDaemonDisconnect instanceId)).goto stream handler .unsubscribe)
  | .unsubscribe => some (swarm.actUnsubscribe stream handler)
  | .forget => some { swarm with
      rpcMap := swarm.rpcMap.erase handler.peer, handlers := swarm.handlers.erase stream }

end Swarm

/-- `closed` is the stream ending on the wire, `readEnd` the handler's read failing on it. -/
inductive SwarmEvent where
  | setSshBridge
  | accept (peer : PeerId)
  | closed (stream : StreamId)
  | receive (stream : StreamId) (frame : Frame)
  | validated (stream : StreamId) (result : Except Nat SelfInfo)
  | act (stream : StreamId)
  | readEnd (stream : StreamId)
  | clock (now : DateTime)

def swarmStep (swarm : Swarm) : SwarmEvent → Option Swarm
  | .setSshBridge => some { swarm with bridgeSet := true }
  | .accept peer => some { swarm with
      rpcMap := swarm.rpcMap.insert peer swarm.nextStream
      handlers := swarm.handlers.insert swarm.nextStream
        { peer, bridge := swarm.bridgeSet, wire := true, instanceId := none, connectedAt := none
          registeredClusterId := none, pc := .idle }
      nextStream := swarm.nextStream + 1 }
  | .closed stream => do
      let handler ← swarm.handlers.lookup stream
      some (swarm.setHandler stream { handler with wire := false })
  | .receive stream frame => do
      let handler ← swarm.handlers.lookup stream
      if handler.pc = .idle then some (swarm.receive stream handler frame) else none
  | .validated stream result => do
      let handler ← swarm.handlers.lookup stream
      match handler.pc with
      | .validate frame now => some (swarm.validated stream handler frame now result)
      | _ => none
  | .act stream => do
      let handler ← swarm.handlers.lookup stream
      swarm.act stream handler
  | .readEnd stream => do
      let handler ← swarm.handlers.lookup stream
      if handler.pc = .idle ∧ handler.wire = false then some (swarm.goto stream handler .unregister) else none
  | .clock now => some { swarm with relay := { swarm.relay with now } }

/-! ## The relay's gossipsub subscriptions

`relay_event_loop` in `relay/src/p2p.rs` counts, for each cluster, the `Subscribe` and `Unsubscribe` commands that the
RPC handlers send it over a bounded channel, and is subscribed to a cluster's topic while the count is positive.
`Swarm.gossip` is every command sent so far; `handled` says how many of them the loop has received. -/

def gossipCapacity : Nat := 64

structure GossipLoop where
  swarm : Swarm
  handled : Nat
  clusterPeerCount : Table Uuid Nat
  subscribed : Finset Uuid

def GossipLoop.start (relay : RelayState) : GossipLoop :=
  { swarm := Swarm.start relay, handled := 0, clusterPeerCount := ∅, subscribed := ∅ }

/-- `accepted` is whether gossipsub took the subscription; a refusal is only logged. -/
def GossipLoop.receive (loop : GossipLoop) (accepted : Bool) : GossipCmd → GossipLoop
  | .subscribe cluster =>
      let count := (loop.clusterPeerCount.lookup cluster).getD 0 + 1
      { loop with
        clusterPeerCount := loop.clusterPeerCount.insert cluster count
        subscribed := if count = 1 ∧ accepted then insert cluster loop.subscribed else loop.subscribed }
  | .unsubscribe cluster =>
      match loop.clusterPeerCount.lookup cluster with
      | none => loop
      | some count =>
          if count - 1 = 0 then { loop with
            clusterPeerCount := loop.clusterPeerCount.erase cluster
            subscribed := loop.subscribed.erase cluster }
          else { loop with clusterPeerCount := loop.clusterPeerCount.insert cluster (count - 1) }

inductive GossipEvent where
  | swarm (event : SwarmEvent)
  | receive (accepted : Bool)

/-- A handler that sends a command waits while the channel is full. -/
def gossipStep (loop : GossipLoop) : GossipEvent → Option GossipLoop
  | .swarm event => do
      let swarm ← swarmStep loop.swarm event
      if swarm.gossip.length ≠ loop.swarm.gossip.length ∧ loop.handled + gossipCapacity ≤ loop.swarm.gossip.length
      then none
      else some { loop with swarm }
  | .receive accepted => do
      let command ← loop.swarm.gossip[loop.handled]?
      some { loop.receive accepted command with handled := loop.handled + 1 }

end MacMgmt.Relay
