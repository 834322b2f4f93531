import MacMgmt.Agent.ClusterPeers

/-!
# The relay peer and the events of the relay state machine

An event leaves the relay peer alone, takes over a peer that calls itself a relay, or gives up the peer whose connection was
closed. The shared peer id and proxy URL follow the state because the actions say the same three things.
-/

namespace MacMgmt.Proof.RelayEvents
open MacMgmt.Agent

/-! ## What an event does -/

def Quiet (actions : List RelayAction) : Prop :=
  ∀ action ∈ actions, (∃ addr, action = .dial addr) ∨ ∃ peer, action = .openRpcStream peer

inductive Reaction (state : RelayState) : RelayEvent → RelayState × List RelayAction → Prop
  | unmoved {event : RelayEvent} {next : RelayState} {actions : List RelayAction} (peerId : next.peerId = state.peerId)
      (quiet : Quiet actions) (other : ∀ peer, event = .connectionClosed peer → state.peerId ≠ some peer) :
      Reaction state event (next, actions)
  | taken {peer : PeerId} {agent : List Char} (relayAddr : String)
      (named : "mac-mgmt-relay/".toList.isPrefixOf agent = true) :
      Reaction state (.identified peer agent)
        (.identified relayAddr peer (parseRelayProxyUrl agent),
          [.setProxyUrl (parseRelayProxyUrl agent), .authorizePeer peer, .openRpcStream peer])
  | closed {peer : PeerId} (own : state.peerId = some peer) (relayAddr : String) (nextDial : Nat) :
      Reaction state (.connectionClosed peer)
        (.disconnected relayAddr nextDial, [.deauthorizePeer peer, .setProxyUrl none])

theorem quiet_nil : Quiet [] := by simp [Quiet]

theorem reaction_identified (state : RelayState) (now : Nat) (peer : PeerId) (agent : List Char) :
    Reaction state (.identified peer agent) (state.handleEvent now (.identified peer agent)) := by
  have unmoved : Reaction state (.identified peer agent) (state, []) := .unmoved rfl quiet_nil (by simp)
  rw [RelayState.handleEvent]
  split
  · next relay =>
    cases state with
    | disconnected relayAddr nextDial => exact .taken relayAddr relay.1
    | connected relayAddr other => exact .taken relayAddr relay.1
    | disabled | identified relayAddr other proxyUrl | registered relayAddr other proxyUrl lastRegister => exact unmoved
  · exact unmoved

theorem reaction_closed (state : RelayState) (now : Nat) (peer : PeerId) :
    Reaction state (.connectionClosed peer) (state.handleEvent now (.connectionClosed peer)) := by
  rw [RelayState.handleEvent]
  split
  · next own =>
    cases state with
    | disabled | disconnected relayAddr nextDial => cases own
    | connected relayAddr other | identified relayAddr other proxyUrl | registered relayAddr other proxyUrl lastRegister =>
        exact .closed own relayAddr _
  · next other =>
    refine .unmoved rfl quiet_nil fun peer' same => ?_
    cases same
    exact other

theorem reaction (state : RelayState) (now : Nat) (event : RelayEvent) :
    Reaction state event (state.handleEvent now event) := by
  cases event with
  | connectionEstablished peer => exact .unmoved rfl quiet_nil (by simp)
  | identified peer agent => exact reaction_identified state now peer agent
  | connectionClosed peer => exact reaction_closed state now peer
  | tick =>
      cases state with
      | disconnected relayAddr nextDial =>
          rw [RelayState.handleEvent]
          split
          · exact .unmoved rfl (by simp [Quiet]) (by simp)
          · exact .unmoved rfl quiet_nil (by simp)
      | identified relayAddr peer proxyUrl => exact .unmoved rfl (by simp [Quiet]) (by simp)
      | disabled | connected relayAddr peer | registered relayAddr peer proxyUrl lastRegister =>
          exact .unmoved rfl quiet_nil (by simp)
  | rpcStreamOpened =>
      cases state with
      | identified relayAddr peer proxyUrl => exact .unmoved rfl quiet_nil (by simp)
      | disabled | disconnected relayAddr nextDial | connected relayAddr peer | registered relayAddr peer proxyUrl lastRegister =>
          exact .unmoved rfl quiet_nil (by simp)
  | rpcStreamFailed error => exact .unmoved rfl quiet_nil (by simp)

theorem foldl_quiet {actions : List RelayAction} (quiet : Quiet actions) (peers : ClusterPeers) :
    actions.foldl ClusterPeers.executeRelayAction peers = peers := by
  induction actions with
  | nil => rfl
  | cons action actions ih =>
      rw [List.foldl_cons]
      obtain ⟨first, later⟩ := List.forall_mem_cons.mp quiet
      obtain ⟨addr, rfl⟩ | ⟨peer, rfl⟩ := first
      · exact ih later
      · exact ih later

/-! ## The shared variables -/

theorem follows_feedRelay (peers : ClusterPeers) (follows : peers.relayPeerId = peers.relay.peerId) (now : Nat)
    (event : RelayEvent) : (peers.feedRelay now event).relayPeerId = (peers.feedRelay now event).relay.peerId := by
  have reacted := reaction peers.relay now event
  unfold ClusterPeers.feedRelay
  generalize peers.relay.handleEvent now event = result at reacted ⊢
  cases reacted with
  | unmoved peerId quiet other =>
      simp only [foldl_quiet quiet]
      exact follows.trans peerId.symm
  | taken relayAddr named => rfl
  | closed own relayAddr nextDial => rfl

theorem unproxied_feedRelay (peers : ClusterPeers) (unproxied : peers.relay.peerId = none → peers.relayProxyUrl = none)
    (now : Nat) (event : RelayEvent) (gone : (peers.feedRelay now event).relay.peerId = none) :
    (peers.feedRelay now event).relayProxyUrl = none := by
  have reacted := reaction peers.relay now event
  unfold ClusterPeers.feedRelay at gone ⊢
  generalize peers.relay.handleEvent now event = result at reacted gone ⊢
  cases reacted with
  | unmoved peerId quiet other =>
      simp only [foldl_quiet quiet] at gone ⊢
      exact unproxied (peerId ▸ gone)
  | taken relayAddr named => cases gone
  | closed own relayAddr nextDial => rfl

structure Agrees (peers : ClusterPeers) : Prop where
  peerId : peers.relayPeerId = peers.relay.peerId
  proxyUrl : peers.relay.peerId = none → peers.relayProxyUrl = none

theorem agrees_start (clusterPsk : List Char) (node : Option RelayNode) : Agrees (.start clusterPsk node) where
  peerId := by cases node <;> rfl
  proxyUrl _ := rfl

theorem agrees_feedRelay {peers : ClusterPeers} (agrees : Agrees peers) (now : Nat) (event : RelayEvent) :
    Agrees (peers.feedRelay now event) :=
  ⟨follows_feedRelay peers agrees.peerId now event, unproxied_feedRelay peers agrees.proxyUrl now event⟩

theorem agrees_feed {peers : ClusterPeers} (agrees : Agrees peers) (events : List (Nat × RelayEvent)) :
    Agrees (peers.feed events) := by
  induction events generalizing peers with
  | nil => exact agrees
  | cons event events ih => exact ih (agrees_feedRelay agrees event.1 event.2)

/-! ## The peer that was taken -/

/-- Since it was last closed the connection of `peer` has carried an Identify of a relay. -/
def CalledRelay (peer : PeerId) (events : List (Nat × RelayEvent)) : Prop :=
  ∃ before now agent after, events = before ++ (now, .identified peer agent) :: after ∧
    "mac-mgmt-relay/".toList.isPrefixOf agent = true ∧ ∀ event ∈ after, event.2 ≠ .connectionClosed peer

def latestAgent (peer : PeerId) (events : List (Nat × RelayEvent)) : Option (List Char) :=
  events.reverse.findSome? fun event =>
    match event.2 with
    | .identified other agent => if other = peer then some agent else none
    | .connectionEstablished _ | .connectionClosed _ | .tick | .rpcStreamOpened | .rpcStreamFailed _ => none

theorem CalledRelay.concat {peer : PeerId} {events : List (Nat × RelayEvent)} (called : CalledRelay peer events)
    (event : Nat × RelayEvent) (other : event.2 ≠ .connectionClosed peer) : CalledRelay peer (events ++ [event]) := by
  obtain ⟨before, now, agent, after, rfl, named, unclosed⟩ := called
  refine ⟨before, now, agent, after ++ [event], by simp, named, fun later inside => ?_⟩
  obtain inside | inside := List.mem_append.mp inside
  · exact unclosed later inside
  · rw [List.mem_singleton.mp inside]
    exact other

theorem calledRelay_feedRelay {peers : ClusterPeers} {events : List (Nat × RelayEvent)}
    (called : ∀ peer, peers.relay.peerId = some peer → CalledRelay peer events) (event : Nat × RelayEvent) (peer : PeerId)
    (own : (peers.feedRelay event.1 event.2).relay.peerId = some peer) : CalledRelay peer (events ++ [event]) := by
  obtain ⟨now, event⟩ := event
  have reacted := reaction peers.relay now event
  unfold ClusterPeers.feedRelay at own
  generalize peers.relay.handleEvent now event = result at reacted own
  cases reacted with
  | unmoved peerId quiet other =>
      simp only [foldl_quiet quiet] at own
      have before : peers.relay.peerId = some peer := peerId ▸ own
      exact (called peer before).concat (now, event) fun closed => other peer closed before
  | taken relayAddr named =>
      cases own
      exact ⟨events, now, _, [], rfl, named, by simp⟩
  | closed mine relayAddr nextDial => cases own

theorem calledRelay_feed (clusterPsk : List Char) (node : Option RelayNode) (events : List (Nat × RelayEvent)) (peer : PeerId)
    (own : ((ClusterPeers.start clusterPsk node).feed events).relay.peerId = some peer) : CalledRelay peer events := by
  induction events using List.reverseRecOn generalizing peer with
  | nil => cases node <;> cases own
  | append_singleton events event ih =>
      rw [ClusterPeers.feed, List.foldl_append] at own
      exact calledRelay_feedRelay ih event peer own

theorem relayPeer_of_events (clusterPsk : List Char) (node : Option RelayNode) (events : List (Nat × RelayEvent)) :
    let peers := (ClusterPeers.start clusterPsk node).feed events
    peers.relayPeerId = peers.relay.peerId ∧
      (∀ peer, peers.relayPeerId = some peer → CalledRelay peer events) ∧
      (peers.relay = .disabled ∨ peers.relay.isDisconnected = true → peers.relayProxyUrl = none) := by
  have agrees := agrees_feed (agrees_start clusterPsk node) events
  refine ⟨agrees.peerId, fun peer own => ?_, fun unconnected => agrees.proxyUrl ?_⟩
  · exact calledRelay_feed clusterPsk node events peer (agrees.peerId ▸ own)
  · cases state : ((ClusterPeers.start clusterPsk node).feed events).relay with
    | disabled | disconnected relayAddr nextDial => rfl
    | connected relayAddr peer | identified relayAddr peer proxyUrl | registered relayAddr peer proxyUrl lastRegister =>
        rw [state] at unconnected
        simp [RelayState.isDisconnected] at unconnected

/-- A relay that later calls itself a daemon stays the relay. -/
theorem relayPeer_after_other_identify :
    ¬ ∀ (clusterPsk : List Char) (node : Option RelayNode) (events : List (Nat × RelayEvent)),
      let peers := (ClusterPeers.start clusterPsk node).feed events
      peers.relayPeerId = peers.relay.peerId ∧
        (∀ peer, peers.relayPeerId = some peer →
          ∃ agent, latestAgent peer events = some agent ∧ "mac-mgmt-relay/".toList.isPrefixOf agent = true) ∧
        (peers.relay = .disabled ∨ peers.relay.isDisconnected = true → peers.relayProxyUrl = none) := by
  intro all
  let node : RelayNode := ⟨"/dns4/relay.plan.ai/tcp/443/wss", [1], "0.1.5".toList, by decide, none⟩
  have latest := (all [] (some node) [(0, .identified [1] "mac-mgmt-relay/0.1.5/".toList),
    (1, .identified [1] "mac-mgmt/0.1.5/box".toList)]).2.1 [1]
  revert latest
  decide +kernel

end MacMgmt.Proof.RelayEvents
