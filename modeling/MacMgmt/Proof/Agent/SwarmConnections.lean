import MacMgmt.Agent.SwarmConnections
import MacMgmt.Proof.Agent.ClusterPeers
import MacMgmt.Proof.Agent.RelayEvents

/-!
# Authorised peers and the relay, by connections

`Tied` is what the connections and the peers that have passed have to do with each other. A reported close is the only event
that takes from a peer what it still needs.
-/

namespace MacMgmt.Proof.SwarmConnections
open Lib MacMgmt.Agent MacMgmt.Agent.SwarmConnections MacMgmt.Proof.ClusterPeers MacMgmt.Proof.RelayEvents

/-! ## The loop's own state -/

theorem follows_drop {peers : ClusterPeers} (follows : peers.relayPeerId = peers.relay.peerId) (now : Nat) :
    (peers.dropRelayConnection none now).relayPeerId = (peers.dropRelayConnection none now).relay.peerId := by
  unfold ClusterPeers.dropRelayConnection
  split
  · exact follows_feedRelay (peers.forget none _) follows now _
  · exact follows

theorem follows_reregister {peers : ClusterPeers} (follows : peers.relayPeerId = peers.relay.peerId) (now : Nat)
    (outcome : RegisterOutcome) :
    (peers.reregister none now outcome).relayPeerId = (peers.reregister none now outcome).relay.peerId := by
  unfold ClusterPeers.reregister
  split
  · cases outcome with
    | rejected => exact follows
    | registered => exact follows.trans (sameChecks_registered peers now).peerId.symm
    | failed => exact follows_drop follows now
  · exact follows

theorem sameChecks_reregister (peers : ClusterPeers) (now : Nat) {outcome : RegisterOutcome}
    (kept : ¬(peers.relay.needsReregister now ∧ outcome = .failed)) :
    SameChecks peers (peers.reregister none now outcome) := by
  unfold ClusterPeers.reregister
  split
  · rename_i due
    cases outcome with
    | rejected => exact SameChecks.refl peers
    | registered => exact sameChecks_registered peers now
    | failed => exact absurd ⟨due, rfl⟩ kept
  · exact SameChecks.refl peers

theorem follows_tickRelay {peers : ClusterPeers} (follows : peers.relayPeerId = peers.relay.peerId) (now : Nat) (opened : Bool) :
    (tickRelay peers now opened).relayPeerId = (tickRelay peers now opened).relay.peerId := by
  have ticked := follows_feedRelay _ follows now .tick
  cases opened with
  | false => exact ticked
  | true => exact follows_feedRelay _ ticked now .rpcStreamOpened

theorem sameChecks_tickRelay (peers : ClusterPeers) (now : Nat) (opened : Bool) :
    SameChecks peers (tickRelay peers now opened) := by
  cases opened with
  | false => exact sameChecks_tick peers now
  | true => exact (sameChecks_tick peers now).trans (sameChecks_opened _ now)

/-! ## Connections -/

theorem HasOpen.mono {fewer more : List Connection} {peer : PeerId} (subset : ∀ connection ∈ fewer, connection.isOpen →
    connection ∈ more) (hasOpen : HasOpen fewer peer) : HasOpen more peer := by
  obtain ⟨other, member, same, isOpen⟩ := hasOpen
  exact ⟨other, subset other member isOpen, same, isOpen⟩

structure Tied (swarm : SwarmConnections) : Prop where
  marked : ∀ connection ∈ swarm.connections, connection.identified → connection.isOpen → connection.peer ∈ swarm.passed
  hasOpen : ∀ peer ∈ swarm.passed, HasOpen swarm.connections peer
  relay : swarm.peers.relayPeerId = swarm.peers.relay.peerId

theorem mem_setConnections {swarm : SwarmConnections} {connections : List Connection} {peer : PeerId} :
    peer ∈ (swarm.setConnections connections).passed ↔ peer ∈ swarm.passed ∧ HasOpen connections peer := by
  simp [setConnections]

theorem tied_setConnections {swarm : SwarmConnections} {connections : List Connection}
    (marked : ∀ connection ∈ connections, connection.identified → connection.isOpen → connection.peer ∈ swarm.passed)
    (relay : swarm.peers.relayPeerId = swarm.peers.relay.peerId) : Tied (swarm.setConnections connections) := by
  constructor
  · intro connection member identified isOpen
    exact mem_setConnections.mpr ⟨marked connection member identified isOpen, connection, member, rfl, isOpen⟩
  · intro peer passed
    exact (mem_setConnections.mp passed).2
  · exact relay

theorem mem_closeWhere {swarm : SwarmConnections} {closes : Connection → Bool} {connection : Connection}
    (member : connection ∈ (swarm.closeWhere closes).connections) (isOpen : connection.isOpen) :
    connection ∈ swarm.connections ∧ closes connection = false := by
  obtain ⟨old, listed, rfl⟩ := List.mem_map.mp member
  cases shut : closes old with
  | true => simp [shut] at isOpen
  | false => simpa [shut] using listed

theorem tied_closeWhere {swarm : SwarmConnections} (tied : Tied swarm) (closes : Connection → Bool) :
    Tied (swarm.closeWhere closes) := by
  apply tied_setConnections _ tied.relay
  intro connection member identified isOpen
  exact tied.marked connection (mem_closeWhere member isOpen).1 identified isOpen

theorem passed_closeWhere {swarm : SwarmConnections} {closes : Connection → Bool} {peer : PeerId}
    (passed : peer ∈ (swarm.closeWhere closes).passed) : peer ∈ swarm.passed := (mem_setConnections.mp passed).1

theorem not_hasOpen_disconnect (swarm : SwarmConnections) (peer : PeerId) :
    ¬HasOpen (swarm.disconnectPeerId peer).connections peer := by
  rintro ⟨connection, member, same, isOpen⟩
  have stays := (mem_closeWhere member isOpen).2
  simp [same] at stays

/-! ## What each event does -/

theorem Tied.of_peers {swarm : SwarmConnections} (tied : Tied swarm) {peers : ClusterPeers}
    (relay : peers.relayPeerId = peers.relay.peerId) : Tied { swarm with peers } := ⟨tied.marked, tied.hasOpen, relay⟩

theorem tied_onEstablished {swarm : SwarmConnections} (tied : Tied swarm) (relayAddr : Option String) (id : Nat) (peer : PeerId)
    (dialled : Option String) (now : Nat) : Tied (swarm.onEstablished relayAddr id peer dialled now) := by
  constructor
  · intro connection member identified isOpen
    rcases List.mem_cons.mp member with rfl | member
    · cases identified
    · exact tied.marked connection member identified isOpen
  · intro other passed
    exact HasOpen.mono (fun connection member _ => List.mem_cons_of_mem _ member) (tied.hasOpen other passed)
  · exact follows_feedRelay _ tied.relay now _

theorem tied_onClosed {swarm : SwarmConnections} (tied : Tied swarm) {connection : Connection}
    (closed : connection.isOpen = false) (now : Nat) : Tied (swarm.onClosed connection now) := by
  constructor
  · intro other member
    exact tied.marked other (List.mem_of_mem_erase member)
  · intro peer passed
    apply HasOpen.mono _ (tied.hasOpen peer passed)
    intro other member isOpen
    apply (List.mem_erase_of_ne _).mpr member
    rintro rfl
    rw [closed] at isOpen
    cases isOpen
  · exact follows_feedRelay { swarm.peers.forget none connection.peer with
      authorized := swarm.peers.authorized.erase connection.peer } tied.relay now _

theorem follows_onIdentify (sha256 : List UInt8 → List UInt8) (peers : ClusterPeers)
    (follows : peers.relayPeerId = peers.relay.peerId) (peer : PeerId) (agent : List Char) (now : Nat) :
    (peers.onIdentify sha256 peer agent now).relayPeerId = (peers.onIdentify sha256 peer agent now).relay.peerId := by
  unfold ClusterPeers.onIdentify
  split
  · exact follows_feedRelay { peers with authorized := insert peer peers.authorized } follows now _
  · exact follows

theorem tied_onIdentify (sha256 : List UInt8 → List UInt8) {swarm : SwarmConnections} (tied : Tied swarm)
    (connection : Connection) (agent : List Char) (now : Nat) :
    Tied (swarm.onIdentify sha256 connection agent now) := by
  have follows := follows_onIdentify sha256 (swarm.peers.hear none connection.peer agent) tied.relay
    connection.peer agent now
  unfold SwarmConnections.onIdentify
  split
  · apply tied_setConnections _ follows
    intro other member identified isOpen
    obtain ⟨old, listed, rfl⟩ := List.mem_map.mp member
    by_cases own : old = connection
    · simp [own]
    · rw [if_neg own] at identified isOpen ⊢
      exact Finset.mem_insert_of_mem (tied.marked old listed identified isOpen)
  · exact (tied_closeWhere tied _).of_peers follows

theorem tied_dropRelayConnection {swarm : SwarmConnections} (tied : Tied swarm) (now : Nat) :
    Tied (swarm.dropRelayConnection now) := by
  unfold SwarmConnections.dropRelayConnection
  split
  · exact (tied_closeWhere tied _).of_peers (follows_drop tied.relay now)
  · exact tied

theorem tied_onRelayTick {swarm : SwarmConnections} (tied : Tied swarm) (now : Nat) (opened : Bool) (outcome : RegisterOutcome) :
    Tied (swarm.onRelayTick now opened outcome) := by
  have follows := follows_tickRelay tied.relay now opened
  unfold SwarmConnections.onRelayTick
  dsimp only
  split
  · exact tied_dropRelayConnection (tied.of_peers follows) now
  · exact tied.of_peers (follows_reregister follows now outcome)

theorem tied_react {sha256 : List UInt8 → List UInt8} {relayAddr : Option String} {before after : SwarmConnections}
    {event : ConnectionEvent} (tied : Tied before) (reacts : before.react sha256 relayAddr event = some after) :
    Tied after := by
  cases event with
  | established id peer dialled now =>
      obtain ⟨-, same⟩ := Option.ite_none_right_eq_some.mp reacts
      cases same
      exact tied_onEstablished tied relayAddr id peer dialled now
  | closes id =>
      cases reacts
      exact tied_closeWhere tied _
  | closed id now =>
      obtain ⟨connection, -, reported⟩ := Option.bind_eq_some_iff.mp reacts
      obtain ⟨closed, same⟩ := Option.ite_none_left_eq_some.mp reported
      cases same
      exact tied_onClosed tied (Bool.not_eq_true _ ▸ closed) now
  | identify id agent now =>
      obtain ⟨connection, -, rfl⟩ := Option.map_eq_some_iff.mp reacts
      exact tied_onIdentify sha256 tied connection agent now
  | relayTick now opened outcome =>
      cases reacts
      exact tied_onRelayTick tied now opened outcome
  | rpcError now =>
      obtain ⟨-, same⟩ := Option.ite_none_right_eq_some.mp reacts
      cases same
      exact tied_dropRelayConnection tied now

/-! ## The model of the peers alone -/

theorem peers_dropRelayConnection (swarm : SwarmConnections) (now : Nat) :
    (swarm.dropRelayConnection now).peers = swarm.peers.dropRelayConnection none now := by
  unfold SwarmConnections.dropRelayConnection
  split
  · rfl
  · rename_i unknown
    simp only [ClusterPeers.dropRelayConnection, unknown]

theorem peers_onRelayTick (swarm : SwarmConnections) (now : Nat) (opened : Bool) (outcome : RegisterOutcome) :
    (swarm.onRelayTick now opened outcome).peers = swarm.peers.onRelayTick none now opened outcome := by
  show _ = (tickRelay swarm.peers now opened).reregister none now outcome
  unfold SwarmConnections.onRelayTick
  dsimp only
  split
  · rename_i failed
    rw [peers_dropRelayConnection]
    simp only [ClusterPeers.reregister, failed, if_true]
  · rfl

theorem peers_onIdentify (sha256 : List UInt8 → List UInt8) (swarm : SwarmConnections) (connection : Connection)
    (agent : List Char) (now : Nat) :
    (swarm.onIdentify sha256 connection agent now).peers =
      (swarm.peers.hear none connection.peer agent).onIdentify sha256 connection.peer agent now := by
  unfold SwarmConnections.onIdentify
  dsimp only
  split <;> rfl

/-- Each event is one of the peers' model, except that it knows nothing of a close before it is reported. -/
theorem peers_step {sha256 : List UInt8 → List UInt8} {relayAddr : Option String} {before after : SwarmConnections}
    {event : ConnectionEvent} (taken : before.step sha256 relayAddr event = some after) :
    after.peers = before.peers ∨ ∃ seen, ClusterPeers.step sha256 none before.peers seen = some after.peers := by
  obtain ⟨reached, reacts, rfl⟩ := Option.map_eq_some_iff.mp taken
  show reached.peers = _ ∨ ∃ seen, _ = some reached.peers
  cases event with
  | established id peer dialled now =>
      obtain ⟨-, same⟩ := Option.ite_none_right_eq_some.mp reacts
      cases same
      exact .inr ⟨.connectionEstablished peer now, rfl⟩
  | closes id =>
      cases reacts
      exact .inl rfl
  | closed id now =>
      obtain ⟨connection, -, reported⟩ := Option.bind_eq_some_iff.mp reacts
      obtain ⟨-, same⟩ := Option.ite_none_left_eq_some.mp reported
      cases same
      exact .inr ⟨.connectionClosed connection.peer now, rfl⟩
  | identify id agent now =>
      obtain ⟨connection, -, rfl⟩ := Option.map_eq_some_iff.mp reacts
      refine .inr ⟨.identify connection.peer agent now, ?_⟩
      rw [peers_onIdentify]
      simp [ClusterPeers.step]
  | relayTick now opened outcome =>
      cases reacts
      refine .inr ⟨.relayTick now opened outcome, ?_⟩
      rw [peers_onRelayTick]
      rfl
  | rpcError now =>
      obtain ⟨known, same⟩ := Option.ite_none_right_eq_some.mp reacts
      cases same
      refine .inr ⟨.rpcError now, ?_⟩
      rw [peers_dropRelayConnection]
      exact if_pos known

theorem peers_of_run {sha256 : List UInt8 → List UInt8} {clusterPsk : Option (List UInt8)} {relayAddr : Option String}
    {events : List ConnectionEvent} {final : SwarmConnections}
    (ran : run (SwarmConnections.step sha256 relayAddr) (.start clusterPsk relayAddr) events = some final) :
    ∃ seen, run (ClusterPeers.step sha256 none) (SwarmConnections.start clusterPsk relayAddr).peers seen = some final.peers :=
  run_simulated (·.peers) (fun _ _ _ taken => peers_step taken) ran

/-! ## Authorised as long as a connection is open -/

def Authorised (swarm : SwarmConnections) : Prop := ∀ peer ∈ swarm.passed, peer ∈ swarm.peers.authorized

theorem Authorised.of_linked {swarm : SwarmConnections} (tied : Tied swarm) (linked : Linked swarm) : Authorised swarm := by
  intro peer passed
  obtain ⟨connection, member, rfl, isOpen⟩ := tied.hasOpen peer passed
  exact linked.authorized connection member isOpen passed

theorem authorised_disconnect {before : SwarmConnections} {after : ClusterPeers} (authorised : Authorised before) (peer : PeerId)
    (kept : ∀ other, other ≠ peer → other ∈ before.peers.authorized → other ∈ after.authorized) :
    Authorised { before.disconnectPeerId peer with peers := after } := by
  intro other passed
  have still : other ∈ (before.disconnectPeerId peer).passed := passed
  apply kept other _ (authorised other (passed_closeWhere still))
  rintro rfl
  exact not_hasOpen_disconnect before other (mem_setConnections.mp still).2

theorem peerId_of_isDisconnected {state : RelayState} (disconnected : state.isDisconnected) : state.peerId = none := by
  cases state with
  | disconnected relayAddr nextDial => rfl
  | disabled | connected relayAddr peer | identified relayAddr peer proxyUrl | registered relayAddr peer proxyUrl lastRegister =>
      cases disconnected

theorem givenUp_of_peerId {before after : SwarmConnections} (same : after.peers.relay.peerId = before.peers.relay.peerId) :
    before.givenUp after = none := by
  unfold givenUp
  split
  · rename_i disconnected
    rw [← same]
    exact peerId_of_isDisconnected disconnected
  · rfl

/-- What an event leaves that gives up no relay with an open connection. -/
structure Sound (before after : SwarmConnections) : Prop where
  authorised : Authorised after
  kept : ∀ relay, before.givenUp after = some relay →
    ∀ connection ∈ after.connections, connection.peer = relay → connection.identified → ¬connection.isOpen

theorem Sound.of_peerId {before after : SwarmConnections} (authorised : Authorised after)
    (same : after.peers.relay.peerId = before.peers.relay.peerId) : Sound before after := by
  refine ⟨authorised, ?_⟩
  rw [givenUp_of_peerId same]
  exact nofun

theorem sound_dropRelayConnection {swarm : SwarmConnections} (authorised : Authorised swarm) (now : Nat) :
    Sound swarm (swarm.dropRelayConnection now) := by
  unfold SwarmConnections.dropRelayConnection
  split
  · rename_i peer own
    have closed := closed_drop none own now
    constructor
    · apply authorised_disconnect authorised
      intro other different member
      rw [closed.authorized]
      exact Finset.mem_erase_of_ne_of_mem different member
    · intro relay given connection member same _ isOpen
      have is_peer : relay = peer := by
        unfold givenUp at given
        split at given
        · exact Option.some.inj (given.symm.trans own)
        · cases given
      exact not_hasOpen_disconnect swarm peer ⟨connection, member, same.trans is_peer, isOpen⟩
  · exact Sound.of_peerId authorised rfl

theorem sound_accept {swarm : SwarmConnections} (authorised : Authorised swarm) {connection : Connection}
    {heard peers : ClusterPeers} (identified : Identified heard connection.peer peers)
    (authorized : heard.authorized = swarm.peers.authorized) (relay : heard.relay = swarm.peers.relay) :
    Sound swarm (swarm.accept connection peers) := by
  constructor
  · intro peer passed
    show peer ∈ peers.authorized
    rw [identified.authorized, authorized, Finset.mem_insert]
    have passed := Finset.mem_insert.mp (mem_setConnections.mp passed).1
    exact passed.imp_right (authorised peer)
  · have kept : swarm.givenUp (swarm.accept connection peers) = none := by
      rcases identified.relay with same | ⟨relayAddr, proxyUrl, same⟩
      · exact givenUp_of_peerId (congrArg RelayState.peerId (same.trans relay))
      · have connected : peers.relay.isDisconnected = false := congrArg RelayState.isDisconnected same
        exact if_neg (ne_true_of_eq_false connected)
    rw [kept]
    exact nofun

theorem sound_onIdentify {sha256 : List UInt8 → List UInt8} {swarm : SwarmConnections} (authorised : Authorised swarm)
    (connection : Connection) (agent : List Char) (now : Nat) :
    Sound swarm (swarm.onIdentify sha256 connection agent now) := by
  have identified := identified_feedRelay (swarm.peers.hear none connection.peer agent) connection.peer agent now
  unfold SwarmConnections.onIdentify ClusterPeers.onIdentify
  have heard : (swarm.peers.hear none connection.peer agent).verified sha256 connection.peer agent =
      swarm.peers.verified sha256 connection.peer agent := rfl
  rw [heard]
  by_cases verified : swarm.peers.verified sha256 connection.peer agent
  · simp only [verified, if_true]
    exact sound_accept authorised identified rfl rfl
  · simp only [verified, Bool.false_eq_true, if_false]
    refine Sound.of_peerId ?_ rfl
    exact authorised_disconnect authorised connection.peer fun other _ member => member

theorem sound_onRelayTick {swarm : SwarmConnections} (authorised : Authorised swarm) (now : Nat) (opened : Bool)
    (outcome : RegisterOutcome) : Sound swarm (swarm.onRelayTick now opened outcome) := by
  have ticked := sameChecks_tickRelay swarm.peers now opened
  have still : Authorised { swarm with peers := tickRelay swarm.peers now opened } := by
    intro peer passed
    exact ticked.authorized ▸ authorised peer passed
  unfold SwarmConnections.onRelayTick
  dsimp only
  split
  · have dropped := sound_dropRelayConnection still now
    refine ⟨dropped.authorised, fun relay given => dropped.kept relay ?_⟩
    unfold givenUp at given ⊢
    rwa [ticked.peerId]
  · rename_i kept
    have same := ticked.trans (sameChecks_reregister (tickRelay swarm.peers now opened) now kept)
    apply Sound.of_peerId _ same.peerId
    intro peer passed
    exact same.authorized ▸ authorised peer passed

theorem sound_react {sha256 : List UInt8 → List UInt8} {relayAddr : Option String} {before after : SwarmConnections}
    {event : ConnectionEvent} (authorised : Authorised before) (other : ∀ id now, event ≠ .closed id now)
    (reacts : before.react sha256 relayAddr event = some after) : Sound before after := by
  cases event with
  | established id peer dialled now =>
      obtain ⟨-, same⟩ := Option.ite_none_right_eq_some.mp reacts
      cases same
      exact Sound.of_peerId authorised rfl
  | closes id =>
      cases reacts
      refine Sound.of_peerId ?_ rfl
      intro peer passed
      exact authorised peer (passed_closeWhere passed)
  | closed id now => exact absurd rfl (other id now)
  | identify id agent now =>
      obtain ⟨connection, -, rfl⟩ := Option.map_eq_some_iff.mp reacts
      exact sound_onIdentify authorised connection agent now
  | relayTick now opened outcome =>
      cases reacts
      exact sound_onRelayTick authorised now opened outcome
  | rpcError now =>
      obtain ⟨-, same⟩ := Option.ite_none_right_eq_some.mp reacts
      cases same
      exact sound_dropRelayConnection authorised now

theorem sound_onClosed_iff {swarm : SwarmConnections} (tied : Tied swarm) (authorised : Authorised swarm)
    (connection : Connection) (now : Nat) :
    Sound swarm (swarm.onClosed connection now) ↔
      (connection.peer ∈ swarm.passed → ¬HasOpen swarm.connections connection.peer) := by
  have gone := closed_connectionClosed none swarm.peers connection.peer now
  constructor
  · intro sound passed _
    have member := sound.authorised connection.peer passed
    rw [show (swarm.onClosed connection now).peers.authorized = _ from gone.authorized] at member
    exact Finset.notMem_erase _ _ member
  · intro last
    constructor
    · intro peer passed
      show peer ∈ ClusterPeers.authorized _
      rw [show (swarm.onClosed connection now).peers.authorized = _ from gone.authorized]
      apply Finset.mem_erase_of_ne_of_mem _ (authorised peer passed)
      rintro rfl
      exact last passed (tied.hasOpen _ passed)
    · intro relay given other member same identified isOpen
      have is_peer : relay = connection.peer := by
        unfold givenUp at given
        split at given
        · rename_i disconnected
          rcases gone.relay with ⟨_, kept⟩ | ⟨own, _⟩
          · have none_left := peerId_of_isDisconnected disconnected
            rw [show (swarm.onClosed connection now).peers.relay = _ from kept] at none_left
            rw [none_left] at given
            cases given
          · exact Option.some.inj (given.symm.trans own)
        · cases given
      have listed := List.mem_of_mem_erase member
      have passed := tied.marked other listed identified isOpen
      rw [same.trans is_peer] at passed
      exact last passed ⟨other, listed, same.trans is_peer, isOpen⟩

theorem linked_iff {before after : SwarmConnections} (tied : Tied after) :
    Linked { after with reset := before.givenUp after } ↔ Sound before after := by
  have tied_after : Tied { after with reset := before.givenUp after } := ⟨tied.marked, tied.hasOpen, tied.relay⟩
  constructor
  · intro linked
    have authorised : Authorised after := fun peer => Authorised.of_linked tied_after linked peer
    exact ⟨authorised, fun relay given => (linked.kept relay given).2⟩
  · intro sound
    refine ⟨fun connection _ _ passed => sound.authorised _ passed, ?_, tied.relay⟩
    intro relay given
    refine ⟨?_, sound.kept relay given⟩
    have given : before.givenUp after = some relay := given
    unfold givenUp at given
    split at given
    · rename_i disconnected
      exact tied.relay.trans (peerId_of_isDisconnected disconnected)
    · cases given

section
variable {sha256 : List UInt8 → List UInt8} {relayAddr : Option String} {before after : SwarmConnections} {event : ConnectionEvent}

theorem tied_step (tied : Tied before) (taken : before.step sha256 relayAddr event = some after) : Tied after := by
  obtain ⟨reached, reacts, rfl⟩ := Option.map_eq_some_iff.mp taken
  have kept := tied_react tied reacts
  exact ⟨kept.marked, kept.hasOpen, kept.relay⟩

theorem linked_step_iff (tied : Tied before) (linked : Linked before)
    (taken : before.step sha256 relayAddr event = some after) : Linked after ↔ before.Last event := by
  obtain ⟨reached, reacts, rfl⟩ := Option.map_eq_some_iff.mp taken
  have authorised := Authorised.of_linked tied linked
  rw [linked_iff (tied_react tied reacts)]
  cases event with
  | closed id now =>
      obtain ⟨connection, found, reported⟩ := Option.bind_eq_some_iff.mp reacts
      obtain ⟨-, same⟩ := Option.ite_none_left_eq_some.mp reported
      cases same
      rw [sound_onClosed_iff tied authorised connection now]
      simp [Last, found]
  | established id peer dialled now | closes id | identify id agent now | relayTick now opened outcome | rpcError now =>
      exact ⟨fun _ => trivial, fun _ => sound_react authorised (fun _ _ => ConnectionEvent.noConfusion) reacts⟩

theorem connections_linked_iff (sha256 : List UInt8 → List UInt8) (clusterPsk : Option (List UInt8)) (relayAddr : Option String)
    (events : List ConnectionEvent) (final : SwarmConnections)
    (ran : run (SwarmConnections.step sha256 relayAddr) (.start clusterPsk relayAddr) events = some final) :
    Always (SwarmConnections.step sha256 relayAddr) Linked (.start clusterPsk relayAddr) events ↔
      Meets (SwarmConnections.step sha256 relayAddr) Last (.start clusterPsk relayAddr) events := by
  have relay : none = (RelayState.new relayAddr).peerId := by cases relayAddr <;> rfl
  apply always_iff_meets (fun _ _ _ => tied_step) (fun _ _ _ => linked_step_iff) _ _ ran
  · exact ⟨nofun, fun peer passed => absurd passed (Finset.notMem_empty peer), relay⟩
  · exact ⟨nofun, nofun, relay⟩

end

/-! ## Who becomes the relay -/

theorem peerId_identified (peers : ClusterPeers) (peer : PeerId) (agent : List Char) (now : Nat) :
    (peers.feedRelay now (.identified peer agent)).relay.peerId =
      if "mac-mgmt-relay/".toList.isPrefixOf agent ∧ peers.relay.isDisconnected then some peer else peers.relay.peerId := by
  unfold ClusterPeers.feedRelay
  by_cases named : "mac-mgmt-relay/".toList.isPrefixOf agent
  · simp only [RelayState.handleEvent, named, true_and]
    cases state : peers.relay with
    | disconnected relayAddr nextDial =>
        simp [RelayState.isDisconnected, RelayState.becomeIdentified, ClusterPeers.executeRelayAction, RelayState.peerId]
    | disabled => simp [RelayState.peerId, RelayState.isDisconnected]
    | connected relayAddr other | identified relayAddr other proxyUrl | registered relayAddr other proxyUrl lastRegister =>
        by_cases own : other = peer
        · simp [RelayState.peerId, RelayState.isDisconnected, RelayState.becomeIdentified, ClusterPeers.executeRelayAction, own]
        · simp [RelayState.peerId, RelayState.isDisconnected, own]
  · simp only [RelayState.handleEvent, named, Bool.false_eq_true, false_and, if_false, List.foldl_nil]

section
variable {sha256 : List UInt8 → List UInt8} {relayAddr : Option String} {before after : SwarmConnections} {event : ConnectionEvent}

structure Stays (before after : SwarmConnections) : Prop where
  relay : after.peers.relay.peerId = before.peers.relay.peerId ∨ after.peers.relay.peerId = none
  reached : before.reached ⊆ after.reached

theorem Stays.dialled (stays : Stays before after) (tied : Tied before) (follows : Tied after) (dialled : before.Dialled) :
    after.Dialled := by
  intro relay own
  rw [follows.relay] at own
  rcases stays.relay with same | none_left
  · exact stays.reached (dialled relay (tied.relay.trans (same.symm.trans own)))
  · rw [none_left] at own
    cases own

theorem stays_dropRelayConnection (swarm : SwarmConnections) (now : Nat) : Stays swarm (swarm.dropRelayConnection now) := by
  unfold SwarmConnections.dropRelayConnection
  split
  · rename_i peer own
    refine ⟨?_, subset_refl _⟩
    rcases (closed_drop none own now).relay with ⟨other, _⟩ | ⟨_, relayAddr, nextDial, same⟩
    · exact absurd own other
    · exact .inr (congrArg RelayState.peerId same)
  · exact ⟨.inl rfl, subset_refl _⟩

theorem stays_onRelayTick (swarm : SwarmConnections) (now : Nat) (opened : Bool) (outcome : RegisterOutcome) :
    Stays swarm (swarm.onRelayTick now opened outcome) := by
  have ticked := sameChecks_tickRelay swarm.peers now opened
  unfold SwarmConnections.onRelayTick
  dsimp only
  split
  · obtain ⟨relay, reached⟩ := stays_dropRelayConnection { swarm with peers := tickRelay swarm.peers now opened } now
    rw [ticked.peerId] at relay
    exact ⟨relay, reached⟩
  · rename_i kept
    have same := ticked.trans (sameChecks_reregister (tickRelay swarm.peers now opened) now kept)
    exact ⟨.inl same.peerId, subset_refl _⟩

theorem stays_react (other : ∀ id agent now, event ≠ .identify id agent now)
    (reacts : before.react sha256 relayAddr event = some after) : Stays before after := by
  cases event with
  | established id peer dialled now =>
      obtain ⟨-, same⟩ := Option.ite_none_right_eq_some.mp reacts
      cases same
      refine ⟨.inl rfl, ?_⟩
      simp only [onEstablished]
      split
      · exact Finset.subset_insert _ _
      · exact subset_refl _
  | closes id =>
      cases reacts
      exact ⟨.inl rfl, subset_refl _⟩
  | closed id now =>
      obtain ⟨connection, -, reported⟩ := Option.bind_eq_some_iff.mp reacts
      obtain ⟨-, same⟩ := Option.ite_none_left_eq_some.mp reported
      cases same
      refine ⟨?_, subset_refl _⟩
      rcases (closed_connectionClosed none before.peers connection.peer now).relay with ⟨_, same⟩ | ⟨_, addr, nextDial, same⟩
      · exact .inl (congrArg RelayState.peerId same)
      · exact .inr (congrArg RelayState.peerId same)
  | identify id agent now => exact absurd rfl (other id agent now)
  | relayTick now opened outcome =>
      cases reacts
      exact stays_onRelayTick before now opened outcome
  | rpcError now =>
      obtain ⟨-, same⟩ := Option.ite_none_right_eq_some.mp reacts
      cases same
      exact stays_dropRelayConnection before now

theorem reached_onIdentify (swarm : SwarmConnections) (connection : Connection) (agent : List Char) (now : Nat) :
    (swarm.onIdentify sha256 connection agent now).reached = swarm.reached := by
  unfold SwarmConnections.onIdentify
  dsimp only
  split <;> rfl

theorem peerId_onIdentify (swarm : SwarmConnections) (connection : Connection) (agent : List Char) (now : Nat) :
    (swarm.onIdentify sha256 connection agent now).peers.relay.peerId =
      if swarm.peers.verified sha256 connection.peer agent ∧ "mac-mgmt-relay/".toList.isPrefixOf agent ∧
          swarm.peers.relay.isDisconnected then some connection.peer else swarm.peers.relay.peerId := by
  have heard : (swarm.peers.hear none connection.peer agent).verified sha256 connection.peer agent =
      swarm.peers.verified sha256 connection.peer agent := rfl
  unfold SwarmConnections.onIdentify ClusterPeers.onIdentify
  rw [heard]
  by_cases verified : swarm.peers.verified sha256 connection.peer agent
  · simp only [verified, if_true, true_and]
    exact peerId_identified _ connection.peer agent now
  · simp only [verified, Bool.false_eq_true, if_false, false_and]
    rfl

theorem dialled_onIdentify_iff {swarm : SwarmConnections} (tied : Tied swarm) (dialled : swarm.Dialled)
    (connection : Connection) (agent : List Char) (now : Nat) :
    (swarm.onIdentify sha256 connection agent now).Dialled ↔
      (swarm.peers.verified sha256 connection.peer agent → "mac-mgmt-relay/".toList.isPrefixOf agent →
        swarm.peers.relay.isDisconnected → connection.peer ∈ swarm.reached) := by
  have follows := (tied_onIdentify sha256 tied connection agent now).relay
  rw [peerId_onIdentify] at follows
  unfold Dialled
  rw [follows, reached_onIdentify]
  split
  · rename_i takes
    simp only [takes, forall_const, Option.some.injEq, forall_eq']
  · rename_i leaves
    constructor
    · intro _ verified named disconnected
      exact absurd ⟨verified, named, disconnected⟩ leaves
    · intro _ relay own
      exact dialled relay (tied.relay.trans own)

theorem dialled_step_iff (tied : Tied before) (dialled : before.Dialled)
    (taken : before.step sha256 relayAddr event = some after) : after.Dialled ↔ before.NoImpostor sha256 event := by
  obtain ⟨reached, reacts, rfl⟩ := Option.map_eq_some_iff.mp taken
  show reached.Dialled ↔ _
  cases event with
  | identify id agent now =>
      obtain ⟨connection, found, rfl⟩ := Option.map_eq_some_iff.mp reacts
      rw [dialled_onIdentify_iff tied dialled]
      simp [NoImpostor, found]
  | established id peer dialled now | closes id | closed id now | relayTick now opened outcome | rpcError now =>
      have stays := stays_react (fun _ _ _ => ConnectionEvent.noConfusion) reacts
      exact ⟨fun _ => trivial, fun _ => stays.dialled tied (tied_react tied reacts) ‹before.Dialled›⟩

theorem relay_dialled_iff (sha256 : List UInt8 → List UInt8) (clusterPsk : Option (List UInt8)) (relayAddr : String)
    (events : List ConnectionEvent) (final : SwarmConnections)
    (ran : run (SwarmConnections.step sha256 (some relayAddr)) (.start clusterPsk (some relayAddr)) events = some final) :
    Always (SwarmConnections.step sha256 (some relayAddr)) Dialled (.start clusterPsk (some relayAddr)) events ↔
      Meets (SwarmConnections.step sha256 (some relayAddr)) (NoImpostor sha256) (.start clusterPsk (some relayAddr)) events := by
  apply always_iff_meets (fun _ _ _ => tied_step) (fun _ _ _ => dialled_step_iff) _ _ ran
  · exact ⟨nofun, fun peer passed => absurd passed (Finset.notMem_empty peer), rfl⟩
  · exact nofun

end

/-! A daemon without a PSK, its relay `[2]` and another machine `[9]` in the same network. -/

def relayAddress : String := "/dns4/relay.plan.ai/tcp/443/wss"

def relayAgent : List Char := "mac-mgmt-relay/0.1.5".toList

def unhashed (_ : List UInt8) : List UInt8 := []

def relayOnce : List ConnectionEvent :=
  [.established 1 [2] (some relayAddress) 0, .identify 1 relayAgent 1, .closes 1, .closed 1 2]

theorem relayOnce_linked :
    Always (SwarmConnections.step unhashed (some relayAddress)) Linked (.start none (some relayAddress)) relayOnce := by
  have runs : (run (SwarmConnections.step unhashed (some relayAddress)) (.start none (some relayAddress)) relayOnce).isSome := by
    decide +kernel
  obtain ⟨final, ran⟩ := Option.isSome_iff_exists.mp runs
  exact (connections_linked_iff unhashed none (some relayAddress) relayOnce final ran).mpr (by decide +kernel)

theorem peers_of_run_relayOnce : ∃ final,
    run (SwarmConnections.step unhashed (some relayAddress)) (.start none (some relayAddress)) relayOnce = some final ∧
      ∃ seen, run (ClusterPeers.step unhashed none) (SwarmConnections.start none (some relayAddress)).peers seen =
        some final.peers := by
  have runs : (run (SwarmConnections.step unhashed (some relayAddress)) (.start none (some relayAddress)) relayOnce).isSome := by
    decide +kernel
  obtain ⟨final, ran⟩ := Option.isSome_iff_exists.mp runs
  exact ⟨final, ran, peers_of_run ran⟩

/-- The relay connects a second time while its first connection closes; it is dropped and comes back before the close of the
dropped connection is reported. -/
theorem relay_cut_off :
    (run (SwarmConnections.step unhashed (some relayAddress)) (.start none (some relayAddress))
      [.established 1 [2] (some relayAddress) 0, .identify 1 relayAgent 1, .established 2 [2] none 2, .identify 2 relayAgent 3,
        .closes 1, .closed 1 4]).any (fun after => after.reset = some [2] && decide ([2] ∉ after.peers.authorized) &&
          after.connections = [⟨2, [2], true, true⟩] && decide ([2] ∈ after.passed)) ∧
    (run (SwarmConnections.step unhashed (some relayAddress)) (.start none (some relayAddress))
      [.established 1 [2] (some relayAddress) 0, .identify 1 relayAgent 1, .rpcError 2, .relayTick 40 false .failed,
        .established 2 [2] (some relayAddress) 41, .identify 2 relayAgent 42, .closed 1 43]).any (fun after =>
          after.reset = some [2] && after.connections = [⟨2, [2], true, true⟩]) := by
  constructor <;> decide +kernel

theorem relayOnce_dialled :
    Always (SwarmConnections.step unhashed (some relayAddress)) Dialled (.start none (some relayAddress)) relayOnce := by
  have runs : (run (SwarmConnections.step unhashed (some relayAddress)) (.start none (some relayAddress)) relayOnce).isSome := by
    decide +kernel
  obtain ⟨final, ran⟩ := Option.isSome_iff_exists.mp runs
  exact (relay_dialled_iff unhashed none relayAddress relayOnce final ran).mpr (by decide +kernel)

theorem impostor_becomes_relay :
    (run (SwarmConnections.step unhashed (some relayAddress)) (.start none (some relayAddress))
      [.established 1 [9] none 0, .identify 1 relayAgent 1]).any
        (fun after => after.peers.relayPeerId = some [9] && decide ([9] ∉ after.reached)) := by
  decide +kernel

end MacMgmt.Proof.SwarmConnections
