import MacMgmt.Lib.Run
import MacMgmt.Relay.Swarm
import MacMgmt.Proof.Relay.Ports

/-!
# The registry is keyed by instance id

A daemon stands in the registry under its own instance id: `register` inserts it there, and no other call changes the id
of an entry. So a lookup by the id of a listed daemon finds that daemon again.
-/

namespace MacMgmt.Proof.Relay
open Lib MacMgmt.Relay RelayState

/-! ## Calls that register nothing -/

/-- Entries may go; those that stay are of the same instance and cluster. -/
def KeepsEntries (before after : RelayState) : Prop :=
  ∀ i conn, after.daemons.lookup i = some conn → ∃ old, before.daemons.lookup i = some old ∧
    conn.instanceId = old.instanceId ∧ conn.clusterId = old.clusterId

theorem KeepsEntries.of_daemons {before after : RelayState} (same : after.daemons = before.daemons) :
    KeepsEntries before after := by
  intro i conn found
  rw [same] at found
  exact ⟨conn, found, rfl, rfl⟩

theorem KeepsEntries.trans {before middle after : RelayState} (first : KeepsEntries before middle)
    (second : KeepsEntries middle after) : KeepsEntries before after := by
  intro i conn found
  obtain ⟨between, foundBetween, sameId, sameCluster⟩ := second i conn found
  obtain ⟨old, foundOld, oldId, oldCluster⟩ := first i between foundBetween
  exact ⟨old, foundOld, sameId.trans oldId, sameCluster.trans oldCluster⟩

theorem keepsEntries_modify {before after : RelayState} (i : InstanceId) {change : DaemonConn → DaemonConn}
    (daemons : after.daemons = before.daemons.modify i change)
    (same : ∀ conn, (change conn).instanceId = conn.instanceId ∧ (change conn).clusterId = conn.clusterId) :
    KeepsEntries before after := by
  intro j conn found
  rw [daemons, Table.lookup_modify] at found
  split at found
  · rename_i here
    obtain ⟨old, oldFound, rfl⟩ := Option.map_eq_some_iff.mp found
    exact ⟨old, here ▸ oldFound, same old⟩
  · exact ⟨conn, found, rfl, rfl⟩

theorem keepsEntries_updateAllTunnels (relay : RelayState) (i : InstanceId) (tunnels : List ServiceTunnel)
    (fileTunnels shellTunnels : JsonText) :
    KeepsEntries relay (relay.updateAllTunnels i tunnels fileTunnels shellTunnels) :=
  keepsEntries_modify i rfl fun _ => ⟨rfl, rfl⟩

theorem keepsEntries_onSshEnabled (relay : RelayState) (i : InstanceId) : KeepsEntries relay (relay.onSshEnabled i) := by
  have sameDaemons := (allocatePort_listeners relay i).2
  unfold RelayState.onSshEnabled
  split
  · exact keepsEntries_modify i rfl fun _ => ⟨rfl, rfl⟩
  · split
    · rename_i allocated
      rw [allocated] at sameDaemons
      exact .of_daemons sameDaemons
    · rename_i port after allocated
      rw [allocated] at sameDaemons
      have set : KeepsEntries after (after.setSshPort i port) := keepsEntries_modify i rfl fun _ => ⟨rfl, rfl⟩
      exact (KeepsEntries.of_daemons sameDaemons).trans (set.trans (.of_daemons (reservePort_daemons _ _ _)))

theorem keepsEntries_removeListener (relay : RelayState) (i : InstanceId) :
    KeepsEntries relay (relay.removeListener i) := by
  unfold RelayState.removeListener
  split
  · exact .of_daemons rfl
  · rename_i port _
    have reserved := reservePort_daemons { relay with listeners := relay.listeners.erase i } i port
    exact (KeepsEntries.of_daemons reserved).trans (keepsEntries_modify i rfl fun _ => ⟨rfl, rfl⟩)

theorem keepsEntries_updateSshEnabled (relay : RelayState) (i : InstanceId) (enabled : Bool) :
    KeepsEntries relay (relay.updateSshEnabled i enabled).2 := by
  unfold RelayState.updateSshEnabled
  split
  · rename_i conn present
    intro j other found
    rw [Table.lookup_insert_ite] at found
    split at found
    · rename_i here
      cases found
      exact ⟨conn, here ▸ present, rfl, rfl⟩
    · exact ⟨other, found, rfl, rfl⟩
  · exact .of_daemons rfl

theorem keepsEntries_unregister (relay : RelayState) (i : InstanceId) (connectedAt : DateTime) :
    KeepsEntries relay (relay.unregister i connectedAt).2 := by
  have erased : ∀ after : RelayState, after.daemons = relay.daemons.erase i → KeepsEntries relay after := by
    intro after daemons j conn found
    rw [daemons, Table.lookup_erase_ite] at found
    split at found
    · cases found
    · exact ⟨conn, found, rfl, rfl⟩
  unfold RelayState.unregister
  split
  · exact .of_daemons rfl
  · split
    · exact .of_daemons rfl
    · dsimp only
      split
      · exact erased _ (reservePort_daemons _ _ _)
      · exact erased _ rfl

/-! ## The key of an entry -/

def Keyed (relay : RelayState) : Prop := ∀ id conn, relay.daemons.lookup id = some conn → conn.instanceId = id

theorem keyed_new (now : DateTime) (maxDaemons portMin portMax : Nat) (file : Option Reservations) (writable : Bool) :
    Keyed (.new now maxDaemons portMin portMax file writable) := by
  intro id conn found
  cases found

theorem Keyed.kept {before after : RelayState} (keyed : Keyed before) (entries : KeepsEntries before after) :
    Keyed after := by
  intro id conn found
  obtain ⟨old, foundOld, sameId, -⟩ := entries id conn found
  exact sameId.trans (keyed id old foundOld)

theorem Keyed.register {relay : RelayState} (keyed : Keyed relay) (conn : DaemonConn) :
    Keyed (relay.register conn).2 := by
  unfold RelayState.register
  split
  · exact keyed
  · intro id other found
    rw [Table.lookup_insert_ite] at found
    split at found
    · rename_i here
      cases found
      exact here.symm
    · exact keyed id other found

theorem keyed_act {before after : Swarm} {stream : StreamId} {handler : Handler} (keyed : Keyed before.relay)
    (stepped : before.act stream handler = some after) : Keyed after.relay := by
  unfold Swarm.act at stepped
  split at stepped
  · cases stepped
  · cases stepped
  · split at stepped
    · cases stepped
      exact keyed
    · cases stepped
      exact keyed
  · rename_i frame now info _
    cases stepped
    have registered := keyed.register (newConn handler.peer frame now info)
    unfold Swarm.actRegister
    split
    · exact keyed
    · rename_i result
      rw [result] at registered
      exact registered
  · cases stepped
    show Keyed (if _ then _ else _)
    split
    · exact keyed.kept (keepsEntries_onSshEnabled _ _)
    · exact keyed
  · cases stepped
    unfold Swarm.actSubscribe
    split
    · exact keyed
    · exact keyed
  · cases stepped
    exact keyed
  · cases stepped
    exact keyed.kept (keepsEntries_updateAllTunnels _ _ _ _ _)
  · rename_i instanceId enabled _
    cases stepped
    exact keyed.kept (keepsEntries_updateSshEnabled _ instanceId enabled)
  · cases stepped
    unfold Swarm.actSyncBridge
    split_ifs
    · exact keyed
    · exact keyed.kept (keepsEntries_onSshEnabled _ _)
    · exact keyed
    · exact keyed.kept (keepsEntries_removeListener _ _)
    · exact keyed
  · cases stepped
    exact keyed.kept (keepsEntries_onSshEnabled _ _)
  · cases stepped
    unfold Swarm.actUnregister
    split
    · exact keyed.kept (keepsEntries_unregister _ _ _)
    · exact keyed
  · cases stepped
    exact keyed.kept (keepsEntries_removeListener _ _)
  · cases stepped
    unfold Swarm.actUnsubscribe
    split
    · exact keyed
    · exact keyed
  · cases stepped
    exact keyed

theorem receive_relay (swarm : Swarm) (stream : StreamId) (handler : Handler) (frame : Frame) :
    (swarm.receive stream handler frame).relay = swarm.relay := by
  cases frame with
  | register frame => exact (apply_ite Swarm.relay _ _ _).trans (ite_self swarm.relay)
  | tunnelAdvertisement frame =>
      simp only [Swarm.receive]
      split <;> rfl
  | other msgType => rfl

theorem validated_relay (swarm : Swarm) (stream : StreamId) (handler : Handler) (frame : RegisterFrame)
    (now : DateTime) (result : Except Nat SelfInfo) :
    (swarm.validated stream handler frame now result).relay = swarm.relay := by
  cases result with
  | error status => rfl
  | ok info =>
      simp only [Swarm.validated]
      split_ifs <;> rfl

theorem keyed_swarmStep {before after : Swarm} {event : SwarmEvent} (keyed : Keyed before.relay)
    (stepped : swarmStep before event = some after) : Keyed after.relay := by
  cases event with
  | setSshBridge =>
      cases stepped
      exact keyed
  | accept peer =>
      cases stepped
      exact keyed
  | closed stream =>
      obtain ⟨handler, -, taken⟩ := Option.bind_eq_some_iff.mp stepped
      cases taken
      exact keyed
  | receive stream frame =>
      obtain ⟨handler, -, taken⟩ := Option.bind_eq_some_iff.mp stepped
      split at taken
      · cases taken
        rw [receive_relay]
        exact keyed
      · cases taken
  | validated stream result =>
      obtain ⟨handler, -, taken⟩ := Option.bind_eq_some_iff.mp stepped
      split at taken
      · cases taken
        rw [validated_relay]
        exact keyed
      · cases taken
  | act stream =>
      obtain ⟨handler, -, taken⟩ := Option.bind_eq_some_iff.mp stepped
      exact keyed_act keyed taken
  | readEnd stream =>
      obtain ⟨handler, -, taken⟩ := Option.bind_eq_some_iff.mp stepped
      split at taken
      · cases taken
        exact keyed
      · cases taken
  | clock now =>
      cases stepped
      exact keyed

/-- What `HttpState` asks of a registry holds of every registry the relay gets to. -/
theorem keyed_of_run {now : DateTime} {maxDaemons portMin portMax : Nat} {file : Option Reservations} {writable : Bool}
    {events : List SwarmEvent} {swarm : Swarm}
    (ran : run swarmStep (Swarm.start (.new now maxDaemons portMin portMax file writable)) events = some swarm) :
    Keyed swarm.relay := by
  have preserved : ∀ before event after, Keyed before.relay → swarmStep before event = some after →
      Keyed after.relay := fun _ _ _ keyed stepped => keyed_swarmStep keyed stepped
  exact run_invariant preserved (keyed_new now maxDaemons portMin portMax file writable) ran

def firstRegistration : List SwarmEvent :=
  [.accept 1, .receive 0 (.register { instanceId := "a", hostname := none, agentName := none, token := "t", sshEnabled := true }),
    .validated 0 (.ok { clusterId := some 1, clusterName := none, tokenKind := "sync" }), .act 0, .act 0]

theorem keyed_of_run_registered : ∃ swarm,
    run swarmStep (Swarm.start (.new 0 4 10000 10003 none true)) firstRegistration = some swarm ∧ Keyed swarm.relay := by
  have runs : (run swarmStep (Swarm.start (.new 0 4 10000 10003 none true)) firstRegistration).isSome = true := rfl
  obtain ⟨swarm, ran⟩ := Option.isSome_iff_exists.mp runs
  exact ⟨swarm, ran, keyed_of_run ran⟩

end MacMgmt.Proof.Relay
