import MacMgmt.Proof.Relay.RegistryKeys
import MacMgmt.Proof.Relay.SshListeners

/-!
# Which cluster an instance is registered under

A handler checks `can_register` in one call and inserts in the next. What the check has found still holds at the insert
unless another handler has inserted in between, under another cluster.
-/

namespace MacMgmt.Proof.Relay
open Lib MacMgmt.Relay RelayState

def clusterOf (relay : RelayState) (i : InstanceId) : Option (Option Uuid) :=
  (relay.daemons.lookup i).map DaemonConn.clusterId

/-! ## The registry's operations -/

def KeepsClusters (before after : RelayState) : Prop :=
  ∀ i, clusterOf after i = clusterOf before i ∨ clusterOf after i = none

theorem KeepsClusters.of_daemons {before after : RelayState} (same : after.daemons = before.daemons) :
    KeepsClusters before after := by
  intro i
  simp [clusterOf, same]

theorem KeepsEntries.clusters {before after : RelayState} (entries : KeepsEntries before after) :
    KeepsClusters before after := by
  intro i
  unfold clusterOf
  cases found : after.daemons.lookup i with
  | none => exact .inr rfl
  | some conn =>
      obtain ⟨old, foundOld, -, sameCluster⟩ := entries i conn found
      rw [foundOld, Option.map_some, Option.map_some, sameCluster]
      exact .inl rfl

theorem clusterOf_register {relay after : RelayState} {conn : DaemonConn}
    (registered : relay.register conn = (true, after)) (i : InstanceId) :
    clusterOf after i = if i = conn.instanceId then some conn.clusterId else clusterOf relay i := by
  unfold register at registered
  split at registered
  · cases registered
  · cases registered
    simp only [clusterOf, Table.lookup_insert_ite]
    split <;> rfl

theorem canRegister_iff (relay : RelayState) (i : InstanceId) (cluster : Option Uuid) :
    relay.canRegister i cluster = true ↔ ∀ other, clusterOf relay i = some other → other = cluster := by
  unfold canRegister clusterOf
  cases relay.daemons.lookup i <;> simp

/-! ## The steps -/

/-- The instance and cluster that a handler has checked and inserts next. -/
def Pc.insert : Pc → Option (InstanceId × Option Uuid)
  | .register frame _ info => some (frame.instanceId, info.clusterId)
  | _ => none

def pendingInsert (swarm : Swarm) (stream : StreamId) : Option (InstanceId × Option Uuid) :=
  (swarm.handlers.lookup stream).bind fun handler => Pc.insert handler.pc

inductive ClusterChange (before after : Swarm) : SwarmEvent → Prop where
  | kept {event : SwarmEvent} (clusters : KeepsClusters before.relay after.relay)
      (pending : ∀ stream insert, pendingInsert after stream = some insert → pendingInsert before stream = some insert) :
      ClusterChange before after event
  | checked {event : SwarmEvent} {stream : StreamId} {i : InstanceId} {cluster : Option Uuid}
      (passed : before.relay.canRegister i cluster = true) (relay : after.relay = before.relay)
      (pending : ∀ other, pendingInsert after other = if other = stream then some (i, cluster)
        else pendingInsert before other) : ClusterChange before after event
  | inserted {stream : StreamId} {i : InstanceId} {cluster : Option Uuid}
      (fits : i ∈ before.relay.daemons ∨ before.relay.daemons.size < before.relay.maxDaemons)
      (own : pendingInsert before stream = some (i, cluster))
      (clusters : ∀ j, clusterOf after.relay j = if j = i then some cluster else clusterOf before.relay j)
      (pending : ∀ other, pendingInsert after other = if other = stream then none else pendingInsert before other) :
      ClusterChange before after (.act stream)

theorem pendingInsert_insert {before after : Swarm} {stream : StreamId} {next : Handler}
    {insert : Option (InstanceId × Option Uuid)} (handlers : after.handlers = before.handlers.insert stream next)
    (place : Pc.insert next.pc = insert) (other : StreamId) :
    pendingInsert after other = if other = stream then insert else pendingInsert before other := by
  unfold pendingInsert
  rw [handlers, Table.lookup_insert_ite]
  split
  · exact place
  · rfl

theorem ClusterChange.moved {before after : Swarm} {event : SwarmEvent} {stream : StreamId} {next : Handler}
    (clusters : KeepsClusters before.relay after.relay)
    (handlers : after.handlers = before.handlers.insert stream next)
    (elsewhere : Pc.insert next.pc = none) : ClusterChange before after event := by
  refine .kept clusters fun other insert pending => ?_
  rw [pendingInsert_insert handlers elsewhere] at pending
  split at pending
  · cases pending
  · exact pending

theorem receive_clusters {before : Swarm} {event : SwarmEvent} (stream : StreamId) (handler : Handler) (frame : Frame) :
    ClusterChange before (before.receive stream handler frame) event := by
  cases frame with
  | register frame =>
      simp only [Swarm.receive]
      split
      · exact .moved (.of_daemons rfl) rfl rfl
      · exact .moved (.of_daemons rfl) rfl rfl
  | tunnelAdvertisement frame =>
      simp only [Swarm.receive]
      split
      · exact .moved (.of_daemons rfl) rfl rfl
      · exact .moved (.of_daemons rfl) rfl rfl
  | other msgType => exact .moved (.of_daemons rfl) rfl rfl

theorem validated_clusters {before : Swarm} {event : SwarmEvent} (stream : StreamId) (handler : Handler)
    (frame : RegisterFrame) (now : DateTime) (result : Except Nat SelfInfo) :
    ClusterChange before (before.validated stream handler frame now result) event := by
  cases result with
  | error status => exact .moved (.of_daemons rfl) rfl rfl
  | ok info =>
      simp only [Swarm.validated]
      split_ifs
      · exact .moved (.of_daemons rfl) rfl rfl
      · exact .moved (.of_daemons rfl) rfl rfl
      · exact .moved (.of_daemons rfl) rfl rfl

theorem actRegister_clusters {before : Swarm} {stream : StreamId} {handler : Handler} {frame : RegisterFrame}
    {now : DateTime} {info : SelfInfo} (found : before.handlers.lookup stream = some handler)
    (pc : handler.pc = .register frame now info) :
    ClusterChange before (before.actRegister stream handler frame now info) (.act stream) := by
  unfold Swarm.actRegister
  split
  · exact .moved (.of_daemons rfl) rfl rfl
  · rename_i relay registered
    have clusters := clusterOf_register registered
    refine .inserted ?_ ?_ clusters (pendingInsert_insert rfl rfl)
    · unfold RelayState.register at registered
      split at registered
      · cases registered
      · rename_i fits
        rw [not_and_or, not_not, not_le] at fits
        exact fits
    · rw [pendingInsert, found, Option.bind_some, pc]
      rfl

theorem act_clusters {before after : Swarm} {stream : StreamId} {handler : Handler}
    (found : before.handlers.lookup stream = some handler) (stepped : before.act stream handler = some after) :
    ClusterChange before after (.act stream) := by
  cases pc : handler.pc with
  | idle => simp [Swarm.act, pc] at stepped
  | validate frame now => simp [Swarm.act, pc] at stepped
  | canRegister frame now info =>
      simp only [Swarm.act, pc] at stepped
      split at stepped
      · rename_i passed
        cases stepped
        exact .checked passed rfl (pendingInsert_insert rfl rfl)
      · cases stepped
        exact .moved (.of_daemons rfl) rfl rfl
  | register frame now info =>
      simp only [Swarm.act, pc] at stepped
      cases stepped
      exact actRegister_clusters found pc
  | startBridge frame info =>
      simp only [Swarm.act, pc] at stepped
      cases stepped
      refine .moved ?_ rfl rfl
      dsimp only [Swarm.withRelay, Swarm.goto, Swarm.setHandler]
      split
      · exact (keepsEntries_onSshEnabled before.relay frame.instanceId).clusters
      · exact .of_daemons rfl
  | subscribe frame info =>
      simp only [Swarm.act, pc] at stepped
      cases stepped
      unfold Swarm.actSubscribe
      split
      · exact .moved (.of_daemons rfl) rfl rfl
      · exact .moved (.of_daemons rfl) rfl rfl
  | readBack instanceId cluster =>
      simp only [Swarm.act, pc] at stepped
      cases stepped
      exact .moved (.of_daemons rfl) rfl rfl
  | advertise instanceId frame =>
      simp only [Swarm.act, pc] at stepped
      cases stepped
      exact .moved (keepsEntries_updateAllTunnels before.relay instanceId (parseTunnels frame.tunnels) _ _).clusters rfl rfl
  | updateSsh instanceId enabled =>
      simp only [Swarm.act, pc] at stepped
      cases stepped
      exact .moved (keepsEntries_updateSshEnabled before.relay instanceId enabled).clusters rfl rfl
  | syncBridge instanceId enabled prev =>
      simp only [Swarm.act, pc] at stepped
      cases stepped
      unfold Swarm.actSyncBridge
      split_ifs
      · exact .moved (.of_daemons rfl) rfl rfl
      · exact .moved (keepsEntries_onSshEnabled before.relay instanceId).clusters rfl rfl
      · exact .moved (.of_daemons rfl) rfl rfl
      · exact .moved (keepsEntries_removeListener before.relay instanceId).clusters rfl rfl
      · exact .moved (.of_daemons rfl) rfl rfl
  | enableBridge instanceId =>
      simp only [Swarm.act, pc] at stepped
      cases stepped
      exact .moved (keepsEntries_onSshEnabled before.relay instanceId).clusters rfl rfl
  | unregister =>
      simp only [Swarm.act, pc] at stepped
      cases stepped
      unfold Swarm.actUnregister
      split
      · rename_i instanceId connectedAt _ _
        refine .moved (keepsEntries_unregister before.relay instanceId connectedAt).clusters rfl ?_
        exact (apply_ite Pc.insert _ _ _).trans (ite_self none)
      · exact .moved (.of_daemons rfl) rfl rfl
  | disconnect instanceId =>
      simp only [Swarm.act, pc] at stepped
      cases stepped
      exact .moved (keepsEntries_removeListener before.relay instanceId).clusters rfl rfl
  | unsubscribe =>
      simp only [Swarm.act, pc] at stepped
      cases stepped
      unfold Swarm.actUnsubscribe
      split
      · exact .moved (.of_daemons rfl) rfl rfl
      · exact .moved (.of_daemons rfl) rfl rfl
  | forget =>
      simp only [Swarm.act, pc] at stepped
      cases stepped
      refine .kept (.of_daemons rfl) fun other insert pending => ?_
      simp only [pendingInsert, Table.lookup_erase_ite] at pending ⊢
      split at pending
      · cases pending
      · exact pending

theorem clusterChange_of_step {before after : Swarm} {event : SwarmEvent}
    (stepped : swarmStep before event = some after) : ClusterChange before after event := by
  cases event with
  | setSshBridge =>
      cases stepped
      exact .kept (.of_daemons rfl) fun _ _ pending => pending
  | accept peer =>
      cases stepped
      exact .moved (.of_daemons rfl) rfl rfl
  | closed stream =>
      simp only [swarmStep, Option.bind_eq_bind, Option.bind_eq_some_iff] at stepped
      obtain ⟨handler, found, taken⟩ := stepped
      cases taken
      refine .kept (.of_daemons rfl) fun other insert pending => ?_
      rw [pendingInsert_insert rfl rfl] at pending
      split at pending
      · rename_i same
        rw [same, pendingInsert, found]
        exact pending
      · exact pending
  | receive stream frame =>
      simp only [swarmStep, Option.bind_eq_bind, Option.bind_eq_some_iff] at stepped
      obtain ⟨handler, found, taken⟩ := stepped
      split at taken
      · cases taken
        exact receive_clusters stream handler frame
      · cases taken
  | validated stream result =>
      simp only [swarmStep, Option.bind_eq_bind, Option.bind_eq_some_iff] at stepped
      obtain ⟨handler, found, taken⟩ := stepped
      split at taken
      · rename_i frame now _
        cases taken
        exact validated_clusters stream handler frame now result
      · cases taken
  | act stream =>
      simp only [swarmStep, Option.bind_eq_bind, Option.bind_eq_some_iff] at stepped
      obtain ⟨handler, found, taken⟩ := stepped
      exact act_clusters found taken
  | readEnd stream =>
      simp only [swarmStep, Option.bind_eq_bind, Option.bind_eq_some_iff] at stepped
      obtain ⟨handler, found, taken⟩ := stepped
      split at taken
      · cases taken
        exact .moved (.of_daemons rfl) rfl rfl
      · cases taken
  | clock now =>
      cases stepped
      exact .kept (.of_daemons rfl) fun _ _ pending => pending

/-! ## Runs -/

/-- If the step inserts an entry, no other handler has checked that instance for another cluster. -/
def InsertsAlone (swarm : Swarm) : SwarmEvent → Prop
  | .act stream => ∀ i cluster, pendingInsert swarm stream = some (i, cluster) →
      (i ∈ swarm.relay.daemons ∨ swarm.relay.daemons.size < swarm.relay.maxDaemons) →
      ∀ other otherCluster, pendingInsert swarm other = some (i, otherCluster) → otherCluster = cluster
  | _ => True

def ChecksHold (swarm : Swarm) : Prop :=
  ∀ stream i cluster, pendingInsert swarm stream = some (i, cluster) →
    ∀ other, clusterOf swarm.relay i = some other → other = cluster

theorem ChecksHold.step {before after : Swarm} {event : SwarmEvent} (checks : ChecksHold before)
    (alone : InsertsAlone before event) (stepped : swarmStep before event = some after) : ChecksHold after := by
  intro stream i cluster pending other registered
  cases clusterChange_of_step stepped with
  | kept clusters kept =>
      rcases clusters i with same | gone
      · rw [same] at registered
        exact checks stream i cluster (kept stream _ pending) other registered
      · rw [gone] at registered
        cases registered
  | checked passed relay pendingAfter =>
      rw [relay] at registered
      rw [pendingAfter] at pending
      split at pending
      · cases pending
        exact (canRegister_iff _ _ _).mp passed other registered
      · exact checks stream i cluster pending other registered
  | @inserted inserter j insertedCluster fits own clusters pendingAfter =>
      rw [pendingAfter] at pending
      split at pending
      · cases pending
      · rw [clusters] at registered
        split at registered
        · rename_i same
          cases registered
          subst same
          exact (alone i _ own fits stream cluster pending).symm
        · exact checks stream i cluster pending other registered

theorem ChecksHold.cluster_kept {before after : Swarm} {event : SwarmEvent} (checks : ChecksHold before)
    (stepped : swarmStep before event = some after) {i : InstanceId} {cluster cluster' : Option Uuid}
    (present : clusterOf before.relay i = some cluster) (still : clusterOf after.relay i = some cluster') :
    cluster' = cluster := by
  cases clusterChange_of_step stepped with
  | kept clusters kept =>
      rcases clusters i with same | gone
      · rw [same, present] at still
        exact (Option.some.inj still).symm
      · rw [gone] at still
        cases still
  | checked passed relay pendingAfter =>
      rw [relay, present] at still
      exact (Option.some.inj still).symm
  | @inserted inserter j insertedCluster fits own clusters pendingAfter =>
      rw [clusters] at still
      split at still
      · rename_i same
        cases still
        subst same
        exact (checks inserter i _ own cluster present).symm
      · rw [present] at still
        exact (Option.some.inj still).symm

/-- No step of a handler moves a registered instance to another cluster. -/
theorem registered_cluster_kept {relay : RelayState} {events : List SwarmEvent} {event : SwarmEvent}
    {before after : Swarm} (ran : run swarmStep (Swarm.start relay) events = some before)
    (alone : Meets swarmStep InsertsAlone (Swarm.start relay) events)
    (stepped : swarmStep before event = some after) {i : InstanceId} {conn conn' : DaemonConn}
    (present : before.relay.daemons.lookup i = some conn) (still : after.relay.daemons.lookup i = some conn') :
    conn'.clusterId = conn.clusterId := by
  have checks : ChecksHold before :=
    run_invariant_of_meets (fun _ _ _ => ChecksHold.step) (fun _ _ _ pending => by cases pending) alone ran
  exact checks.cluster_kept stepped (by rw [clusterOf, present]; rfl) (by rw [clusterOf, still]; rfl)

instance (swarm : Swarm) (event : SwarmEvent) : Decidable (InsertsAlone swarm event) :=
  match event with
  | .act stream => decidable_of_iff (∀ own ∈ pendingInsert swarm stream,
      (own.1 ∈ swarm.relay.daemons ∨ swarm.relay.daemons.size < swarm.relay.maxDaemons) →
      ∀ entry ∈ swarm.handlers.entries, ∀ other ∈ Pc.insert entry.2.pc, other.1 = own.1 → other.2 = own.2) (by
      constructor
      · intro all i cluster own fits other otherCluster pending
        obtain ⟨handler, found, inserts⟩ := Option.bind_eq_some_iff.mp pending
        exact all (i, cluster) own fits ⟨other, handler⟩ (AList.mem_lookup_iff.mp found) _ inserts rfl
      · rintro all ⟨i, cluster⟩ own fits ⟨other, handler⟩ member ⟨_, otherCluster⟩ inserts rfl
        have found := AList.mem_lookup_iff.mpr member
        exact all _ cluster own fits other otherCluster (Option.bind_eq_some_iff.mpr ⟨handler, found, inserts⟩))
  | .setSshBridge | .accept _ | .closed _ | .receive _ _ | .validated _ _ | .readEnd _ | .clock _ => instDecidableTrue

/-- The events that take a registration of instance `a` up to its insert. -/
def checkEvents (stream : StreamId) (cluster : Uuid) : List SwarmEvent :=
  [.receive stream (.register { instanceId := "a", hostname := none, agentName := none, token := "t", sshEnabled := false }),
    .validated stream (.ok { clusterId := some cluster, clusterName := none, tokenKind := "sync" }), .act stream]

theorem cluster_kept_reregistered : ∃ before after conn conn',
    run swarmStep (Swarm.start emptyRelay) (.accept 1 :: registerEvents 0 "a" false ++ checkEvents 0 1) = some before ∧
      swarmStep before (.act 0) = some after ∧ before.relay.daemons.lookup "a" = some conn ∧
      after.relay.daemons.lookup "a" = some conn' ∧ conn'.clusterId = conn.clusterId :=
  ⟨_, _, _, _, rfl, rfl, rfl, rfl, @registered_cluster_kept emptyRelay
    (.accept 1 :: registerEvents 0 "a" false ++ checkEvents 0 1) (.act 0) _ _ rfl (by decide) rfl "a" _ _ rfl rfl⟩

/-- Two handlers check before either inserts: the second insert takes the instance over. -/
theorem cluster_taken_over : ¬ ∀ relay events event before after i conn conn',
    run swarmStep (Swarm.start relay) events = some before → swarmStep before event = some after →
      before.relay.daemons.lookup i = some conn → after.relay.daemons.lookup i = some conn' →
      conn'.clusterId = conn.clusterId := by
  intro all
  have kept := all emptyRelay ([SwarmEvent.accept 1, .accept 2] ++ checkEvents 0 1 ++ checkEvents 1 2 ++ [SwarmEvent.act 0])
    (.act 1) _ _ "a" _ _ rfl rfl rfl rfl
  exact absurd kept (by decide)

end MacMgmt.Proof.Relay
