import MacMgmt.Lib.Run
import MacMgmt.Relay.Registry

namespace MacMgmt.Proof.Relay
open Lib MacMgmt.Relay RelayState

def DistinctListeners (relay : RelayState) : Prop :=
  ∀ a b port, relay.listeners.lookup a = some port → relay.listeners.lookup b = some port → a = b

def DistinctReservations (relay : RelayState) : Prop :=
  ∀ a b first second, relay.reservations.lookup a = some first → relay.reservations.lookup b = some second →
    first.port = second.port → a = b

structure PortInvariant (relay : RelayState) : Prop where
  listener_reserved : ∀ i port, relay.listeners.lookup i = some port →
    ∃ reservation, relay.reservations.lookup i = some reservation ∧ reservation.port = port
  daemon_listening : ∀ i conn port, relay.daemons.lookup i = some conn → conn.sshPort = some port →
    relay.listeners.lookup i = some port
  reserved_used : ∀ i reservation, relay.reservations.lookup i = some reservation →
    reservation.port ∈ relay.usedPorts
  distinct : DistinctReservations relay

theorem PortInvariant.distinctListeners {relay : RelayState} (invariant : PortInvariant relay) :
    DistinctListeners relay := by
  intro a b port first second
  obtain ⟨reservationA, foundA, portA⟩ := invariant.listener_reserved a port first
  obtain ⟨reservationB, foundB, portB⟩ := invariant.listener_reserved b port second
  exact invariant.distinct a b _ _ foundA foundB (portA.trans portB.symm)

/-! ## What each operation changes -/

section Fields
variable (relay : RelayState)

@[simp] theorem saveReservations_daemons : relay.saveReservations.daemons = relay.daemons := by
  unfold saveReservations; split <;> rfl
@[simp] theorem saveReservations_listeners : relay.saveReservations.listeners = relay.listeners := by
  unfold saveReservations; split <;> rfl
@[simp] theorem saveReservations_reservations :
    relay.saveReservations.reservations = relay.reservations := by
  unfold saveReservations; split <;> rfl
@[simp] theorem saveReservations_usedPorts : relay.saveReservations.usedPorts = relay.usedPorts := by
  unfold saveReservations; split <;> rfl

@[simp] theorem reservePort_daemons (i : InstanceId) (port : Nat) :
    (relay.reservePort i port).daemons = relay.daemons := by simp [reservePort]
@[simp] theorem reservePort_listeners (i : InstanceId) (port : Nat) :
    (relay.reservePort i port).listeners = relay.listeners := by simp [reservePort]
@[simp] theorem reservePort_reservations (i : InstanceId) (port : Nat) :
    (relay.reservePort i port).reservations = relay.reservations.insert i ⟨port, relay.now⟩ := by
  simp [reservePort]
@[simp] theorem reservePort_usedPorts (i : InstanceId) (port : Nat) :
    (relay.reservePort i port).usedPorts = insert port relay.usedPorts := by simp [reservePort]

@[simp] theorem expireReservations_daemons : relay.expireReservations.daemons = relay.daemons := by
  simp only [expireReservations]; split <;> simp
@[simp] theorem expireReservations_listeners :
    relay.expireReservations.listeners = relay.listeners := by
  simp only [expireReservations]; split <;> simp
theorem expireReservations_reservations : relay.expireReservations.reservations =
    relay.reservations.retain fun _ reservation => !expiredAt relay.now reservation := by
  simp only [expireReservations]; split <;> simp
theorem expireReservations_usedPorts : relay.expireReservations.usedPorts =
    (relay.reservations.values.filter (expiredAt relay.now)).foldl
      (fun used reservation => used.erase reservation.port) relay.usedPorts := by
  simp only [expireReservations]; split <;> simp

end Fields

theorem mem_foldl_erase (ports : List PortReservation) (used : Finset Nat) (port : Nat) :
    port ∈ ports.foldl (fun used reservation => used.erase reservation.port) used ↔
      port ∈ used ∧ ∀ reservation ∈ ports, reservation.port ≠ port := by
  induction ports generalizing used with
  | nil => simp
  | cons reservation ports ih =>
      rw [List.foldl_cons, ih, Finset.mem_erase]
      constructor
      · rintro ⟨⟨different, member⟩, rest⟩
        refine ⟨member, fun other inside => ?_⟩
        rcases List.mem_cons.mp inside with rfl | later
        · exact different.symm
        · exact rest other later
      · rintro ⟨member, all⟩
        exact ⟨⟨(all reservation List.mem_cons_self).symm, member⟩,
          fun other later => all other (List.mem_cons_of_mem _ later)⟩

theorem expireReservations_keeps_used {relay : RelayState} (distinct : DistinctReservations relay)
    (i : InstanceId) (reservation : PortReservation)
    (found : relay.reservations.lookup i = some reservation)
    (fresh : expiredAt relay.now reservation = false) (used : reservation.port ∈ relay.usedPorts) :
    reservation.port ∈ relay.expireReservations.usedPorts := by
  rw [expireReservations_usedPorts, mem_foldl_erase]
  refine ⟨used, ?_⟩
  intro other member same
  rw [List.mem_filter] at member
  obtain ⟨inside, expired⟩ := member
  obtain ⟨j, foundOther⟩ := Table.mem_values.mp inside
  have owner : j = i := distinct j i other reservation foundOther found same
  subst owner
  rw [found] at foundOther
  cases foundOther
  rw [fresh] at expired
  cases expired

def NoStaleListener (relay : RelayState) : Prop :=
  ∀ i reservation, relay.reservations.lookup i = some reservation →
    expiredAt relay.now reservation = true → relay.listeners.lookup i = none

instance (relay : RelayState) : Decidable (NoStaleListener relay) :=
  decidable_of_iff (∀ entry ∈ relay.reservations.entries,
    expiredAt relay.now entry.2 = true → relay.listeners.lookup entry.1 = none)
    (Table.forall_lookup_iff relay.reservations fun i reservation =>
      expiredAt relay.now reservation = true → relay.listeners.lookup i = none).symm

/-! ## Each operation keeps the invariant -/

theorem PortInvariant.expireReservations {relay : RelayState} (invariant : PortInvariant relay)
    (noStale : NoStaleListener relay) : PortInvariant relay.expireReservations where
  listener_reserved i port listening := by
    rw [expireReservations_listeners] at listening
    obtain ⟨reservation, found, same⟩ := invariant.listener_reserved i port listening
    refine ⟨reservation, ?_, same⟩
    rw [expireReservations_reservations, Table.lookup_retain_some]
    refine ⟨found, ?_⟩
    cases stale : expiredAt relay.now reservation with
    | false => rfl
    | true =>
        have silent := noStale i reservation found stale
        rw [silent] at listening
        cases listening
  daemon_listening i conn port found held := by
    rw [expireReservations_daemons] at found
    rw [expireReservations_listeners]
    exact invariant.daemon_listening i conn port found held
  reserved_used i reservation found := by
    rw [expireReservations_reservations, Table.lookup_retain_some] at found
    exact expireReservations_keeps_used invariant.distinct i reservation found.1
      (by simpa using found.2) (invariant.reserved_used i reservation found.1)
  distinct a b first second foundA foundB same := by
    rw [expireReservations_reservations, Table.lookup_retain_some] at foundA foundB
    exact invariant.distinct a b first second foundA.1 foundB.1 same

theorem takeFreePort_some {relay after : RelayState} {port : Nat}
    (taken : relay.takeFreePort = (some port, after)) :
    port ∉ relay.usedPorts ∧ after = { relay with usedPorts := insert port relay.usedPorts } := by
  unfold takeFreePort at taken
  split at taken
  · cases taken
  · rename_i found
    cases taken
    exact ⟨by simpa using List.find?_some found, rfl⟩

theorem takeFreePort_none {relay after : RelayState} (taken : relay.takeFreePort = (none, after)) :
    after = relay := by
  unfold takeFreePort at taken
  split at taken
  · cases taken
    rfl
  · cases taken

def Available (relay : RelayState) (i : InstanceId) (port : Nat) : Prop :=
  ∀ j reservation, relay.reservations.lookup j = some reservation → reservation.port = port → j = i

theorem PortInvariant.takeFreePort {relay after : RelayState} {port : Nat} (invariant : PortInvariant relay)
    (taken : relay.takeFreePort = (some port, after)) (i : InstanceId) :
    PortInvariant after ∧ Available after i port := by
  obtain ⟨free, rfl⟩ := takeFreePort_some taken
  constructor
  · exact { invariant with
      reserved_used := fun j reservation found =>
        Finset.mem_insert_of_mem (invariant.reserved_used j reservation found) }
  · intro j reservation found same
    exact absurd (same ▸ invariant.reserved_used j reservation found) free

theorem claimReservation_some {relay after : RelayState} {i : InstanceId} {port : Nat}
    (claimed : relay.claimReservation i = (some port, after)) :
    ∃ reservation, relay.reservations.lookup i = some reservation ∧ reservation.port = port ∧
      after = { relay with
        reservations := relay.reservations.insert i { reservation with reservedAt := relay.now } } := by
  unfold claimReservation at claimed
  split at claimed
  · cases claimed
  · rename_i reservation found
    split at claimed
    · cases claimed
    · cases claimed
      exact ⟨reservation, found, rfl, rfl⟩

theorem claimReservation_none {relay after : RelayState} {i : InstanceId}
    (claimed : relay.claimReservation i = (none, after)) :
    (relay.reservations.lookup i = none ∧ after = relay) ∨
      ∃ reservation, relay.reservations.lookup i = some reservation ∧
        after = { relay with
          reservations := relay.reservations.erase i
          usedPorts := relay.usedPorts.erase reservation.port } := by
  unfold claimReservation at claimed
  split at claimed
  · rename_i absent
    cases claimed
    exact .inl ⟨absent, rfl⟩
  · rename_i reservation found
    split at claimed
    · cases claimed
      exact .inr ⟨reservation, found, rfl⟩
    · cases claimed

theorem PortInvariant.claimReservation_some {relay after : RelayState} {i : InstanceId} {port : Nat}
    (invariant : PortInvariant relay) (claimed : relay.claimReservation i = (some port, after)) :
    PortInvariant after ∧ Available after i port := by
  obtain ⟨reservation, found, rfl, rfl⟩ := Relay.claimReservation_some claimed
  have moved : ∀ j other, (relay.reservations.insert i { reservation with reservedAt := relay.now }).lookup j
      = some other → ∃ old, relay.reservations.lookup j = some old ∧ old.port = other.port := by
    intro j other inside
    rw [Table.lookup_insert_ite] at inside
    split at inside
    · rename_i same
      subst same
      cases inside
      exact ⟨reservation, found, rfl⟩
    · exact ⟨other, inside, rfl⟩
  refine ⟨⟨?_, invariant.daemon_listening, ?_, ?_⟩, ?_⟩
  · intro j port listening
    obtain ⟨old, present, same⟩ := invariant.listener_reserved j port listening
    by_cases here : j = i
    · subst here
      rw [found] at present
      cases present
      exact ⟨_, AList.lookup_insert _, same⟩
    · refine ⟨old, ?_, same⟩
      rw [Table.lookup_insert_ite, if_neg here]
      exact present
  · intro j other inside
    obtain ⟨old, present, same⟩ := moved j other inside
    exact same ▸ invariant.reserved_used j old present
  · intro a b first second insideA insideB same
    obtain ⟨oldA, presentA, sameA⟩ := moved a first insideA
    obtain ⟨oldB, presentB, sameB⟩ := moved b second insideB
    exact invariant.distinct a b oldA oldB presentA presentB (by rw [sameA, sameB, same])
  · intro j other inside same
    obtain ⟨old, present, samePort⟩ := moved j other inside
    exact invariant.distinct j i old reservation present found (samePort.trans same)

theorem PortInvariant.claimReservation_none {relay after : RelayState} {i : InstanceId}
    (invariant : PortInvariant relay) (silent : relay.listeners.lookup i = none)
    (claimed : relay.claimReservation i = (none, after)) :
    PortInvariant after ∧ after.listeners = relay.listeners ∧ after.now = relay.now ∧
      ∀ j reservation, after.reservations.lookup j = some reservation →
        relay.reservations.lookup j = some reservation := by
  obtain ⟨-, rfl⟩ | ⟨reservation, found, rfl⟩ := Relay.claimReservation_none claimed
  · exact ⟨invariant, rfl, rfl, fun _ _ present => present⟩
  have remaining : ∀ j other, (relay.reservations.erase i).lookup j = some other →
      j ≠ i ∧ relay.reservations.lookup j = some other := by
    intro j other inside
    rw [Table.lookup_erase_ite] at inside
    split at inside
    · cases inside
    · rename_i different
      exact ⟨different, inside⟩
  refine ⟨⟨?_, invariant.daemon_listening, ?_, ?_⟩, rfl, rfl, fun j other inside => (remaining j other inside).2⟩
  · intro j port listening
    obtain ⟨old, present, same⟩ := invariant.listener_reserved j port listening
    have different : j ≠ i := by
      intro here
      subst here
      rw [silent] at listening
      cases listening
    refine ⟨old, ?_, same⟩
    rw [Table.lookup_erase_ite, if_neg different]
    exact present
  · intro j other inside
    obtain ⟨different, present⟩ := remaining j other inside
    apply Finset.mem_erase_of_ne_of_mem
    · intro same
      exact different (invariant.distinct j i other reservation present found same)
    · exact invariant.reserved_used j other present
  · intro a b first second insideA insideB same
    exact invariant.distinct a b first second (remaining a first insideA).2 (remaining b second insideB).2 same

/-- The call gets as far as `expire_reservations` inside `allocate_port`: nothing listens for the
instance, no reservation of its own can be claimed and the port range is used up. -/
def reachesExpiry (relay : RelayState) (i : InstanceId) : Bool :=
  (relay.listeners.lookup i).isNone && (relay.claimReservation i).1.isNone &&
    ((relay.claimReservation i).2.takeFreePort).1.isNone

theorem claimReservation_listeners (relay : RelayState) (i : InstanceId) :
    (relay.claimReservation i).2.listeners = relay.listeners ∧
      (relay.claimReservation i).2.daemons = relay.daemons := by
  unfold claimReservation
  split
  · exact ⟨rfl, rfl⟩
  · split <;> exact ⟨rfl, rfl⟩

theorem takeFreePort_listeners (relay : RelayState) :
    relay.takeFreePort.2.listeners = relay.listeners ∧ relay.takeFreePort.2.daemons = relay.daemons := by
  unfold takeFreePort
  split <;> exact ⟨rfl, rfl⟩

theorem allocatePort_listeners (relay : RelayState) (i : InstanceId) :
    (relay.allocatePort i).2.listeners = relay.listeners ∧
      (relay.allocatePort i).2.daemons = relay.daemons := by
  have claim := claimReservation_listeners relay i
  unfold allocatePort
  split
  · rename_i claimed
    rw [claimed] at claim
    exact claim
  · rename_i claimedState claimed
    rw [claimed] at claim
    have take := takeFreePort_listeners claimedState
    split
    · rename_i taken
      rw [taken] at take
      exact ⟨take.1.trans claim.1, take.2.trans claim.2⟩
    · rename_i full taken
      rw [taken] at take
      have last := takeFreePort_listeners full.expireReservations
      rw [expireReservations_listeners, expireReservations_daemons] at last
      exact ⟨last.1.trans (take.1.trans claim.1), last.2.trans (take.2.trans claim.2)⟩

theorem PortInvariant.allocatePort {relay : RelayState} {i : InstanceId} (invariant : PortInvariant relay)
    (silent : relay.listeners.lookup i = none)
    (condition : reachesExpiry relay i = true → NoStaleListener relay) :
    PortInvariant (relay.allocatePort i).2 ∧
      ∀ port, (relay.allocatePort i).1 = some port → Available (relay.allocatePort i).2 i port := by
  unfold RelayState.allocatePort
  split
  · rename_i reserved after claimed
    obtain ⟨kept, available⟩ := invariant.claimReservation_some claimed
    refine ⟨kept, ?_⟩
    intro port same
    cases same
    exact available
  · rename_i claimedState claimed
    obtain ⟨kept, sameListeners, sameNow, subset⟩ := invariant.claimReservation_none silent claimed
    split
    · rename_i port after taken
      obtain ⟨keptAfter, available⟩ := kept.takeFreePort taken i
      refine ⟨keptAfter, ?_⟩
      intro other same
      cases same
      exact available
    · rename_i full taken
      have reaches : reachesExpiry relay i = true := by simp [reachesExpiry, silent, claimed, taken]
      have unchanged := takeFreePort_none taken
      subst unchanged
      have noStale : NoStaleListener full := by
        intro j reservation found stale
        rw [sameListeners]
        exact condition reaches j reservation (subset j reservation found) (sameNow ▸ stale)
      have expired := kept.expireReservations noStale
      cases retaken : full.expireReservations.takeFreePort with
      | mk result after =>
          cases result with
          | none =>
              have same := takeFreePort_none retaken
              subst same
              exact ⟨expired, fun port impossible => by cases impossible⟩
          | some port =>
              obtain ⟨keptAfter, available⟩ := expired.takeFreePort retaken i
              refine ⟨keptAfter, ?_⟩
              intro other same
              cases same
              exact available

theorem PortInvariant.reserve {relay after : RelayState} {i : InstanceId} {port : Nat}
    (invariant : PortInvariant relay) (available : Available relay i port)
    (listeners : ∀ j other, after.listeners.lookup j = some other →
      (j = i ∧ other = port) ∨ (j ≠ i ∧ relay.listeners.lookup j = some other))
    (daemons : ∀ j conn other, after.daemons.lookup j = some conn → conn.sshPort = some other →
      after.listeners.lookup j = some other)
    (reservations : after.reservations = relay.reservations.insert i ⟨port, relay.now⟩)
    (used : after.usedPorts = insert port relay.usedPorts) : PortInvariant after := by
  have cases_of : ∀ j other, after.reservations.lookup j = some other →
      (j = i ∧ other = ⟨port, relay.now⟩) ∨ (j ≠ i ∧ relay.reservations.lookup j = some other) := by
    intro j other inside
    rw [reservations, Table.lookup_insert_ite] at inside
    split at inside
    · rename_i same
      cases inside
      exact .inl ⟨same, rfl⟩
    · rename_i different
      exact .inr ⟨different, inside⟩
  refine ⟨?_, daemons, ?_, ?_⟩
  · intro j other listening
    rcases listeners j other listening with ⟨rfl, rfl⟩ | ⟨different, before⟩
    · exact ⟨_, by rw [reservations, AList.lookup_insert], rfl⟩
    · obtain ⟨old, present, same⟩ := invariant.listener_reserved j other before
      refine ⟨old, ?_, same⟩
      rw [reservations, Table.lookup_insert_ite, if_neg different]
      exact present
  · intro j other inside
    rw [used]
    rcases cases_of j other inside with ⟨-, rfl⟩ | ⟨-, present⟩
    · exact Finset.mem_insert_self _ _
    · exact Finset.mem_insert_of_mem (invariant.reserved_used j other present)
  · intro a b first second insideA insideB same
    rcases cases_of a first insideA with ⟨rfl, rfl⟩ | ⟨differentA, presentA⟩
    · rcases cases_of b second insideB with ⟨rfl, -⟩ | ⟨-, presentB⟩
      · rfl
      · exact (available b second presentB same.symm).symm
    · rcases cases_of b second insideB with ⟨rfl, rfl⟩ | ⟨-, presentB⟩
      · exact available a first presentA same
      · exact invariant.distinct a b first second presentA presentB same

theorem PortInvariant.available_of_listening {relay : RelayState} {i : InstanceId} {port : Nat}
    (invariant : PortInvariant relay) (listening : relay.listeners.lookup i = some port) :
    Available relay i port := by
  obtain ⟨own, present, same⟩ := invariant.listener_reserved i port listening
  intro j reservation found samePort
  exact invariant.distinct j i reservation own found present (samePort.trans same.symm)

theorem lookup_setSshPort {relay : RelayState} {i j : InstanceId} {port : Nat} {conn : DaemonConn}
    (found : (relay.setSshPort i port).daemons.lookup j = some conn) :
    (j = i ∧ conn.sshPort = some port) ∨ (j ≠ i ∧ relay.daemons.lookup j = some conn) := by
  simp only [setSshPort, Table.lookup_modify] at found
  split at found
  · rename_i same
    obtain ⟨old, -, rfl⟩ := Option.map_eq_some_iff.mp found
    exact .inl ⟨same, rfl⟩
  · rename_i different
    exact .inr ⟨different, found⟩

theorem PortInvariant.onSshEnabled {relay : RelayState} {i : InstanceId} (invariant : PortInvariant relay)
    (condition : reachesExpiry relay i = true → NoStaleListener relay) :
    PortInvariant (relay.onSshEnabled i) := by
  unfold RelayState.onSshEnabled
  split
  · rename_i port listening
    refine { invariant with daemon_listening := ?_ }
    intro j conn other found held
    rcases lookup_setSshPort found with ⟨rfl, same⟩ | ⟨-, before⟩
    · rw [held] at same
      cases same
      exact listening
    · exact invariant.daemon_listening j conn other before held
  · rename_i silent
    obtain ⟨kept, available⟩ := invariant.allocatePort silent condition
    obtain ⟨sameListeners, sameDaemons⟩ := allocatePort_listeners relay i
    split
    · rename_i allocated
      rw [allocated] at kept
      exact kept
    · rename_i port after allocated
      rw [allocated] at kept available sameListeners sameDaemons
      apply kept.reserve (available port rfl)
      · intro j other listening
        simp only [Table.lookup_insert_ite, reservePort_listeners] at listening
        split at listening
        · rename_i same
          cases listening
          exact .inl ⟨same, rfl⟩
        · rename_i different
          exact .inr ⟨different, listening⟩
      · intro j conn other found held
        simp only [reservePort_daemons, reservePort_listeners, Table.lookup_insert_ite] at found ⊢
        rcases lookup_setSshPort found with ⟨rfl, same⟩ | ⟨different, before⟩
        · rw [if_pos rfl, ← held, same]
        · rw [if_neg different]
          exact kept.daemon_listening j conn other before held
      · simp [setSshPort]
      · simp [setSshPort]

theorem PortInvariant.removeListener {relay : RelayState} {i : InstanceId} (invariant : PortInvariant relay) :
    PortInvariant (relay.removeListener i) := by
  unfold RelayState.removeListener
  split
  · exact invariant
  · rename_i port listening
    apply invariant.reserve (invariant.available_of_listening listening)
    · intro j other stays
      simp only [clearSshPort, reservePort_listeners, Table.lookup_erase_ite] at stays
      split at stays
      · cases stays
      · rename_i different
        exact .inr ⟨different, stays⟩
    · intro j conn other found held
      simp only [clearSshPort, reservePort_daemons, reservePort_listeners, Table.lookup_modify,
        Table.lookup_erase_ite] at found ⊢
      split at found
      · obtain ⟨old, -, rfl⟩ := Option.map_eq_some_iff.mp found
        cases held
      · rename_i different
        rw [if_neg different]
        exact invariant.daemon_listening j conn other found held
    · simp [clearSshPort]
    · simp [clearSshPort]

theorem PortInvariant.unregister {relay : RelayState} {i : InstanceId} {connectedAt : DateTime}
    (invariant : PortInvariant relay) : PortInvariant (relay.unregister i connectedAt).2 := by
  have remaining : ∀ j conn, (relay.daemons.erase i).lookup j = some conn → relay.daemons.lookup j = some conn := by
    intro j conn found
    rw [Table.lookup_erase_ite] at found
    split at found
    · cases found
    · exact found
  unfold RelayState.unregister
  split
  · exact invariant
  · rename_i conn found
    split
    · exact invariant
    · dsimp only
      split
      · rename_i port held
        have listening := invariant.daemon_listening i conn port found held
        apply invariant.reserve (invariant.available_of_listening listening)
        · intro j other stays
          rw [reservePort_listeners] at stays
          by_cases same : j = i
          · subst same
            rw [listening] at stays
            cases stays
            exact .inl ⟨rfl, rfl⟩
          · exact .inr ⟨same, stays⟩
        · intro j other otherPort present heldOther
          rw [reservePort_daemons] at present
          rw [reservePort_listeners]
          exact invariant.daemon_listening j other otherPort (remaining j other present) heldOther
        · simp
        · simp
      · exact { invariant with
          daemon_listening := fun j other port present heldOther =>
            invariant.daemon_listening j other port (remaining j other present) heldOther }

theorem PortInvariant.register {relay : RelayState} {conn : DaemonConn} (invariant : PortInvariant relay)
    (portless : conn.sshPort = none) : PortInvariant (relay.register conn).2 := by
  unfold RelayState.register
  split
  · exact invariant
  · refine { invariant with daemon_listening := ?_ }
    intro j other port found held
    rw [Table.lookup_insert_ite] at found
    split at found
    · cases found
      rw [portless] at held
      cases held
    · exact invariant.daemon_listening j other port found held

theorem PortInvariant.updateSshEnabled {relay : RelayState} {i : InstanceId} {enabled : Bool}
    (invariant : PortInvariant relay) : PortInvariant (relay.updateSshEnabled i enabled).2 := by
  unfold RelayState.updateSshEnabled
  split
  · rename_i conn found
    refine { invariant with daemon_listening := ?_ }
    intro j other port present held
    rw [Table.lookup_insert_ite] at present
    split at present
    · rename_i same
      subst same
      cases present
      exact invariant.daemon_listening j conn port found held
    · exact invariant.daemon_listening j other port present held
  · exact invariant

/-! ## A restart -/

theorem dedupPorts_fresh {seen : Finset Nat} {entries : List (Σ _ : InstanceId, PortReservation)}
    {entry : Σ _ : InstanceId, PortReservation} (member : entry ∈ dedupPorts seen entries) :
    entry.2.port ∉ seen := by
  induction entries generalizing seen with
  | nil => cases member
  | cons first rest ih =>
      unfold dedupPorts at member
      split at member
      · exact ih member
      · rename_i new
        rcases List.mem_cons.mp member with rfl | later
        · exact new
        · exact fun old => ih later (Finset.mem_insert_of_mem old)

theorem dedupPorts_distinct {seen : Finset Nat} {entries : List (Σ _ : InstanceId, PortReservation)}
    {a b : Σ _ : InstanceId, PortReservation} (memberA : a ∈ dedupPorts seen entries)
    (memberB : b ∈ dedupPorts seen entries) (same : a.2.port = b.2.port) : a = b := by
  induction entries generalizing seen with
  | nil => cases memberA
  | cons first rest ih =>
      unfold dedupPorts at memberA memberB
      split at memberA
      · rename_i known
        rw [if_pos known] at memberB
        exact ih memberA memberB
      · rename_i new
        rw [if_neg new] at memberB
        rcases List.mem_cons.mp memberA with rfl | laterA
        · rcases List.mem_cons.mp memberB with rfl | laterB
          · rfl
          · exact absurd (same ▸ Finset.mem_insert_self _ _) (dedupPorts_fresh laterB)
        · rcases List.mem_cons.mp memberB with rfl | laterB
          · exact absurd (same ▸ Finset.mem_insert_self _ _) (dedupPorts_fresh laterA)
          · exact ih laterA laterB

theorem loadReservations_distinct {now : DateTime} {file : Reservations} {a b : InstanceId}
    {first second : PortReservation} (foundA : (loadReservations now file).lookup a = some first)
    (foundB : (loadReservations now file).lookup b = some second) (same : first.port = second.port) :
    a = b := by
  have memberA := AList.mem_lookup_iff.mp foundA
  have memberB := AList.mem_lookup_iff.mp foundB
  exact congrArg Sigma.fst (dedupPorts_distinct memberA memberB same)

theorem PortInvariant.new (now : DateTime) (maxDaemons portMin portMax : Nat) (file : Option Reservations)
    (writable : Bool) : PortInvariant (RelayState.new now maxDaemons portMin portMax file writable) where
  listener_reserved i port listening := by cases listening
  daemon_listening i conn port found _ := by cases found
  reserved_used i reservation found := by
    have inside := Table.mem_values.mpr ⟨i, found⟩
    exact List.mem_toFinset.mpr (List.mem_map.mpr ⟨reservation, inside, rfl⟩)
  distinct a b first second foundA foundB same := by
    cases file with
    | none => cases foundA
    | some file => exact loadReservations_distinct foundA foundB same

/-! ## Every run -/

/-- No listener is live for an instance whose reservation is older than the time to live, whenever
reservations are expired. -/
def ExpiresNoLiveListener (relay : RelayState) : PortOp → Prop
  | .expireReservations => NoStaleListener relay
  | .onSshEnabled i => reachesExpiry relay i = true → NoStaleListener relay
  | _ => True

instance (relay : RelayState) (op : PortOp) : Decidable (ExpiresNoLiveListener relay op) := by
  cases op <;> unfold ExpiresNoLiveListener <;> infer_instance

theorem PortInvariant.step {relay after : RelayState} {op : PortOp} (invariant : PortInvariant relay)
    (condition : ExpiresNoLiveListener relay op) (stepped : portStep relay op = some after) :
    PortInvariant after := by
  cases op with
  | register conn =>
      cases stepped
      exact invariant.register rfl
  | onSshEnabled i =>
      cases stepped
      exact invariant.onSshEnabled condition
  | onSshDisabled i =>
      cases stepped
      exact invariant.removeListener
  | unregister i connectedAt =>
      cases stepped
      exact invariant.unregister
  | onDaemonDisconnect i =>
      cases stepped
      exact invariant.removeListener
  | updateSshEnabled i enabled =>
      cases stepped
      exact invariant.updateSshEnabled
  | expireReservations =>
      cases stepped
      exact invariant.expireReservations condition
  | clock now =>
      cases stepped
      exact { invariant with }
  | diskWritable writable =>
      cases stepped
      exact { invariant with }
  | fileLost =>
      cases stepped
      exact { invariant with }
  | restart order =>
      simp only [portStep] at stepped
      split at stepped
      · cases stepped
        exact { PortInvariant.new relay.now relay.maxDaemons relay.portMin relay.portMax order relay.writable with }
      · cases stepped

/-- In every run in which reservations are only expired while no live listener's reservation is older
than thirty days, no two instances listen on one port and no two reservations share one. -/
theorem ports_distinct (now : DateTime) (maxDaemons portMin portMax : Nat) (file : Option Reservations)
    (writable : Bool) (ops : List PortOp) {final : RelayState}
    (condition : Meets portStep ExpiresNoLiveListener
      (RelayState.new now maxDaemons portMin portMax file writable) ops)
    (ran : run portStep (RelayState.new now maxDaemons portMin portMax file writable) ops = some final) :
    DistinctListeners final ∧ DistinctReservations final := by
  have invariant : PortInvariant final :=
    run_invariant_of_meets (fun _ _ _ holds met stepped => holds.step met stepped)
      (PortInvariant.new now maxDaemons portMin portMax file writable) condition ran
  exact ⟨invariant.distinctListeners, invariant.distinct⟩

def sshDaemon (instanceId : InstanceId) : DaemonConn :=
  { instanceId, clusterId := none, clusterName := none, agentName := none, hostname := none, connectedAt := 0
    tunnels := [], peerId := none, sshEnabled := true, sshPort := none }

def reclaimingRun : List PortOp :=
  [.register (sshDaemon "a"), .onSshEnabled "a", .unregister "a" 0, .onDaemonDisconnect "a",
    .clock (days 31), .register (sshDaemon "b"), .onSshEnabled "b"]

theorem ports_distinct_reclaimed : ∃ final,
    run portStep (RelayState.new 0 2 10000 10000 none true) reclaimingRun = some final ∧
    final.listeners.lookup "b" = some 10000 ∧ DistinctListeners final ∧ DistinctReservations final :=
  ⟨_, rfl, by decide, ports_distinct 0 2 10000 10000 none true reclaimingRun (by decide) rfl⟩

/-- A machine connected for a month loses its reservation when the range runs out: the next machine
gets the port it still listens on, and disconnecting it reserves that port a second time. -/
theorem ports_collide_after_a_month :
    (¬ ∀ ops final, run portStep (RelayState.new 0 2 10000 10000 none true) ops = some final →
      DistinctListeners final) ∧
    (¬ ∀ ops final, run portStep (RelayState.new 0 2 10000 10000 none true) ops = some final →
      DistinctReservations final) := by
  constructor
  · intro all
    have same := all [.register (sshDaemon "a"), .onSshEnabled "a", .clock (days 31),
      .register (sshDaemon "b"), .onSshEnabled "b"] _ rfl "a" "b" 10000 (by decide) (by decide)
    exact absurd same (by decide)
  · intro all
    have same := all [.register (sshDaemon "a"), .onSshEnabled "a", .clock (days 31),
      .register (sshDaemon "b"), .onSshEnabled "b", .unregister "a" 0, .onDaemonDisconnect "a"] _ rfl
      "a" "b" ⟨10000, days 31⟩ ⟨10000, days 31⟩ (by decide) (by decide) rfl
    exact absurd same (by decide)

end MacMgmt.Proof.Relay
