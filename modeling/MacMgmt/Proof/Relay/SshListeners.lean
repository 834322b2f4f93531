import MacMgmt.Proof.Relay.Ports
import MacMgmt.Proof.Relay.RpcMap

namespace MacMgmt.Proof.Relay
open Lib MacMgmt.Relay RelayState

/-! ## What the SSH state of one instance is -/

structure SshView where
  conn : Option (Bool × Option Nat)
  listener : Option Nat

def sshView (relay : RelayState) (i : InstanceId) : SshView :=
  { conn := (relay.daemons.lookup i).map fun conn => (conn.sshEnabled, conn.sshPort)
    listener := relay.listeners.lookup i }

def setPort (port : Option Nat) (conn : Bool × Option Nat) : Bool × Option Nat := (conn.1, port)

theorem sshView_eq {view : SshView} {conn : Option (Bool × Option Nat)} {listener : Option Nat}
    (sameConn : view.conn = conn) (sameListener : view.listener = listener) : view = ⟨conn, listener⟩ := by
  subst sameConn sameListener
  rfl

theorem sshView_congr {before after : RelayState} {i : InstanceId}
    (daemons : after.daemons.lookup i = before.daemons.lookup i)
    (listeners : after.listeners.lookup i = before.listeners.lookup i) :
    sshView after i = sshView before i := by
  rw [sshView, sshView, daemons, listeners]

theorem sshView_setSshPort (relay : RelayState) (i j : InstanceId) (port : Nat) :
    sshView (relay.setSshPort i port) j = if j = i
      then { sshView relay i with conn := (sshView relay i).conn.map (setPort (some port)) }
      else sshView relay j := by
  unfold sshView
  simp only [setSshPort, Table.lookup_modify]
  split
  · rename_i same
    subst same
    simp [Option.map_map, Function.comp_def, setPort]
  · rfl

theorem sshView_onSshEnabled_ne {relay : RelayState} {i j : InstanceId} (different : j ≠ i) :
    sshView (relay.onSshEnabled i) j = sshView relay j := by
  obtain ⟨sameListeners, sameDaemons⟩ := allocatePort_listeners relay i
  unfold onSshEnabled
  split
  · rw [sshView_setSshPort, if_neg different]
  · split
    · rename_i allocated
      rw [allocated] at sameListeners sameDaemons
      exact sshView_congr (by rw [sameDaemons]) (by rw [sameListeners])
    · rename_i port after allocated
      rw [allocated] at sameListeners sameDaemons
      apply sshView_congr
      · simp only [reservePort_daemons, setSshPort, Table.lookup_modify, if_neg different]
        rw [sameDaemons]
      · simp only [reservePort_listeners, Table.lookup_insert_ite, if_neg different]
        exact congrArg _ sameListeners

theorem sshView_onSshEnabled_listening {relay : RelayState} {i : InstanceId} {port : Nat}
    (listening : relay.listeners.lookup i = some port) :
    sshView (relay.onSshEnabled i) i =
      { conn := (sshView relay i).conn.map (setPort (some port)), listener := some port } := by
  unfold onSshEnabled
  rw [listening]
  dsimp only
  rw [sshView_setSshPort, if_pos rfl]
  simp [sshView, listening]

theorem sshView_onSshEnabled_allocated {relay : RelayState} {i : InstanceId} {port : Nat}
    (silent : relay.listeners.lookup i = none) (allocated : (relay.allocatePort i).1 = some port) :
    sshView (relay.onSshEnabled i) i =
      { conn := (sshView relay i).conn.map (setPort (some port)), listener := some port } := by
  obtain ⟨sameListeners, sameDaemons⟩ := allocatePort_listeners relay i
  unfold onSshEnabled
  rw [silent]
  dsimp only
  cases result : relay.allocatePort i with
  | mk found after =>
      rw [result] at allocated sameListeners sameDaemons
      cases allocated
      dsimp only at sameDaemons
      unfold sshView
      simp only [reservePort_daemons, reservePort_listeners, setSshPort, Table.lookup_modify, if_pos,
        AList.lookup_insert, sameDaemons, Option.map_map]
      rfl

theorem sshView_removeListener_ne {relay : RelayState} {i j : InstanceId} (different : j ≠ i) :
    sshView (relay.removeListener i) j = sshView relay j := by
  unfold removeListener
  split
  · rfl
  · apply sshView_congr
    · simp [clearSshPort, Table.lookup_modify, if_neg different]
    · simp [clearSshPort, Table.lookup_erase_ite, if_neg different]

theorem sshView_removeListener {relay : RelayState} {i : InstanceId} :
    sshView (relay.removeListener i) i = match (sshView relay i).listener with
      | none => sshView relay i
      | some _ => { conn := (sshView relay i).conn.map (setPort none), listener := none } := by
  unfold removeListener
  cases listening : relay.listeners.lookup i with
  | none => simp [sshView, listening]
  | some port =>
      simp [sshView, listening, clearSshPort, Table.lookup_modify, Option.map_map, Function.comp_def, setPort]

theorem sshView_register_ne {relay : RelayState} {conn : DaemonConn} {j : InstanceId}
    (different : j ≠ conn.instanceId) : sshView (relay.register conn).2 j = sshView relay j := by
  unfold register
  split
  · rfl
  · exact sshView_congr (by simp [Table.lookup_insert_ite, if_neg different]) rfl

theorem sshView_register {relay after : RelayState} {conn : DaemonConn}
    (registered : relay.register conn = (true, after)) :
    sshView after conn.instanceId =
      { sshView relay conn.instanceId with conn := some (conn.sshEnabled, conn.sshPort) } := by
  unfold register at registered
  split at registered
  · cases registered
  · cases registered
    simp [sshView]

theorem sshView_updateSshEnabled (relay : RelayState) (i j : InstanceId) (enabled : Bool) :
    sshView (relay.updateSshEnabled i enabled).2 j = if j = i
      then { sshView relay i with conn := (sshView relay i).conn.map fun conn => (enabled, conn.2) }
      else sshView relay j := by
  unfold updateSshEnabled
  split
  · rename_i conn found
    simp only [sshView, Table.lookup_insert_ite]
    split
    · rename_i same
      subst same
      simp [found]
    · rfl
  · rename_i absent
    split
    · rename_i same
      subst same
      simp [sshView, absent]
    · rfl

theorem updateSshEnabled_prev (relay : RelayState) (i : InstanceId) (enabled : Bool) :
    (relay.updateSshEnabled i enabled).1 = ((sshView relay i).conn.map Prod.fst).getD false := by
  unfold updateSshEnabled sshView
  cases found : relay.daemons.lookup i <;> simp

theorem sshView_updateAllTunnels (relay : RelayState) (i j : InstanceId) (tunnels : List ServiceTunnel)
    (fileTunnels shellTunnels : JsonText) :
    sshView (relay.updateAllTunnels i tunnels fileTunnels shellTunnels) j = sshView relay j := by
  simp only [sshView, updateAllTunnels, Table.lookup_modify]
  split
  · rename_i same
    subst same
    simp [Option.map_map, Function.comp_def]
  · rfl

theorem sshView_unregister_ne {relay : RelayState} {i j : InstanceId} {connectedAt : DateTime}
    (different : j ≠ i) : sshView (relay.unregister i connectedAt).2 j = sshView relay j := by
  unfold unregister
  split
  · rfl
  · split
    · rfl
    · dsimp only
      split
      · exact sshView_congr (by simp [Table.lookup_erase_ite, if_neg different]) (by simp)
      · exact sshView_congr (by simp [Table.lookup_erase_ite, if_neg different]) rfl

theorem sshView_unregister (relay : RelayState) (i : InstanceId) (connectedAt : DateTime) :
    ((relay.unregister i connectedAt).1 = none ∧
      sshView (relay.unregister i connectedAt).2 i = sshView relay i) ∨
    ∃ conn, (sshView relay i).conn = some conn ∧ (relay.unregister i connectedAt).1 = conn.2 ∧
      sshView (relay.unregister i connectedAt).2 i = { sshView relay i with conn := none } := by
  unfold unregister
  cases found : relay.daemons.lookup i with
  | none => exact .inl ⟨rfl, rfl⟩
  | some conn =>
      dsimp only
      split
      · exact .inl ⟨rfl, rfl⟩
      · apply Or.inr
        refine ⟨(conn.sshEnabled, conn.sshPort), by simp [sshView, found], ?_⟩
        cases held : conn.sshPort <;> simp [sshView]

theorem hasSshPort_eq (relay : RelayState) (i : InstanceId) :
    relay.hasSshPort i = (sshView relay i).conn.any fun conn => conn.2.isSome := by
  unfold hasSshPort sshView
  cases relay.daemons.lookup i <;> rfl

/-! ## What the handlers assume of each other -/

/-- The instance whose registry entry the handler has changed without having adjusted its listener yet. -/
def busyOn : Pc → Option InstanceId
  | .startBridge frame _ => some frame.instanceId
  | .syncBridge instanceId _ _ => some instanceId
  | .enableBridge instanceId => some instanceId
  | .disconnect instanceId => some instanceId
  | _ => none

/-- The instance whose SSH state the next call of the handler may change. -/
def touches (handler : Handler) : Option InstanceId :=
  match handler.pc with
  | .register frame _ _ => some frame.instanceId
  | .updateSsh instanceId _ => some instanceId
  | .unregister => handler.instanceId
  | pc => busyOn pc

def portAvailable (relay : RelayState) (i : InstanceId) : Bool :=
  (relay.listeners.lookup i).isSome || (relay.allocatePort i).1.isSome

/-- What a handler's call needs of the registry: a registration with SSH off does not replace one that
listens, an advertisement with SSH on finds the instance registered, a listener to start finds a port. -/
def callCondition (relay : RelayState) : Pc → Prop
  | .register frame _ _ => frame.sshEnabled = false → relay.listeners.lookup frame.instanceId = none
  | .updateSsh instanceId enabled => enabled = true → instanceId ∈ relay.daemons
  | .startBridge frame _ => frame.sshEnabled = true → portAvailable relay frame.instanceId = true
  | .syncBridge instanceId enabled prev => enabled = true → prev = false → portAvailable relay instanceId = true
  | _ => True

def Undisturbed (swarm : Swarm) : SwarmEvent → Prop
  | .accept _ => swarm.bridgeSet = true
  | .act stream => ∀ handler, swarm.handlers.lookup stream = some handler →
      callCondition swarm.relay handler.pc ∧
      ∀ other otherHandler, swarm.handlers.lookup other = some otherHandler → other ≠ stream →
        (touches handler).isSome → busyOn otherHandler.pc ≠ touches handler
  | _ => True

instance (relay : RelayState) (pc : Pc) : Decidable (callCondition relay pc) := by
  cases pc <;> unfold callCondition <;> infer_instance

instance (swarm : Swarm) (event : SwarmEvent) : Decidable (Undisturbed swarm event) :=
  match event with
  | .act stream => decidable_of_iff (∀ handler ∈ (swarm.handlers.lookup stream).toList,
      callCondition swarm.relay handler.pc ∧ ∀ entry ∈ swarm.handlers.entries, entry.1 ≠ stream →
        (touches handler).isSome → busyOn entry.2.pc ≠ touches handler) (by
      simp only [Undisturbed, Option.mem_toList, Table.forall_lookup_iff swarm.handlers fun other otherHandler =>
        other ≠ stream → _ → busyOn otherHandler.pc ≠ _])
  | .accept _ => decEq swarm.bridgeSet true
  | .setSshBridge | .closed _ | .receive _ _ | .validated _ _ | .readEnd _ | .clock _ => instDecidableTrue

/-! ## The invariant -/

def Synced (view : SshView) : Prop :=
  (∀ port, view.listener = some port → view.conn = some (true, some port)) ∧
    ∀ port, view.conn = some (true, port) → view.listener.isSome

def PcInvariant (view : SshView) : Pc → Prop
  | .startBridge frame _ => view.conn = some (frame.sshEnabled, none) ∧
      (frame.sshEnabled = false → view.listener = none)
  | .syncBridge _ enabled prev =>
      (view = ⟨none, none⟩ ∧ enabled = false ∧ prev = false) ∨
        ∃ port, view.conn = some (enabled, port) ∧ Synced { view with conn := some (prev, port) }
  | .enableBridge _ => False
  | .disconnect _ => view.conn = none
  | _ => True

structure HandlerInvariant (swarm : Swarm) : Prop where
  bridged : ∀ stream handler, swarm.handlers.lookup stream = some handler → handler.bridge = true
  exclusive : ∀ a b first second i, swarm.handlers.lookup a = some first →
    swarm.handlers.lookup b = some second → busyOn first.pc = some i → busyOn second.pc = some i → a = b
  busy : ∀ stream handler i, swarm.handlers.lookup stream = some handler → busyOn handler.pc = some i →
    PcInvariant (sshView swarm.relay i) handler.pc
  synced : ∀ i, (∀ stream handler, swarm.handlers.lookup stream = some handler → busyOn handler.pc ≠ some i) →
    Synced (sshView swarm.relay i)

theorem touches_of_busyOn {handler : Handler} {i : InstanceId} (busy : busyOn handler.pc = some i) :
    touches handler = some i := by
  unfold touches
  split <;> simp_all [busyOn]

theorem HandlerInvariant.advance {before after : Swarm} {stream : StreamId} {handler : Handler}
    (invariant : HandlerInvariant before) (found : before.handlers.lookup stream = some handler) (next : Handler)
    (handlers : after.handlers = before.handlers.insert stream next) (bridge : next.bridge = handler.bridge)
    (others : ∀ other otherHandler, before.handlers.lookup other = some otherHandler → other ≠ stream →
      (touches handler).isSome → busyOn otherHandler.pc ≠ touches handler)
    (elsewhere : ∀ j, touches handler ≠ some j → sshView after.relay j = sshView before.relay j ∧
      busyOn next.pc ≠ some j)
    (here : ∀ i, touches handler = some i → if busyOn next.pc = some i
      then PcInvariant (sshView after.relay i) next.pc else Synced (sshView after.relay i)) :
    HandlerInvariant after := by
  have split : ∀ other otherHandler, after.handlers.lookup other = some otherHandler →
      (other = stream ∧ otherHandler = next) ∨
        (other ≠ stream ∧ before.handlers.lookup other = some otherHandler) := by
    intro other otherHandler present
    rw [handlers, Table.lookup_insert_ite] at present
    split at present
    · rename_i same
      cases present
      exact .inl ⟨same, rfl⟩
    · rename_i different
      exact .inr ⟨different, present⟩
  have own : ∀ j, busyOn next.pc = some j → touches handler = some j := by
    intro j busy
    by_contra different
    exact (elsewhere j different).2 busy
  have notOther : ∀ other otherHandler j, before.handlers.lookup other = some otherHandler → other ≠ stream →
      touches handler = some j → busyOn otherHandler.pc ≠ some j := by
    intro other otherHandler j old different touched
    have apart := others other otherHandler old different (by rw [touched]; rfl)
    rw [touched] at apart
    exact apart
  refine ⟨?_, ?_, ?_, ?_⟩
  · intro other otherHandler present
    rcases split other otherHandler present with ⟨-, rfl⟩ | ⟨-, old⟩
    · rw [bridge]
      exact invariant.bridged stream handler found
    · exact invariant.bridged other otherHandler old
  · intro a b first second j presentA presentB busyA busyB
    rcases split a first presentA with ⟨rfl, rfl⟩ | ⟨differentA, oldA⟩
    · rcases split b second presentB with ⟨rfl, -⟩ | ⟨differentB, oldB⟩
      · rfl
      · exact absurd busyB (notOther b second j oldB differentB (own j busyA))
    · rcases split b second presentB with ⟨rfl, rfl⟩ | ⟨-, oldB⟩
      · exact absurd busyA (notOther a first j oldA differentA (own j busyB))
      · exact invariant.exclusive a b first second j oldA oldB busyA busyB
  · intro other otherHandler j present busy
    rcases split other otherHandler present with ⟨rfl, rfl⟩ | ⟨different, old⟩
    · have mine := here j (own j busy)
      rw [if_pos busy] at mine
      exact mine
    · have away : touches handler ≠ some j := fun touched => notOther other otherHandler j old different touched busy
      rw [(elsewhere j away).1]
      exact invariant.busy other otherHandler j old busy
  · intro j quiet
    have presentNext : after.handlers.lookup stream = some next := by rw [handlers, AList.lookup_insert]
    by_cases touched : touches handler = some j
    · have mine := here j touched
      rw [if_neg (quiet stream next presentNext)] at mine
      exact mine
    · rw [(elsewhere j touched).1]
      apply invariant.synced
      intro other otherHandler old
      by_cases mine : other = stream
      · subst mine
        rw [found] at old
        cases old
        exact fun busy => touched (touches_of_busyOn busy)
      · apply quiet other otherHandler
        rw [handlers, Table.lookup_insert_ite, if_neg mine]
        exact old

/-! ## The calls of a handler -/

theorem synced_empty : Synced ⟨none, none⟩ := ⟨nofun, nofun⟩

theorem synced_listening (port : Nat) : Synced ⟨some (true, some port), some port⟩ :=
  ⟨fun _ same => by cases same; rfl, fun _ _ => rfl⟩

theorem synced_off (port : Option Nat) : Synced ⟨some (false, port), none⟩ := ⟨nofun, nofun⟩

theorem Synced.listener_none {view : SshView} (synced : Synced view)
    (notListening : ∀ port, view.conn ≠ some (true, some port)) : view.listener = none := by
  cases listening : view.listener with
  | none => rfl
  | some port => exact absurd (synced.1 port listening) (notListening port)

theorem synced_onSshEnabled {relay : RelayState} {i : InstanceId} {port : Option Nat}
    (enabled : (sshView relay i).conn = some (true, port)) (available : portAvailable relay i = true) :
    Synced (sshView (relay.onSshEnabled i) i) := by
  cases listening : relay.listeners.lookup i with
  | some old =>
      rw [sshView_onSshEnabled_listening listening, enabled]
      exact synced_listening old
  | none =>
      cases allocated : (relay.allocatePort i).1 with
      | none => simp [portAvailable, listening, allocated] at available
      | some fresh =>
          rw [sshView_onSshEnabled_allocated listening allocated, enabled]
          exact synced_listening fresh

theorem pcInvariant_updateSsh {relay : RelayState} {i : InstanceId} {enabled : Bool}
    (synced : Synced (sshView relay i)) (registered : enabled = true → i ∈ relay.daemons) :
    PcInvariant (sshView (relay.updateSshEnabled i enabled).2 i)
      (.syncBridge i enabled (relay.updateSshEnabled i enabled).1) := by
  rw [sshView_updateSshEnabled, if_pos rfl, updateSshEnabled_prev]
  cases conn : (sshView relay i).conn with
  | none =>
      have silent := synced.listener_none (by simp [conn])
      apply Or.inl
      refine ⟨by simp [silent], ?_, rfl⟩
      cases enabled with
      | false => rfl
      | true =>
          have present := AList.lookup_isSome.mpr (registered rfl)
          simp only [sshView, Option.map_eq_none_iff] at conn
          rw [conn] at present
          cases present
  | some pair =>
      obtain ⟨prev, port⟩ := pair
      refine Or.inr ⟨port, rfl, ?_⟩
      rw [sshView_eq conn rfl] at synced
      exact synced

theorem synced_sync_off {view : SshView} {prev : Bool} {port : Option Nat}
    (conn : view.conn = some (false, port)) (synced : Synced { view with conn := some (prev, port) })
    (unchanged : prev = false) : Synced view := by
  subst unchanged
  rw [sshView_eq conn rfl]
  exact synced

theorem synced_disabled {relay : RelayState} {i : InstanceId} {port : Option Nat}
    (conn : (sshView relay i).conn = some (false, port))
    (synced : Synced { sshView relay i with conn := some (true, port) }) :
    Synced (sshView (relay.removeListener i) i) := by
  have listening := synced.2 port rfl
  rw [sshView_removeListener]
  cases found : (sshView relay i).listener with
  | none =>
      rw [found] at listening
      cases listening
  | some old =>
      rw [conn]
      exact synced_off none

theorem synced_disconnected {relay : RelayState} {i : InstanceId} (gone : (sshView relay i).conn = none) :
    Synced (sshView (relay.removeListener i) i) := by
  rw [sshView_removeListener]
  cases found : (sshView relay i).listener with
  | none =>
      dsimp only
      rw [sshView_eq gone found]
      exact synced_empty
  | some old =>
      rw [gone]
      exact synced_empty

theorem HandlerInvariant.synced_touched {swarm : Swarm} {stream : StreamId} {handler : Handler} {i : InstanceId}
    (invariant : HandlerInvariant swarm) (found : swarm.handlers.lookup stream = some handler)
    (others : ∀ other otherHandler, swarm.handlers.lookup other = some otherHandler → other ≠ stream →
      (touches handler).isSome → busyOn otherHandler.pc ≠ touches handler)
    (touched : touches handler = some i) (free : busyOn handler.pc = none) : Synced (sshView swarm.relay i) := by
  apply invariant.synced
  intro other otherHandler present busy
  by_cases mine : other = stream
  · subst mine
    rw [found] at present
    cases present
    rw [free] at busy
    cases busy
  · apply others other otherHandler present mine
    · rw [touched]
      rfl
    · rw [touched]
      exact busy

theorem HandlerInvariant.quiet {before after : Swarm} {stream : StreamId} {handler next : Handler}
    (invariant : HandlerInvariant before) (found : before.handlers.lookup stream = some handler)
    (handlers : after.handlers = before.handlers.insert stream next) (bridge : next.bridge = handler.bridge)
    (view : ∀ j, sshView after.relay j = sshView before.relay j)
    (free : touches handler = none) (freeAfter : busyOn next.pc = none) : HandlerInvariant after := by
  apply invariant.advance found next handlers bridge
  · intro other otherHandler _ _ touched
    rw [free] at touched
    cases touched
  · intro j _
    exact ⟨view j, by rw [freeAfter]; exact nofun⟩
  · intro i touched
    rw [free] at touched
    cases touched

theorem HandlerInvariant.actRegister {before : Swarm} {stream : StreamId} {handler : Handler}
    {frame : RegisterFrame} {now : DateTime} {info : SelfInfo} (pc : handler.pc = .register frame now info)
    (invariant : HandlerInvariant before) (found : before.handlers.lookup stream = some handler)
    (condition : callCondition before.relay handler.pc)
    (others : ∀ other otherHandler, before.handlers.lookup other = some otherHandler → other ≠ stream →
      (touches handler).isSome → busyOn otherHandler.pc ≠ touches handler) :
    HandlerInvariant (before.actRegister stream handler frame now info) := by
  have touched : touches handler = some frame.instanceId := by simp [touches, pc]
  have synced := invariant.synced_touched found others touched (by simp [pc, busyOn])
  rw [pc] at condition
  unfold Swarm.actRegister
  split
  · apply invariant.advance found { handler with pc := .idle } rfl rfl others
    · intro j _
      exact ⟨rfl, nofun⟩
    · intro i same
      rw [touched] at same
      cases same
      exact synced
  · rename_i relay registered
    apply invariant.advance found { handler with
      instanceId := some frame.instanceId, connectedAt := some now, pc := .startBridge frame info } rfl rfl others
    · intro j away
      rw [touched] at away
      have different : j ≠ (newConn handler.peer frame now info).instanceId := fun same => away (same ▸ rfl)
      have elsewhere : sshView _ j = sshView before.relay j := sshView_register_ne different
      rw [registered] at elsewhere
      exact ⟨elsewhere, fun same => away same⟩
    · intro i same
      rw [touched] at same
      cases same
      have view := sshView_register registered
      change sshView relay frame.instanceId = _ at view
      simp only [Swarm.goto, Swarm.setHandler, Swarm.withRelay, busyOn, if_true, PcInvariant]
      rw [view]
      exact ⟨rfl, condition⟩

theorem HandlerInvariant.actSyncBridge {before : Swarm} {stream : StreamId} {handler : Handler}
    {i : InstanceId} {enabled prev : Bool} (pc : handler.pc = .syncBridge i enabled prev)
    (invariant : HandlerInvariant before) (found : before.handlers.lookup stream = some handler)
    (condition : callCondition before.relay handler.pc)
    (others : ∀ other otherHandler, before.handlers.lookup other = some otherHandler → other ≠ stream →
      (touches handler).isSome → busyOn otherHandler.pc ≠ touches handler) :
    HandlerInvariant (before.actSyncBridge stream handler i enabled prev) := by
  have bridged := invariant.bridged stream handler found
  have busy : busyOn handler.pc = some i := by rw [pc]; rfl
  have touched := touches_of_busyOn busy
  have assumed := invariant.busy stream handler i found busy
  rw [pc] at condition assumed
  -- all branches but the unreachable one answer and go back to reading
  have answer : ∀ relay, (∀ j, j ≠ i → sshView relay j = sshView before.relay j) → Synced (sshView relay i) →
      HandlerInvariant ((before.withRelay relay).reply stream handler .ok) := by
    intro relay elsewhere synced
    apply invariant.advance found { handler with pc := .idle } rfl rfl others
    · intro j away
      rw [touched] at away
      exact ⟨elsewhere j fun same => away (same ▸ rfl), nofun⟩
    · intro j same
      rw [touched] at same
      cases same
      exact synced
  unfold Swarm.actSyncBridge
  rw [bridged]
  rcases assumed with ⟨view, rfl, rfl⟩ | ⟨port, conn, synced⟩
  · apply answer before.relay (fun _ _ => rfl)
    rw [view]
    exact synced_empty
  cases enabled with
  | true =>
      cases prev with
      | false =>
          exact answer _ (fun _ away => sshView_onSshEnabled_ne away)
            (synced_onSshEnabled conn (condition rfl rfl))
      | true =>
          have listening := synced.2 port rfl
          obtain ⟨old, present⟩ := Option.isSome_iff_exists.mp listening
          have held : port = some old := by simpa using synced.1 old present
          have hasPort : before.relay.hasSshPort i = true := by simp [hasSshPort_eq, conn, held]
          rw [hasPort]
          apply answer before.relay (fun _ _ => rfl)
          rw [sshView_eq conn rfl]
          exact synced
  | false =>
      cases prev with
      | false => exact answer before.relay (fun _ _ => rfl) (synced_sync_off conn synced rfl)
      | true => exact answer _ (fun _ away => sshView_removeListener_ne away) (synced_disabled conn synced)

theorem HandlerInvariant.actUnregister {before : Swarm} {stream : StreamId} {handler : Handler}
    (pc : handler.pc = .unregister) (invariant : HandlerInvariant before)
    (found : before.handlers.lookup stream = some handler)
    (others : ∀ other otherHandler, before.handlers.lookup other = some otherHandler → other ≠ stream →
      (touches handler).isSome → busyOn otherHandler.pc ≠ touches handler) :
    HandlerInvariant (before.actUnregister stream handler) := by
  have bridged := invariant.bridged stream handler found
  have touched : touches handler = handler.instanceId := by simp [touches, pc]
  have free : busyOn handler.pc = none := by rw [pc]; rfl
  unfold Swarm.actUnregister
  split
  · rename_i i connectedAt registered _
    rw [registered] at touched
    have synced := invariant.synced_touched found others touched free
    have elsewhere : ∀ j, j ≠ i → sshView (before.relay.unregister i connectedAt).2 j = sshView before.relay j :=
      fun _ away => sshView_unregister_ne away
    have result := sshView_unregister before.relay i connectedAt
    cases unregistered : before.relay.unregister i connectedAt with
    | mk hadSshPort relay =>
        rw [unregistered] at elsewhere result
        dsimp only at elsewhere result ⊢
        rw [bridged, Bool.and_true]
        apply invariant.advance found { handler with
          pc := if hadSshPort.isSome then .disconnect i else .unsubscribe } rfl rfl others
        · intro j away
          rw [touched] at away
          refine ⟨elsewhere j fun same => away (same ▸ rfl), ?_⟩
          dsimp only
          split
          · exact fun same => away same
          · exact nofun
        · intro j same
          rw [touched] at same
          cases same
          rcases result with ⟨rfl, view⟩ | ⟨conn, before_conn, rfl, view⟩
          · simp only [Option.isSome_none, Bool.false_eq_true, if_false, busyOn, reduceCtorEq]
            change Synced (sshView relay i)
            rw [view]
            exact synced
          · cases held : conn.2 with
            | some port =>
                simp only [Option.isSome_some, if_true, busyOn, PcInvariant]
                change (sshView relay i).conn = none
                rw [view]
            | none =>
                simp only [Option.isSome_none, Bool.false_eq_true, if_false, busyOn, reduceCtorEq]
                change Synced (sshView relay i)
                have silent := synced.listener_none (by
                  intro port listening
                  rw [before_conn] at listening
                  cases listening
                  cases held)
                rw [view, silent]
                exact synced_empty
  · apply invariant.advance found { handler with pc := .unsubscribe } rfl rfl others
    · intro j _
      exact ⟨rfl, nofun⟩
    · intro i same
      exact invariant.synced_touched found others same free

theorem HandlerInvariant.actStartBridge {before : Swarm} {stream : StreamId} {handler : Handler}
    {frame : RegisterFrame} {info : SelfInfo} (pc : handler.pc = .startBridge frame info)
    (invariant : HandlerInvariant before) (found : before.handlers.lookup stream = some handler)
    (condition : callCondition before.relay handler.pc)
    (others : ∀ other otherHandler, before.handlers.lookup other = some otherHandler → other ≠ stream →
      (touches handler).isSome → busyOn otherHandler.pc ≠ touches handler) :
    HandlerInvariant ((before.withRelay (if frame.sshEnabled && handler.bridge
      then before.relay.onSshEnabled frame.instanceId else before.relay)).goto stream handler
        (.subscribe frame info)) := by
  have bridged := invariant.bridged stream handler found
  have busy : busyOn handler.pc = some frame.instanceId := by rw [pc]; rfl
  have touched := touches_of_busyOn busy
  have assumed := invariant.busy stream handler _ found busy
  rw [pc] at condition assumed
  obtain ⟨conn, off⟩ := assumed
  rw [bridged, Bool.and_true]
  apply invariant.advance found { handler with pc := .subscribe frame info } rfl rfl others
  · intro j away
    rw [touched] at away
    refine ⟨?_, nofun⟩
    change sshView (if frame.sshEnabled = true then _ else _) j = _
    split
    · exact sshView_onSshEnabled_ne fun same => away (same ▸ rfl)
    · rfl
  · intro j same
    rw [touched] at same
    cases same
    change Synced (sshView (if frame.sshEnabled = true then _ else _) frame.instanceId)
    cases enabled : frame.sshEnabled with
    | true =>
        rw [enabled] at conn
        exact synced_onSshEnabled conn (condition enabled)
    | false =>
        rw [enabled] at conn
        rw [if_neg (by decide), sshView_eq conn (off enabled)]
        exact synced_off none

theorem HandlerInvariant.forget {before : Swarm} {stream : StreamId} {handler : Handler}
    (invariant : HandlerInvariant before) (found : before.handlers.lookup stream = some handler)
    (free : busyOn handler.pc = none) (rpcMap : Table PeerId StreamId) :
    HandlerInvariant { before with rpcMap, handlers := before.handlers.erase stream } := by
  have remaining : ∀ other otherHandler, (before.handlers.erase stream).lookup other = some otherHandler →
      before.handlers.lookup other = some otherHandler := by
    intro other otherHandler present
    rw [Table.lookup_erase_ite] at present
    split at present
    · cases present
    · exact present
  refine ⟨?_, ?_, ?_, ?_⟩
  · intro other otherHandler present
    exact invariant.bridged other otherHandler (remaining _ _ present)
  · intro a b first second i presentA presentB
    exact invariant.exclusive a b first second i (remaining _ _ presentA) (remaining _ _ presentB)
  · intro other otherHandler i present
    exact invariant.busy other otherHandler i (remaining _ _ present)
  · intro i quiet
    apply invariant.synced
    intro other otherHandler present
    by_cases mine : other = stream
    · subst mine
      rw [found] at present
      cases present
      rw [free]
      exact nofun
    · apply quiet other otherHandler
      rw [Table.lookup_erase_ite, if_neg mine]
      exact present

theorem HandlerInvariant.samePlace {before : Swarm} {stream : StreamId} {handler : Handler} (next : Handler)
    (invariant : HandlerInvariant before) (found : before.handlers.lookup stream = some handler)
    (place : next.pc = handler.pc) (bridge : next.bridge = handler.bridge) :
    HandlerInvariant (before.setHandler stream next) := by
  have old : ∀ other otherHandler, (before.handlers.insert stream next).lookup other = some otherHandler →
      ∃ earlier, before.handlers.lookup other = some earlier ∧ earlier.pc = otherHandler.pc ∧
        earlier.bridge = otherHandler.bridge := by
    intro other otherHandler present
    rw [Table.lookup_insert_ite] at present
    split at present
    · rename_i same
      subst same
      cases present
      exact ⟨handler, found, place.symm, bridge.symm⟩
    · exact ⟨otherHandler, present, rfl, rfl⟩
  refine ⟨?_, ?_, ?_, ?_⟩
  · intro other otherHandler present
    obtain ⟨earlier, before_present, -, sameBridge⟩ := old other otherHandler present
    rw [← sameBridge]
    exact invariant.bridged other earlier before_present
  · intro a b first second i presentA presentB busyA busyB
    obtain ⟨earlierA, oldA, placeA, -⟩ := old a first presentA
    obtain ⟨earlierB, oldB, placeB, -⟩ := old b second presentB
    exact invariant.exclusive a b earlierA earlierB i oldA oldB (placeA ▸ busyA) (placeB ▸ busyB)
  · intro other otherHandler i present busy
    obtain ⟨earlier, before_present, samePlace, -⟩ := old other otherHandler present
    rw [← samePlace]
    exact invariant.busy other earlier i before_present (samePlace ▸ busy)
  · intro i quiet
    apply invariant.synced
    intro other otherHandler present
    by_cases mine : other = stream
    · subst mine
      rw [found] at present
      cases present
      rw [← place]
      exact quiet other next (AList.lookup_insert _)
    · apply quiet other otherHandler
      change (before.handlers.insert stream next).lookup other = some otherHandler
      rw [Table.lookup_insert_ite, if_neg mine]
      exact present

theorem HandlerInvariant.accept {before : Swarm} {handler : Handler} (stream : StreamId)
    (rpcMap : Table PeerId StreamId) (nextStream : StreamId) (invariant : HandlerInvariant before)
    (fresh : before.handlers.lookup stream = none) (bridged : handler.bridge = true)
    (free : busyOn handler.pc = none) :
    HandlerInvariant { before with rpcMap, nextStream, handlers := before.handlers.insert stream handler } := by
  have split : ∀ other otherHandler, (before.handlers.insert stream handler).lookup other = some otherHandler →
      otherHandler = handler ∨ before.handlers.lookup other = some otherHandler := by
    intro other otherHandler present
    rw [Table.lookup_insert_ite] at present
    split at present
    · cases present
      exact .inl rfl
    · exact .inr present
  refine ⟨?_, ?_, ?_, ?_⟩
  · intro other otherHandler present
    rcases split other otherHandler present with rfl | old
    · exact bridged
    · exact invariant.bridged other otherHandler old
  · intro a b first second i presentA presentB busyA busyB
    rcases split a first presentA with rfl | oldA
    · rw [free] at busyA
      cases busyA
    rcases split b second presentB with rfl | oldB
    · rw [free] at busyB
      cases busyB
    exact invariant.exclusive a b first second i oldA oldB busyA busyB
  · intro other otherHandler i present busy
    rcases split other otherHandler present with rfl | old
    · rw [free] at busy
      cases busy
    · exact invariant.busy other otherHandler i old busy
  · intro i quiet
    apply invariant.synced
    intro other otherHandler present
    apply quiet other otherHandler
    change (before.handlers.insert stream handler).lookup other = some otherHandler
    have different : other ≠ stream := by
      intro same
      subst same
      rw [fresh] at present
      cases present
    rw [Table.lookup_insert_ite, if_neg different]
    exact present

theorem HandlerInvariant.act {before after : Swarm} {stream : StreamId} {handler : Handler}
    (invariant : HandlerInvariant before) (found : before.handlers.lookup stream = some handler)
    (condition : callCondition before.relay handler.pc)
    (others : ∀ other otherHandler, before.handlers.lookup other = some otherHandler → other ≠ stream →
      (touches handler).isSome → busyOn otherHandler.pc ≠ touches handler)
    (stepped : before.act stream handler = some after) : HandlerInvariant after := by
  unfold Swarm.act at stepped
  cases pc : handler.pc with
  | idle => simp [pc] at stepped
  | validate frame now => simp [pc] at stepped
  | canRegister frame now info =>
      simp only [pc] at stepped
      split at stepped
      all_goals cases stepped
      all_goals exact invariant.quiet found rfl rfl (fun _ => rfl) (by simp [touches, pc, busyOn]) rfl
  | register frame now info =>
      simp only [pc] at stepped
      cases stepped
      exact invariant.actRegister pc found condition others
  | startBridge frame info =>
      simp only [pc] at stepped
      cases stepped
      exact invariant.actStartBridge pc found condition others
  | subscribe frame info =>
      simp only [pc] at stepped
      cases stepped
      unfold Swarm.actSubscribe
      split
      all_goals exact invariant.quiet found rfl rfl (fun _ => rfl) (by simp [touches, pc, busyOn]) rfl
  | readBack instanceId clusterId =>
      simp only [pc] at stepped
      cases stepped
      exact invariant.quiet found rfl rfl (fun _ => rfl) (by simp [touches, pc, busyOn]) rfl
  | advertise instanceId frame =>
      simp only [pc] at stepped
      cases stepped
      exact invariant.quiet found rfl rfl (fun j => sshView_updateAllTunnels _ _ j _ _ _)
        (by simp [touches, pc, busyOn]) rfl
  | updateSsh instanceId enabled =>
      simp only [pc] at stepped condition
      cases stepped
      have touched : touches handler = some instanceId := by simp [touches, pc]
      have synced := invariant.synced_touched found others touched (by rw [pc]; rfl)
      apply invariant.advance found { handler with
        pc := .syncBridge instanceId enabled (before.relay.updateSshEnabled instanceId enabled).1 } rfl rfl others
      · intro j away
        rw [touched] at away
        refine ⟨?_, away⟩
        change sshView (before.relay.updateSshEnabled instanceId enabled).2 j = _
        rw [sshView_updateSshEnabled, if_neg fun same : j = instanceId => away (same ▸ rfl)]
      · intro i same
        rw [touched] at same
        cases same
        simp only [busyOn, if_true]
        exact pcInvariant_updateSsh synced condition
  | syncBridge instanceId enabled prev =>
      simp only [pc] at stepped
      cases stepped
      exact invariant.actSyncBridge pc found condition others
  | enableBridge instanceId =>
      have impossible := invariant.busy stream handler instanceId found (by rw [pc]; rfl)
      rw [pc] at impossible
      exact impossible.elim
  | unregister =>
      simp only [pc] at stepped
      cases stepped
      exact invariant.actUnregister pc found others
  | disconnect instanceId =>
      simp only [pc] at stepped
      cases stepped
      have busy : busyOn handler.pc = some instanceId := by rw [pc]; rfl
      have touched := touches_of_busyOn busy
      have gone := invariant.busy stream handler instanceId found busy
      rw [pc] at gone
      apply invariant.advance found { handler with pc := .unsubscribe } rfl rfl others
      · intro j away
        rw [touched] at away
        exact ⟨sshView_removeListener_ne fun same => away (same ▸ rfl), nofun⟩
      · intro i same
        rw [touched] at same
        cases same
        exact synced_disconnected gone
  | unsubscribe =>
      simp only [pc] at stepped
      cases stepped
      unfold Swarm.actUnsubscribe
      split
      all_goals exact invariant.quiet found rfl rfl (fun _ => rfl) (by simp [touches, pc, busyOn]) rfl
  | forget =>
      simp only [pc] at stepped
      cases stepped
      exact invariant.forget found (by rw [pc]; rfl) _

/-! ## Every run -/

theorem HandlerInvariant.step {before after : Swarm} {event : SwarmEvent} (below : StreamsBelow before)
    (invariant : HandlerInvariant before) (condition : Undisturbed before event)
    (stepped : swarmStep before event = some after) : HandlerInvariant after := by
  cases event with
  | setSshBridge =>
      cases stepped
      exact { invariant with }
  | accept peer =>
      cases stepped
      apply invariant.accept
      · cases present : before.handlers.lookup before.nextStream with
        | none => rfl
        | some handler =>
            have under := below before.nextStream (by simp [streams, present])
            exact absurd under (Nat.lt_irrefl _)
      · exact condition
      · rfl
  | closed stream =>
      simp only [swarmStep, Option.bind_eq_bind, Option.bind_eq_some_iff] at stepped
      obtain ⟨handler, found, taken⟩ := stepped
      cases taken
      exact invariant.samePlace { handler with wire := false } found rfl rfl
  | receive stream frame =>
      simp only [swarmStep, Option.bind_eq_bind, Option.bind_eq_some_iff] at stepped
      obtain ⟨handler, found, taken⟩ := stepped
      split at taken
      · rename_i place
        cases taken
        have free : touches handler = none := by simp [touches, place, busyOn]
        cases frame with
        | register frame =>
            unfold Swarm.receive
            dsimp only
            split
            all_goals exact invariant.quiet found rfl rfl (fun _ => rfl) free rfl
        | tunnelAdvertisement frame =>
            unfold Swarm.receive
            dsimp only
            split
            all_goals exact invariant.quiet found rfl rfl (fun _ => rfl) free rfl
        | other msgType => exact invariant.quiet found rfl rfl (fun _ => rfl) free rfl
      · cases taken
  | validated stream result =>
      simp only [swarmStep, Option.bind_eq_bind, Option.bind_eq_some_iff] at stepped
      obtain ⟨handler, found, taken⟩ := stepped
      split at taken
      · rename_i frame now place
        cases taken
        have free : touches handler = none := by simp [touches, place, busyOn]
        cases result with
        | error status => exact invariant.quiet found rfl rfl (fun _ => rfl) free rfl
        | ok info =>
            unfold Swarm.validated
            dsimp only
            split_ifs
            all_goals exact invariant.quiet found rfl rfl (fun _ => rfl) free rfl
      · cases taken
  | act stream =>
      simp only [swarmStep, Option.bind_eq_bind, Option.bind_eq_some_iff] at stepped
      obtain ⟨handler, found, taken⟩ := stepped
      obtain ⟨call, others⟩ := condition handler found
      exact invariant.act found call others taken
  | readEnd stream =>
      simp only [swarmStep, Option.bind_eq_bind, Option.bind_eq_some_iff] at stepped
      obtain ⟨handler, found, taken⟩ := stepped
      split at taken
      · rename_i place
        cases taken
        exact invariant.quiet found rfl rfl (fun _ => rfl) (by simp [touches, place.1, busyOn]) rfl
      · cases taken
  | clock now =>
      cases stepped
      exact { invariant with }

def Quiescent (swarm : Swarm) : Prop :=
  ∀ stream handler, swarm.handlers.lookup stream = some handler → handler.pc = .idle

instance (swarm : Swarm) : Decidable (Quiescent swarm) :=
  decidable_of_iff (∀ entry ∈ swarm.handlers.entries, entry.2.pc = .idle)
    (Table.forall_lookup_iff swarm.handlers fun _ handler => handler.pc = .idle).symm

/-- A listener runs for exactly the instances registered with SSH on, on the port the registry shows. -/
def ListenersMatchRegistry (relay : RelayState) : Prop :=
  ∀ i, ((relay.listeners.lookup i).isSome ↔ ∃ conn, relay.daemons.lookup i = some conn ∧ conn.sshEnabled = true) ∧
    ∀ port, relay.listeners.lookup i = some port →
      ∃ conn, relay.daemons.lookup i = some conn ∧ conn.sshPort = some port

theorem Synced.matches {relay : RelayState} (synced : ∀ i, Synced (sshView relay i)) :
    ListenersMatchRegistry relay := by
  intro i
  have registered : ∀ port, relay.listeners.lookup i = some port →
      ∃ conn, relay.daemons.lookup i = some conn ∧ conn.sshEnabled = true ∧ conn.sshPort = some port := by
    intro port listening
    have view := (synced i).1 port listening
    simp only [sshView, Option.map_eq_some_iff, Prod.mk.injEq] at view
    obtain ⟨conn, found, enabled, held⟩ := view
    exact ⟨conn, found, enabled, held⟩
  refine ⟨⟨?_, ?_⟩, ?_⟩
  · intro listening
    obtain ⟨port, present⟩ := Option.isSome_iff_exists.mp listening
    obtain ⟨conn, found, enabled, -⟩ := registered port present
    exact ⟨conn, found, enabled⟩
  · intro some_enabled
    obtain ⟨conn, found, enabled⟩ := some_enabled
    exact (synced i).2 conn.sshPort (by simp [sshView, found, enabled])
  · intro port listening
    obtain ⟨conn, found, -, held⟩ := registered port listening
    exact ⟨conn, found, held⟩

theorem listeners_match_registry (now : DateTime) (maxDaemons portMin portMax : Nat) (file : Option Reservations)
    (writable : Bool) (events : List SwarmEvent) {final : Swarm}
    (condition : Meets swarmStep Undisturbed
      (Swarm.start (RelayState.new now maxDaemons portMin portMax file writable)) events)
    (ran : run swarmStep (Swarm.start (RelayState.new now maxDaemons portMin portMax file writable)) events =
      some final) (quiescent : Quiescent final) : ListenersMatchRegistry final.relay := by
  have invariant : StreamsBelow final ∧ HandlerInvariant final := by
    apply run_invariant_of_meets _ _ condition ran
    · intro before event after holds met stepped
      exact ⟨streamsBelow_step holds.1 stepped, holds.2.step holds.1 met stepped⟩
    · refine ⟨?_, ⟨?_, ?_, ?_, ?_⟩⟩
      · intro stream present
        cases present
      · intro stream handler present
        cases present
      · intro a b first second i present
        cases present
      · intro stream handler i present
        cases present
      · intro i _
        exact synced_empty
  apply Synced.matches
  intro i
  apply invariant.2.synced
  intro stream handler present
  rw [quiescent stream handler present]
  exact nofun

def syncToken : SelfInfo := { clusterId := some 1, clusterName := none, tokenKind := "sync" }

def registerEvents (stream : StreamId) (instanceId : InstanceId) (sshEnabled : Bool) : List SwarmEvent :=
  .receive stream (.register { instanceId, hostname := none, agentName := none, token := "t", sshEnabled }) ::
    .validated stream (.ok syncToken) :: List.replicate 5 (.act stream)

def advertiseEvents (stream : StreamId) (sshEnabled : Bool) : List SwarmEvent :=
  .receive stream (.tunnelAdvertisement { tunnels := [], sshEnabled }) :: List.replicate 3 (.act stream)

/-- Two daemons come up with SSH on and one of them turns it off in an advertisement. -/
def orderlyRun : List SwarmEvent :=
  [.setSshBridge, .accept 1, .accept 2] ++ registerEvents 0 "a" true ++ registerEvents 1 "b" true ++
    advertiseEvents 0 false

theorem listeners_match_orderly : ∃ final,
    run swarmStep (Swarm.start (RelayState.new 0 4 10000 10003 none true)) orderlyRun = some final ∧
      final.relay.listeners.lookup "b" = some 10001 ∧ ListenersMatchRegistry final.relay :=
  ⟨_, rfl, by decide, listeners_match_registry 0 4 10000 10003 none true orderlyRun (by decide) rfl (by decide)⟩

/-- A daemon that registers again with SSH off keeps its listener. -/
theorem listener_outlives_registration : ¬ ∀ events final,
    run swarmStep (Swarm.start (RelayState.new 0 4 10000 10003 none true)) events = some final →
      Quiescent final → ListenersMatchRegistry final.relay := by
  intro all
  have matched := all ([.setSshBridge, .accept 1] ++ registerEvents 0 "a" true ++ registerEvents 0 "a" false) _
    rfl (by decide) "a"
  obtain ⟨conn, found, enabled⟩ := matched.1.mp (by decide)
  cases found
  cases enabled

end MacMgmt.Proof.Relay
