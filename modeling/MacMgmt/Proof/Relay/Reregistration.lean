import MacMgmt.Lib.Run
import MacMgmt.Proof.Relay.HttpIsolation
import MacMgmt.Proof.Relay.Ports

/-!
# Registering again

A daemon repeats its registration every minute. `register` puts a new entry in the place of the old one; the SSH bridge sets
the port again, and the tunnels are gone until the next advertisement.
-/

namespace MacMgmt.Proof.Relay.Reregistration
open Lib MacMgmt.Relay RelayState

/-- The stream receives the frame, the server has answered for the token, and the handler makes its five calls. -/
def handling (stream : StreamId) (frame : RegisterFrame) (info : SelfInfo) : List SwarmEvent :=
  [.receive stream (.register frame), .validated stream (.ok info), .act stream, .act stream, .act stream, .act stream,
    .act stream]

def shown (relay : RelayState) (id : InstanceId) : Option InstanceInfo :=
  relay.listInstances.find? fun info => info.instanceId = id

structure SameRouting (before after : RelayState) (id : InstanceId) : Prop where
  hasTunnel : ∀ given tunnelName, after.hasTunnel given tunnelName = before.hasTunnel given tunnelName
  tunnelLists : (shown after id).map (fun info => (info.tunnels, info.fileTunnels, info.shellTunnels)) =
    (shown before id).map fun info => (info.tunnels, info.fileTunnels, info.shellTunnels)
  sshPort : (shown after id).bind InstanceInfo.sshPort = (shown before id).bind InstanceInfo.sshPort
  getPeerId : after.getPeerId id = before.getPeerId id
  resolvePrefix : ∀ given, after.resolvePrefix given = before.resolvePrefix given

/-- The port that the bridge, if the stream has one, gives a daemon that accepts SSH. -/
def bridgePort (relay : RelayState) (id : InstanceId) (sshEnabled bridge : Bool) : Option Nat :=
  if sshEnabled && bridge then (relay.listeners.lookup id).or (relay.allocatePort id).1 else none

/-- No tunnels have been advertised, and the port is the one that the bridge gives. -/
structure NothingToLose (relay : RelayState) (conn : DaemonConn) (bridge : Bool) : Prop where
  tunnels : conn.tunnels = []
  fileTunnels : conn.fileTunnels = "[]"
  shellTunnels : conn.shellTunnels = "[]"
  sshPort : conn.sshPort = bridgePort relay conn.instanceId conn.sshEnabled bridge

/-! ## The port of an entry that is put in place -/

section
variable (relay : RelayState) (daemons : Table InstanceId DaemonConn) (id : InstanceId)

theorem claimReservation_daemons : { relay with daemons := daemons }.claimReservation id =
    ((relay.claimReservation id).1, { (relay.claimReservation id).2 with daemons := daemons }) := by
  unfold claimReservation
  cases reserved : relay.reservations.lookup id with
  | none => rfl
  | some reservation => cases expired : expiredAt relay.now reservation <;> simp [expired]

theorem takeFreePort_fst : relay.takeFreePort.1 =
    (List.range' relay.portMin (relay.portMax + 1 - relay.portMin)).find? (· ∉ relay.usedPorts) := by
  unfold takeFreePort
  split
  · rename_i full
    exact full.symm
  · rename_i free
    exact free.symm

theorem takeFreePort_daemons : { relay with daemons := daemons }.takeFreePort.1 = relay.takeFreePort.1 := by
  rw [takeFreePort_fst, takeFreePort_fst]

theorem takeFreePort_full (full : relay.takeFreePort.1 = none) : relay.takeFreePort.2 = relay := by
  unfold takeFreePort at full ⊢
  split
  · rfl
  · rename_i port free
    rw [free] at full
    cases full

theorem takeFreePort_expireReservations : { relay with daemons := daemons }.expireReservations.takeFreePort.1 =
    relay.expireReservations.takeFreePort.1 := by
  have range (relay : RelayState) : relay.expireReservations.portMin = relay.portMin ∧
      relay.expireReservations.portMax = relay.portMax := by
    unfold expireReservations saveReservations
    dsimp only
    repeat' split
    all_goals exact ⟨rfl, rfl⟩
  rw [takeFreePort_fst, takeFreePort_fst, (range _).1, (range _).2, (range relay).1, (range relay).2,
    expireReservations_usedPorts, expireReservations_usedPorts]

theorem allocatePort_fst : (relay.allocatePort id).1 =
    (relay.claimReservation id).1.or ((relay.claimReservation id).2.takeFreePort.1.or
      (relay.claimReservation id).2.expireReservations.takeFreePort.1) := by
  unfold allocatePort
  obtain ⟨reserved, claimed⟩ := relay.claimReservation id
  cases reserved with
  | some port => rfl
  | none =>
      have full := takeFreePort_full claimed
      dsimp only
      generalize claimed.takeFreePort = taken at full ⊢
      obtain ⟨free, after⟩ := taken
      cases free with
      | some port => rfl
      | none =>
          cases full rfl
          rfl

theorem allocatePort_daemons : ({ relay with daemons := daemons }.allocatePort id).1 = (relay.allocatePort id).1 := by
  rw [allocatePort_fst, allocatePort_fst, claimReservation_daemons]
  dsimp only
  rw [takeFreePort_expireReservations, takeFreePort_daemons]

end

theorem lookup_onSshEnabled (relay : RelayState) (id other : InstanceId) :
    (relay.onSshEnabled id).daemons.lookup other =
      if other = id then (relay.daemons.lookup id).map fun conn =>
        { conn with sshPort := ((relay.listeners.lookup id).or (relay.allocatePort id).1).or conn.sshPort }
      else relay.daemons.lookup other := by
  have sameDaemons := (allocatePort_listeners relay id).2
  unfold onSshEnabled
  cases listening : relay.listeners.lookup id with
  | some port => simp [setSshPort, Table.lookup_modify]
  | none =>
      dsimp only
      generalize relay.allocatePort id = result at sameDaemons ⊢
      obtain ⟨allocated, after⟩ := result
      cases allocated with
      | some port => simp_all [setSshPort, Table.lookup_modify]
      | none =>
          dsimp only at sameDaemons ⊢
          rw [sameDaemons]
          split
          · rename_i same
            subst same
            simp
          · rfl

/-! ## The entry that is put in place -/

def reregistered (relay : RelayState) (conn : DaemonConn) (bridge : Bool) : RelayState :=
  let registered := { relay with daemons := relay.daemons.insert conn.instanceId conn }
  if conn.sshEnabled && bridge then registered.onSshEnabled conn.instanceId else registered

theorem lookup_reregistered (relay : RelayState) {conn : DaemonConn} (unset : conn.sshPort = none) (bridge : Bool)
    (other : InstanceId) : (reregistered relay conn bridge).daemons.lookup other =
      if other = conn.instanceId then
        some { conn with sshPort := bridgePort relay conn.instanceId conn.sshEnabled bridge }
      else relay.daemons.lookup other := by
  unfold reregistered bridgePort
  cases conn.sshEnabled && bridge with
  | true =>
      rw [if_pos rfl, lookup_onSshEnabled, allocatePort_daemons]
      by_cases same : other = conn.instanceId
      · simp [same, unset]
      · simp [same]
  | false => simp [Table.lookup_insert_ite, ← unset]

theorem act_step {swarm : Swarm} {stream : StreamId} {handler : Handler}
    (found : swarm.handlers.lookup stream = some handler) : swarmStep swarm (.act stream) = swarm.act stream handler := by
  simp [swarmStep, found]

theorem lookup_goto (swarm : Swarm) (stream : StreamId) (handler : Handler) (pc : Pc) :
    (swarm.goto stream handler pc).handlers.lookup stream = some { handler with pc := pc } :=
  AList.lookup_insert _

theorem goto_goto (swarm : Swarm) (stream : StreamId) (handler : Handler) (first second : Pc) :
    (swarm.goto stream handler first).goto stream handler second = swarm.goto stream handler second := by
  simp [Swarm.goto, Swarm.setHandler]

theorem step_act (swarm : Swarm) (stream : StreamId) (handler : Handler) (pc : Pc) :
    swarmStep (swarm.goto stream handler pc) (.act stream) =
      (swarm.goto stream handler pc).act stream { handler with pc := pc } :=
  act_step (lookup_goto swarm stream handler pc)

theorem run_registered (swarm : Swarm) (stream : StreamId) (handler : Handler) (frame : RegisterFrame) (info : SelfInfo) :
    ∃ after, run swarmStep (swarm.goto stream handler (.startBridge frame info))
        [.act stream, .act stream, .act stream] = some after ∧
      after.relay =
        if frame.sshEnabled && handler.bridge then swarm.relay.onSshEnabled frame.instanceId else swarm.relay := by
  rw [run, step_act]
  simp only [Swarm.act, Option.bind_some]
  rw [run, step_act]
  simp only [Swarm.act, Option.bind_some, Swarm.actSubscribe]
  cases info.clusterId with
  | none =>
      dsimp only
      rw [run, step_act]
      exact ⟨_, rfl, rfl⟩
  | some cluster =>
      dsimp only
      rw [run, act_step (AList.lookup_insert _)]
      exact ⟨_, rfl, rfl⟩

theorem run_handling {swarm : Swarm} {stream : StreamId} {handler : Handler} {frame : RegisterFrame} {info : SelfInfo}
    {conn : DaemonConn} (found : swarm.handlers.lookup stream = some handler) (idle : handler.pc = .idle)
    (token : frame.token ≠ "") (kind : info.tokenKind = "sync") (named : frame.instanceId ≠ "")
    (registered : swarm.relay.daemons.lookup frame.instanceId = some conn) (cluster : conn.clusterId = info.clusterId) :
    ∃ after, run swarmStep swarm (handling stream frame info) = some after ∧
      after.relay = reregistered swarm.relay (newConn handler.peer frame swarm.relay.now info) handler.bridge := by
  have present : frame.instanceId ∈ swarm.relay.daemons := AList.lookup_isSome.mp (by rw [registered]; rfl)
  have allowed : swarm.relay.canRegister frame.instanceId info.clusterId = true := by
    simp [RelayState.canRegister, registered, cluster]
  have received : swarmStep swarm (.receive stream (.register frame)) =
      some (swarm.goto stream handler (.validate frame swarm.relay.now)) := by
    simp [swarmStep, found, idle, Swarm.receive, token]
  have validated : swarmStep (swarm.goto stream handler (.validate frame swarm.relay.now)) (.validated stream (.ok info)) =
      some (swarm.goto stream handler (.canRegister frame swarm.relay.now info)) := by
    simp only [swarmStep, lookup_goto, Option.bind_eq_bind, Option.bind_some, Swarm.validated, kind, named, ne_eq,
      not_true_eq_false, if_false]
    exact congrArg some (goto_goto swarm stream handler _ _)
  have checked : swarmStep (swarm.goto stream handler (.canRegister frame swarm.relay.now info)) (.act stream) =
      some (swarm.goto stream handler (.register frame swarm.relay.now info)) := by
    rw [step_act, ← goto_goto swarm stream handler (.canRegister frame swarm.relay.now info) (.register ..)]
    exact if_pos allowed
  let entry := newConn handler.peer frame swarm.relay.now info
  let put : RelayState := { swarm.relay with daemons := swarm.relay.daemons.insert frame.instanceId entry }
  let owner : Handler := { handler with instanceId := some frame.instanceId, connectedAt := some swarm.relay.now }
  have accepted : swarm.relay.register entry = (true, put) := if_neg fun full => full.1 present
  let after := (swarm.goto stream handler (.register frame swarm.relay.now info)).withRelay put
  have replaced : swarmStep (swarm.goto stream handler (.register frame swarm.relay.now info)) (.act stream) =
      some (after.goto stream owner (.startBridge frame info)) := by
    rw [step_act]
    simp only [Swarm.act, Swarm.actRegister]
    rw [show (swarm.goto stream handler (.register frame swarm.relay.now info)).relay.register
      (newConn handler.peer frame swarm.relay.now info) = (true, put) from accepted]
    rfl
  rw [handling, run, received, Option.bind_some, run, validated, Option.bind_some, run, checked, Option.bind_some, run,
    replaced, Option.bind_some]
  exact run_registered after stream owner frame info

/-! ## The routing answers -/

theorem perm_of_same_keys {before after : Table InstanceId DaemonConn} (same : ∀ id, id ∈ after ↔ id ∈ before) :
    after.keys.Perm before.keys :=
  (List.perm_ext_iff_of_nodup after.keys_nodup before.keys_nodup).mpr same

theorem resolvePrefix_congr {before after : RelayState} (same : ∀ id, id ∈ after.daemons ↔ id ∈ before.daemons)
    (given : String) : after.resolvePrefix given = before.resolvePrefix given := by
  have matching := (perm_of_same_keys same).filter fun id => given.toList.isPrefixOf id.toList
  unfold resolvePrefix
  simp only [same]
  generalize after.daemons.keys.filter _ = found at matching ⊢
  generalize before.daemons.keys.filter _ = others at matching ⊢
  split
  · rfl
  · split
    · rename_i first
      rw [List.singleton_perm] at matching
      rw [← matching]
    · rename_i several
      split
      · rename_i first
        rw [List.perm_singleton] at matching
        exact absurd matching (several first)
      · rfl

theorem find?_values {relay : RelayState} (keyed : Keyed relay) (id : InstanceId) :
    relay.daemons.values.find? (fun conn => conn.instanceId = id) = relay.daemons.lookup id := by
  cases listed : relay.daemons.values.find? fun conn => conn.instanceId = id with
  | some conn =>
      obtain ⟨key, present⟩ := Table.mem_values.mp (List.mem_of_find?_eq_some listed)
      have named : conn.instanceId = id := by simpa using List.find?_some listed
      rw [← named, keyed key conn present, present]
  | none =>
      cases present : relay.daemons.lookup id with
      | none => rfl
      | some conn =>
          have unnamed := List.find?_eq_none.mp listed conn (Table.mem_values.mpr ⟨id, present⟩)
          simp [keyed id conn present] at unnamed

def instanceInfo (conn : DaemonConn) : InstanceInfo :=
  { instanceId := conn.instanceId, clusterId := conn.clusterId, clusterName := conn.clusterName
    hostname := conn.hostname, connectedAt := conn.connectedAt, tunnels := conn.tunnels, fileTunnels := conn.fileTunnels
    shellTunnels := conn.shellTunnels, sshEnabled := conn.sshEnabled, sshPort := conn.sshPort }

theorem shown_eq {relay : RelayState} (keyed : Keyed relay) (id : InstanceId) :
    shown relay id = (relay.daemons.lookup id).map instanceInfo := by
  unfold shown listInstances
  rw [List.find?_map]
  exact congrArg _ (find?_values keyed id)

section
variable {relay : RelayState} {id : InstanceId} {conn new : DaemonConn} {bridge : Bool}

theorem keyed_reregistered (keyed : Keyed relay) (unset : new.sshPort = none) : Keyed (reregistered relay new bridge) := by
  intro other entry present
  rw [lookup_reregistered relay unset] at present
  split at present
  · rename_i same
    cases present
    exact same.symm
  · exact keyed other entry present

theorem mem_reregistered (found : relay.daemons.lookup new.instanceId = some conn) (unset : new.sshPort = none)
    (other : InstanceId) : other ∈ (reregistered relay new bridge).daemons ↔ other ∈ relay.daemons := by
  rw [← AList.lookup_isSome, ← AList.lookup_isSome, lookup_reregistered relay unset]
  split
  · rename_i same
    rw [same, found]
    rfl
  · rfl

theorem hasTunnel_reregistered (found : relay.daemons.lookup new.instanceId = some conn) (unset : new.sshPort = none)
    (tunnels : new.tunnels = conn.tunnels) (given tunnelName : String) :
    (reregistered relay new bridge).hasTunnel given tunnelName = relay.hasTunnel given tunnelName := by
  unfold RelayState.hasTunnel
  rw [resolvePrefix_congr (mem_reregistered found unset)]
  cases relay.resolvePrefix given with
  | none => rfl
  | some full =>
      rw [Option.bind_some, Option.bind_some, lookup_reregistered relay unset]
      split
      · rename_i same
        rw [same, found]
        simp [tunnels]
      · rfl

theorem sameRouting_iff (keyed : Keyed relay) (found : relay.daemons.lookup new.instanceId = some conn)
    (unset : new.sshPort = none) (peer : new.peerId = conn.peerId) (ssh : new.sshEnabled = conn.sshEnabled)
    (tunnels : new.tunnels = []) (fileTunnels : new.fileTunnels = "[]") (shellTunnels : new.shellTunnels = "[]") :
    SameRouting relay (reregistered relay new bridge) new.instanceId ↔ NothingToLose relay conn bridge := by
  have before := shown_eq keyed new.instanceId
  have after : shown (reregistered relay new bridge) new.instanceId = _ := shown_eq (keyed_reregistered keyed unset) _
  rw [found] at before
  rw [lookup_reregistered relay unset, if_pos rfl] at after
  constructor
  · intro same
    have lists := same.tunnelLists
    have port := same.sshPort
    rw [before, after] at lists port
    simp [instanceInfo, tunnels, fileTunnels, shellTunnels] at lists
    simp [instanceInfo] at port
    refine ⟨lists.1, lists.2.1.symm, lists.2.2.symm, ?_⟩
    rw [← port, keyed _ conn found, ssh]
  · intro nothing
    constructor
    · exact hasTunnel_reregistered found unset (tunnels.trans nothing.tunnels.symm)
    · rw [before, after]
      simp [instanceInfo, tunnels, fileTunnels, shellTunnels, nothing.tunnels, nothing.fileTunnels, nothing.shellTunnels]
    · have port := nothing.sshPort
      rw [keyed _ conn found] at port
      rw [before, after]
      simp [instanceInfo, port, ssh]
    · unfold RelayState.getPeerId
      rw [lookup_reregistered relay unset, if_pos rfl, found]
      exact peer
    · exact resolvePrefix_congr (mem_reregistered found unset)

end

/-- A frame that was accepted before, on the stream that the entry is of. -/
structure Repeats (swarm : Swarm) (stream : StreamId) (handler : Handler) (frame : RegisterFrame) (info : SelfInfo)
    (conn : DaemonConn) : Prop where
  found : swarm.handlers.lookup stream = some handler
  idle : handler.pc = .idle
  registered : swarm.relay.daemons.lookup frame.instanceId = some conn
  own : conn.peerId = some handler.peer
  token : frame.token ≠ ""
  kind : info.tokenKind = "sync"
  named : frame.instanceId ≠ ""
  cluster : conn.clusterId = info.clusterId
  sshEnabled : conn.sshEnabled = frame.sshEnabled

theorem reregistration_iff (swarm : Swarm) (stream : StreamId) (handler : Handler) (frame : RegisterFrame) (info : SelfInfo)
    (conn : DaemonConn) (keyed : Keyed swarm.relay) (repeats : Repeats swarm stream handler frame info conn) :
    ∃ after, run swarmStep swarm (handling stream frame info) = some after ∧
      (SameRouting swarm.relay after.relay frame.instanceId ↔ NothingToLose swarm.relay conn handler.bridge) := by
  obtain ⟨after, ran, moved⟩ := run_handling repeats.found repeats.idle repeats.token repeats.kind repeats.named
    repeats.registered repeats.cluster
  let new := newConn handler.peer frame swarm.relay.now info
  have found : swarm.relay.daemons.lookup new.instanceId = some conn := repeats.registered
  refine ⟨after, ran, ?_⟩
  rw [moved]
  exact sameRouting_iff keyed found rfl repeats.own.symm repeats.sshEnabled.symm rfl rfl rfl

def machine (tunnels : List ServiceTunnel) : DaemonConn :=
  { instanceId := "a", clusterId := some 1, clusterName := none, agentName := none, hostname := none, connectedAt := 0
    tunnels := tunnels, peerId := some 7, sshEnabled := false, sshPort := none }

def ownStream : Handler := ⟨7, true, true, some "a", some 0, some 1, .idle⟩

/-- The machine is registered, with the tunnels it has advertised. -/
def registeredWith (tunnels : List ServiceTunnel) : Swarm :=
  { Swarm.start { RelayState.new 0 10 10000 10010 none true with daemons := AList.insert "a" (machine tunnels) ∅ } with
    bridgeSet := true, rpcMap := AList.insert 7 0 ∅, handlers := AList.insert 0 ownStream ∅, nextStream := 1 }

def again : RegisterFrame := ⟨"a", none, none, "sync-token", false⟩

def clusterOne : SelfInfo := ⟨some 1, none, "sync"⟩

theorem keyed_registeredWith (tunnels : List ServiceTunnel) : Keyed (registeredWith tunnels).relay := by
  intro id conn found
  simp only [registeredWith, Swarm.start, Table.lookup_insert_ite] at found
  split at found
  · rename_i same
    cases found
    exact same.symm
  · simp at found

theorem repeats_registeredWith (tunnels : List ServiceTunnel) :
    Repeats (registeredWith tunnels) 0 ownStream again clusterOne (machine tunnels) where
  found := AList.lookup_insert _
  idle := rfl
  registered := AList.lookup_insert _
  own := rfl
  token := by decide
  kind := rfl
  named := by decide
  cluster := rfl
  sshEnabled := rfl

theorem reregistration_idle :
    ∃ after, run swarmStep (registeredWith []) (handling 0 again clusterOne) = some after ∧
      (SameRouting (registeredWith []).relay after.relay "a" ↔
        NothingToLose (registeredWith []).relay (machine []) true) :=
  reregistration_iff _ 0 ownStream again clusterOne _ (keyed_registeredWith []) (repeats_registeredWith [])

/-- The tunnels are gone once a daemon that has advertised them registers again. -/
theorem reregistration_drops_tunnels :
    ¬ ∀ (swarm : Swarm) (stream : StreamId) (handler : Handler) (frame : RegisterFrame) (info : SelfInfo)
      (conn : DaemonConn), Keyed swarm.relay → Repeats swarm stream handler frame info conn →
      ∃ after, run swarmStep swarm (handling stream frame info) = some after ∧
        SameRouting swarm.relay after.relay frame.instanceId := by
  intro all
  obtain ⟨after, ran, same⟩ := all _ 0 ownStream again clusterOne _ (keyed_registeredWith [⟨"web", 80⟩])
    (repeats_registeredWith [⟨"web", 80⟩])
  have gone : (run swarmStep (registeredWith [⟨"web", 80⟩]) (handling 0 again clusterOne)).any
      (fun after => after.relay.hasTunnel "a" "web") = false := by decide +kernel
  have there : (registeredWith [⟨"web", 80⟩]).relay.hasTunnel "a" "web" = true := by decide +kernel
  rw [ran, Option.any_some, same.hasTunnel, there] at gone
  cases gone

end MacMgmt.Proof.Relay.Reregistration
