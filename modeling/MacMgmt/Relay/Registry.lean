import MacMgmt.Lib.Table
import Mathlib.Data.Finset.Basic
import Mathlib.Data.List.Sort

/-!
# The relay's daemon registry and SSH bridge

The state of `relay/src/daemon_registry.rs` and `relay/src/ssh_bridge.rs` in one record, with the
clock and the reservations file they use. Each function is one method of the source.
-/

namespace MacMgmt.Relay
open Lib

abbrev InstanceId := String
abbrev PeerId := Nat
abbrev Uuid := BitVec 128

abbrev JsonText := String

abbrev DateTime := Int

def reservationTtlDays : Int := 30

def days (count : Int) : DateTime := count * 86400 * 1000000000

structure ServiceTunnel where
  name : String
  tcpPort : Nat
deriving DecidableEq

structure DaemonConn where
  instanceId : InstanceId
  clusterId : Option Uuid
  clusterName : Option String
  agentName : Option String
  hostname : Option String
  connectedAt : DateTime
  tunnels : List ServiceTunnel
  fileTunnels : JsonText := "[]"
  shellTunnels : JsonText := "[]"
  peerId : Option PeerId
  sshEnabled : Bool
  sshPort : Option Nat
deriving DecidableEq

structure SshTarget where
  instanceId : InstanceId
  clusterId : Option Uuid
  clusterName : Option String
  agentName : Option String
  hostname : Option String
  sshPort : Option Nat
deriving DecidableEq

structure TunnelInfo where
  instanceId : InstanceId
  clusterId : Option Uuid
  clusterName : Option String
  agentName : Option String
  hostname : Option String
  connectedAt : DateTime
  tunnels : List ServiceTunnel
deriving DecidableEq

structure InstanceInfo where
  instanceId : InstanceId
  clusterId : Option Uuid
  clusterName : Option String
  hostname : Option String
  connectedAt : DateTime
  tunnels : List ServiceTunnel
  fileTunnels : JsonText
  shellTunnels : JsonText
  sshEnabled : Bool
  sshPort : Option Nat
deriving DecidableEq

structure PortReservation where
  port : Nat
  reservedAt : DateTime
deriving DecidableEq

abbrev Reservations := Table InstanceId PortReservation

/-- `file` is the parsed reservations file, `none` when it cannot be read or parsed; `writable` says
whether writing it succeeds. -/
structure RelayState where
  now : DateTime
  maxDaemons : Nat
  portMin : Nat
  portMax : Nat
  daemons : Table InstanceId DaemonConn
  usedPorts : Finset Nat
  reservations : Reservations
  listeners : Table InstanceId Nat
  file : Option Reservations
  writable : Bool

/-! ## Loading the reservations file -/

def expiredAt (now : DateTime) (reservation : PortReservation) : Bool :=
  reservation.reservedAt < now - days reservationTtlDays

def dedupPorts : Finset Nat → List (Σ _ : InstanceId, PortReservation) → List (Σ _ : InstanceId, PortReservation)
  | _, [] => []
  | seen, entry :: entries =>
      if entry.2.port ∈ seen then dedupPorts seen entries
      else entry :: dedupPorts (insert entry.2.port seen) entries

theorem dedupPorts_sublist (seen : Finset Nat) (entries : List (Σ _ : InstanceId, PortReservation)) :
    (dedupPorts seen entries).Sublist entries := by
  induction entries generalizing seen with
  | nil => exact List.Sublist.refl _
  | cons entry entries ih =>
      unfold dedupPorts
      split
      · exact (ih seen).cons entry
      · exact (ih _).cons_cons entry

def newestFirst (now : DateTime) (file : Reservations) : List (Σ _ : InstanceId, PortReservation) :=
  (file.entries.filter fun entry => !expiredAt now entry.2).insertionSort
    fun a b => b.2.reservedAt ≤ a.2.reservedAt

def loadReservations (now : DateTime) (file : Reservations) : Reservations :=
  ⟨dedupPorts ∅ (newestFirst now file), by
    have kept : (file.entries.filter fun entry => !expiredAt now entry.2).NodupKeys :=
      file.nodupKeys.sublist List.filter_sublist
    have sorted : (newestFirst now file).NodupKeys :=
      (List.perm_nodupKeys (List.perm_insertionSort _ _)).mpr kept
    exact sorted.sublist (dedupPorts_sublist _ _)⟩

def RelayState.new (now : DateTime) (maxDaemons portMin portMax : Nat) (file : Option Reservations)
    (writable : Bool) : RelayState :=
  let reservations := match file with
    | some file => loadReservations now file
    | none => ∅
  { now, maxDaemons, portMin, portMax, file, writable, reservations
    daemons := ∅
    usedPorts := (reservations.values.map PortReservation.port).toFinset
    listeners := ∅ }

namespace RelayState
variable (relay : RelayState)

/-! ## Port allocation -/

def saveReservations : RelayState :=
  if relay.writable then { relay with file := some relay.reservations } else relay

def expireReservations : RelayState :=
  let stale := relay.reservations.values.filter (expiredAt relay.now)
  let kept := relay.reservations.retain fun _ reservation => !expiredAt relay.now reservation
  let after := { relay with
    reservations := kept
    usedPorts := stale.foldl (fun used reservation => used.erase reservation.port) relay.usedPorts }
  if kept.size ≠ relay.reservations.size then after.saveReservations else after

def takeFreePort : Option Nat × RelayState :=
  match (List.range' relay.portMin (relay.portMax + 1 - relay.portMin)).find? (· ∉ relay.usedPorts) with
  | none => (none, relay)
  | some port => (some port, { relay with usedPorts := insert port relay.usedPorts })

def claimReservation (instanceId : InstanceId) : Option Nat × RelayState :=
  match relay.reservations.lookup instanceId with
  | none => (none, relay)
  | some reservation =>
      if expiredAt relay.now reservation then
        (none, { relay with
          reservations := relay.reservations.erase instanceId
          usedPorts := relay.usedPorts.erase reservation.port })
      else
        (some reservation.port, { relay with
          reservations := relay.reservations.insert instanceId { reservation with reservedAt := relay.now } })

def allocatePort (instanceId : InstanceId) : Option Nat × RelayState :=
  match relay.claimReservation instanceId with
  | (some reserved, after) => (some reserved, after)
  | (none, claimed) =>
      match claimed.takeFreePort with
      | (some port, after) => (some port, after)
      | (none, full) => full.expireReservations.takeFreePort

def reservePort (instanceId : InstanceId) (port : Nat) : RelayState :=
  saveReservations { relay with
    usedPorts := insert port relay.usedPorts
    reservations := relay.reservations.insert instanceId ⟨port, relay.now⟩ }

/-! ## SSH state -/

def setSshPort (instanceId : InstanceId) (port : Nat) : RelayState :=
  { relay with daemons := relay.daemons.modify instanceId fun conn => { conn with sshPort := some port } }

def hasSshPort (instanceId : InstanceId) : Bool :=
  (relay.daemons.lookup instanceId).any fun conn => conn.sshPort.isSome

def clearSshPort (instanceId : InstanceId) : RelayState :=
  { relay with daemons := relay.daemons.modify instanceId fun conn => { conn with sshPort := none } }

def updateSshEnabled (instanceId : InstanceId) (enabled : Bool) : Bool × RelayState :=
  match relay.daemons.lookup instanceId with
  | some conn => (conn.sshEnabled, { relay with
      daemons := relay.daemons.insert instanceId { conn with sshEnabled := enabled } })
  | none => (false, relay)

def listSshTargets : List SshTarget :=
  (relay.daemons.values.filter DaemonConn.sshEnabled).map fun conn =>
    { instanceId := conn.instanceId, clusterId := conn.clusterId, clusterName := conn.clusterName
      agentName := conn.agentName, hostname := conn.hostname, sshPort := conn.sshPort }

/-! ## Daemon registration -/

def register (conn : DaemonConn) : Bool × RelayState :=
  if conn.instanceId ∉ relay.daemons ∧ relay.daemons.size ≥ relay.maxDaemons then (false, relay)
  else (true, { relay with daemons := relay.daemons.insert conn.instanceId conn })

def canRegister (instanceId : InstanceId) (clusterId : Option Uuid) : Bool :=
  (relay.daemons.lookup instanceId).all fun conn => conn.clusterId = clusterId

def unregister (instanceId : InstanceId) (connectedAt : DateTime) : Option Nat × RelayState :=
  match relay.daemons.lookup instanceId with
  | none => (none, relay)
  | some conn =>
      if conn.connectedAt ≠ connectedAt then (none, relay)
      else
        let removed := { relay with daemons := relay.daemons.erase instanceId }
        match conn.sshPort with
        | some port => (some port, removed.reservePort instanceId port)
        | none => (none, removed)

def updateAllTunnels (instanceId : InstanceId) (tunnels : List ServiceTunnel) (fileTunnels shellTunnels : JsonText) :
    RelayState :=
  { relay with daemons := relay.daemons.modify instanceId fun conn =>
      { conn with tunnels := tunnels.take 100, fileTunnels := fileTunnels, shellTunnels := shellTunnels } }

/-! ## Tunnel queries -/

def listTunnels : List TunnelInfo :=
  relay.daemons.values.map fun conn =>
    { instanceId := conn.instanceId, clusterId := conn.clusterId, clusterName := conn.clusterName
      agentName := conn.agentName, hostname := conn.hostname, connectedAt := conn.connectedAt, tunnels := conn.tunnels }

def listInstances : List InstanceInfo :=
  relay.daemons.values.map fun conn =>
    { instanceId := conn.instanceId, clusterId := conn.clusterId, clusterName := conn.clusterName
      hostname := conn.hostname, connectedAt := conn.connectedAt, tunnels := conn.tunnels, fileTunnels := conn.fileTunnels
      shellTunnels := conn.shellTunnels, sshEnabled := conn.sshEnabled, sshPort := conn.sshPort }

/-- `given` is an instance id or the beginning of one. -/
def resolvePrefix (given : String) : Option InstanceId :=
  if given ∈ relay.daemons then some given
  else
    match relay.daemons.keys.filter fun id => given.toList.isPrefixOf id.toList with
    | [first] => some first
    | _ => none

def hasTunnel (given tunnelName : String) : Bool :=
  ((relay.resolvePrefix given).bind relay.daemons.lookup).any fun conn =>
    conn.tunnels.any fun tunnel => tunnel.name = tunnelName

def getClusterId (given : String) : Option Uuid :=
  ((relay.resolvePrefix given).bind relay.daemons.lookup).bind DaemonConn.clusterId

def getPeerId (instanceId : InstanceId) : Option PeerId :=
  (relay.daemons.lookup instanceId).bind DaemonConn.peerId

def resolvePeerId (given : String) : Option PeerId := (relay.resolvePrefix given).bind relay.getPeerId

def isConnected (given : String) : Bool := (relay.resolvePrefix given).isSome

/-! ## The SSH bridge -/

def onSshEnabled (instanceId : InstanceId) : RelayState :=
  match relay.listeners.lookup instanceId with
  | some port => relay.setSshPort instanceId port
  | none =>
      match relay.allocatePort instanceId with
      | (none, after) => after
      | (some port, after) =>
          let reserved := (after.setSshPort instanceId port).reservePort instanceId port
          { reserved with listeners := reserved.listeners.insert instanceId port }

def removeListener (instanceId : InstanceId) : RelayState :=
  match relay.listeners.lookup instanceId with
  | none => relay
  | some port =>
      let stopped := { relay with listeners := relay.listeners.erase instanceId }
      (stopped.reservePort instanceId port).clearSshPort instanceId

def onSshDisabled (instanceId : InstanceId) : RelayState := relay.removeListener instanceId

def onDaemonDisconnect (instanceId : InstanceId) : RelayState := relay.removeListener instanceId

end RelayState

/-! ## Runs of the SSH-port operations -/

/-- `restart` gives the entries of the file in the order in which the new process iterates over them. -/
inductive PortOp where
  | register (conn : DaemonConn)
  | onSshEnabled (instanceId : InstanceId)
  | onSshDisabled (instanceId : InstanceId)
  | unregister (instanceId : InstanceId) (connectedAt : DateTime)
  | onDaemonDisconnect (instanceId : InstanceId)
  | updateSshEnabled (instanceId : InstanceId) (enabled : Bool)
  | expireReservations
  | clock (now : DateTime)
  | diskWritable (writable : Bool)
  | fileLost
  | restart (order : Option Reservations)

def reordered : Option Reservations → Option Reservations → Bool
  | none, none => true
  | some order, some file => order.entries.isPerm file.entries
  | _, _ => false

/-- The daemons' register request carries no port: the relay stores `ssh_port: None`. -/
def portStep (relay : RelayState) : PortOp → Option RelayState
  | .register conn => some (relay.register { conn with sshPort := none }).2
  | .onSshEnabled instanceId => some (relay.onSshEnabled instanceId)
  | .onSshDisabled instanceId => some (relay.onSshDisabled instanceId)
  | .unregister instanceId connectedAt => some (relay.unregister instanceId connectedAt).2
  | .onDaemonDisconnect instanceId => some (relay.onDaemonDisconnect instanceId)
  | .updateSshEnabled instanceId enabled => some (relay.updateSshEnabled instanceId enabled).2
  | .expireReservations => some relay.expireReservations
  | .clock now => some { relay with now }
  | .diskWritable writable => some { relay with writable }
  | .fileLost => some { relay with file := none }
  | .restart order =>
      if reordered order relay.file then
        some { RelayState.new relay.now relay.maxDaemons relay.portMin relay.portMax order relay.writable with
          file := relay.file }
      else none

end MacMgmt.Relay
