import MacMgmt.Lib.Run
import MacMgmt.Relay.Http

/-!
# Routing of proxied requests

The requests of `relay/src/proxy_handler.rs` and the certificate login of `relay/src/api.rs` as sequences of registry
reads. `get_cluster_id`, `resolve_peer_id` and `has_tunnel` each take the lock twice: `resolve_prefix` reads the full
instance id, then the entry of that id is read. Between any two reads the swarm's handlers may change the registry. The
token cache and the answers of the management server come in with a request; the relay has its swarm.
-/

namespace MacMgmt.Relay
open Lib

def localProxyTokenTtl : DateTime := seconds (6 * 3600)

def covers (clusterIds : List Uuid) (admin : Bool) : Option Uuid → Bool
  | some cluster => cluster ∈ clusterIds
  | none => admin

def CertAuthInfo.covers (info : CertAuthInfo) : Option Uuid → Bool :=
  Relay.covers info.clusterIds (info.tokenKind = "cert_admin")

/-- A token of the management server, or a token minted by `/cert-login`. The certificate that the latter was minted for
is history: the relay keeps the prefix and the service only. -/
inductive Credential where
  | serverToken (info : AuthInfo)
  | localToken (holder : CertAuthInfo) (scopes : List String)
deriving DecidableEq

namespace Credential

def scopes : Credential → List String
  | .serverToken info => info.scopes
  | .localToken _ scopes => scopes

def covers : Credential → Option Uuid → Bool
  | .serverToken info => Relay.covers info.clusterIds (info.tokenKind = "admin")
  | .localToken holder _ => holder.covers

/-- The cluster check of `authenticate_proxy`. A local token passes whatever the cluster is. -/
def clusterAuthorized : Credential → Option Uuid → Bool
  | .serverToken info => (Credential.serverToken info).covers
  | .localToken _ _ => fun _ => true

end Credential

inductive Goal where
  | certLogin (service : String) (info : CertAuthInfo)
  | proxy (credential : Credential) (requiredScope : String) (tunnelName : Option String)
deriving DecidableEq

/-- The question to the registry that a request has open. `confirmTunnel` is `has_tunnel` after the peer id is known, with
the cluster of the daemon whose peer id it is. -/
inductive Query where
  | hasTunnel
  | getClusterId
  | resolvePeerId
  | confirmTunnel (receiver : Option Uuid)
deriving DecidableEq

/-- `full` is what `resolve_prefix` returned for the open question. -/
structure RoutedRequest where
  given : String
  goal : Goal
  query : Query
  full : Option InstanceId
deriving DecidableEq

/-- `received` is history: the credential of each request that was sent to a daemon and the cluster of that daemon. -/
structure Routing where
  swarm : Swarm
  localTokens : Table String (LocalProxyToken × CertAuthInfo)
  requests : Table Nat RoutedRequest
  received : List (Credential × Option Uuid)

inductive RoutingEvent where
  | swarm (event : SwarmEvent)
  | certLogin (id : Nat) (given service : String) (info : CertAuthInfo)
  | arrive (id : Nat) (token given requiredScope : String) (tunnelName : Option String) (answer : Option AuthInfo)
  | read (id : Nat) (random : String)

def offersTunnel (entry : Option DaemonConn) (tunnelName : String) : Bool :=
  entry.any fun conn => conn.tunnels.any fun tunnel => tunnel.name = tunnelName

namespace Routing

def start (swarm : Swarm) : Routing := ⟨swarm, ∅, ∅, []⟩

variable (routing : Routing) (id : Nat) (request : RoutedRequest)

/-- `validate_local_proxy_token` first, the management server's answer otherwise. -/
def credential (token given : String) (answer : Option AuthInfo) : Option Credential :=
  match routing.localTokens.lookup token with
  | some (found, holder) =>
      if found.expiresAt ≤ routing.swarm.relay.now ∨ found.instanceId ≠ given then serverCredential answer
      else some (.localToken holder ["tcp:" ++ found.service])
  | none => serverCredential answer
where
  serverCredential (answer : Option AuthInfo) : Option Credential :=
    (answer.filter fun info => info.tokenKind = "proxy" || info.tokenKind = "admin").map .serverToken

def mintLocalProxyToken (token given service : String) (holder : CertAuthInfo) : Routing :=
  let now := routing.swarm.relay.now
  let store := routing.localTokens.retain fun _ found => now < found.1.expiresAt
  { routing with localTokens := store.insert token (⟨given, service, now + localProxyTokenTtl⟩, holder) }

def set : Routing := { routing with requests := routing.requests.insert id request }

def finish : Routing := { routing with requests := routing.requests.erase id }

def ask (query : Query) : Routing := routing.set id { request with query, full := none }

def deliver (credential : Credential) (receiver : Option Uuid) : Routing :=
  { routing.finish id with received := routing.received ++ [(credential, receiver)] }

def answer (random : String) (entry : Option DaemonConn) : Routing :=
  match request.goal, request.query with
  | .certLogin service _, .hasTunnel =>
      if offersTunnel entry service then routing.ask id request .getClusterId else routing.finish id
  | .certLogin service info, .getClusterId =>
      if info.covers (entry.bind DaemonConn.clusterId) then
        (routing.mintLocalProxyToken random request.given service info).finish id
      else routing.finish id
  | .proxy credential requiredScope _, .getClusterId =>
      if credential.clusterAuthorized (entry.bind DaemonConn.clusterId) && hasScope credential.scopes requiredScope then
        routing.ask id request .resolvePeerId
      else routing.finish id
  | .proxy credential _ tunnelName, .resolvePeerId =>
      match entry with
      | none => routing.finish id
      | some conn =>
          if conn.peerId.isNone then routing.finish id
          else if tunnelName.isNone then routing.deliver id credential conn.clusterId
          else routing.ask id request (.confirmTunnel conn.clusterId)
  | .proxy credential _ (some tunnelName), .confirmTunnel receiver =>
      if offersTunnel entry tunnelName then routing.deliver id credential receiver else routing.finish id
  | _, _ => routing.finish id

def read (random : String) : Routing :=
  match request.full with
  | none =>
      match routing.swarm.relay.resolvePrefix request.given with
      | some full => routing.set id { request with full := some full }
      | none => routing.answer id request random none
  | some full => routing.answer id request random (routing.swarm.relay.daemons.lookup full)

def step (routing : Routing) : RoutingEvent → Option Routing
  | .swarm event => (swarmStep routing.swarm event).map fun swarm => { routing with swarm }
  | .certLogin id given service info =>
      if id ∈ routing.requests ∨ !isInstancePrefix given.toList ∨ service = "" ∨
          !service.toList.all fun c => c.isAlphanum || c = '-' || c = '_' then none
      else some (routing.set id ⟨given, .certLogin service info, .hasTunnel, none⟩)
  | .arrive id token given requiredScope tunnelName answer =>
      if id ∈ routing.requests then none
      else (routing.credential token given answer).map fun credential =>
        routing.set id ⟨given, .proxy credential requiredScope tunnelName, .getClusterId, none⟩
  | .read id random => (routing.requests.lookup id).map fun request => routing.read id request random

/-- Every daemon that got a request is in a cluster that the credential of the request was authorised for. -/
def Authorized (routing : Routing) : Prop := ∀ entry ∈ routing.received, entry.1.covers entry.2 = true

end Routing

/-! ## Registry changes that no open authorisation notices -/

namespace RelayState
variable (relay : RelayState)

def pointsInto (covered : Option Uuid → Bool) (given : String) : Bool :=
  ((relay.resolvePrefix given).bind relay.daemons.lookup).all fun conn => covered conn.clusterId

end RelayState

/-- What an open request relies on. Between the two reads of its cluster check the prefix must not resolve to another
daemon, afterwards it must not resolve to a daemon of a cluster that is not covered, and the daemon that was found for
its peer id must not come back in such a cluster. -/
def RoutedRequest.steady (request : RoutedRequest) (relay : RelayState) : Bool :=
  match request.goal, request.query, request.full with
  | .certLogin _ _, .getClusterId, some full => (relay.resolvePrefix request.given).all (· = full)
  | .proxy (.serverToken _) _ _, .getClusterId, some full => (relay.resolvePrefix request.given).all (· = full)
  | .proxy (.localToken holder _) _ _, .getClusterId, _ => relay.pointsInto holder.covers request.given
  | .proxy credential _ _, .resolvePeerId, none => relay.pointsInto credential.covers request.given
  | .proxy credential _ _, .resolvePeerId, some full =>
      (relay.daemons.lookup full).all fun conn => credential.covers conn.clusterId
  | _, _, _ => true

def tokenSteady (relay : RelayState) (token : LocalProxyToken × CertAuthInfo) : Bool :=
  token.1.expiresAt ≤ relay.now || relay.pointsInto token.2.covers token.1.instanceId

/-- A registry change that every open request and every live local token can take. -/
def Routing.Steady (routing : Routing) : RoutingEvent → Prop
  | .swarm event => (swarmStep routing.swarm event).all (fun after =>
      routing.requests.values.all (fun request => request.steady after.relay) &&
        routing.localTokens.values.all (tokenSteady after.relay)) = true
  | .certLogin .. | .arrive .. | .read .. => True

instance (routing : Routing) : (event : RoutingEvent) → Decidable (routing.Steady event)
  | .swarm _ => inferInstanceAs (Decidable (_ = _))
  | .certLogin .. | .arrive .. | .read .. => inferInstanceAs (Decidable True)

end MacMgmt.Relay
