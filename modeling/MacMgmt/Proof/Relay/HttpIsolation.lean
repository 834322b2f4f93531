import MacMgmt.Relay.Http
import MacMgmt.Proof.Relay.RegistryKeys

/-!
# Which daemons an HTTP request reaches

Every endpoint authenticates a request and looks a daemon up. The lookups by a short id agree with each other, so a cluster
that `get_cluster_id` has compared is the cluster of the daemon that is reached. The metrics proxy compares nothing, and a
relay-local token is taken for a daemon whatever its cluster.
-/

namespace MacMgmt.Proof.Relay
open Lib MacMgmt.Relay RelayState HttpState

/-! ## Lookups by a short id -/

theorem mem_of_resolvePrefix {relay : RelayState} {given : String} {id : InstanceId}
    (found : relay.resolvePrefix given = some id) : id ∈ relay.daemons := by
  unfold resolvePrefix at found
  split at found
  · rename_i present
    cases found
    exact present
  · split at found
    · rename_i matching
      cases found
      have first : id ∈ relay.daemons.keys.filter fun id => given.toList.isPrefixOf id.toList := by
        rw [matching]
        exact List.mem_singleton_self id
      exact (List.mem_filter.mp first).1
    · cases found

theorem resolvePrefix_self {relay : RelayState} {id : InstanceId} (present : id ∈ relay.daemons) :
    relay.resolvePrefix id = some id := if_pos present

theorem mem_resolved {http : HttpState} {given : String} {id : InstanceId} :
    id ∈ http.resolved given ↔ http.relay.resolvePrefix given = some id := Option.mem_toList

theorem mem_streamTo {http : HttpState} {given : String} {id : InstanceId} :
    id ∈ http.streamTo given ↔ (http.relay.resolvePeerId given).isSome = true ∧ id ∈ http.resolved given := by
  unfold streamTo
  split
  · rename_i peer
    simp [peer]
  · rename_i noPeer
    simp [noPeer]

def InClusters (http : HttpState) (clusterIds : List Uuid) (id : InstanceId) : Prop :=
  ∃ conn cluster, http.relay.daemons.lookup id = some conn ∧ conn.clusterId = some cluster ∧ cluster ∈ clusterIds

theorem inClusters_iff_getClusterId {http : HttpState} {given : String} {id : InstanceId} {clusterIds : List Uuid}
    (reached : id ∈ http.resolved given) :
    InClusters http clusterIds id ↔ ∃ cluster, http.relay.getClusterId given = some cluster ∧ cluster ∈ clusterIds := by
  have found := mem_resolved.mp reached
  obtain ⟨conn, registered⟩ := AList.lookup_isSome.mpr (mem_of_resolvePrefix found) |> Option.isSome_iff_exists.mp
  simp [InClusters, getClusterId, found, registered]

theorem inClusters_of_listed {http : HttpState} {conn : DaemonConn} {clusterIds : List Uuid}
    (listed : conn ∈ http.relay.daemons.values) (covered : conn.clusterId.any (· ∈ clusterIds) = true) :
    InClusters http clusterIds conn.instanceId := by
  obtain ⟨id, found⟩ := Table.mem_values.mp listed
  obtain ⟨cluster, registered, member⟩ := (Option.any_eq_true _ _).mp covered
  rw [http.keyed id conn found]
  exact ⟨conn, cluster, found, registered, of_decide_eq_true member⟩

/-! ## Authentication -/

theorem bind_eq_ok_iff {ε α β : Type} {first : Except ε α} {next : α → Except ε β} {result : β} :
    (first >>= next) = .ok result ↔ ∃ value, first = .ok value ∧ next value = .ok result := by
  cases first with
  | error failure =>
      constructor
      · intro impossible
        cases impossible
      · rintro ⟨value, impossible, -⟩
        cases impossible
  | ok value =>
      constructor
      · exact fun rest => ⟨value, rfl, rest⟩
      · rintro ⟨other, same, rest⟩
        cases same
        exact rest

theorem requireAuthExt_kind {http : HttpState} {request : Request} {info : AuthInfo}
    (granted : http.requireAuthExt request ["admin", "setting"] = .ok info) :
    info.tokenKind ∈ ["admin", "setting", "cert_admin", "cert_cluster", "cert_organization"] := by
  unfold requireAuthExt at granted
  split at granted
  · split at granted
    · cases granted
    · split at granted
      · rename_i allowed
        cases granted
        simp only [List.mem_cons, List.not_mem_nil, or_false] at allowed ⊢
        tauto
      · cases granted
  · split at granted
    · cases granted
    · split at granted
      · split at granted
        · cases granted
        · cases granted
      · split at granted
        · rename_i allowed
          cases granted
          simp only [CertAuthInfo.toAuthInfo, List.mem_cons, List.not_mem_nil, or_false] at allowed ⊢
          tauto
        · cases granted

theorem not_containsAdmin {http : HttpState} {request : Request} {info : AuthInfo}
    (granted : http.requireAuthExt request ["admin", "setting"] = .ok info)
    (nonAdmin : isAdminKind info.tokenKind = false) :
    contains info.tokenKind "admin" = false := by
  have kinds := requireAuthExt_kind granted
  simp only [List.mem_cons, List.not_mem_nil, or_false] at kinds
  rcases kinds with kind | kind | kind | kind | kind
  · rw [kind] at nonAdmin
    cases nonAdmin
  · rw [kind]
    decide
  · rw [kind] at nonAdmin
    cases nonAdmin
  · rw [kind]
    decide
  · rw [kind]
    decide

theorem covers_of_authorized {found : Option Uuid} {clusterIds : List Uuid} {admin : Bool}
    (authorized : (match found with
      | some cluster => decide (cluster ∈ clusterIds)
      | none => admin) = true)
    (nonAdmin : admin = false) : ∃ cluster, found = some cluster ∧ cluster ∈ clusterIds := by
  cases found with
  | none =>
      rw [nonAdmin] at authorized
      cases authorized
  | some cluster => exact ⟨cluster, rfl, of_decide_eq_true authorized⟩

theorem ne_admin_of_kind {tokenKind : String} (nonAdmin : isAdminKind tokenKind = false) :
    tokenKind ≠ "admin" ∧ tokenKind ≠ "cert_admin" := by
  simpa [isAdminKind] using nonAdmin

theorem verifyAccess_ok {http : HttpState} {request : Request} {instanceId : String} {info : AuthInfo}
    (granted : http.verifyAccess request instanceId = .ok info) :
    http.sshClusterAuthorized instanceId info.tokenKind info.clusterIds = true := by
  have byCert : ∀ other, (http.certAccess request instanceId).1 = some other →
      http.sshClusterAuthorized instanceId other.tokenKind other.clusterIds = true := by
    intro other access
    unfold certAccess at access
    split at access
    · cases access
    · split at access
      · cases access
      · split at access
        · rename_i authorized
          cases access
          exact authorized
        · cases access
  have byBearer : ∀ other, http.bearerAccess request instanceId = some other →
      http.sshClusterAuthorized instanceId other.tokenKind other.clusterIds = true := by
    intro other access
    unfold bearerAccess at access
    split at access
    · cases access
    · split at access
      · cases access
      · split at access
        · rename_i authorized
          cases access
          exact authorized.2
        · cases access
  unfold verifyAccess at granted
  dsimp only at granted
  split at granted
  · rename_i access
    cases granted
    exact byCert info access
  · rename_i access
    cases granted
    exact byBearer info access
  · cases granted
  · cases granted

theorem authorizeServerToken_ok {http : HttpState} {token instanceId : String} {info : AuthInfo}
    (granted : http.authorizeServerToken token instanceId = .ok info) :
    http.clusterAuthorized info instanceId = true := by
  unfold authorizeServerToken at granted
  split at granted
  · cases granted
  · split at granted
    · cases granted
    · split at granted
      · cases granted
      · rename_i authorized
        cases granted
        rw [Bool.not_eq_true', Bool.not_eq_false] at authorized
        exact authorized

def localInfo (http : HttpState) (instanceId : String) (scopes : List String) : AuthInfo :=
  { clusterId := none, clusterName := none, tokenKind := "proxy", organizationId := none
    clusterIds := (http.relay.getClusterId instanceId).toList, scopes }

theorem authenticateToken_local {http : HttpState} {token instanceId : String} {scopes : List String}
    (valid : http.validateLocalProxyToken token instanceId = some scopes) :
    http.authenticateToken token instanceId = .ok (localInfo http instanceId scopes) := by
  unfold authenticateToken localSelfInfo
  rw [valid]
  rfl

theorem authenticateToken_ok {http : HttpState} {token instanceId : String} {info : AuthInfo}
    (granted : http.authenticateToken token instanceId = .ok info) :
    (∃ scopes, http.validateLocalProxyToken token instanceId = some scopes ∧ info = localInfo http instanceId scopes) ∨
      http.clusterAuthorized info instanceId = true := by
  cases valid : http.validateLocalProxyToken token instanceId with
  | some scopes =>
      rw [authenticateToken_local valid] at granted
      cases granted
      exact .inl ⟨scopes, rfl, rfl⟩
  | none =>
      unfold authenticateToken localSelfInfo at granted
      rw [valid] at granted
      exact .inr (authorizeServerToken_ok granted)

theorem hasScope_tcp {service required : String} (granted : hasScope ["tcp:" ++ service] required = true) :
    startsWith "tcp:" required = true := by
  simp only [hasScope, List.isEmpty_cons, List.any_cons, List.any_nil, Bool.or_false, Bool.false_or, Bool.or_eq_true,
    Bool.and_eq_true, decide_eq_true_eq] at granted
  rcases granted with (wildcard | same) | tcp
  · have chars := congrArg String.toList wildcard
    rw [String.toList_append] at chars
    cases chars
  · rw [← same, startsWith, String.toList_append]
    exact List.isPrefixOf_iff_prefix.mpr (List.prefix_append _ _)
  · exact tcp.1

theorem hasScope_local {http : HttpState} {token instanceId required : String} {scopes : List String}
    (valid : http.validateLocalProxyToken token instanceId = some scopes) (granted : hasScope scopes required = true) :
    startsWith "tcp:" required = true := by
  obtain ⟨found, -, kept⟩ := Option.bind_eq_some_iff.mp valid
  split at kept
  · cases kept
  · cases kept
    exact hasScope_tcp granted

/-! ## Isolation -/

/-- A request served on a credential that is not an administrator's reaches only daemons of the credential's clusters. -/
def Isolated (http : HttpState) (request : Request) (endpoint : Endpoint) : Prop :=
  ∀ served, http.serve request endpoint = .ok served → isAdminKind served.info.tokenKind = false →
    ∀ id ∈ served.reached, InClusters http served.info.clusterIds id

theorem isolated_of_compared {http : HttpState} {request : Request} {endpoint : Endpoint}
    (compared : ∀ served, http.serve request endpoint = .ok served → isAdminKind served.info.tokenKind = false →
      ∃ given, served.reached ⊆ http.resolved given ∧
        ∃ cluster, http.relay.getClusterId given = some cluster ∧ cluster ∈ served.info.clusterIds) :
    Isolated http request endpoint := by
  intro served answered nonAdmin id reached
  obtain ⟨given, resolves, covered⟩ := compared served answered nonAdmin
  exact (inClusters_iff_getClusterId (resolves reached)).mpr covered

theorem isolated_token_iff {κ : Type} {http : HttpState} {request : Request} {endpoint : Endpoint}
    {answer : Except Refusal Served} {instanceOf : κ → String} {presents : κ → String → Prop}
    {passes : κ → AuthInfo → Prop} {reached : κ → List InstanceId}
    (spec : ∀ {served}, answer = .ok served ↔ ∃ key token info, presents key token ∧
      http.authenticateToken token (instanceOf key) = .ok info ∧ passes key info ∧ served = ⟨info, reached key⟩)
    (serves : http.serve request endpoint = answer)
    (resolves : ∀ key, reached key ⊆ http.resolved (instanceOf key)) :
    Isolated http request endpoint ↔ ∀ key token scopes, presents key token →
      http.validateLocalProxyToken token (instanceOf key) = some scopes →
        passes key (localInfo http (instanceOf key) scopes) → reached key ≠ [] →
          (http.relay.getClusterId (instanceOf key)).isSome = true := by
  subst serves
  constructor
  · intro isolated key token scopes presented valid passed some_reached
    obtain ⟨id, reached_id⟩ := List.exists_mem_of_ne_nil _ some_reached
    have answered := spec.mpr ⟨key, token, _, presented, authenticateToken_local valid, passed, rfl⟩
    have covered := isolated _ answered rfl id reached_id
    obtain ⟨cluster, found, -⟩ := (inClusters_iff_getClusterId (resolves key reached_id)).mp covered
    rw [found]
    rfl
  · intro known served answered nonAdmin id reached_id
    obtain ⟨key, token, info, presented, granted, passed, rfl⟩ := spec.mp answered
    apply (inClusters_iff_getClusterId (resolves key reached_id)).mpr
    rcases authenticateToken_ok granted with ⟨scopes, valid, rfl⟩ | authorized
    · have some_reached : reached key ≠ [] := List.ne_nil_of_mem reached_id
      obtain ⟨cluster, found⟩ :=
        Option.isSome_iff_exists.mp (known key token scopes presented valid passed some_reached)
      exact ⟨cluster, found, Option.mem_toList.mpr found⟩
    · exact covers_of_authorized authorized (decide_eq_false (ne_admin_of_kind nonAdmin).1)

theorem authenticateProxy_ok_iff {http : HttpState} {request : Request} {instanceId : String} {info : AuthInfo} :
    http.authenticateProxy request instanceId = .ok info ↔
      ∃ token, extractToken request = some token ∧ http.authenticateToken token instanceId = .ok info := by
  unfold authenticateProxy
  cases extractToken request <;> simp

theorem authenticateProxyScoped_ok_iff {http : HttpState} {request : Request} {instanceId scope : String}
    {info : AuthInfo} :
    http.authenticateProxyScoped request instanceId scope = .ok info ↔
      ∃ token, extractToken request = some token ∧ http.authenticateToken token instanceId = .ok info ∧
        hasScope info.scopes scope = true := by
  unfold authenticateProxyScoped
  rw [bind_eq_ok_iff]
  constructor
  · rintro ⟨value, granted, passed⟩
    obtain ⟨token, presented, granted⟩ := authenticateProxy_ok_iff.mp granted
    split at passed
    · rename_i inScope
      cases passed
      exact ⟨token, presented, granted, inScope⟩
    · cases passed
  · rintro ⟨token, presented, granted, inScope⟩
    exact ⟨info, authenticateProxy_ok_iff.mpr ⟨token, presented, granted⟩, if_pos inScope⟩

theorem resolveSwarmAndPeer_ok_iff {http : HttpState} {instanceId : String} {reached : List InstanceId} :
    http.resolveSwarmAndPeer instanceId = .ok reached ↔
      http.p2p = true ∧ (http.relay.resolvePeerId instanceId).isSome = true ∧ reached = http.streamTo instanceId := by
  unfold resolveSwarmAndPeer
  cases http.p2p with
  | false => simp
  | true => cases http.relay.resolvePeerId instanceId <;> simp [eq_comm]

theorem catchallAuthenticate_ok_iff {http : HttpState} {request : Request} {instanceId tunnelName : String}
    {info : AuthInfo} :
    http.catchallAuthenticate request instanceId tunnelName = .ok info ↔
      http.authenticateProxy request instanceId = .ok info := by
  unfold catchallAuthenticate
  cases http.authenticateProxy request instanceId with
  | ok granted => rfl
  | error refusal =>
      dsimp only
      split <;> simp

theorem proxyCatchall_ok_iff {http : HttpState} {request : Request} {served : Served} :
    http.proxyCatchall request = .ok served ↔ ∃ (key : String × String) (token : String) (info : AuthInfo),
      (parseSubdomain http.proxyHostname request.host = some key ∧ extractToken request = some token) ∧
      http.authenticateToken token key.1 = .ok info ∧
      (hasScope info.scopes ("tcp:" ++ key.2) = true ∧ http.p2p = true ∧
        (http.relay.resolvePeerId key.1).isSome = true ∧ http.relay.hasTunnel key.1 key.2 = true ∧
        request.bodyLength ≤ maxProxyBody) ∧
      served = ⟨info, http.streamTo key.1⟩ := by
  unfold proxyCatchall
  cases parseSubdomain http.proxyHostname request.host with
  | none => simp
  | some key =>
      simp only [bind_eq_ok_iff, catchallAuthenticate_ok_iff, authenticateProxy_ok_iff]
      constructor
      · rintro ⟨info, ⟨token, presented, granted⟩, rest⟩
        split at rest
        · cases rest
        · rename_i inScope
          split at rest
          · cases rest
          · rename_i reached resolved
            obtain ⟨p2p, peer, rfl⟩ := resolveSwarmAndPeer_ok_iff.mp resolved
            split at rest
            · cases rest
            · rename_i tunnel
              split at rest
              · cases rest
              · rename_i fits
                cases rest
                simp only [Bool.not_eq_true', Bool.not_eq_false] at inScope tunnel
                exact ⟨key, token, info, ⟨rfl, presented⟩, granted, ⟨inScope, p2p, peer, tunnel, not_lt.mp fits⟩, rfl⟩
      · rintro ⟨other, token, info, ⟨same, presented⟩, granted, ⟨inScope, p2p, peer, tunnel, fits⟩, rfl⟩
        cases same
        refine ⟨info, ⟨token, presented, granted⟩, ?_⟩
        simp [inScope, resolveSwarmAndPeer_ok_iff.mpr ⟨p2p, peer, rfl⟩, tunnel, not_lt.mpr fits]

theorem proxyWebsocket_ok_iff {http : HttpState} {request : Request} {served : Served} :
    http.proxyWebsocket request = .ok served ↔ ∃ (key : String × String) (token : String) (info : AuthInfo),
      (parseSubdomain http.proxyHostname request.host = some key ∧ extractToken request = some token) ∧
      http.authenticateToken token key.1 = .ok info ∧ hasScope info.scopes ("tcp:" ++ key.2) = true ∧
      served = ⟨info, http.streamTo key.1⟩ := by
  unfold proxyWebsocket
  cases parseSubdomain http.proxyHostname request.host with
  | none => simp
  | some key =>
      simp only [bind_eq_ok_iff, authenticateProxyScoped_ok_iff]
      constructor
      · rintro ⟨info, ⟨token, presented, granted, inScope⟩, rest⟩
        cases rest
        exact ⟨key, token, info, ⟨rfl, presented⟩, granted, inScope, rfl⟩
      · rintro ⟨other, token, info, ⟨same, presented⟩, granted, inScope, rfl⟩
        cases same
        exact ⟨info, ⟨token, presented, granted, inScope⟩, rfl⟩

theorem proxyRequest_ok_iff {http : HttpState} {request : Request} {proxyToken : String} {served : Served} :
    http.proxyRequest request proxyToken = .ok served ↔ ∃ (key : String × String) (token : String) (info : AuthInfo),
      (parseSubdomain http.proxyHostname request.host = some key ∧ token = proxyToken) ∧
      http.authenticateToken token key.1 = .ok info ∧
      (hasScope info.scopes ("tcp:" ++ key.2) = true ∧ http.p2p = true ∧
        (http.relay.resolvePeerId key.1).isSome = true) ∧
      served = ⟨info, http.streamTo key.1⟩ := by
  unfold proxyRequest
  cases parseSubdomain http.proxyHostname request.host with
  | none => simp
  | some key =>
      simp only [bind_eq_ok_iff]
      constructor
      · rintro ⟨info, granted, rest⟩
        split at rest
        · cases rest
        · rename_i inScope
          obtain ⟨reached, resolved, rest⟩ := bind_eq_ok_iff.mp rest
          obtain ⟨p2p, peer, rfl⟩ := resolveSwarmAndPeer_ok_iff.mp resolved
          cases rest
          simp only [Bool.not_eq_true', Bool.not_eq_false] at inScope
          exact ⟨key, proxyToken, info, ⟨rfl, rfl⟩, granted, ⟨inScope, p2p, peer⟩, rfl⟩
      · rintro ⟨other, token, info, ⟨same, rfl⟩, granted, ⟨inScope, p2p, peer⟩, rfl⟩
        cases same
        refine ⟨info, granted, ?_⟩
        rw [inScope]
        exact bind_eq_ok_iff.mpr ⟨_, resolveSwarmAndPeer_ok_iff.mpr ⟨p2p, peer, rfl⟩, rfl⟩

theorem tunnelRequest_ok_iff {http : HttpState} {request : Request} {scope : String} {served : Served} :
    http.tunnelRequest request scope = .ok served ↔ ∃ (instanceId token : String) (info : AuthInfo),
      (parseInstancePrefix http.proxyHostname request.host = some instanceId ∧ extractToken request = some token) ∧
      http.authenticateToken token instanceId = .ok info ∧
      (hasScope info.scopes scope = true ∧ http.p2p = true ∧ (http.relay.resolvePeerId instanceId).isSome = true) ∧
      served = ⟨info, http.streamTo instanceId⟩ := by
  unfold tunnelRequest
  cases parseInstancePrefix http.proxyHostname request.host with
  | none => simp
  | some instanceId =>
      simp only [bind_eq_ok_iff, authenticateProxyScoped_ok_iff, resolveSwarmAndPeer_ok_iff]
      constructor
      · rintro ⟨info, ⟨token, presented, granted, inScope⟩, reached, ⟨p2p, peer, rfl⟩, rest⟩
        cases rest
        exact ⟨instanceId, token, info, ⟨rfl, presented⟩, granted, ⟨inScope, p2p, peer⟩, rfl⟩
      · rintro ⟨other, token, info, ⟨same, presented⟩, granted, ⟨inScope, p2p, peer⟩, rfl⟩
        cases same
        exact ⟨info, ⟨token, presented, granted, inScope⟩, _, ⟨p2p, peer, rfl⟩, rfl⟩

theorem daemonPing_ok_iff {http : HttpState} {request : Request} {served : Served} :
    http.daemonPing request = .ok served ↔ ∃ (instanceId token : String) (info : AuthInfo),
      (parseInstancePrefix http.proxyHostname request.host = some instanceId ∧ extractToken request = some token) ∧
      http.authenticateToken token instanceId = .ok info ∧ http.relay.isConnected instanceId = true ∧
      served = ⟨info, http.resolved instanceId⟩ := by
  unfold daemonPing
  cases parseInstancePrefix http.proxyHostname request.host with
  | none => simp
  | some instanceId =>
      constructor
      · intro answered
        dsimp only at answered
        split at answered
        · cases answered
        · rename_i info granted
          obtain ⟨token, presented, granted⟩ := authenticateProxy_ok_iff.mp granted
          split at answered
          · rename_i connected
            cases answered
            exact ⟨instanceId, token, info, ⟨rfl, presented⟩, granted, connected, rfl⟩
          · cases answered
      · rintro ⟨other, token, info, ⟨same, presented⟩, granted, connected, rfl⟩
        cases same
        dsimp only
        rw [authenticateProxy_ok_iff.mpr ⟨token, presented, granted⟩]
        exact if_pos connected

/-! ## The endpoints -/

/-- A relay-local token presented for a daemon that a stream can be opened to is presented for one with a cluster. -/
def LocalCovered (http : HttpState) (presented : Option String) (instanceId requiredScope : String) : Prop :=
  ∀ token scopes, presented = some token → http.validateLocalProxyToken token instanceId = some scopes →
    hasScope scopes requiredScope = true → (http.relay.resolvePeerId instanceId).isSome = true →
      (http.relay.getClusterId instanceId).isSome = true

def Compared (http : HttpState) (request : Request) : Endpoint → Prop
  | .proxyMetrics instanceId path => ∀ info, http.requireAuthExt request ["admin", "setting"] = .ok info →
      isAdminKind info.tokenKind = false → isSafePath path = true →
        (http.relay.resolvePeerId instanceId).isSome = true →
          ∃ cluster, http.relay.getClusterId instanceId = some cluster ∧ cluster ∈ info.clusterIds
  | .proxyCatchall => ∀ instanceId tunnelName,
      parseSubdomain http.proxyHostname request.host = some (instanceId, tunnelName) → http.p2p = true →
        http.relay.hasTunnel instanceId tunnelName = true → request.bodyLength ≤ maxProxyBody →
          LocalCovered http (extractToken request) instanceId ("tcp:" ++ tunnelName)
  | .proxyWebsocket => ∀ instanceId tunnelName,
      parseSubdomain http.proxyHostname request.host = some (instanceId, tunnelName) →
        LocalCovered http (extractToken request) instanceId ("tcp:" ++ tunnelName)
  | .proxyRequest proxyToken => ∀ instanceId tunnelName,
      parseSubdomain http.proxyHostname request.host = some (instanceId, tunnelName) → http.p2p = true →
        LocalCovered http (some proxyToken) instanceId ("tcp:" ++ tunnelName)
  | .daemonPing => ∀ instanceId token scopes,
      parseInstancePrefix http.proxyHostname request.host = some instanceId → extractToken request = some token →
        http.validateLocalProxyToken token instanceId = some scopes → http.relay.isConnected instanceId = true →
          (http.relay.getClusterId instanceId).isSome = true
  | _ => True

section Endpoints
variable {http : HttpState} {request : Request}

theorem streamTo_subset (given : String) : http.streamTo given ⊆ http.resolved given :=
  fun _ reached => (mem_streamTo.mp reached).2

theorem resolved_ne_nil {given : String} : http.resolved given ≠ [] ↔ http.relay.isConnected given = true := by
  unfold HttpState.resolved isConnected
  cases http.relay.resolvePrefix given <;> simp

theorem streamTo_ne_nil {given : String} :
    http.streamTo given ≠ [] ↔ (http.relay.resolvePeerId given).isSome = true := by
  unfold HttpState.streamTo
  split
  · rename_i peer
    simp only [peer, iff_true]
    apply resolved_ne_nil.mpr
    unfold isConnected
    unfold resolvePeerId at peer
    cases found : http.relay.resolvePrefix given with
    | none =>
        rw [found] at peer
        cases peer
    | some id => rfl
  · rename_i noPeer
    simp [noPeer]

theorem proxyMetrics_isolated_iff (instanceId path : String) :
    Isolated http request (.proxyMetrics instanceId path) ↔ Compared http request (.proxyMetrics instanceId path) := by
  constructor
  · intro isolated info granted nonAdmin safe peer
    obtain ⟨id, reached⟩ := List.exists_mem_of_ne_nil _ (streamTo_ne_nil.mpr peer)
    have answered : http.serve request (.proxyMetrics instanceId path) = .ok ⟨info, http.streamTo instanceId⟩ := by
      apply bind_eq_ok_iff.mpr
      refine ⟨info, granted, ?_⟩
      rw [safe, Option.isNone_eq_false_iff.mpr peer]
      rfl
    have covered := isolated _ answered nonAdmin id reached
    exact (inClusters_iff_getClusterId (streamTo_subset instanceId reached)).mp covered
  · intro compared
    apply isolated_of_compared
    intro served answered nonAdmin
    obtain ⟨info, granted, rest⟩ := bind_eq_ok_iff.mp answered
    split at rest
    · cases rest
    · rename_i safe
      split at rest
      · cases rest
      · rename_i peer
        cases rest
        simp only [Bool.not_eq_true', Bool.not_eq_false] at safe
        rw [Bool.not_eq_true, Option.isNone_eq_false_iff] at peer
        exact ⟨instanceId, streamTo_subset instanceId, compared info granted nonAdmin safe peer⟩

theorem certLogin_isolated (instanceId service : String) : Isolated http request (.certLogin instanceId service) := by
  apply isolated_of_compared
  intro served answered nonAdmin
  unfold HttpState.serve HttpState.certLogin at answered
  dsimp only at answered
  split at answered
  · cases answered
  · split at answered
    · cases answered
    · split at answered
      · cases answered
      · split at answered
        · cases answered
        · split at answered
          · split at answered <;> cases answered
          · split at answered
            · rename_i authorized
              cases answered
              have covered := covers_of_authorized authorized (decide_eq_false (ne_admin_of_kind nonAdmin).2)
              exact ⟨instanceId, List.Subset.refl _, covered⟩
            · cases answered

theorem listTunnels_isolated : Isolated http request .listTunnels := by
  intro served answered nonAdmin id reached
  obtain ⟨info, granted, rest⟩ := bind_eq_ok_iff.mp answered
  cases rest
  rw [not_containsAdmin granted nonAdmin] at reached
  obtain ⟨tunnel, kept, rfl⟩ := List.mem_map.mp reached
  obtain ⟨listed, covered⟩ := List.mem_filter.mp kept
  obtain ⟨conn, present, rfl⟩ := List.mem_map.mp listed
  exact inClusters_of_listed present covered

theorem listSshTargets_isolated : Isolated http request .listSshTargets := by
  intro served answered nonAdmin id reached
  obtain ⟨info, granted, rest⟩ := bind_eq_ok_iff.mp answered
  cases rest
  rw [not_containsAdmin granted nonAdmin] at reached
  obtain ⟨target, kept, rfl⟩ := List.mem_map.mp reached
  obtain ⟨listed, covered⟩ := List.mem_filter.mp kept
  obtain ⟨conn, enabled, rfl⟩ := List.mem_map.mp listed
  exact inClusters_of_listed (List.mem_filter.mp enabled).1 covered

theorem federatedMetrics_isolated : Isolated http request .federatedMetrics := by
  intro served answered nonAdmin id reached
  obtain ⟨info, granted, rest⟩ := bind_eq_ok_iff.mp answered
  cases rest
  rw [if_neg (ne_admin_of_kind nonAdmin).1] at reached
  obtain ⟨tunnel, kept, reached⟩ := List.mem_flatMap.mp reached
  obtain ⟨listed, covered⟩ := List.mem_filter.mp kept
  obtain ⟨conn, present, rfl⟩ := List.mem_map.mp listed
  have here : InClusters http info.clusterIds conn.instanceId := inClusters_of_listed present covered
  rcases List.mem_cons.mp reached with rfl | scraped
  · exact here
  -- The scrape looks the id up once more; it is a key, so the lookup gives it back.
  · obtain ⟨other, -, registered, -⟩ := here
    have self := resolvePrefix_self (AList.lookup_isSome.mp (Option.isSome_of_eq_some registered))
    have same := (mem_resolved.mp (streamTo_subset _ scraped)).symm.trans self
    cases same
    exact inClusters_of_listed present covered

theorem sshWs_isolated (instanceId : String) : Isolated http request (.sshWs instanceId) := by
  apply isolated_of_compared
  intro served answered nonAdmin
  obtain ⟨info, granted, rest⟩ := bind_eq_ok_iff.mp answered
  cases rest
  exact ⟨instanceId, List.Subset.refl _, covers_of_authorized (verifyAccess_ok granted) nonAdmin⟩

theorem sshPage_isolated (instanceId : String) : Isolated http request (.sshPage instanceId) := by
  intro served answered nonAdmin id reached
  obtain ⟨info, granted, rest⟩ := bind_eq_ok_iff.mp answered
  cases rest
  cases reached

theorem tunnelRequest_isolated {endpoint : Endpoint} {scope : String}
    (serves : http.serve request endpoint = http.tunnelRequest request scope) (other : startsWith "tcp:" scope = false) :
    Isolated http request endpoint := by
  apply (isolated_token_iff tunnelRequest_ok_iff serves streamTo_subset).mpr
  intro instanceId token scopes _ valid passed _
  rw [hasScope_local valid passed.1] at other
  cases other

theorem proxyCatchall_isolated_iff : Isolated http request .proxyCatchall ↔ Compared http request .proxyCatchall := by
  refine (isolated_token_iff proxyCatchall_ok_iff rfl fun key => streamTo_subset key.1).trans ?_
  constructor
  · intro known instanceId tunnelName parsed p2p tunnel fits token scopes presented valid inScope peer
    exact known (instanceId, tunnelName) token scopes ⟨parsed, presented⟩ valid ⟨inScope, p2p, peer, tunnel, fits⟩
      (streamTo_ne_nil.mpr peer)
  · intro compared key token scopes presents valid passed _
    obtain ⟨inScope, p2p, peer, tunnel, fits⟩ := passed
    exact compared key.1 key.2 presents.1 p2p tunnel fits token scopes presents.2 valid inScope peer

theorem proxyWebsocket_isolated_iff : Isolated http request .proxyWebsocket ↔ Compared http request .proxyWebsocket := by
  refine (isolated_token_iff proxyWebsocket_ok_iff rfl fun key => streamTo_subset key.1).trans ?_
  constructor
  · intro known instanceId tunnelName parsed token scopes presented valid inScope peer
    exact known (instanceId, tunnelName) token scopes ⟨parsed, presented⟩ valid inScope (streamTo_ne_nil.mpr peer)
  · intro compared key token scopes presents valid inScope some_reached
    exact compared key.1 key.2 presents.1 token scopes presents.2 valid inScope (streamTo_ne_nil.mp some_reached)

theorem proxyRequest_isolated_iff (proxyToken : String) :
    Isolated http request (.proxyRequest proxyToken) ↔ Compared http request (.proxyRequest proxyToken) := by
  refine (isolated_token_iff proxyRequest_ok_iff rfl fun key => streamTo_subset key.1).trans ?_
  constructor
  · intro known instanceId tunnelName parsed p2p token scopes presented valid inScope peer
    cases presented
    exact known (instanceId, tunnelName) proxyToken scopes ⟨parsed, rfl⟩ valid ⟨inScope, p2p, peer⟩
      (streamTo_ne_nil.mpr peer)
  · intro compared key token scopes presents valid passed _
    obtain ⟨inScope, p2p, peer⟩ := passed
    obtain ⟨parsed, rfl⟩ := presents
    exact compared key.1 key.2 parsed p2p token scopes rfl valid inScope peer

theorem daemonPing_isolated_iff : Isolated http request .daemonPing ↔ Compared http request .daemonPing := by
  refine (isolated_token_iff daemonPing_ok_iff rfl fun _ => List.Subset.refl _).trans ?_
  constructor
  · intro known instanceId token scopes parsed presented valid connected
    exact known instanceId token scopes ⟨parsed, presented⟩ valid connected (resolved_ne_nil.mpr connected)
  · intro compared instanceId token scopes presents valid connected _
    exact compared instanceId token scopes presents.1 presents.2 valid connected

end Endpoints

theorem isolated_iff (http : HttpState) (request : Request) (endpoint : Endpoint) :
    Isolated http request endpoint ↔ Compared http request endpoint := by
  cases endpoint with
  | proxyMetrics instanceId path => exact proxyMetrics_isolated_iff instanceId path
  | certLogin instanceId service => exact iff_of_true (certLogin_isolated instanceId service) trivial
  | listTunnels => exact iff_of_true listTunnels_isolated trivial
  | listSshTargets => exact iff_of_true listSshTargets_isolated trivial
  | federatedMetrics => exact iff_of_true federatedMetrics_isolated trivial
  | sshPage instanceId => exact iff_of_true (sshPage_isolated instanceId) trivial
  | sshWs instanceId => exact iff_of_true (sshWs_isolated instanceId) trivial
  | proxyCatchall => exact proxyCatchall_isolated_iff
  | proxyWebsocket => exact proxyWebsocket_isolated_iff
  | proxyRequest proxyToken => exact proxyRequest_isolated_iff proxyToken
  | fileList => exact iff_of_true (tunnelRequest_isolated rfl (by decide)) trivial
  | fileRead => exact iff_of_true (tunnelRequest_isolated rfl (by decide)) trivial
  | fileWrite => exact iff_of_true (tunnelRequest_isolated rfl (by decide)) trivial
  | shellExec => exact iff_of_true (tunnelRequest_isolated rfl (by decide)) trivial
  | logProxy => exact iff_of_true (tunnelRequest_isolated rfl (by decide)) trivial
  | daemonPing => exact daemonPing_isolated_iff

/-! ## A settings token of cluster 1 and the daemon of cluster 2 -/

def otherTenant : DaemonConn :=
  { instanceId := "bbbbbbbbbbbb", clusterId := some 2, clusterName := none, agentName := none, hostname := none
    connectedAt := 0, tunnels := [], peerId := some 7, sshEnabled := false, sshPort := none }

def settingInfo : AuthInfo :=
  { clusterId := some 1, clusterName := none, tokenKind := "setting", organizationId := none, clusterIds := [1]
    scopes := [] }

def twoTenants : HttpState where
  relay := ((RelayState.new 0 10 10000 10010 none true).register otherTenant).2
  keyed := (keyed_new 0 10 10000 10010 none true).register otherTenant
  serverSelf _ := some ⟨200, some settingInfo⟩
  serverCertAuth _ := none
  tokenCache := ∅
  certCache := ∅
  localTokens := ∅
  p2p := true
  proxyHostname := "relay.test"
  proxyUrl := none

def settingRequest : Request :=
  { host := some "relay.test", authorization := some "Bearer 0123", xProxyToken := none, cookies := [], cert := none
    bodyLength := 0 }

theorem metrics_of_other_tenant :
    ¬ Isolated twoTenants settingRequest (.proxyMetrics "bbbbbbbbbbbb" "metrics") := by
  intro isolated
  have answered : twoTenants.serve settingRequest (.proxyMetrics "bbbbbbbbbbbb" "metrics") =
      .ok ⟨settingInfo, ["bbbbbbbbbbbb"]⟩ := by decide
  obtain ⟨conn, cluster, found, registered, covered⟩ := isolated _ answered rfl _ (List.mem_singleton_self _)
  have same : twoTenants.relay.daemons.lookup "bbbbbbbbbbbb" = some otherTenant := by decide
  rw [same] at found
  cases found
  cases registered
  simp [settingInfo] at covered

end MacMgmt.Proof.Relay
