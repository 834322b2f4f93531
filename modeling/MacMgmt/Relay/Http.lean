import MacMgmt.Relay.Swarm

/-!
# The relay's HTTP endpoints

The endpoints of `relay/src/api.rs`, `proxy_handler.rs`, `web_ssh.rs` and the WebSocket branch of the dispatcher in
`main.rs` that answer for a daemon, with the authentication of `auth.rs`. An endpoint either refuses a request or names
the credential that it was served on and the daemons it reached: those whose registry entry is in the answer and those a
stream was opened to.
-/

namespace MacMgmt.Relay
open Lib

/-- `SelfInfo` of `auth.rs` with the fields that only the HTTP endpoints read. -/
structure AuthInfo extends SelfInfo where
  organizationId : Option Uuid
  clusterIds : List Uuid
  scopes : List String
deriving DecidableEq

structure CertAuthInfo where
  clusterIds : List Uuid
  organizationIds : List Uuid
  tokenKind : String
deriving DecidableEq

structure ClientCertInfo where
  fingerprintSha256 : String
  certificatePem : String
deriving DecidableEq

structure LocalProxyToken where
  instanceId : String
  service : String
  expiresAt : DateTime
deriving DecidableEq

/-- An answer of the management server; `body` is `none` when it does not parse. -/
structure ServerAnswer (α : Type) where
  status : Nat
  body : Option α

/-- `serverSelf` and `serverCertAuth` are what `/api/self` and `/api/cert-auth` answer now, `none` when the request fails.
A cached `none` in `certCache` is the `NotFound` marker. `p2p` is whether `ProxyState` has a swarm. -/
structure HttpState where
  relay : RelayState
  keyed : ∀ id conn, relay.daemons.lookup id = some conn → conn.instanceId = id
  serverSelf : String → Option (ServerAnswer AuthInfo)
  serverCertAuth : String → Option (ServerAnswer CertAuthInfo)
  tokenCache : Table String (AuthInfo × DateTime)
  certCache : Table String (Option CertAuthInfo × DateTime)
  localTokens : Table String LocalProxyToken
  p2p : Bool
  proxyHostname : String
  proxyUrl : Option String

/-- The headers are those that `to_str` accepts. -/
structure Request where
  host : Option String
  authorization : Option String
  xProxyToken : Option String
  cookies : List String
  cert : Option ClientCertInfo
  bodyLength : Nat
deriving DecidableEq

inductive Refusal where
  | status (code : Nat)
  | text (code : Nat) (text : String)
  | json (code : Nat) (error : String) (certFingerprint : Option String)
  | page (code : Nat) (titleKey : String)
  | signIn (instanceId tunnelName : String)
deriving DecidableEq

def Refusal.code : Refusal → Nat
  | .status code | .text code _ | .json code _ _ | .page code _ => code
  | .signIn _ _ => 401

structure Served where
  info : AuthInfo
  reached : List InstanceId
deriving DecidableEq

/-! ## Texts -/

def startsWith (start text : String) : Bool := start.toList.isPrefixOf text.toList

def contains (text part : String) : Bool := decide (part.toList <:+: text.toList)

def stripBearer (text : String) : Option String := (text.toList.dropPrefix? "Bearer ".toList).map String.ofList

def trim (text : List Char) : List Char :=
  ((text.dropWhile Char.isWhitespace).reverse.dropWhile Char.isWhitespace).reverse

/-- `str::split_once` and `str::find` with a slice on each side. -/
def splitOnce (separator : Char) (text : List Char) : Option (List Char × List Char) :=
  match text.span (· ≠ separator) with
  | (_, []) => none
  | (before, _ :: after) => some (before, after)

def isAsciiHexdigit (c : Char) : Bool := c.isDigit || ('a' ≤ c && c ≤ 'f') || ('A' ≤ c && c ≤ 'F')

def isInstancePrefix (text : List Char) : Bool := 12 ≤ text.length && text.all isAsciiHexdigit

def subdomain (proxyHostname : String) (host : Option String) : Option (List Char) :=
  host.bind fun host => (host.toList.takeWhile (· ≠ ':')).dropSuffix? ('.' :: proxyHostname.toList)

def parseSubdomain (proxyHostname : String) (host : Option String) : Option (String × String) := do
  let subdomain ← subdomain proxyHostname host
  let (instancePrefix, tunnelName) ← splitOnce '-' subdomain
  if !isInstancePrefix instancePrefix || tunnelName.isEmpty then none
  else some (String.ofList instancePrefix, String.ofList tunnelName)

def parseInstancePrefix (proxyHostname : String) (host : Option String) : Option String := do
  let subdomain ← subdomain proxyHostname host
  let candidate := match splitOnce '-' subdomain with
    | some (candidate, _) => if isInstancePrefix candidate then candidate else subdomain
    | none => subdomain
  if isInstancePrefix candidate then some (String.ofList candidate) else none

def isSafePath (path : String) : Bool := !contains path ".." && !contains path "//"

/-! ## Credentials of a request -/

def extractBearer (request : Request) : Option String := request.authorization.bind stripBearer

def proxyTokenCookie : String := "proxy_token"

def extractCookieToken (request : Request) : Option String :=
  (request.cookies.flatMap fun header => header.toList.splitOn ';').findSome? fun pair =>
    match splitOnce '=' (trim pair) with
    | some (name, value) => if trim name = proxyTokenCookie.toList then some (String.ofList (trim value)) else none
    | none => none

def extractToken (request : Request) : Option String :=
  match request.xProxyToken with
  | some value => if value ≠ "" then some value else extractCookieToken request
  | none => extractCookieToken request

def hasScope (scopes : List String) (required : String) : Bool :=
  scopes.isEmpty || scopes.any fun scope =>
    scope = "*" || scope = required || (startsWith "tcp:" required && scope = "tcp:*")

def isAdminKind (tokenKind : String) : Bool := tokenKind = "admin" || tokenKind = "cert_admin"

def CertAuthInfo.toAuthInfo (cert : CertAuthInfo) : AuthInfo :=
  { clusterId := none, clusterName := none, tokenKind := cert.tokenKind, organizationId := none
    clusterIds := cert.clusterIds, scopes := [] }

def seconds (count : Int) : DateTime := count * 1000000000

def tokenCacheTtl : DateTime := seconds 30
def certCacheTtl : DateTime := seconds 30

namespace HttpState
variable (http : HttpState) (request : Request)

/-! ## Asking the server -/

def validateToken (token : String) : Except Nat AuthInfo :=
  match http.serverSelf token with
  | none => .error 502
  | some answer =>
      if answer.status = 401 then .error 401
      else if answer.status < 200 ∨ 300 ≤ answer.status then .error 502
      else match answer.body with
        | none => .error 502
        | some info => .ok info

def validateTokenCached (token : String) : Except Nat AuthInfo :=
  match http.tokenCache.lookup token with
  | some (info, created) =>
      if http.relay.now - created < tokenCacheTtl then .ok info else http.validateToken token
  | none => http.validateToken token

def askCertAuth (cert : ClientCertInfo) : Except Nat CertAuthInfo :=
  match http.serverCertAuth cert.certificatePem with
  | none => .error 502
  | some answer =>
      if answer.status = 404 then .error 403
      else if answer.status < 200 ∨ 300 ≤ answer.status then .error 502
      else match answer.body with
        | none => .error 502
        | some info => .ok info

def validateCert (cert : ClientCertInfo) : Except Nat CertAuthInfo :=
  match http.certCache.lookup cert.fingerprintSha256 with
  | some (cached, created) =>
      if http.relay.now - created < certCacheTtl then
        match cached with
        | some info => .ok info
        | none => .error 403
      else http.askCertAuth cert
  | none => http.askCertAuth cert

def validateLocalProxyToken (token instanceId : String) : Option (List String) :=
  (http.localTokens.lookup token).bind fun found =>
    if found.expiresAt ≤ http.relay.now ∨ found.instanceId ≠ instanceId then none
    else some ["tcp:" ++ found.service]

/-! ## The API router -/

def requireAuthExt (allowedKinds : List String) : Except Refusal AuthInfo :=
  match extractBearer request with
  | some token =>
      match http.validateToken token with
      | .error status => .error (.status status)
      | .ok info => if info.tokenKind ∈ allowedKinds then .ok info else .error (.status 403)
  | none =>
      match request.cert with
      | none => .error (.status 401)
      | some cert =>
          match http.validateCert cert with
          | .error status =>
              if status = 403 then .error (.json 200 "certificate not authorized" (some cert.fingerprintSha256))
              else .error (.status status)
          | .ok info =>
              if info.tokenKind ∈ allowedKinds ∨ ("admin" ∈ allowedKinds ∧ info.tokenKind = "cert_admin") ∨
                  ("setting" ∈ allowedKinds ∧ (info.tokenKind = "cert_cluster" ∨ info.tokenKind = "cert_organization"))
              then .ok info.toAuthInfo else .error (.status 403)

/-- The daemon whose registry entry `resolve_prefix` finds. -/
def resolved (given : String) : List InstanceId := (http.relay.resolvePrefix given).toList

/-- The daemon whose peer id `resolve_peer_id` finds. -/
def streamTo (given : String) : List InstanceId :=
  if (http.relay.resolvePeerId given).isSome then http.resolved given else []

def proxyMetrics (instanceId path : String) : Except Refusal Served := do
  let info ← http.requireAuthExt request ["admin", "setting"]
  if !isSafePath path then .error (.status 400)
  else if (http.relay.resolvePeerId instanceId).isNone then .error (.status 404)
  else .ok ⟨info, http.streamTo instanceId⟩

def certCovers (info : CertAuthInfo) (instanceId : String) : Bool :=
  match http.relay.getClusterId instanceId with
  | some cluster => cluster ∈ info.clusterIds
  | none => info.tokenKind = "cert_admin"

/-- The token minted here is good for the daemon that is named as reached. -/
def certLogin (instanceId service : String) : Except Refusal Served :=
  if !isInstancePrefix instanceId.toList || service = "" ||
      !service.toList.all fun c => c.isAlphanum || c = '-' || c = '_' then
    .error (.text 400 "invalid instance or service")
  else
    match request.cert with
    | none => .error (.page 401 "cert-login-no-cert-title")
    | some cert =>
        if http.proxyUrl.isNone then .error (.text 503 "proxy_url not configured")
        else if !http.relay.hasTunnel instanceId service then .error (.page 404 "not-found-title")
        else
          match http.validateCert cert with
          | .error status =>
              if status = 403 then .error (.page 403 "cert-login-denied-title") else .error (.status status)
          | .ok info =>
              if http.certCovers info instanceId then .ok ⟨info.toAuthInfo, http.resolved instanceId⟩
              else .error (.page 403 "cert-login-denied-title")

def listTunnels : Except Refusal Served := do
  let info ← http.requireAuthExt request ["admin", "setting"]
  let tunnels := http.relay.listTunnels
  let kept := if contains info.tokenKind "admin" then tunnels
    else tunnels.filter fun tunnel => tunnel.clusterId.any (· ∈ info.clusterIds)
  .ok ⟨info, kept.map TunnelInfo.instanceId⟩

def listSshTargets : Except Refusal Served := do
  let info ← http.requireAuthExt request ["admin", "setting"]
  let targets := http.relay.listSshTargets
  let kept := if contains info.tokenKind "admin" then targets
    else targets.filter fun target => target.clusterId.any (· ∈ info.clusterIds)
  .ok ⟨info, kept.map SshTarget.instanceId⟩

/-- Each target gives a gauge with its labels, and its own metrics when it has a peer id. -/
def federatedMetrics : Except Refusal Served := do
  let info ← http.requireAuthExt request ["admin", "setting"]
  let tunnels := http.relay.listTunnels
  let kept := if info.tokenKind = "admin" then tunnels
    else tunnels.filter fun tunnel => tunnel.clusterId.any (· ∈ info.clusterIds)
  .ok ⟨info, kept.flatMap fun tunnel => tunnel.instanceId :: http.streamTo tunnel.instanceId⟩

/-! ## Web SSH -/

def sshClusterAuthorized (instanceId tokenKind : String) (clusterIds : List Uuid) : Bool :=
  match http.relay.getClusterId instanceId with
  | some cluster => cluster ∈ clusterIds
  | none => isAdminKind tokenKind

/-- The certificate's information if it lets the request through, and whether the server knows the certificate. -/
def certAccess (instanceId : String) : Option AuthInfo × Bool :=
  match request.cert with
  | none => (none, false)
  | some cert =>
      match http.validateCert cert with
      | .error _ => (none, false)
      | .ok info =>
          if http.sshClusterAuthorized instanceId info.tokenKind info.clusterIds then (some info.toAuthInfo, true)
          else (none, true)

def bearerAccess (instanceId : String) : Option AuthInfo :=
  match extractBearer request with
  | none => none
  | some token =>
      match http.validateToken token with
      | .error _ => none
      | .ok info =>
          if info.tokenKind ∈ ["admin", "setting", "cert_admin", "cert_cluster"] ∧
              http.sshClusterAuthorized instanceId info.tokenKind info.clusterIds then some info
          else none

def verifyAccess (instanceId : String) : Except Refusal AuthInfo :=
  let (granted, certAuthorized) := http.certAccess request instanceId
  match granted, http.bearerAccess request instanceId, request.cert with
  | some info, _, _ => .ok info
  | none, some info, _ => .ok info
  | none, none, some cert =>
      .error (.json 403 (if certAuthorized then "certificate is not authorized for this machine's cluster"
        else "certificate not authorized") (some cert.fingerprintSha256))
  | none, none, none => .error (.json 401 "authentication required (client certificate or Bearer token)" none)

def sshPage (instanceId : String) : Except Refusal Served := do
  let info ← http.verifyAccess request instanceId
  .ok ⟨info, []⟩

/-- A daemon without a peer id gets no stream, but the message that says so names it. -/
def sshWs (instanceId : String) : Except Refusal Served := do
  let info ← http.verifyAccess request instanceId
  .ok ⟨info, http.resolved instanceId⟩

/-! ## The proxy router -/

def localSelfInfo (token instanceId : String) : Option AuthInfo :=
  (http.validateLocalProxyToken token instanceId).map fun scopes =>
    { clusterId := none, clusterName := none, tokenKind := "proxy", organizationId := none
      clusterIds := (http.relay.getClusterId instanceId).toList, scopes }

def clusterAuthorized (info : AuthInfo) (instanceId : String) : Bool :=
  match http.relay.getClusterId instanceId with
  | some cluster => cluster ∈ info.clusterIds
  | none => info.tokenKind = "admin"

def authorizeServerToken (token instanceId : String) : Except Refusal AuthInfo :=
  match http.validateTokenCached token with
  | .error status => .error (.status status)
  | .ok info =>
      if info.tokenKind ≠ "proxy" ∧ info.tokenKind ≠ "admin" then .error (.status 403)
      else if !http.clusterAuthorized info instanceId then .error (.status 403)
      else .ok info

def authenticateToken (token instanceId : String) : Except Refusal AuthInfo :=
  match http.localSelfInfo token instanceId with
  | some info => .ok info
  | none => http.authorizeServerToken token instanceId

def authenticateProxy (instanceId : String) : Except Refusal AuthInfo :=
  match extractToken request with
  | none => .error (.text 401
      "Missing proxy_token. Use X-Proxy-Token header or visit /proxy?proxy_token=TOKEN first.")
  | some token => http.authenticateToken token instanceId

def authenticateProxyScoped (instanceId requiredScope : String) : Except Refusal AuthInfo := do
  let info ← http.authenticateProxy request instanceId
  if hasScope info.scopes requiredScope then .ok info else .error (.text 403 "insufficient scope")

def resolveSwarmAndPeer (instanceId : String) : Except Refusal (List InstanceId) :=
  if !http.p2p then .error (.text 503 "p2p not available")
  else if (http.relay.resolvePeerId instanceId).isNone then .error (.status 404)
  else .ok (http.streamTo instanceId)

def catchallAuthenticate (instanceId tunnelName : String) : Except Refusal AuthInfo :=
  match http.authenticateProxy request instanceId with
  | .ok info => .ok info
  | .error refusal =>
      if refusal.code = 401 then .error (.signIn instanceId tunnelName)
      else .error (.page refusal.code (if refusal.code = 403 then "forbidden-title" else "error-title"))

def maxProxyBody : Nat := 16 * 1024 * 1024

def proxyCatchall : Except Refusal Served :=
  match parseSubdomain http.proxyHostname request.host with
  | none => .error (.page 404 "unknown-host-title")
  | some (instanceId, tunnelName) => do
      let info ← http.catchallAuthenticate request instanceId tunnelName
      if !hasScope info.scopes ("tcp:" ++ tunnelName) then .error (.page 403 "forbidden-title")
      else
        match http.resolveSwarmAndPeer instanceId with
        | .error refusal => .error (.page refusal.code "unreachable-title")
        | .ok reached =>
            if !http.relay.hasTunnel instanceId tunnelName then .error (.page 404 "not-found-title")
            else if maxProxyBody < request.bodyLength then .error (.page 413 "payload-too-large-title")
            else .ok ⟨info, reached⟩

/-- The branch of the dispatcher for WebSocket upgrades on a proxy subdomain. -/
def proxyWebsocket : Except Refusal Served :=
  match parseSubdomain http.proxyHostname request.host with
  | none => .error (.status 400)
  | some (instanceId, tunnelName) => do
      let info ← http.authenticateProxyScoped request instanceId ("tcp:" ++ tunnelName)
      .ok ⟨info, http.streamTo instanceId⟩

def proxyRequest (proxyToken : String) : Except Refusal Served :=
  match parseSubdomain http.proxyHostname request.host with
  | none => .error (.text 400 "Invalid proxy hostname")
  | some (instanceId, tunnelName) => do
      let info ← http.authenticateToken proxyToken instanceId
      if !hasScope info.scopes ("tcp:" ++ tunnelName) then .error (.text 403 "insufficient scope")
      else do
        let reached ← http.resolveSwarmAndPeer instanceId
        .ok ⟨info, reached⟩

def tunnelRequest (requiredScope : String) : Except Refusal Served :=
  match parseInstancePrefix http.proxyHostname request.host with
  | none => .error (.text 400 "Invalid proxy hostname")
  | some instanceId => do
      let info ← http.authenticateProxyScoped request instanceId requiredScope
      let reached ← http.resolveSwarmAndPeer instanceId
      .ok ⟨info, reached⟩

def fileList : Except Refusal Served := http.tunnelRequest request "files:read"
def fileRead : Except Refusal Served := http.tunnelRequest request "files:read"
def fileWrite : Except Refusal Served := http.tunnelRequest request "files:write"
def shellExec : Except Refusal Served := http.tunnelRequest request "shell:exec"
def logProxy : Except Refusal Served := http.tunnelRequest request "logs:read"

def daemonPing : Except Refusal Served :=
  match parseInstancePrefix http.proxyHostname request.host with
  | none => .error (.text 400 "Invalid proxy hostname")
  | some instanceId =>
      match http.authenticateProxy request instanceId with
      | .error _ => .error (.status 401)
      | .ok info =>
          if http.relay.isConnected instanceId then .ok ⟨info, http.resolved instanceId⟩ else .error (.status 404)

end HttpState

inductive Endpoint where
  | proxyMetrics (instanceId path : String)
  | certLogin (instanceId service : String)
  | listTunnels
  | listSshTargets
  | federatedMetrics
  | sshPage (instanceId : String)
  | sshWs (instanceId : String)
  | proxyCatchall
  | proxyWebsocket
  | proxyRequest (proxyToken : String)
  | fileList
  | fileRead
  | fileWrite
  | shellExec
  | logProxy
  | daemonPing
deriving DecidableEq

def HttpState.serve (http : HttpState) (request : Request) : Endpoint → Except Refusal Served
  | .proxyMetrics instanceId path => http.proxyMetrics request instanceId path
  | .certLogin instanceId service => http.certLogin request instanceId service
  | .listTunnels => http.listTunnels request
  | .listSshTargets => http.listSshTargets request
  | .federatedMetrics => http.federatedMetrics request
  | .sshPage instanceId => http.sshPage request instanceId
  | .sshWs instanceId => http.sshWs request instanceId
  | .proxyCatchall => http.proxyCatchall request
  | .proxyWebsocket => http.proxyWebsocket request
  | .proxyRequest proxyToken => http.proxyRequest request proxyToken
  | .fileList => http.fileList request
  | .fileRead => http.fileRead request
  | .fileWrite => http.fileWrite request
  | .shellExec => http.shellExec request
  | .logProxy => http.logProxy request
  | .daemonPing => http.daemonPing request

end MacMgmt.Relay
