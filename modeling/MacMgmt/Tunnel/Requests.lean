import MacMgmt.Tunnel.Bodies
import MacMgmt.Relay.Http

/-!
# Proxied requests

`proxy_catchall` of `relay/src/proxy_handler.rs` once the request is let through, and `handle_streamed_proxy` of
`mac-mgmt-agent/src/p2p/mod.rs` with `proxy_helpers.rs`, up to the request that goes to the upstream. The URL parser of the
HTTP client, the overrides of a tunnel and the length of the handshake's JSON text are parameters.
-/

namespace MacMgmt.Tunnel
open MacMgmt.Agent MacMgmt.Relay Lib

/-! ## Header values -/

def visibleAscii (value : List UInt8) : Bool := value.all fun byte => (32 ≤ byte && byte < 127) || byte = 9

/-- `HeaderValue::to_str`. -/
def toStr (value : List UInt8) : Option (List Char) :=
  if visibleAscii value then some (value.map fun byte => Char.ofNat byte.toNat) else none

/-- `HeaderValue::from_str`. -/
def headerValue (text : List Char) : Option (List UInt8) :=
  if text.all (fun c => c.toNat < 256) ∧ visibleAscii (text.map fun c => UInt8.ofNat c.toNat) then
    some (text.map fun c => UInt8.ofNat c.toNat)
  else none

def valuesOf {V : Type} (name : String) (headers : List (String × V)) : List V :=
  headers.filterMap fun header => if header.1 = name then some header.2 else none

/-! ## The relay -/

/-- The names of a `HeaderMap` are in lower case. -/
structure ClientRequest where
  method : String
  path : String
  headers : List (String × List UInt8)
  body : BodyStream
  ip : String
  lower : ∀ header ∈ headers, header.1.toLower = header.1

structure ProxyHandshake where
  tunnelName : String
  method : String
  path : String
  headers : List (String × List Char)
  body : Option (List Char)
  bodyFrames : Bool

def keepsCookie (pair : List Char) : Bool :=
  match splitOnce '=' pair with
  | some (name, _) => trim name ≠ proxyTokenCookie.toList
  | none => true

def stripProxyCookie (cookieHeader : List Char) : List Char :=
  "; ".toList.intercalate (((cookieHeader.splitOn ';').map trim).filter keepsCookie)

def forwardHeader (header : String × List UInt8) : Option (String × List Char) :=
  if header.1.toLower ∈ ["connection", "transfer-encoding", "x-proxy-token"] then none
  else if header.1.toLower = "cookie" then
    let filtered := stripProxyCookie ((toStr header.2).getD [])
    if filtered = [] then none else some ("cookie", filtered)
  else some (header.1, (toStr header.2).getD [])

def forwardedFor (request : ClientRequest) : List Char :=
  match (valuesOf "x-forwarded-for" request.headers).head?.bind toStr with
  | some existing => existing ++ ", ".toList ++ request.ip.toList
  | none => request.ip.toList

def forwardedProto (request : ClientRequest) : List Char :=
  ((valuesOf "x-forwarded-proto" request.headers).head?.bind toStr).getD "http".toList

def reverseProxyHeaders (request : ClientRequest) : List (String × List Char) :=
  [("x-real-ip", request.ip.toList), ("x-forwarded-for", forwardedFor request),
    ("x-forwarded-proto", forwardedProto request)]

def maxRequestBody : Nat := 16 * 1024 * 1024

/-- `axum::body::to_bytes`. -/
def toBytes (limit : Nat) (body : List UInt8) : List (Except Unit (List UInt8)) → Option (List UInt8)
  | [] => some body
  | .ok bytes :: results => if limit < (body ++ bytes).length then none else toBytes limit (body ++ bytes) results
  | .error _ :: _ => none

def proxyHandshake (tunnelName : String) (request : ClientRequest) (body : List UInt8) : ProxyHandshake where
  tunnelName := tunnelName
  method := request.method
  path := request.path
  headers := request.headers.filterMap forwardHeader ++ reverseProxyHeaders request
  body := (bodyPlacement body).1
  bodyFrames := (bodyPlacement body).2

/-! ## The daemon -/

structure TunnelTarget where
  host : String
  port : Nat

def TunnelTarget.authority (target : TunnelTarget) : String := target.host ++ ":" ++ toString target.port

structure OverrideResponse where
  status : Nat
  headers : List (String × String)
  body : List UInt8
deriving DecidableEq

structure TunnelOverride where
  isMatch : String → Bool
  overrideFn : String → List (String × List Char) → Option OverrideResponse

/-- `requestTarget` is the path and query that the HTTP client's parser finds in a URL. -/
structure ProxyDaemon where
  framing : Framing
  handshakeLength : ProxyHandshake → Nat
  tunnelDefs : Table String TunnelTarget
  tunnelOverrides : Table String (List TunnelOverride)
  fakeOriginLocal : Bool
  rewriteUrlOrigin : List Char → TunnelTarget → Option (List Char)
  requestTarget : String → Option String

structure UpstreamRequest where
  method : String
  target : String
  headers : List (String × List UInt8)
  body : List UInt8
deriving DecidableEq

/-- `failed` is a request that the HTTP client does not build. -/
inductive ProxyAction where
  | refused (status : Nat) (detail : String)
  | overridden (response : OverrideResponse)
  | webSocket (url : String)
  | failed
  | issued (request : UpstreamRequest)
deriving DecidableEq

def maxHandshakeSize : Nat := 1024 * 1024

def maxProxyBody : Nat := 16 * 1024 * 1024

def fakeOriginDropHeaders : List String :=
  ["host", "origin", "x-forwarded-for", "x-forwarded-host", "x-forwarded-proto", "x-forwarded-port", "x-real-ip",
    "forwarded", "via", "referer"]

def proxyMethod : String → String
  | "POST" => "POST"
  | "PUT" => "PUT"
  | "DELETE" => "DELETE"
  | "PATCH" => "PATCH"
  | "HEAD" => "HEAD"
  | _ => "GET"

def applyBodyB64 (body : Option (List Char)) : List UInt8 := (body.bind base64Decode).getD []

namespace ProxyDaemon
variable (daemon : ProxyDaemon)

def applyHeader (target : TunnelTarget) (header : String × List Char) : Option (String × List Char) :=
  let lk := header.1.toLower
  if lk = "connection" ∨ lk = "transfer-encoding" then none
  else if daemon.fakeOriginLocal ∧ lk ∈ fakeOriginDropHeaders then
    if lk = "referer" ∨ lk = "origin" then (daemon.rewriteUrlOrigin header.2 target).map (header.1, ·) else none
  else some header

def requestHeaders (target : TunnelTarget) (headers : List (String × List Char)) : List (String × List Char) :=
  (if daemon.fakeOriginLocal then [("host", target.authority.toList)] else []) ++
    headers.filterMap (daemon.applyHeader target)

def build (target : TunnelTarget) (handshake : ProxyHandshake) (body : List UInt8) : Option UpstreamRequest :=
  (daemon.requestTarget ("http://" ++ target.authority ++ handshake.path)).bind fun path =>
    ((daemon.requestHeaders target handshake.headers).mapM fun header => (headerValue header.2).map (header.1, ·)).map
      fun headers => ⟨proxyMethod handshake.method, path, headers, body⟩

def overrideFor (handshake : ProxyHandshake) : Option OverrideResponse :=
  ((daemon.tunnelOverrides.lookup handshake.tunnelName).getD []).findSome? fun override =>
    if override.isMatch handshake.path then override.overrideFn handshake.path handshake.headers else none

/-- A body in frames is drained before the tunnel is looked up. `none` waits for its frames. -/
def handleStreamedProxy (handshake : ProxyHandshake) (reads : List FrameRead) : Option ProxyAction :=
  if maxHandshakeSize < daemon.handshakeLength handshake then some (.refused 413 "handshake frame too large")
  else if handshake.method = "WEBSOCKET" then
    match daemon.tunnelDefs.lookup handshake.tunnelName with
    | none => some (.refused 404 "tunnel not found")
    | some target => some (.webSocket ("ws://" ++ target.authority ++ handshake.path))
  else
    let streamed :=
      if handshake.bodyFrames then daemon.framing.readBinaryBody maxProxyBody reads
      else some (.ok (applyBodyB64 handshake.body))
    match streamed with
    | none => none
    | some (.error _) => some (.refused 413 "request body: ")
    | some (.ok body) =>
        match daemon.tunnelDefs.lookup handshake.tunnelName with
        | none => some (.refused 404 "tunnel not found")
        | some target =>
            match daemon.overrideFor handshake with
            | some response => some (.overridden response)
            | none =>
                match daemon.build target handshake body with
                | none => some .failed
                | some request => some (.issued request)

end ProxyDaemon

/-- From the client to the upstream, over a stream that works. Without the whole body the relay answers itself. -/
def proxyCatchall (daemon : ProxyDaemon) (tunnelName : String) (request : ClientRequest) : Option ProxyAction :=
  (toBytes maxRequestBody [] request.body.results).bind fun body =>
    daemon.handleStreamedProxy (proxyHandshake tunnelName request body)
      (if (bodyPlacement body).2 then daemon.framing.writeBinary body ++ [.end_] else [])

/-! ## What the upstream is promised -/

def hopByHop : List String :=
  ["connection", "keep-alive", "proxy-authenticate", "proxy-authorization", "te", "trailer", "transfer-encoding", "upgrade"]

structure SameRequest (request : ClientRequest) (issued : UpstreamRequest) : Prop where
  method : issued.method = request.method
  target : issued.target = request.path
  headers : ∀ name, name ∉ hopByHop → valuesOf name issued.headers = valuesOf name request.headers
  body : issued.body = request.body.full

/-- Header names that the relay treats on its own: framing, its credentials, and what a reverse proxy adds. -/
def relayHeaders : List String :=
  ["connection", "transfer-encoding", "x-proxy-token", "cookie", "x-real-ip", "x-forwarded-for", "x-forwarded-proto"]

def cookiePairs (values : List (List UInt8)) : List (List Char) :=
  values.flatMap fun value => ((((toStr value).getD []).splitOn ';').map trim).filter (· ≠ [])

def proxyMethods : List String := ["GET", "POST", "PUT", "DELETE", "PATCH", "HEAD"]

/-- The upstream sees what the client sent, up to the credentials for the relay, the headers of a reverse proxy and, for a
service that wants local requests, the headers that tell the origin. -/
structure ForwardedRequest (daemon : ProxyDaemon) (upstream : TunnelTarget) (request : ClientRequest)
    (issued : UpstreamRequest) : Prop where
  method : request.method ∈ proxyMethods → issued.method = request.method
  target : daemon.requestTarget ("http://" ++ upstream.authority ++ request.path) = some issued.target
  body : issued.body = request.body.full
  headers : ∀ name, name ∉ relayHeaders → ¬ (daemon.fakeOriginLocal ∧ name ∈ fakeOriginDropHeaders) →
    (∀ value ∈ valuesOf name request.headers, visibleAscii value = true) →
    valuesOf name issued.headers = valuesOf name request.headers
  cookies : (∀ value ∈ valuesOf "cookie" request.headers, visibleAscii value = true) →
    cookiePairs (valuesOf "cookie" issued.headers) =
      (cookiePairs (valuesOf "cookie" request.headers)).filter keepsCookie
  credentials : ∀ name ∈ ["connection", "transfer-encoding", "x-proxy-token"], valuesOf name issued.headers = []
  reverseProxy : daemon.fakeOriginLocal = false → ∀ added ∈ reverseProxyHeaders request,
    (∀ value ∈ valuesOf added.1 request.headers, visibleAscii value = true) →
    (valuesOf added.1 issued.headers).map toStr = (valuesOf added.1 request.headers).map toStr ++ [some added.2]
  origin : daemon.fakeOriginLocal = true → (valuesOf "host" issued.headers).map toStr = [some upstream.authority.toList] ∧
    ∀ name ∈ fakeOriginDropHeaders, name ∉ ["host", "origin", "referer"] → valuesOf name issued.headers = []
  rewritten : daemon.fakeOriginLocal = true → ∀ name ∈ ["origin", "referer"],
    (∀ value ∈ valuesOf name request.headers, visibleAscii value = true) →
    (valuesOf name issued.headers).map toStr = ((valuesOf name request.headers).filterMap toStr).filterMap fun value =>
      (daemon.rewriteUrlOrigin value upstream).map some

end MacMgmt.Tunnel
