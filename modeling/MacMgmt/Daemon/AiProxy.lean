import MacMgmt.Agent.PeerRegistry

/-!
# The daemon's AI proxy

`resolve_backend` of `daemon/src/ai_proxy/backend.rs`, the health listing and `chat_completions` of `ai_proxy/server.rs`, and the
job counter of `ai_proxy/mod.rs`.
-/

namespace MacMgmt.Daemon.AiProxy
open Lib Agent

structure BackendEndpoint where
  host : String
  port : Nat
deriving DecidableEq

def BackendEndpoint.baseUrl (endpoint : BackendEndpoint) : String :=
  "http://" ++ endpoint.host ++ ":" ++ toString endpoint.port

structure BackendMap where
  ollama : Option BackendEndpoint
  unsloth : Option BackendEndpoint

inductive ResolvedBackend where
  | onNode (endpoint : BackendEndpoint) (backendName : String)
  | peer (peerId : PeerId) (backendName : String)
deriving DecidableEq

def resolveLocal (backends : BackendMap) : Option ResolvedBackend :=
  match backends.unsloth, backends.ollama with
  | some unsloth, none => some (.onNode unsloth "unsloth")
  | _, some ollama => some (.onNode ollama "ollama")
  | none, none => none

def toPeer (found : PeerId × BackendAdvertisement) : ResolvedBackend :=
  .peer found.1 ((found.2.backends.head?.map (·.name)).getD "unknown")

def peerFor (backends : BackendMap) (order : PeerRegistry.Order) (now localJobs : Nat) :
    Option (PeerId × BackendAdvertisement) :=
  if (resolveLocal backends).isSome then PeerRegistry.leastLoadedPeerBelow order now localJobs
  else PeerRegistry.leastLoadedPeer order now

/-- `registry` is the registry in the order in which it is read, if there is one. -/
def resolveBackend (backends : BackendMap) (registry : Option PeerRegistry.Order) (now localJobs : Nat) :
    Option ResolvedBackend :=
  (registry.bind fun order => (peerFor backends order now localJobs).map toPeer).or (resolveLocal backends)

structure HealthBackend where
  isLocal : Bool
  name : String
  baseUrl : String
  activeJobs : Nat
  peerId : Option PeerId
  models : List String
deriving DecidableEq

def localHealth (localJobs : Nat) (name : String) (endpoint : BackendEndpoint) : HealthBackend :=
  ⟨true, name, endpoint.baseUrl, localJobs, none, []⟩

def peerHealth (found : PeerId × BackendAdvertisement) : List HealthBackend :=
  found.2.backends.map fun info => ⟨false, info.name, info.baseUrl, found.2.activeJobs, some found.1, found.2.models⟩

def health (backends : BackendMap) (registry : Option PeerRegistry.Order) (now localJobs : Nat) : List HealthBackend :=
  (backends.ollama.map (localHealth localJobs "ollama")).toList ++
    (backends.unsloth.map (localHealth localJobs "unsloth")).toList ++
      (registry.elim [] fun order => (PeerRegistry.freshPeers order now).flatMap peerHealth)

/-! ## What is read of the registry -/

/-- Every entry is what an authorised peer has said of itself, and so is everything that is made of the entries. -/
structure Trusted (cluster : ClusterRegistry) : Prop where
  entries : ∀ peer entry, cluster.peers.lookup peer = some entry → cluster.Vouched peer entry.advertisement
  leastLoaded : ∀ order now found, cluster.peers.Iterates order → PeerRegistry.leastLoadedPeer order now = some found →
    cluster.Vouched found.1 found.2
  leastLoadedBelow : ∀ order now localJobs found, cluster.peers.Iterates order →
    PeerRegistry.leastLoadedPeerBelow order now localJobs = some found → cluster.Vouched found.1 found.2
  routed : ∀ backends order now localJobs peer name, cluster.peers.Iterates order →
    resolveBackend backends (some order) now localJobs = some (.peer peer name) →
      ∃ advertisement, cluster.Vouched peer advertisement ∧ name ∈ advertisement.backends.map (·.name)
  listed : ∀ backends order now localJobs, cluster.peers.Iterates order →
    ∀ row ∈ health backends (some order) now localJobs, ∀ peer, row.peerId = some peer →
      ∃ advertisement, cluster.Vouched peer advertisement ∧ row.activeJobs = advertisement.activeJobs ∧
        row.models = advertisement.models ∧ ⟨row.name, row.baseUrl⟩ ∈ advertisement.backends

/-! ## Requests and the job counter -/

@[irreducible]
def u32 : Nat := 2 ^ 32

def trackJob (activeJobs : Nat) : Nat := (activeJobs + 1) % u32

/-- The guard's `drop`. -/
def dropGuard (activeJobs : Nat) : Nat := (activeJobs + (u32 - 1)) % u32

/-- The guard lives as long as the handler; a stream goes on after it. -/
inductive Stage where
  | accepted
  | resolved (backend : Option ResolvedBackend)
  | streaming
deriving DecidableEq

structure ChatRequest where
  id : Nat
  isStream : Bool
  stage : Stage
deriving DecidableEq

def ChatRequest.handled (request : ChatRequest) : Bool := request.stage ≠ .streaming

/-- What a request was forwarded on: whether the node has a backend of its own, the jobs that the peer advertises, and the
node's own requests besides this one. -/
structure Forward where
  hasLocal : Bool
  peerJobs : Nat
  others : Nat
deriving DecidableEq

/-- `requests` are those accepted of which the response is neither complete nor abandoned, and `forwarded` is what the last
event has forwarded. -/
structure ChatServer where
  activeJobs : Nat
  requests : List ChatRequest
  forwarded : Option Forward

/-- `ok` is whether the backend, or the peer, answers well. A handler and a stream may be dropped at any time. -/
inductive ChatEvent where
  | accept (id : Nat) (isStream : Bool)
  | resolve (id : Nat) (backends : BackendMap) (registry : Option PeerRegistry.Order) (now : Nat)
  | respond (id : Nat) (ok : Bool)
  | dropHandler (id : Nat)
  | streamEnds (id : Nat)

namespace ChatServer

def start : ChatServer := ⟨0, [], none⟩

def find (server : ChatServer) (id : Nat) : Option ChatRequest := server.requests.find? (·.id = id)

def setStage (server : ChatServer) (request : ChatRequest) (stage : Stage) : ChatServer :=
  { server with requests := { request with stage } :: server.requests.erase request, forwarded := none }

def remove (server : ChatServer) (request : ChatRequest) : ChatServer :=
  { server with requests := server.requests.erase request, forwarded := none }

def leave (server : ChatServer) : ChatServer := { server with activeJobs := dropGuard server.activeJobs }

/-- A request that goes to a peer is answered as a whole, and so is every error. -/
def handsOver (request : ChatRequest) (ok : Bool) : Bool :=
  match request.stage with
  | .resolved (some (.onNode _ _)) => request.isStream && ok
  | .resolved (some (.peer _ _)) | .resolved none | .accepted | .streaming => false

def onResolve (hasSender : Bool) (server : ChatServer) (request : ChatRequest) (backends : BackendMap)
    (registry : Option PeerRegistry.Order) (now : Nat) : ChatServer :=
  let found := registry.bind fun order => peerFor backends order now server.activeJobs
  { server.setStage request (.resolved (resolveBackend backends registry now server.activeJobs)) with
    forwarded := if hasSender then found.map fun peer =>
      ⟨(resolveLocal backends).isSome, peer.2.activeJobs, server.requests.length - 1⟩ else none }

def isResolved (request : ChatRequest) : Bool := request.stage ≠ .accepted && request.stage ≠ .streaming

/-- `hasSender` is whether requests can be sent to peers at all. -/
def step (hasSender : Bool) (server : ChatServer) : ChatEvent → Option ChatServer
  | .accept id isStream =>
      if server.find id = none then
        some ⟨trackJob server.activeJobs, ⟨id, isStream, .accepted⟩ :: server.requests, none⟩
      else none
  | .resolve id backends registry now => (server.find id).bind fun request =>
      if request.stage = .accepted then some (server.onResolve hasSender request backends registry now) else none
  | .respond id ok => (server.find id).bind fun request =>
      if isResolved request then
        some (if handsOver request ok then (server.setStage request .streaming).leave else (server.remove request).leave)
      else none
  | .dropHandler id => (server.find id).bind fun request =>
      if request.handled then some (server.remove request).leave else none
  | .streamEnds id => (server.find id).bind fun request =>
      if request.stage = .streaming then some (server.remove request) else none

/-- The counter is the number of requests in progress, and a node with a backend forwards only to a peer with less to do. -/
structure Balanced (server : ChatServer) : Prop where
  counted : server.activeJobs = server.requests.length
  forwards : ∀ forward ∈ server.forwarded, forward.hasLocal → forward.peerJobs < forward.others

/-- The least jobs that a peer with a backend advertises are as many as these. -/
def LeastIs (order : PeerRegistry.Order) (now jobs : Nat) : Prop :=
  ∃ entry ∈ order, PeerRegistry.offers now entry.2 ∧ entry.2.advertisement.activeJobs = jobs ∧
    ∀ other ∈ order, PeerRegistry.offers now other.2 → jobs ≤ other.2.advertisement.activeJobs

instance (order : PeerRegistry.Order) (now jobs : Nat) : Decidable (LeastIs order now jobs) :=
  inferInstanceAs (Decidable (∃ entry ∈ order, _))

/-- No stream of an own backend is handed over, the counter has room, and where a node with a backend could forward a request
the least busy peer has not just as many jobs as the node besides this request. -/
def Fair (hasSender : Bool) (server : ChatServer) : ChatEvent → Prop
  | .accept _ _ => server.requests.length + 1 < u32
  | .resolve _ backends registry now => hasSender → (resolveLocal backends).isSome →
      ∀ order ∈ registry, ¬LeastIs order now (server.requests.length - 1)
  | .respond id ok => ∀ request ∈ server.find id, handsOver request ok = false
  | .dropHandler _ | .streamEnds _ => True

instance (hasSender : Bool) (server : ChatServer) : (event : ChatEvent) → Decidable (server.Fair hasSender event)
  | .accept _ _ => inferInstanceAs (Decidable (_ < _))
  | .resolve _ _ _ _ => inferInstanceAs (Decidable (_ → _ → ∀ order ∈ _, ¬LeastIs order _ _))
  | .respond _ _ => inferInstanceAs (Decidable (∀ request ∈ _, handsOver request _ = false))
  | .dropHandler _ | .streamEnds _ => inferInstanceAs (Decidable True)

end ChatServer
end MacMgmt.Daemon.AiProxy
