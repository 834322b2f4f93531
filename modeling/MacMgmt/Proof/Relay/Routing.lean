import MacMgmt.Relay.Routing

/-!
# Where proxied requests end up

Authorisation and routing read the registry at different times. A request reaches a daemon of a covered cluster as long
as every change of the registry leaves what the open requests and the live local tokens rely on.
-/

namespace MacMgmt.Proof.Relay
open MacMgmt.Relay Lib

def Placed (request : RoutedRequest) : Prop :=
  ∀ credential requiredScope tunnelName receiver, request.goal = .proxy credential requiredScope tunnelName →
    request.query = .confirmTunnel receiver → credential.covers receiver = true

structure RoutingCovered (routing : Routing) : Prop where
  steady : ∀ id request, routing.requests.lookup id = some request → request.steady routing.swarm.relay = true
  placed : ∀ id request, routing.requests.lookup id = some request → Placed request
  tokens : ∀ token found, routing.localTokens.lookup token = some found → tokenSteady routing.swarm.relay found = true
  received : routing.Authorized

theorem covered_start (swarm : Swarm) : RoutingCovered (.start swarm) where
  steady _ _ found := by cases found
  placed _ _ found := by cases found
  tokens _ _ found := by cases found
  received _ member := by cases member

section RoutingCovered
variable {routing : Routing} {id : Nat} {request : RoutedRequest}

theorem covered_set (covered : RoutingCovered routing) (steady : request.steady routing.swarm.relay = true)
    (placed : Placed request) : RoutingCovered (routing.set id request) where
  steady other found lookup := by
    rw [Routing.set, Table.lookup_insert_ite] at lookup
    split at lookup
    · cases lookup
      exact steady
    · exact covered.steady other found lookup
  placed other found lookup := by
    rw [Routing.set, Table.lookup_insert_ite] at lookup
    split at lookup
    · cases lookup
      exact placed
    · exact covered.placed other found lookup
  tokens := covered.tokens
  received := covered.received

theorem covered_finish (covered : RoutingCovered routing) : RoutingCovered (routing.finish id) where
  steady other found lookup := by
    rw [Routing.finish, Table.lookup_erase_ite] at lookup
    split at lookup
    · cases lookup
    · exact covered.steady other found lookup
  placed other found lookup := by
    rw [Routing.finish, Table.lookup_erase_ite] at lookup
    split at lookup
    · cases lookup
    · exact covered.placed other found lookup
  tokens := covered.tokens
  received := covered.received

theorem covered_deliver {credential : Credential} {receiver : Option Uuid} (covered : RoutingCovered routing)
    (inside : credential.covers receiver = true) : RoutingCovered (routing.deliver id credential receiver) := by
  have finished : RoutingCovered (routing.finish id) := covered_finish covered
  refine ⟨finished.steady, finished.placed, finished.tokens, ?_⟩
  intro entry member
  obtain earlier | last := List.mem_append.mp member
  · exact covered.received entry earlier
  · cases List.mem_singleton.mp last
    exact inside

theorem covered_mint {token given service : String} {holder : CertAuthInfo} (covered : RoutingCovered routing)
    (inside : routing.swarm.relay.pointsInto holder.covers given = true) :
    RoutingCovered (routing.mintLocalProxyToken token given service holder) where
  steady := covered.steady
  placed := covered.placed
  tokens other found lookup := by
    rw [Routing.mintLocalProxyToken, Table.lookup_insert_ite] at lookup
    split at lookup
    · cases lookup
      exact Bool.or_eq_true_iff.mpr (.inr inside)
    · exact covered.tokens other found (Table.lookup_retain_some.mp lookup).1
  received := covered.received

/-! ## One read -/

/-- The entry that the second read of a question gives, or none after a first read that found no daemon. -/
inductive Reads (relay : RelayState) (request : RoutedRequest) : Option DaemonConn → Prop
  | nothing (first : request.full = none) (unresolved : relay.resolvePrefix request.given = none) :
      Reads relay request none
  | entry (full : InstanceId) (resolved : request.full = some full) : Reads relay request (relay.daemons.lookup full)

theorem pointsInto_of_reads {relay : RelayState} {entry : Option DaemonConn} {covered : Option Uuid → Bool}
    (reads : Reads relay request entry)
    (same : ∀ full, request.full = some full → (relay.resolvePrefix request.given).all (· = full) = true)
    (inside : covered (entry.bind DaemonConn.clusterId) = true) : relay.pointsInto covered request.given = true := by
  unfold RelayState.pointsInto
  cases reads with
  | nothing first unresolved => rw [unresolved]; rfl
  | entry full resolved =>
      have pinned := same full resolved
      cases target : relay.resolvePrefix request.given with
      | none => rfl
      | some other =>
          rw [target] at pinned
          obtain rfl : other = full := of_decide_eq_true pinned
          rw [Option.bind_some]
          cases found : relay.daemons.lookup other with
          | none => rfl
          | some conn =>
              rw [found] at inside
              exact inside

theorem placed_of_query (other : ∀ receiver, request.query ≠ .confirmTunnel receiver) : Placed request := by
  intro _ _ _ receiver _ same
  exact absurd same (other receiver)

theorem covers_of_reads {relay : RelayState} {conn : DaemonConn} {given : String} {credential : Credential}
    {requiredScope : String} {tunnelName : Option String} {full : Option InstanceId}
    (steady : RoutedRequest.steady ⟨given, .proxy credential requiredScope tunnelName, .resolvePeerId, full⟩ relay = true)
    (reads : Reads relay ⟨given, .proxy credential requiredScope tunnelName, .resolvePeerId, full⟩ (some conn)) :
    credential.covers conn.clusterId = true := by
  generalize found : some conn = entry at reads
  cases reads with
  | nothing => cases found
  | entry id resolved =>
      obtain rfl : full = some id := resolved
      have inside : (relay.daemons.lookup id).all (fun conn => credential.covers conn.clusterId) = true := by
        cases credential <;> exact steady
      rw [← found] at inside
      exact inside

theorem covered_answer {entry : Option DaemonConn} {random : String} (covered : RoutingCovered routing)
    (steady : request.steady routing.swarm.relay = true) (placed : Placed request)
    (reads : Reads routing.swarm.relay request entry) : RoutingCovered (routing.answer id request random entry) := by
  obtain ⟨given, goal, query, full⟩ := request
  unfold Routing.answer
  dsimp only
  split
  next service info =>
    split
    · exact covered_set covered rfl (placed_of_query nofun)
    · exact covered_finish covered
  next service info =>
    split
    next inside =>
      refine covered_finish (covered_mint covered (pointsInto_of_reads reads ?_ inside))
      rintro other rfl
      exact steady
    next => exact covered_finish covered
  next credential requiredScope tunnelName =>
    split
    next passed =>
      have inside : routing.swarm.relay.pointsInto credential.covers given = true := by
        cases credential with
        | serverToken info =>
            refine pointsInto_of_reads reads ?_ (Bool.and_eq_true_iff.mp passed).1
            rintro other rfl
            exact steady
        | localToken holder scopes => exact steady
      refine covered_set covered ?_ (placed_of_query nofun)
      cases credential <;> exact inside
    next => exact covered_finish covered
  next credential requiredScope tunnelName =>
    split
    next => exact covered_finish covered
    next conn =>
      have inside : credential.covers conn.clusterId = true := covers_of_reads steady reads
      split
      · exact covered_finish covered
      split
      · exact covered_deliver covered inside
      · refine covered_set covered (by cases credential <;> rfl) ?_
        intro _ _ _ _ goal query
        cases goal
        cases query
        exact inside
  next credential requiredScope tunnelName receiver =>
    split
    next => exact covered_deliver covered (placed _ _ _ _ rfl rfl)
    next => exact covered_finish covered
  next => exact covered_finish covered

theorem steady_resolved {relay : RelayState} {full : InstanceId} (steady : request.steady relay = true)
    (first : request.full = none) (target : relay.resolvePrefix request.given = some full) :
    RoutedRequest.steady { request with full := some full } relay = true := by
  obtain ⟨given, goal, query, before⟩ := request
  obtain rfl : before = none := first
  have pinned : (relay.resolvePrefix given).all (· = full) = true := by
    rw [show relay.resolvePrefix given = some full from target]
    exact decide_eq_true rfl
  have found (covered : Option Uuid → Bool) (inside : relay.pointsInto covered given = true) :
      (relay.daemons.lookup full).all (fun conn => covered conn.clusterId) = true := by
    rwa [RelayState.pointsInto, show relay.resolvePrefix given = some full from target, Option.bind_some] at inside
  cases goal with
  | certLogin service info =>
      cases query with
      | getClusterId => exact pinned
      | _ => rfl
  | proxy credential requiredScope tunnelName =>
      cases credential with
      | serverToken info =>
          cases query with
          | getClusterId => exact pinned
          | resolvePeerId => exact found _ steady
          | _ => rfl
      | localToken holder scopes =>
          cases query with
          | getClusterId => exact steady
          | resolvePeerId => exact found _ steady
          | _ => rfl

theorem covered_read {random : String} (covered : RoutingCovered routing) (found : routing.requests.lookup id = some request) :
    RoutingCovered (routing.read id request random) := by
  have steady := covered.steady id request found
  have placed := covered.placed id request found
  unfold Routing.read
  split
  next first =>
    split
    next full target =>
      exact covered_set covered (steady_resolved steady first target) placed
    next unresolved => exact covered_answer covered steady placed (.nothing first unresolved)
  next full resolved => exact covered_answer covered steady placed (.entry full resolved)

theorem covered_arrive {token given requiredScope : String} {tunnelName : Option String} {answer : Option AuthInfo}
    {credential : Credential} (covered : RoutingCovered routing) (valid : routing.credential token given answer = some credential) :
    RoutingCovered (routing.set id ⟨given, .proxy credential requiredScope tunnelName, .getClusterId, none⟩) := by
  refine covered_set covered ?_ (placed_of_query nofun)
  cases credential with
  | serverToken info => rfl
  | localToken holder scopes =>
      have server (answer : Option AuthInfo) : Routing.credential.serverCredential answer ≠ some (.localToken holder scopes) := by
        unfold Routing.credential.serverCredential
        cases answer.filter _ <;> exact nofun
      unfold Routing.credential at valid
      split at valid
      next found other lookup =>
        split at valid
        next => exact absurd valid (server answer)
        next live =>
          cases valid
          obtain ⟨unexpired, bound⟩ := not_or.mp live
          obtain inside | inside := Bool.or_eq_true_iff.mp (covered.tokens token _ lookup)
          · exact absurd (of_decide_eq_true inside) unexpired
          · rw [not_not.mp bound] at inside
            exact inside
      next => exact absurd valid (server answer)

theorem covered_swarm {event : SwarmEvent} {after : Swarm} (covered : RoutingCovered routing)
    (steady : routing.Steady (.swarm event)) (stepped : swarmStep routing.swarm event = some after) :
    RoutingCovered { routing with swarm := after } := by
  simp only [Routing.Steady, stepped, Option.all_some] at steady
  obtain ⟨requests, tokens⟩ := Bool.and_eq_true_iff.mp steady
  rw [List.all_eq_true] at requests tokens
  exact
    { steady := fun id request found => requests request (Table.mem_values.mpr ⟨id, found⟩)
      placed := covered.placed
      tokens := fun token found lookup => tokens found (Table.mem_values.mpr ⟨token, lookup⟩)
      received := covered.received }

end RoutingCovered

theorem covered_step {routing after : Routing} {event : RoutingEvent} (covered : RoutingCovered routing)
    (steady : routing.Steady event) (stepped : routing.step event = some after) : RoutingCovered after := by
  cases event with
  | swarm event =>
      obtain ⟨swarm, taken, rfl⟩ := Option.map_eq_some_iff.mp stepped
      exact covered_swarm covered steady taken
  | certLogin id given service info =>
      obtain ⟨-, same⟩ := Option.ite_none_left_eq_some.mp stepped
      cases same
      exact covered_set covered rfl (placed_of_query nofun)
  | arrive id token given requiredScope tunnelName answer =>
      obtain ⟨-, same⟩ := Option.ite_none_left_eq_some.mp stepped
      obtain ⟨credential, valid, rfl⟩ := Option.map_eq_some_iff.mp same
      exact covered_arrive covered valid
  | read id random =>
      obtain ⟨request, found, rfl⟩ := Option.map_eq_some_iff.mp stepped
      exact covered_read covered found

theorem requests_reach_covered_clusters (swarm : Swarm) (events : List RoutingEvent) (final : Routing)
    (steady : Meets Routing.step Routing.Steady (.start swarm) events)
    (ran : run Routing.step (.start swarm) events = some final) : final.Authorized :=
  (run_invariant_of_meets (fun _ _ _ => covered_step) (covered_start swarm) steady ran).received

def emptySwarm : Swarm := .start (RelayState.new 0 4 10000 10003 none true)

/-- A daemon that connects, registers and advertises the tunnel `web`. -/
def daemonUp (stream : StreamId) (peer : PeerId) (instanceId : InstanceId) (cluster : Uuid) : List SwarmEvent :=
  [.accept peer,
    .receive stream (.register { instanceId, hostname := none, agentName := none, token := "t", sshEnabled := false }),
    .validated stream (.ok { clusterId := some cluster, clusterName := none, tokenKind := "sync" })] ++
    List.replicate 5 (.act stream) ++
    .receive stream (.tunnelAdvertisement { tunnels := [(some "web", some 80)], sshEnabled := false }) ::
    List.replicate 3 (.act stream)

def daemonDown (stream : StreamId) : List SwarmEvent :=
  [.closed stream, .readEnd stream] ++ List.replicate 3 (.act stream)

def holderOfOne : CertAuthInfo := { clusterIds := [1], organizationIds := [], tokenKind := "cert_cluster" }

def loginEvents : List RoutingEvent :=
  .certLogin 0 "aaaaaaaaaaaa" "web" holderOfOne :: List.replicate 4 (.read 0 "token")

def proxyEvents : List RoutingEvent :=
  .arrive 1 "token" "aaaaaaaaaaaa" "tcp:web" (some "web") none :: List.replicate 6 (.read 1 "")

theorem requests_reach_login_cluster : ∃ final,
    run Routing.step (.start emptySwarm) ((daemonUp 0 1 "aaaaaaaaaaaa1" 1).map .swarm ++ loginEvents ++ proxyEvents) = some final ∧
      final.received = [(.localToken holderOfOne ["tcp:web"], some 1)] ∧ final.Authorized :=
  ⟨_, rfl, rfl, requests_reach_covered_clusters emptySwarm
    ((daemonUp 0 1 "aaaaaaaaaaaa1" 1).map .swarm ++ loginEvents ++ proxyEvents) _ (by decide +kernel) rfl⟩

/-- The daemon of the login goes away and one of another cluster comes up whose id has the same beginning. -/
theorem local_token_reaches_other_cluster : ∃ final,
    run Routing.step (.start emptySwarm)
      ((daemonUp 0 1 "aaaaaaaaaaaa1" 1).map .swarm ++ loginEvents ++
        (daemonDown 0 ++ daemonUp 1 2 "aaaaaaaaaaaa2" 2).map .swarm ++ proxyEvents) = some final ∧
      final.received = [(.localToken holderOfOne ["tcp:web"], some 2)] ∧ ¬ final.Authorized := by
  refine ⟨_, rfl, rfl, fun authorized => ?_⟩
  have inside := authorized _ (List.mem_singleton.mpr rfl)
  revert inside
  decide

end MacMgmt.Proof.Relay
