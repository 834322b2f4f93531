import MacMgmt.Daemon.AiProxy

/-!
# What the job counter counts

It counts the handlers, so it is the number of requests in progress as long as none of them streams.
-/

namespace MacMgmt.Proof.ChatRequests
open Lib MacMgmt.Agent MacMgmt.Daemon.AiProxy MacMgmt.Daemon.AiProxy.ChatServer

/-! ## The counter -/

def handlers (server : ChatServer) : Nat := server.requests.countP (·.handled)

def Counts (server : ChatServer) : Prop := server.activeJobs = handlers server % u32

theorem handlers_le (server : ChatServer) : handlers server ≤ server.requests.length := List.countP_le_length

theorem mem_of_find {server : ChatServer} {id : Nat} {request : ChatRequest} (found : server.find id = some request) :
    request ∈ server.requests := List.mem_of_find?_eq_some found

theorem handlers_remove {server : ChatServer} {request : ChatRequest} (listed : request ∈ server.requests) :
    handlers server = handlers (server.remove request) + if request.handled then 1 else 0 := by
  unfold handlers
  rw [(List.perm_cons_erase listed).countP_eq, List.countP_cons]
  rfl

theorem length_remove {server : ChatServer} {request : ChatRequest} (listed : request ∈ server.requests) :
    server.requests.length = (server.remove request).requests.length + 1 := (List.perm_cons_erase listed).length_eq

theorem handlers_setStage (server : ChatServer) (request : ChatRequest) (stage : Stage) :
    handlers (server.setStage request stage) = handlers (server.remove request) + if stage ≠ .streaming then 1 else 0 := by
  unfold handlers
  simp [setStage, remove, List.countP_cons, ChatRequest.handled]

theorem length_setStage {server : ChatServer} {request : ChatRequest} (listed : request ∈ server.requests) (stage : Stage) :
    (server.setStage request stage).requests.length = server.requests.length := by
  rw [length_remove listed]
  rfl

theorem dropGuard_succ (count : Nat) : dropGuard ((count + 1) % u32) = count % u32 := by
  unfold dropGuard u32
  omega

theorem trackJob_mod (count : Nat) : trackJob (count % u32) = (count + 1) % u32 := by
  unfold trackJob u32
  omega

theorem handled_of_isResolved {request : ChatRequest} (resolved : isResolved request) : request.handled := by
  simp only [isResolved, Bool.and_eq_true, decide_eq_true_eq] at resolved
  simpa [ChatRequest.handled] using resolved.2

theorem activeJobs_leave (server : ChatServer) : server.leave.activeJobs = dropGuard server.activeJobs := rfl

-- By cases, as the two counters must not be compared.
theorem requests_leave (server : ChatServer) : server.leave.requests = server.requests := by
  cases server
  rfl

theorem handlers_leave (server : ChatServer) : handlers server.leave = handlers server := by
  rw [handlers, requests_leave, handlers]

theorem counts_leave (server : ChatServer) {count : Nat} (counts : server.activeJobs = (count + 1) % u32)
    (left : handlers server = count) : Counts server.leave := by
  rw [Counts, activeJobs_leave, handlers_leave, counts, dropGuard_succ, left]

variable {hasSender : Bool} {before after : ChatServer} {event : ChatEvent}

theorem counts_step (counts : Counts before) (taken : before.step hasSender event = some after) : Counts after := by
  cases event with
  | accept id isStream =>
      obtain ⟨-, same⟩ := Option.ite_none_right_eq_some.mp taken
      cases same
      show trackJob before.activeJobs = _
      rw [counts, trackJob_mod]
      simp [handlers, ChatRequest.handled]
  | resolve id backends registry now =>
      obtain ⟨request, found, resolves⟩ := Option.bind_eq_some_iff.mp taken
      obtain ⟨accepted, same⟩ := Option.ite_none_right_eq_some.mp resolves
      cases same
      have handled : request.handled := by simp [ChatRequest.handled, accepted]
      show before.activeJobs = handlers (before.setStage request _) % u32
      rw [counts, handlers_remove (mem_of_find found), if_pos handled, handlers_setStage, if_pos (by simp)]
  | respond id ok =>
      obtain ⟨request, found, responds⟩ := Option.bind_eq_some_iff.mp taken
      obtain ⟨resolved, same⟩ := Option.ite_none_right_eq_some.mp responds
      have handled := handled_of_isResolved resolved
      have removed := handlers_remove (mem_of_find found)
      rw [if_pos handled] at removed
      have counted : before.activeJobs = (handlers (before.remove request) + 1) % u32 := counts.trans (congrArg (· % u32) removed)
      split at same
      · cases same
        apply counts_leave (before.setStage request .streaming) counted
        rw [handlers_setStage]
        simp
      · cases same
        exact counts_leave (before.remove request) counted rfl
  | dropHandler id =>
      obtain ⟨request, found, drops⟩ := Option.bind_eq_some_iff.mp taken
      obtain ⟨handled, same⟩ := Option.ite_none_right_eq_some.mp drops
      cases same
      have removed := handlers_remove (mem_of_find found)
      rw [if_pos handled] at removed
      exact counts_leave (before.remove request) (counts.trans (congrArg (· % u32) removed)) rfl
  | streamEnds id =>
      obtain ⟨request, found, ends⟩ := Option.bind_eq_some_iff.mp taken
      obtain ⟨streaming, same⟩ := Option.ite_none_right_eq_some.mp ends
      cases same
      have removed := handlers_remove (mem_of_find found)
      rw [if_neg (by simp [ChatRequest.handled, streaming])] at removed
      exact counts.trans (congrArg (· % u32) removed)

/-! ## Forwarding -/

theorem leastLoadedPeerBelow_lt {order : PeerRegistry.Order} {now localJobs : Nat} {found : PeerId × BackendAdvertisement}
    (least : PeerRegistry.leastLoadedPeerBelow order now localJobs = some found) :
    found.2.activeJobs < localJobs ∧ LeastIs order now found.2.activeJobs := by
  obtain ⟨⟨peer, entry⟩, chosen, rfl⟩ := Option.map_eq_some_iff.mp least
  obtain ⟨listed, below⟩ := List.mem_filter.mp (List.argmin_mem chosen)
  simp only [Bool.and_eq_true, decide_eq_true_eq] at below
  refine ⟨below.2, ⟨peer, entry⟩, listed, below.1, rfl, ?_⟩
  intro other member offers
  by_cases also : other.2.advertisement.activeJobs < localJobs
  · apply List.le_of_mem_argmin _ chosen
    simp [member, offers, also]
  · exact below.2.le.trans (not_lt.mp also)

theorem leastLoadedPeerBelow_of_leastIs {order : PeerRegistry.Order} {now jobs : Nat} (least : LeastIs order now jobs) :
    ∃ found, PeerRegistry.leastLoadedPeerBelow order now (jobs + 1) = some found ∧ found.2.activeJobs = jobs := by
  obtain ⟨entry, listed, offers, same, smallest⟩ := least
  have member : entry ∈ order.filter fun entry =>
      PeerRegistry.offers now entry.2 && decide (entry.2.advertisement.activeJobs < jobs + 1) := by
    simp [listed, offers, same]
  cases chosen : (order.filter fun entry => PeerRegistry.offers now entry.2 &&
      decide (entry.2.advertisement.activeJobs < jobs + 1)).argmin fun entry => entry.2.advertisement.activeJobs with
  | none =>
      rw [List.argmin_eq_none.mp chosen] at member
      cases member
  | some other =>
      refine ⟨(other.1, other.2.advertisement), ?_, ?_⟩
      · simp only [PeerRegistry.leastLoadedPeerBelow, chosen, Option.map_some]
      · obtain ⟨listed, below⟩ := List.mem_filter.mp (List.argmin_mem chosen)
        simp only [Bool.and_eq_true, decide_eq_true_eq] at below
        exact le_antisymm (Nat.lt_succ_iff.mp below.2) (smallest other listed below.1)

theorem forwards_onResolve_iff (hasSender : Bool) (server : ChatServer) (request : ChatRequest) (backends : BackendMap)
    (registry : Option PeerRegistry.Order) (now : Nat) (counted : server.activeJobs = server.requests.length)
    (busy : 0 < server.requests.length) :
    (∀ forward ∈ (server.onResolve hasSender request backends registry now).forwarded,
        forward.hasLocal → forward.peerJobs < forward.others) ↔
      (hasSender → (resolveLocal backends).isSome → ∀ order ∈ registry, ¬LeastIs order now (server.requests.length - 1)) := by
  obtain ⟨others, same⟩ := Nat.exists_eq_succ_of_ne_zero busy.ne'
  simp only [onResolve, counted, same, Nat.succ_eq_add_one, Nat.add_sub_cancel]
  cases hasSender with
  | false => simp
  | true =>
      cases registry with
      | none => simp
      | some order =>
          simp only [if_true, Option.bind_some, Option.mem_def, Option.some.injEq, forall_eq', forall_const]
          constructor
          · intro forwards onNode least
            obtain ⟨found, chosen, jobs⟩ := leastLoadedPeerBelow_of_leastIs least
            have forward := forwards ⟨true, found.2.activeJobs, others⟩ (by simp [peerFor, onNode, chosen]) rfl
            exact absurd jobs forward.ne
          · intro fair forward sent onNode
            obtain ⟨found, chosen, rfl⟩ := Option.map_eq_some_iff.mp sent
            simp only [peerFor, show (resolveLocal backends).isSome = true from onNode, if_true] at chosen
            obtain ⟨below, least⟩ := leastLoadedPeerBelow_lt chosen
            apply Nat.lt_of_le_of_ne (Nat.lt_succ_iff.mp below)
            rintro (jobs : found.2.activeJobs = others)
            exact fair onNode (jobs ▸ least)

/-! ## Runs -/

theorem no_stream (counts : Counts before) (counted : before.activeJobs = before.requests.length) {request : ChatRequest}
    (listed : request ∈ before.requests) : request.handled := by
  by_contra streams
  have removed := handlers_remove listed
  rw [if_neg streams] at removed
  have fewer := handlers_le (before.remove request)
  have more := length_remove listed
  have small := Nat.mod_le (handlers before) u32
  rw [← counts, counted] at small
  omega

theorem activeJobs_lt {server : ChatServer} (counts : Counts server) : server.activeJobs < u32 := by
  rw [counts]
  apply Nat.mod_lt
  unfold u32
  omega

theorem dropGuard_pos {activeJobs : Nat} (positive : 0 < activeJobs) (small : activeJobs < u32) :
    dropGuard activeJobs + 1 = activeJobs := by
  unfold dropGuard
  unfold u32 at small ⊢
  omega

theorem balanced_remove {server : ChatServer} {request : ChatRequest} (counts : Counts server)
    (counted : server.activeJobs = server.requests.length) (listed : request ∈ server.requests) :
    (server.remove request).leave.Balanced := by
  have fewer := length_remove listed
  have positive : 0 < server.activeJobs := by
    rw [counted]
    exact List.length_pos_of_mem listed
  have left := dropGuard_pos positive (activeJobs_lt counts)
  constructor
  · rw [activeJobs_leave, requests_leave]
    have same : (server.remove request).activeJobs = server.activeJobs := rfl
    rw [same]
    omega
  · intro forward sent
    cases sent

theorem not_balanced_stream {server : ChatServer} {request : ChatRequest} (counts : Counts server)
    (counted : server.activeJobs = server.requests.length) (listed : request ∈ server.requests) :
    ¬(server.setStage request .streaming).leave.Balanced := by
  intro balanced
  have still := length_setStage listed .streaming
  have positive : 0 < server.activeJobs := by
    rw [counted]
    exact List.length_pos_of_mem listed
  have left := dropGuard_pos positive (activeJobs_lt counts)
  have wrong := balanced.counted
  rw [activeJobs_leave, requests_leave, still] at wrong
  have same : (server.setStage request .streaming).activeJobs = server.activeJobs := rfl
  rw [same] at wrong
  omega

theorem balanced_accept_iff {server : ChatServer} (counted : server.activeJobs = server.requests.length) (id : Nat)
    (isStream : Bool) :
    Balanced ⟨trackJob server.activeJobs, ⟨id, isStream, .accepted⟩ :: server.requests, none⟩ ↔
      server.requests.length + 1 < u32 := by
  constructor
  · intro balanced
    have same := balanced.counted
    rw [counted, List.length_cons, trackJob] at same
    rw [← same]
    apply Nat.mod_lt
    unfold u32
    omega
  · intro room
    constructor
    · rw [counted, List.length_cons, trackJob, Nat.mod_eq_of_lt room]
    · intro forward sent
      cases sent

theorem balanced_step_iff (counts : Counts before) (balanced : Balanced before)
    (taken : before.step hasSender event = some after) : Balanced after ↔ before.Fair hasSender event := by
  have counted := balanced.counted
  cases event with
  | accept id isStream =>
      obtain ⟨-, same⟩ := Option.ite_none_right_eq_some.mp taken
      cases same
      exact balanced_accept_iff counted id isStream
  | resolve id backends registry now =>
      obtain ⟨request, found, resolves⟩ := Option.bind_eq_some_iff.mp taken
      obtain ⟨-, same⟩ := Option.ite_none_right_eq_some.mp resolves
      cases same
      have listed := mem_of_find found
      have forwards := forwards_onResolve_iff hasSender before request backends registry now counted
        (List.length_pos_of_mem listed)
      have kept : (before.onResolve hasSender request backends registry now).activeJobs =
          (before.onResolve hasSender request backends registry now).requests.length :=
        counted.trans (length_setStage listed (.resolved (resolveBackend backends registry now before.activeJobs))).symm
      exact ⟨fun after => forwards.mp after.forwards, fun fair => ⟨kept, forwards.mpr fair⟩⟩
  | respond id ok =>
      obtain ⟨request, found, responds⟩ := Option.bind_eq_some_iff.mp taken
      obtain ⟨-, same⟩ := Option.ite_none_right_eq_some.mp responds
      have listed := mem_of_find found
      have fair : before.Fair hasSender (.respond id ok) ↔ handsOver request ok = false := by
        simp [Fair, found]
      rw [fair]
      cases streams : handsOver request ok with
      | true =>
          rw [streams, if_pos rfl] at same
          cases same
          simp [not_balanced_stream counts counted listed]
      | false =>
          rw [streams, if_neg Bool.false_ne_true] at same
          cases same
          simp [balanced_remove counts counted listed]
  | dropHandler id =>
      obtain ⟨request, found, drops⟩ := Option.bind_eq_some_iff.mp taken
      obtain ⟨-, same⟩ := Option.ite_none_right_eq_some.mp drops
      cases same
      exact ⟨fun _ => trivial, fun _ => balanced_remove counts counted (mem_of_find found)⟩
  | streamEnds id =>
      obtain ⟨request, found, ends⟩ := Option.bind_eq_some_iff.mp taken
      obtain ⟨streaming, -⟩ := Option.ite_none_right_eq_some.mp ends
      have handled := no_stream counts counted (mem_of_find found)
      simp [ChatRequest.handled, streaming] at handled

theorem jobs_balanced_iff (hasSender : Bool) (events : List ChatEvent) (final : ChatServer)
    (ran : run (ChatServer.step hasSender) .start events = some final) :
    Always (ChatServer.step hasSender) Balanced .start events ↔
      Meets (ChatServer.step hasSender) (ChatServer.Fair hasSender) .start events := by
  apply always_iff_meets (fun _ _ _ => counts_step) (fun _ _ _ => balanced_step_iff) _ _ ran
  · exact (Nat.zero_mod u32).symm
  · exact ⟨rfl, nofun⟩

def ollamaOnly : BackendMap := ⟨some ⟨"127.0.0.1", 11434⟩, none⟩

/-- The registry of a node that knows one peer, with this number of jobs. -/
def onePeer (jobs : Nat) : PeerRegistry.Order := [([2], ⟨⟨"", [⟨"ollama", "http://10.0.0.7:11434"⟩], jobs, []⟩, 0⟩)]

def twoRequests : List ChatEvent :=
  [.accept 1 false, .resolve 1 ollamaOnly (some (onePeer 1)) 0, .accept 2 true, .resolve 2 ollamaOnly (some (onePeer 0)) 5,
    .respond 2 true, .respond 1 false]

theorem jobs_balanced_twoRequests :
    Always (ChatServer.step true) Balanced .start twoRequests := by
  have runs : (run (ChatServer.step true) .start twoRequests).isSome := by decide +kernel
  obtain ⟨final, ran⟩ := Option.isSome_iff_exists.mp runs
  exact (jobs_balanced_iff true twoRequests final ran).mpr (by decide +kernel)

/-- A stream that goes on is not counted, and an idle node forwards its only request to an idle peer. -/
theorem stream_uncounted_and_idle_forwards :
    (run (ChatServer.step true) .start [.accept 1 true, .resolve 1 ollamaOnly none 0, .respond 1 true]).any (fun server =>
        server.activeJobs = 0 && server.requests = [⟨1, true, .streaming⟩]) ∧
      (run (ChatServer.step true) .start [.accept 1 false, .resolve 1 ollamaOnly (some (onePeer 0)) 0]).any (fun server =>
        server.forwarded = some ⟨true, 0, 0⟩ &&
          server.requests = [⟨1, false, .resolved (some (.peer [2] "ollama"))⟩]) := by
  constructor <;> decide +kernel

end MacMgmt.Proof.ChatRequests
