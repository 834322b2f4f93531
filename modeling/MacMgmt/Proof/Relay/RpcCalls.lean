import MacMgmt.Relay.RpcCalls

/-!
# Which frame answers which request

The daemon answers no request of the relay, so a frame that the relay gives to a pending request is always a request of
the daemon with the same number, and a call of the daemon may end with a request of the relay that has its number. Both
need an outbound request to overtake the daemon's request of that number. When the relay sends its n-th request only
after it has read the daemon's n-th frame, the pending ids lie behind the frames still to come, and the answer to a call
stands in the channel before any request with its id.
-/

namespace MacMgmt.Proof.Relay
open Lib MacMgmt.Relay

/-- A frame given to a pending request was sent as the answer to it, and so was a frame that a call returned. -/
def Proper (link : RpcLink) : Prop :=
  (∀ entry ∈ link.handed, entry.2.intent = .answer entry.1) ∧ ∀ entry ∈ link.returned, entry.2.intent = .answer entry.1

/-- The answer to the call is on its way, and no frame before it has the id. -/
def Answered (toDaemon : List RelayFrame) (callId : Nat) : Prop :=
  ∃ before after, toDaemon = before ++ ⟨callId, .answer callId⟩ :: after ∧ ∀ frame ∈ before, frame.id ≠ callId

structure Matched (link : RpcLink) : Prop where
  incoming : link.toRelay.map DaemonFrame.id = List.range' (link.lastRead + 1) link.toRelay.length
  sent : link.lastRead + link.toRelay.length + 1 = link.nextId
  pending : ∀ id ∈ link.pendingOutbound, id ≤ link.lastRead
  bound : ∀ frame ∈ link.toDaemon, frame.id ≤ link.lastRead
  awaited : ∀ callId, link.calling = some callId → callId ≤ link.lastRead → Answered link.toDaemon callId
  handed : link.handed = []
  returned : ∀ entry ∈ link.returned, entry.2.intent = .answer entry.1

/-- The relay sends a request only after it has read the daemon's frame with the same number. -/
def Paced (link : RpcLink) : RpcEvent → Prop
  | .outbound false => link.nextOutboundId ≤ link.lastRead
  | _ => True

variable {link after : RpcLink}

theorem Answered.append {toDaemon : List RelayFrame} {callId : Nat} (answered : Answered toDaemon callId) (frame : RelayFrame) :
    Answered (toDaemon ++ [frame]) callId := by
  obtain ⟨before, rest, rfl, fresh⟩ := answered
  exact ⟨before, rest ++ [frame], by simp, fresh⟩

theorem matched_start : Matched .start where
  incoming := rfl
  sent := rfl
  pending := by
    intro id member
    exact absurd member (AList.notMem_empty id)
  bound := by
    intro frame member
    cases member
  awaited := by
    intro callId calling
    cases calling
  handed := rfl
  returned := by
    intro entry member
    cases member

theorem Matched.submit (matched : Matched link) (intent : DaemonIntent) : Matched (link.submit intent) where
  incoming := by
    have number : link.nextId = link.lastRead + 1 + link.toRelay.length := by
      rw [← matched.sent]
      omega
    simp only [RpcLink.submit, List.map_append, matched.incoming, List.length_append, List.length_singleton, List.range'_concat,
      List.map_cons, List.map_nil, number, Nat.one_mul]
  sent := by
    have sent := matched.sent
    simp only [RpcLink.submit, List.length_append, List.length_singleton]
    omega
  pending := matched.pending
  bound := matched.bound
  awaited := matched.awaited
  handed := matched.handed
  returned := matched.returned

theorem Matched.call (matched : Matched link) : Matched { link.submit .register with calling := some link.nextId } :=
  { matched.submit .register with
    awaited := by
      intro callId calling
      cases calling
      have sent := matched.sent
      show link.nextId ≤ link.lastRead → _
      omega }

theorem Matched.returns (matched : Matched link) {frame : RelayFrame} {rest : List RelayFrame}
    (front : link.toDaemon = frame :: rest) (waits : link.calling = some frame.id) :
    Matched { link with toDaemon := rest, calling := none, returned := link.returned ++ [(frame.id, frame)] } := by
  have read : frame.id ≤ link.lastRead := matched.bound frame (front ▸ List.mem_cons_self)
  obtain ⟨before, later, split, fresh⟩ := matched.awaited frame.id waits read
  have answer : frame = ⟨frame.id, .answer frame.id⟩ := by
    cases before with
    | nil => exact (List.cons.inj (front.symm.trans split)).1
    | cons head before =>
        have same : frame = head := (List.cons.inj (front.symm.trans split)).1
        exact absurd (congrArg RelayFrame.id same).symm (fresh head List.mem_cons_self)
  exact { matched with
    bound := fun other member => matched.bound other (front ▸ List.mem_cons_of_mem _ member)
    awaited := by
      intro callId calling
      cases calling
    returned := by
      intro entry member
      obtain old | new := List.mem_append.mp member
      · exact matched.returned entry old
      · obtain rfl := List.mem_singleton.mp new
        exact congrArg RelayFrame.intent answer }

theorem Matched.skips (matched : Matched link) {frame : RelayFrame} {rest : List RelayFrame}
    (front : link.toDaemon = frame :: rest) (ignored : link.calling ≠ some frame.id) :
    Matched { link with toDaemon := rest } :=
  { matched with
    bound := fun other member => matched.bound other (front ▸ List.mem_cons_of_mem _ member)
    awaited := by
      intro callId calling read
      obtain ⟨before, later, split, fresh⟩ := matched.awaited callId calling read
      cases before with
      | nil =>
          have same : frame = ⟨callId, .answer callId⟩ := (List.cons.inj (front.symm.trans split)).1
          rw [same] at ignored
          exact absurd calling ignored
      | cons head before =>
          have tail : rest = before ++ ⟨callId, .answer callId⟩ :: later := (List.cons.inj (front.symm.trans split)).2
          exact ⟨before, later, tail, fun other member => fresh other (List.mem_cons_of_mem _ member)⟩ }

theorem Matched.outbound (matched : Matched link) (paced : link.nextOutboundId ≤ link.lastRead) :
    Matched { link with
      nextOutboundId := link.nextOutboundId + 1
      toDaemon := link.toDaemon ++ [⟨link.nextOutboundId, .request link.nextOutboundId⟩]
      pendingOutbound := link.pendingOutbound.insert link.nextOutboundId true } :=
  { matched with
    pending := by
      intro id member
      obtain rfl | old := (AList.mem_insert _).mp member
      · exact paced
      · exact matched.pending id old
    bound := by
      intro frame member
      obtain old | new := List.mem_append.mp member
      · exact matched.bound frame old
      · obtain rfl := List.mem_singleton.mp new
        exact paced
    awaited := fun callId calling read => (matched.awaited callId calling read).append _ }

theorem Matched.read (matched : Matched link) (taken : link.step .read = some after) : Matched after := by
  cases front : link.toRelay with
  | nil => simp [RpcLink.step, front] at taken
  | cons frame rest =>
      have incoming := matched.incoming
      rw [front, List.map_cons, List.length_cons, List.range'_succ] at incoming
      obtain ⟨number, numbers⟩ := List.cons.inj incoming
      have unpended : frame.id ∉ link.pendingOutbound := by
        intro member
        have behind := matched.pending frame.id member
        omega
      simp only [RpcLink.step, front, unpended, and_false, if_false, Option.some.injEq] at taken
      subst taken
      have sent := matched.sent
      rw [front, List.length_cons] at sent
      exact { matched with
        incoming := numbers
        sent := by
          show link.lastRead + 1 + rest.length + 1 = link.nextId
          omega
        pending := fun id member => Nat.le_succ_of_le (matched.pending id member)
        bound := by
          intro other member
          obtain old | new := List.mem_append.mp member
          · exact Nat.le_succ_of_le (matched.bound other old)
          · obtain rfl := List.mem_singleton.mp new
            exact number.le
        awaited := by
          intro callId calling read
          by_cases earlier : callId ≤ link.lastRead
          · exact (matched.awaited callId calling earlier).append _
          · have here : callId = frame.id := by
              change callId ≤ link.lastRead + 1 at read
              omega
            refine ⟨link.toDaemon, [], by rw [here], fun other member same => ?_⟩
            have behind := matched.bound other member
            omega }

theorem Matched.step {event : RpcEvent} (matched : Matched link) (paced : Paced link event)
    (taken : link.step event = some after) : Matched after := by
  cases event with
  | call =>
      simp only [RpcLink.step, Option.ite_none_right_eq_some, Option.some.injEq] at taken
      obtain ⟨-, rfl⟩ := taken
      exact matched.call
  | send =>
      simp only [RpcLink.step, Option.ite_none_right_eq_some, Option.some.injEq] at taken
      obtain ⟨-, rfl⟩ := taken
      exact matched.submit .tunnelAdvertisement
  | recv =>
      simp only [RpcLink.step] at taken
      split at taken
      · rename_i frame rest _ front
        split at taken
        · rename_i waits
          cases taken
          exact matched.returns front waits
        · rename_i ignored
          cases taken
          exact matched.skips front ignored
      · cases taken
  | drop =>
      simp only [RpcLink.step, Option.ite_none_right_eq_some, Option.some.injEq] at taken
      obtain ⟨-, rfl⟩ := taken
      exact { matched with awaited := fun callId calling => by cases calling }
  | outbound oversized =>
      cases oversized with
      | true =>
          cases taken
          exact { matched with }
      | false =>
          cases taken
          exact matched.outbound paced
  | expire outboundId =>
      cases taken
      exact { matched with pending := fun id member => matched.pending id (Table.mem_modify.mp member) }
  | read => exact matched.read taken

/-- On a stream where each outbound request waits for the daemon's frame of its number, whatever the two ends do, no
daemon request is taken for an answer and every call returns the relay's answer to it. -/
theorem frames_answered {events : List RpcEvent} {final : RpcLink} (paced : Meets RpcLink.step Paced .start events)
    (ran : run RpcLink.step .start events = some final) : Proper final := by
  have matched : Matched final :=
    run_invariant_of_meets (fun _ _ _ holds met taken => Matched.step holds met taken) matched_start paced ran
  refine ⟨fun entry member => ?_, matched.returned⟩
  rw [matched.handed] at member
  cases member

theorem frames_answered_in_turn :
    ∃ final, run RpcLink.step .start [.call, .read, .recv, .outbound false, .send, .read] = some final ∧
      final.returned = [(1, ⟨1, .answer 1⟩)] ∧ Proper final := by
  let events : List RpcEvent := [.call, .read, .recv, .outbound false, .send, .read]
  obtain ⟨final, ran, returned⟩ : ∃ final, run RpcLink.step .start events = some final ∧
      final.returned = [(1, ⟨1, .answer 1⟩)] := ⟨_, rfl, rfl⟩
  have paced : Meets RpcLink.step Paced .start events := by
    rw [meets_cons_iff rfl, meets_cons_iff rfl, meets_cons_iff rfl, meets_cons_iff rfl, meets_cons_iff rfl, meets_cons_iff rfl]
    exact ⟨trivial, trivial, trivial, Nat.le_refl 1, trivial, trivial, trivial⟩
  exact ⟨final, ran, returned, frames_answered paced ran⟩

/-- After a registration the relay sends two requests. The daemon's next registration has the number of the second: the
relay takes it for the answer, and the daemon takes the request for the relay's answer. -/
theorem registration_swallowed :
    ∃ final, run RpcLink.step .start
        [.call, .read, .recv, .outbound false, .outbound false, .recv, .call, .read, .recv] = some final ∧
      final.handed = [(2, ⟨2, .register⟩)] ∧ (2, ⟨2, .request 2⟩) ∈ final.returned ∧ ¬ Proper final := by
  refine ⟨_, rfl, rfl, ?_, ?_⟩
  · decide
  · rintro ⟨handed, -⟩
    cases handed (2, ⟨2, .register⟩) List.mem_cons_self

end MacMgmt.Proof.Relay
