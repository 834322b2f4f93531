import MacMgmt.Lib.Run
import MacMgmt.Relay.Swarm

namespace MacMgmt.Proof.Relay
open Lib MacMgmt.Relay

/-! ## What an event does to the streams -/

def streams (swarm : Swarm) (stream : StreamId) : Option (PeerId × Bool) :=
  (swarm.handlers.lookup stream).map fun handler => (handler.peer, handler.wire)

theorem streams_same {before after : Swarm} {stream : StreamId} {handler next : Handler}
    (found : before.handlers.lookup stream = some handler)
    (handlers : after.handlers = before.handlers.insert stream next)
    (peer : next.peer = handler.peer) (wire : next.wire = handler.wire) (other : StreamId) :
    streams after other = streams before other := by
  unfold streams
  rw [handlers, Table.lookup_insert_ite]
  split
  · rename_i same
    subst same
    simp [found, peer, wire]
  · rfl

def KeepsStream (before after : Swarm) (stream : StreamId) (handler : Handler) : Prop :=
  ∃ next, after.handlers = before.handlers.insert stream next ∧ next.peer = handler.peer ∧
    next.wire = handler.wire ∧ after.rpcMap = before.rpcMap ∧ after.nextStream = before.nextStream

theorem receive_keepsStream (before : Swarm) (stream : StreamId) (handler : Handler) (frame : Frame) :
    KeepsStream before (before.receive stream handler frame) stream handler := by
  cases frame with
  | register frame =>
      unfold Swarm.receive
      dsimp only
      split
      all_goals exact ⟨_, rfl, rfl, rfl, rfl, rfl⟩
  | tunnelAdvertisement frame =>
      unfold Swarm.receive
      dsimp only
      split
      all_goals exact ⟨_, rfl, rfl, rfl, rfl, rfl⟩
  | other msgType => exact ⟨_, rfl, rfl, rfl, rfl, rfl⟩

theorem validated_keepsStream (before : Swarm) (stream : StreamId) (handler : Handler) (frame : RegisterFrame)
    (now : DateTime) (result : Except Nat SelfInfo) :
    KeepsStream before (before.validated stream handler frame now result) stream handler := by
  cases result with
  | error status => exact ⟨_, rfl, rfl, rfl, rfl, rfl⟩
  | ok info =>
      unfold Swarm.validated
      dsimp only
      split_ifs
      all_goals exact ⟨_, rfl, rfl, rfl, rfl, rfl⟩

theorem act_keepsStream {before after : Swarm} {stream : StreamId} {handler : Handler}
    (stepped : before.act stream handler = some after) (last : handler.pc ≠ .forget) :
    KeepsStream before after stream handler := by
  unfold Swarm.act at stepped
  cases pc : handler.pc with
  | idle => simp [pc] at stepped
  | validate frame now => simp [pc] at stepped
  | canRegister frame now info =>
      simp only [pc] at stepped
      split at stepped
      all_goals cases stepped
      all_goals exact ⟨_, rfl, rfl, rfl, rfl, rfl⟩
  | register frame now info =>
      simp only [pc] at stepped
      cases stepped
      unfold Swarm.actRegister
      split
      all_goals exact ⟨_, rfl, rfl, rfl, rfl, rfl⟩
  | startBridge frame info =>
      simp only [pc] at stepped
      cases stepped
      exact ⟨_, rfl, rfl, rfl, rfl, rfl⟩
  | subscribe frame info =>
      simp only [pc] at stepped
      cases stepped
      unfold Swarm.actSubscribe
      split
      all_goals exact ⟨_, rfl, rfl, rfl, rfl, rfl⟩
  | readBack instanceId clusterId =>
      simp only [pc] at stepped
      cases stepped
      exact ⟨_, rfl, rfl, rfl, rfl, rfl⟩
  | advertise instanceId frame =>
      simp only [pc] at stepped
      cases stepped
      exact ⟨_, rfl, rfl, rfl, rfl, rfl⟩
  | updateSsh instanceId enabled =>
      simp only [pc] at stepped
      cases stepped
      exact ⟨_, rfl, rfl, rfl, rfl, rfl⟩
  | syncBridge instanceId enabled prev =>
      simp only [pc] at stepped
      cases stepped
      unfold Swarm.actSyncBridge
      split_ifs
      all_goals exact ⟨_, rfl, rfl, rfl, rfl, rfl⟩
  | enableBridge instanceId =>
      simp only [pc] at stepped
      cases stepped
      exact ⟨_, rfl, rfl, rfl, rfl, rfl⟩
  | unregister =>
      simp only [pc] at stepped
      cases stepped
      unfold Swarm.actUnregister
      split
      all_goals exact ⟨_, rfl, rfl, rfl, rfl, rfl⟩
  | disconnect instanceId =>
      simp only [pc] at stepped
      cases stepped
      exact ⟨_, rfl, rfl, rfl, rfl, rfl⟩
  | unsubscribe =>
      simp only [pc] at stepped
      cases stepped
      unfold Swarm.actUnsubscribe
      split
      all_goals exact ⟨_, rfl, rfl, rfl, rfl, rfl⟩
  | forget => exact absurd pc last

inductive StreamChange (before after : Swarm) : SwarmEvent → Prop where
  | same {event : SwarmEvent} (notClosed : ∀ stream, event ≠ .closed stream)
      (notForgotten : ∀ stream handler, event = .act stream → before.handlers.lookup stream = some handler →
        handler.pc ≠ .forget)
      (rpcMap : after.rpcMap = before.rpcMap) (nextStream : after.nextStream = before.nextStream)
      (unchanged : ∀ other, streams after other = streams before other) : StreamChange before after event
  | opened {peer : PeerId} (rpcMap : after.rpcMap = before.rpcMap.insert peer before.nextStream)
      (nextStream : after.nextStream = before.nextStream + 1)
      (changed : ∀ other, streams after other =
        if other = before.nextStream then some (peer, true) else streams before other) :
      StreamChange before after (.accept peer)
  | closed {stream : StreamId} {peer : PeerId} {wire : Bool} (known : streams before stream = some (peer, wire))
      (rpcMap : after.rpcMap = before.rpcMap) (nextStream : after.nextStream = before.nextStream)
      (changed : ∀ other, streams after other = if other = stream then some (peer, false) else streams before other) :
      StreamChange before after (.closed stream)
  | forgotten {stream : StreamId} {handler : Handler} (known : before.handlers.lookup stream = some handler)
      (place : handler.pc = .forget) (rpcMap : after.rpcMap = before.rpcMap.erase handler.peer)
      (nextStream : after.nextStream = before.nextStream)
      (changed : ∀ other, streams after other = if other = stream then none else streams before other) :
      StreamChange before after (.act stream)

theorem StreamChange.of_keepsStream {before after : Swarm} {stream : StreamId} {handler : Handler}
    {event : SwarmEvent} (found : before.handlers.lookup stream = some handler)
    (kept : KeepsStream before after stream handler) (notClosed : ∀ stream, event ≠ .closed stream)
    (notForgotten : ∀ stream handler, event = .act stream → before.handlers.lookup stream = some handler →
      handler.pc ≠ .forget) : StreamChange before after event := by
  obtain ⟨next, handlers, peer, wire, rpcMap, nextStream⟩ := kept
  exact .same notClosed notForgotten rpcMap nextStream (streams_same found handlers peer wire)

theorem streamChange_of_step {before after : Swarm} {event : SwarmEvent}
    (stepped : swarmStep before event = some after) : StreamChange before after event := by
  cases event with
  | setSshBridge =>
      cases stepped
      exact .same (fun _ same => by cases same) (fun _ _ same => by cases same) rfl rfl (fun _ => rfl)
  | accept peer =>
      cases stepped
      refine .opened rfl rfl ?_
      intro other
      simp only [streams, Table.lookup_insert_ite]
      split <;> rfl
  | closed stream =>
      simp only [swarmStep, Option.bind_eq_bind, Option.bind_eq_some_iff] at stepped
      obtain ⟨handler, found, taken⟩ := stepped
      cases taken
      have known : streams before stream = some (handler.peer, handler.wire) := by simp [streams, found]
      refine .closed known rfl rfl ?_
      intro other
      simp only [streams, Swarm.setHandler, Table.lookup_insert_ite]
      split <;> rfl
  | receive stream frame =>
      simp only [swarmStep, Option.bind_eq_bind, Option.bind_eq_some_iff] at stepped
      obtain ⟨handler, found, taken⟩ := stepped
      split at taken
      · cases taken
        exact .of_keepsStream found (receive_keepsStream before stream handler frame)
          (fun _ same => by cases same) (fun _ _ same => by cases same)
      · cases taken
  | validated stream result =>
      simp only [swarmStep, Option.bind_eq_bind, Option.bind_eq_some_iff] at stepped
      obtain ⟨handler, found, taken⟩ := stepped
      split at taken
      · cases taken
        exact .of_keepsStream found (validated_keepsStream before stream handler _ _ result)
          (fun _ same => by cases same) (fun _ _ same => by cases same)
      · cases taken
  | act stream =>
      simp only [swarmStep, Option.bind_eq_bind, Option.bind_eq_some_iff] at stepped
      obtain ⟨handler, found, taken⟩ := stepped
      by_cases last : handler.pc = .forget
      · simp only [Swarm.act, last, Option.some.injEq] at taken
        subst taken
        refine .forgotten found last rfl rfl ?_
        intro other
        simp only [streams, Table.lookup_erase_ite]
        split <;> rfl
      · apply StreamChange.of_keepsStream found (act_keepsStream taken last)
        · intro other same
          cases same
        · intro other otherHandler same present
          cases same
          rw [found] at present
          cases present
          exact last
  | readEnd stream =>
      simp only [swarmStep, Option.bind_eq_bind, Option.bind_eq_some_iff] at stepped
      obtain ⟨handler, found, taken⟩ := stepped
      split at taken
      · cases taken
        exact .of_keepsStream found ⟨_, rfl, rfl, rfl, rfl, rfl⟩
          (fun _ same => by cases same) (fun _ _ same => by cases same)
      · cases taken
  | clock now =>
      cases stepped
      exact .same (fun _ same => by cases same) (fun _ _ same => by cases same) rfl rfl (fun _ => rfl)

/-! ## Which stream a request reaches -/

def LatestOpen (swarm : Swarm) (peer : PeerId) (stream : StreamId) : Prop :=
  streams swarm stream = some (peer, true) ∧ ∀ other, streams swarm other = some (peer, true) → other ≤ stream

/-- While a peer has an open stream, a request to it goes to the one opened last. -/
def LatestReachable (swarm : Swarm) : Prop :=
  ∀ peer, (∃ stream, streams swarm stream = some (peer, true)) →
    ∃ stream, swarm.sendRequest peer = .ok stream ∧ LatestOpen swarm peer stream

/-- The newest open stream of a peer closes only when the peer has no other one open, and a handler
finishes only when the peer has no other stream open. -/
def KeepsLatest (swarm : Swarm) : SwarmEvent → Prop
  | .closed stream => ∀ peer, LatestOpen swarm peer stream →
      ∀ other, streams swarm other = some (peer, true) → other = stream
  | .act stream => ∀ handler, swarm.handlers.lookup stream = some handler → handler.pc = .forget →
      ∀ other, other ≠ stream → streams swarm other ≠ some (handler.peer, true)
  | _ => True

def openStreams (swarm : Swarm) (peer : PeerId) : List StreamId :=
  (swarm.handlers.retain fun _ handler => handler.peer == peer && handler.wire).keys

theorem mem_openStreams {swarm : Swarm} {peer : PeerId} {stream : StreamId} :
    stream ∈ openStreams swarm peer ↔ streams swarm stream = some (peer, true) := by
  unfold openStreams streams
  rw [← AList.mem_keys, ← AList.lookup_isSome, Table.lookup_retain]
  cases swarm.handlers.lookup stream <;> simp [Option.isSome_filter]

instance (swarm : Swarm) (peer : PeerId) (stream : StreamId) : Decidable (LatestOpen swarm peer stream) :=
  decidable_of_iff (streams swarm stream = some (peer, true) ∧ ∀ other ∈ openStreams swarm peer, other ≤ stream)
    (by simp only [LatestOpen, mem_openStreams])

instance (swarm : Swarm) (event : SwarmEvent) : Decidable (KeepsLatest swarm event) :=
  match event with
  | .closed stream => decidable_of_iff
      (∀ entry ∈ (streams swarm stream).toList, LatestOpen swarm entry.1 stream →
        ∀ other ∈ openStreams swarm entry.1, other = stream) (by
      simp only [KeepsLatest, mem_openStreams, Option.mem_toList, Prod.forall]
      constructor
      · intro all peer isLatest
        exact all peer true isLatest.1 isLatest
      · intro all peer wire _
        exact all peer)
  | .act stream => decidable_of_iff
      (∀ handler ∈ (swarm.handlers.lookup stream).toList, handler.pc = .forget →
        ∀ other ∈ openStreams swarm handler.peer, other = stream) (by
      simp only [KeepsLatest, mem_openStreams, Option.mem_toList]
      constructor
      · intro all handler found place other different isOpen
        exact different (all handler found place other isOpen)
      · intro all handler found place other isOpen
        by_contra different
        exact all handler found place other different isOpen)
  | .setSshBridge | .accept _ | .receive _ _ | .validated _ _ | .readEnd _ | .clock _ => instDecidableTrue

def StreamsBelow (swarm : Swarm) : Prop :=
  ∀ stream, (streams swarm stream).isSome → stream < swarm.nextStream

theorem sendRequest_ok {swarm : Swarm} {peer : PeerId} {stream : StreamId} :
    swarm.sendRequest peer = .ok stream ↔ swarm.rpcMap.lookup peer = some stream := by
  unfold Swarm.sendRequest
  cases swarm.rpcMap.lookup peer <;> simp

theorem streamsBelow_step {before after : Swarm} {event : SwarmEvent} (below : StreamsBelow before)
    (stepped : swarmStep before event = some after) : StreamsBelow after := by
  intro stream present
  cases streamChange_of_step stepped with
  | same _ _ _ nextStream unchanged =>
      rw [unchanged] at present
      rw [nextStream]
      exact below stream present
  | opened _ nextStream changed =>
      rw [changed] at present
      rw [nextStream]
      split at present
      · rename_i new
        rw [new]
        exact Nat.lt_succ_self _
      · exact Nat.lt_succ_of_lt (below stream present)
  | closed known _ nextStream changed =>
      rw [changed] at present
      rw [nextStream]
      apply below
      split at present
      · rename_i same
        rw [same, known]
        rfl
      · exact present
  | forgotten _ _ _ nextStream changed =>
      rw [changed] at present
      rw [nextStream]
      split at present
      · cases present
      · exact below stream present

theorem latestReachable_opened {before after : Swarm} {peer : PeerId} (below : StreamsBelow before)
    (reachable : LatestReachable before)
    (rpcMap : after.rpcMap = before.rpcMap.insert peer before.nextStream)
    (changed : ∀ other, streams after other =
      if other = before.nextStream then some (peer, true) else streams before other) : LatestReachable after := by
  intro other some_open
  by_cases same : other = peer
  · subst same
    refine ⟨before.nextStream, ?_, ?_, ?_⟩
    · rw [sendRequest_ok, rpcMap, AList.lookup_insert]
    · rw [changed, if_pos rfl]
    · intro stream isOpen
      rw [changed] at isOpen
      split at isOpen
      · rename_i new
        exact Nat.le_of_eq new
      · exact Nat.le_of_lt (below stream (by rw [isOpen]; rfl))
  · have transfer : ∀ stream, streams after stream = some (other, true) ↔ streams before stream = some (other, true) := by
      intro stream
      rw [changed]
      split
      · rename_i new
        subst new
        constructor
        · intro isOpen
          cases isOpen
          exact absurd rfl same
        · intro isOpen
          have under := below before.nextStream (by rw [isOpen]; rfl)
          exact absurd under (Nat.lt_irrefl _)
      · rfl
    obtain ⟨stream, isOpen⟩ := some_open
    obtain ⟨latest, sent, isLatest⟩ := reachable other ⟨stream, (transfer stream).mp isOpen⟩
    refine ⟨latest, ?_, (transfer latest).mpr isLatest.1, ?_⟩
    · rw [sendRequest_ok] at sent ⊢
      rw [rpcMap, Table.lookup_insert_ite, if_neg same]
      exact sent
    · intro stream isOpen
      exact isLatest.2 stream ((transfer stream).mp isOpen)

theorem latestReachable_closed {before after : Swarm} {stream : StreamId} {peer : PeerId} {wire : Bool}
    (reachable : LatestReachable before) (known : streams before stream = some (peer, wire))
    (rpcMap : after.rpcMap = before.rpcMap)
    (changed : ∀ other, streams after other = if other = stream then some (peer, false) else streams before other) :
    LatestReachable after ↔ KeepsLatest before (.closed stream) := by
  have transfer : ∀ other owner, streams after other = some (owner, true) ↔
      other ≠ stream ∧ streams before other = some (owner, true) := by
    intro other owner
    rw [changed]
    split
    · rename_i same
      simp [same]
    · rename_i different
      simp [different]
  have sends : ∀ owner, after.sendRequest owner = before.sendRequest owner := by
    intro owner
    unfold Swarm.sendRequest
    rw [rpcMap]
  constructor
  · intro reached owner isLatest other isOpen
    by_contra different
    obtain ⟨target, sent, targetLatest⟩ := reached owner ⟨other, (transfer other owner).mpr ⟨different, isOpen⟩⟩
    obtain ⟨latest, sentBefore, latestBefore⟩ := reachable owner ⟨other, isOpen⟩
    rw [sends, sentBefore] at sent
    obtain rfl : latest = target := Except.ok.inj sent
    have same : latest = stream := le_antisymm (isLatest.2 latest latestBefore.1) (latestBefore.2 stream isLatest.1)
    exact ((transfer latest owner).mp targetLatest.1).1 same
  · intro condition owner some_open
    obtain ⟨other, isOpen⟩ := some_open
    obtain ⟨different, openBefore⟩ := (transfer other owner).mp isOpen
    obtain ⟨latest, sent, isLatest⟩ := reachable owner ⟨other, openBefore⟩
    have kept : latest ≠ stream := by
      intro same
      subst same
      exact different (condition owner isLatest other openBefore)
    refine ⟨latest, by rw [sends, sent], (transfer latest owner).mpr ⟨kept, isLatest.1⟩, ?_⟩
    intro another anotherOpen
    exact isLatest.2 another ((transfer another owner).mp anotherOpen).2

theorem latestReachable_forgotten {before after : Swarm} {stream : StreamId} {handler : Handler}
    (reachable : LatestReachable before) (known : before.handlers.lookup stream = some handler)
    (place : handler.pc = .forget) (rpcMap : after.rpcMap = before.rpcMap.erase handler.peer)
    (changed : ∀ other, streams after other = if other = stream then none else streams before other) :
    LatestReachable after ↔ KeepsLatest before (.act stream) := by
  have transfer : ∀ other owner, streams after other = some (owner, true) ↔
      other ≠ stream ∧ streams before other = some (owner, true) := by
    intro other owner
    rw [changed]
    split
    · rename_i same
      simp [same]
    · rename_i different
      simp [different]
  constructor
  · intro reached owner found _ other different isOpen
    rw [known] at found
    cases found
    obtain ⟨target, sent, -⟩ := reached handler.peer ⟨other, (transfer other _).mpr ⟨different, isOpen⟩⟩
    rw [sendRequest_ok, rpcMap, AList.lookup_erase] at sent
    cases sent
  · intro condition owner some_open
    obtain ⟨other, isOpen⟩ := some_open
    obtain ⟨different, openBefore⟩ := (transfer other owner).mp isOpen
    have away : owner ≠ handler.peer := by
      intro same
      subst same
      exact condition handler known place other different openBefore
    obtain ⟨latest, sent, isLatest⟩ := reachable owner ⟨other, openBefore⟩
    have kept : latest ≠ stream := by
      intro same
      subst same
      have own : streams before latest = some (handler.peer, handler.wire) := by simp [streams, known]
      have samePeer := congrArg Prod.fst (Option.some.inj (own.symm.trans isLatest.1))
      exact away samePeer.symm
    refine ⟨latest, ?_, (transfer latest owner).mpr ⟨kept, isLatest.1⟩, ?_⟩
    · rw [sendRequest_ok] at sent ⊢
      rw [rpcMap, Table.lookup_erase_ite, if_neg away]
      exact sent
    · intro another anotherOpen
      exact isLatest.2 another ((transfer another owner).mp anotherOpen).2

theorem latestReachable_step {before after : Swarm} {event : SwarmEvent} (below : StreamsBelow before)
    (reachable : LatestReachable before) (stepped : swarmStep before event = some after) :
    LatestReachable after ↔ KeepsLatest before event := by
  cases streamChange_of_step stepped with
  | same notClosed notForgotten rpcMap _ unchanged =>
      have reached : LatestReachable after := by
        intro peer some_open
        simp only [unchanged, LatestOpen, sendRequest_ok, rpcMap] at some_open ⊢
        obtain ⟨latest, sent, isLatest⟩ := reachable peer some_open
        exact ⟨latest, sendRequest_ok.mp sent, isLatest⟩
      refine ⟨fun _ => ?_, fun _ => reached⟩
      cases event with
      | closed stream => exact absurd rfl (notClosed stream)
      | act stream => exact fun handler found place => absurd place (notForgotten stream handler rfl found)
      | _ => trivial
  | opened rpcMap _ changed =>
      exact ⟨fun _ => trivial, fun _ => latestReachable_opened below reachable rpcMap changed⟩
  | closed known rpcMap _ changed => exact latestReachable_closed reachable known rpcMap changed
  | forgotten known place rpcMap _ changed => exact latestReachable_forgotten reachable known place rpcMap changed

theorem latestReachable_iff (relay : RelayState) (events : List SwarmEvent) {final : Swarm}
    (ran : run swarmStep (Swarm.start relay) events = some final) :
    Always swarmStep LatestReachable (Swarm.start relay) events ↔
      Meets swarmStep KeepsLatest (Swarm.start relay) events := by
  apply always_iff_meets (fun _ _ _ => streamsBelow_step) (fun _ _ _ => latestReachable_step) _ _ ran
  · intro stream present
    cases present
  · intro peer some_open
    obtain ⟨stream, isOpen⟩ := some_open
    cases isOpen

def emptyRelay : RelayState := RelayState.new 0 4 10000 10003 none true

def finishStream (stream : StreamId) : List SwarmEvent :=
  [.closed stream, .readEnd stream, .act stream, .act stream, .act stream]

theorem latestReachable_reconnected :
    Always swarmStep LatestReachable (Swarm.start emptyRelay)
      ([.accept 7] ++ finishStream 0 ++ [.accept 7]) :=
  (latestReachable_iff emptyRelay ([.accept 7] ++ finishStream 0 ++ [.accept 7]) rfl).mpr (by decide)

/-- A daemon that comes back before its old stream has been cleaned up: the old handler removes the new
stream's sender. -/
theorem sender_lost_on_overlap : ¬ ∀ events final,
    run swarmStep (Swarm.start emptyRelay) events = some final → LatestReachable final := by
  intro all
  obtain ⟨stream, sent, -⟩ := all ([SwarmEvent.accept 7, .accept 7] ++ finishStream 0) _ rfl 7 ⟨1, by decide⟩
  have missing : (none : Option StreamId) = some stream := sendRequest_ok.mp sent
  cases missing

end MacMgmt.Proof.Relay
