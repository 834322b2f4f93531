import MacMgmt.Proof.Relay.SshListeners
import MacMgmt.Relay.Swarm

/-!
# The subscriptions follow the registered streams

While no stream registers a second time, the `Subscribe` commands for a cluster exceed its `Unsubscribe` commands by the
number of handlers that hold the cluster, and no prefix of the commands has more of the latter. So the event loop's
saturating count is exactly that difference over the commands it has received.
-/

namespace MacMgmt.Proof.Relay
open Lib MacMgmt.Relay

/-! ## What an event does to the commands -/

def Reply.registration : Reply → Option (Option Uuid)
  | .registered cluster _ => some cluster
  | _ => none

def registrations (replies : List (StreamId × Reply)) (stream : StreamId) : List (Option Uuid) :=
  replies.filterMap fun entry => if entry.1 = stream then Reply.registration entry.2 else none

def lastRegistration (replies : List (StreamId × Reply)) (stream : StreamId) : Option Uuid :=
  (registrations replies stream).getLast?.join

theorem lastRegistration_append_other {replies : List (StreamId × Reply)} {stream other : StreamId} {answer : Reply}
    (different : stream ≠ other ∨ Reply.registration answer = none) :
    lastRegistration (replies ++ [(stream, answer)]) other = lastRegistration replies other := by
  unfold lastRegistration registrations
  rw [List.filterMap_append]
  rcases different with different | none_
  · simp [different]
  · by_cases same : stream = other
    · simp [same, none_]
    · simp [same]

theorem lastRegistration_append_same (replies : List (StreamId × Reply)) (stream : StreamId) (cluster : Option Uuid)
    (port : Option Nat) :
    lastRegistration (replies ++ [(stream, .registered cluster port)]) stream = cluster := by
  unfold lastRegistration registrations
  rw [List.filterMap_append]
  simp [Reply.registration]

/-- Between the subscription and the reply a handler is `answering`; after the cleanup's command it is `gone`. -/
inductive Phase where
  | ordinary
  | answering (cluster : Option Uuid)
  | gone
deriving DecidableEq

def Pc.phase : Pc → Phase
  | .readBack _ cluster => .answering cluster
  | .forget => .gone
  | _ => .ordinary

def Pc.subscribes : Pc → Bool
  | .subscribe _ _ => true
  | _ => false

inductive GossipChange (before after : Swarm) : SwarmEvent → Prop where
  | unrelated {event : SwarmEvent} (handlers : after.handlers = before.handlers) (gossip : after.gossip = before.gossip)
      (replies : after.replies = before.replies) (nextStream : after.nextStream = before.nextStream) :
      GossipChange before after event
  | accepted {event : SwarmEvent} {handler : Handler}
      (handlers : after.handlers = before.handlers.insert before.nextStream handler)
      (cluster : handler.registeredClusterId = none) (place : Pc.phase handler.pc = .ordinary)
      (gossip : after.gossip = before.gossip) (replies : after.replies = before.replies)
      (nextStream : after.nextStream = before.nextStream + 1) : GossipChange before after event
  | quiet {event : SwarmEvent} {stream : StreamId} {handler next : Handler}
      (found : before.handlers.lookup stream = some handler)
      (handlers : after.handlers = before.handlers.insert stream next)
      (cluster : next.registeredClusterId = handler.registeredClusterId)
      (place : Pc.phase next.pc = Pc.phase handler.pc) (gossip : after.gossip = before.gossip)
      (replies : after.replies = before.replies ∨
        ∃ answer, Reply.registration answer = none ∧ after.replies = before.replies ++ [(stream, answer)])
      (nextStream : after.nextStream = before.nextStream) : GossipChange before after event
  | subscribed {stream : StreamId} {handler next : Handler} {frame : RegisterFrame} {info : SelfInfo}
      (found : before.handlers.lookup stream = some handler) (at_ : handler.pc = .subscribe frame info)
      (handlers : after.handlers = before.handlers.insert stream next)
      (cluster : next.registeredClusterId = info.clusterId.or handler.registeredClusterId)
      (place : Pc.phase next.pc = .answering info.clusterId)
      (gossip : after.gossip = before.gossip ++ (info.clusterId.map GossipCmd.subscribe).toList)
      (replies : after.replies = before.replies) (nextStream : after.nextStream = before.nextStream) :
      GossipChange before after (.act stream)
  | answered {event : SwarmEvent} {stream : StreamId} {handler next : Handler} {cluster : Option Uuid}
      {port : Option Nat}
      (found : before.handlers.lookup stream = some handler) (at_ : Pc.phase handler.pc = .answering cluster)
      (handlers : after.handlers = before.handlers.insert stream next)
      (same : next.registeredClusterId = handler.registeredClusterId) (place : Pc.phase next.pc = .ordinary)
      (gossip : after.gossip = before.gossip)
      (replies : after.replies = before.replies ++ [(stream, .registered cluster port)])
      (nextStream : after.nextStream = before.nextStream) : GossipChange before after event
  | unsubscribed {event : SwarmEvent} {stream : StreamId} {handler next : Handler}
      (found : before.handlers.lookup stream = some handler) (at_ : Pc.phase handler.pc = .ordinary)
      (handlers : after.handlers = before.handlers.insert stream next) (place : Pc.phase next.pc = .gone)
      (gossip : after.gossip = before.gossip ++ (handler.registeredClusterId.map GossipCmd.unsubscribe).toList)
      (replies : after.replies = before.replies) (nextStream : after.nextStream = before.nextStream) :
      GossipChange before after event
  | forgotten {event : SwarmEvent} {stream : StreamId} {handler : Handler}
      (found : before.handlers.lookup stream = some handler) (at_ : Pc.phase handler.pc = .gone)
      (handlers : after.handlers = before.handlers.erase stream) (gossip : after.gossip = before.gossip)
      (replies : after.replies = before.replies) (nextStream : after.nextStream = before.nextStream) :
      GossipChange before after event

theorem receive_quiet {before : Swarm} {event : SwarmEvent} {stream : StreamId} {handler : Handler} (frame : Frame)
    (found : before.handlers.lookup stream = some handler) (idle : handler.pc = .idle) :
    GossipChange before (before.receive stream handler frame) event := by
  have place : Pc.phase handler.pc = .ordinary := by rw [idle]; rfl
  cases frame with
  | register frame =>
      simp only [Swarm.receive]
      split
      · exact .quiet found rfl rfl place.symm rfl (.inr ⟨_, rfl, rfl⟩) rfl
      · exact .quiet found rfl rfl place.symm rfl (.inl rfl) rfl
  | tunnelAdvertisement frame =>
      simp only [Swarm.receive]
      split
      · exact .quiet found rfl rfl place.symm rfl (.inl rfl) rfl
      · exact .quiet found rfl rfl place.symm rfl (.inr ⟨_, rfl, rfl⟩) rfl
  | other msgType => exact .quiet found rfl rfl place.symm rfl (.inr ⟨_, rfl, rfl⟩) rfl

theorem validated_quiet {before : Swarm} {event : SwarmEvent} {stream : StreamId} {handler : Handler}
    {frame : RegisterFrame} {now : DateTime} (result : Except Nat SelfInfo)
    (found : before.handlers.lookup stream = some handler) (validates : handler.pc = .validate frame now) :
    GossipChange before (before.validated stream handler frame now result) event := by
  have place : Pc.phase handler.pc = .ordinary := by rw [validates]; rfl
  cases result with
  | error status => exact .quiet found rfl rfl place.symm rfl (.inr ⟨_, rfl, rfl⟩) rfl
  | ok info =>
      simp only [Swarm.validated]
      split
      · exact .quiet found rfl rfl place.symm rfl (.inr ⟨_, rfl, rfl⟩) rfl
      · split
        · exact .quiet found rfl rfl place.symm rfl (.inr ⟨_, rfl, rfl⟩) rfl
        · exact .quiet found rfl rfl place.symm rfl (.inl rfl) rfl

theorem act_changes {before after : Swarm} {stream : StreamId} {handler : Handler}
    (found : before.handlers.lookup stream = some handler) (stepped : before.act stream handler = some after) :
    GossipChange before after (.act stream) := by
  cases pc : handler.pc with
  | idle => simp [Swarm.act, pc] at stepped
  | validate frame now => simp [Swarm.act, pc] at stepped
  | canRegister frame now info =>
      simp only [Swarm.act, pc] at stepped
      split at stepped
      · cases stepped
        exact .quiet found rfl rfl (by rw [pc]; rfl) rfl (.inl rfl) rfl
      · cases stepped
        exact .quiet found rfl rfl (by rw [pc]; rfl) rfl (.inr ⟨_, rfl, rfl⟩) rfl
  | register frame now info =>
      simp only [Swarm.act, pc] at stepped
      cases stepped
      unfold Swarm.actRegister
      split
      · exact .quiet found rfl rfl (by rw [pc]; rfl) rfl (.inr ⟨_, rfl, rfl⟩) rfl
      · exact .quiet found rfl rfl (by rw [pc]; rfl) rfl (.inl rfl) rfl
  | startBridge frame info =>
      simp only [Swarm.act, pc] at stepped
      cases stepped
      exact .quiet found rfl rfl (by rw [pc]; rfl) rfl (.inl rfl) rfl
  | subscribe frame info =>
      simp only [Swarm.act, pc] at stepped
      cases stepped
      unfold Swarm.actSubscribe
      split
      · rename_i unclustered
        refine .subscribed found pc rfl ?_ ?_ ?_ rfl rfl
        · rw [unclustered]; rfl
        · rw [unclustered]; rfl
        · rw [unclustered]; exact (List.append_nil _).symm
      · rename_i cluster clustered
        refine .subscribed found pc rfl ?_ ?_ ?_ rfl rfl
        · rw [clustered]; rfl
        · rw [clustered]; rfl
        · rw [clustered]; rfl
  | readBack instanceId cluster =>
      simp only [Swarm.act, pc] at stepped
      cases stepped
      exact .answered found (by rw [pc]; rfl) rfl rfl rfl rfl rfl rfl
  | advertise instanceId frame =>
      simp only [Swarm.act, pc] at stepped
      cases stepped
      exact .quiet found rfl rfl (by rw [pc]; rfl) rfl (.inl rfl) rfl
  | updateSsh instanceId enabled =>
      simp only [Swarm.act, pc] at stepped
      cases stepped
      exact .quiet found rfl rfl (by rw [pc]; rfl) rfl (.inl rfl) rfl
  | syncBridge instanceId enabled prev =>
      simp only [Swarm.act, pc] at stepped
      cases stepped
      unfold Swarm.actSyncBridge
      split_ifs
      · exact .quiet found rfl rfl (by rw [pc]; rfl) rfl (.inr ⟨_, rfl, rfl⟩) rfl
      · exact .quiet found rfl rfl (by rw [pc]; rfl) rfl (.inr ⟨_, rfl, rfl⟩) rfl
      · exact .quiet found rfl rfl (by rw [pc]; rfl) rfl (.inl rfl) rfl
      · exact .quiet found rfl rfl (by rw [pc]; rfl) rfl (.inr ⟨_, rfl, rfl⟩) rfl
      · exact .quiet found rfl rfl (by rw [pc]; rfl) rfl (.inr ⟨_, rfl, rfl⟩) rfl
  | enableBridge instanceId =>
      simp only [Swarm.act, pc] at stepped
      cases stepped
      exact .quiet found rfl rfl (by rw [pc]; rfl) rfl (.inr ⟨_, rfl, rfl⟩) rfl
  | unregister =>
      simp only [Swarm.act, pc] at stepped
      cases stepped
      unfold Swarm.actUnregister
      split
      · dsimp only
        split
        · exact .quiet found rfl rfl (by rw [pc]; rfl) rfl (.inl rfl) rfl
        · exact .quiet found rfl rfl (by rw [pc]; rfl) rfl (.inl rfl) rfl
      · exact .quiet found rfl rfl (by rw [pc]; rfl) rfl (.inl rfl) rfl
  | disconnect instanceId =>
      simp only [Swarm.act, pc] at stepped
      cases stepped
      exact .quiet found rfl rfl (by rw [pc]; rfl) rfl (.inl rfl) rfl
  | unsubscribe =>
      simp only [Swarm.act, pc] at stepped
      cases stepped
      unfold Swarm.actUnsubscribe
      split
      · rename_i unclustered
        refine .unsubscribed found (by rw [pc]; rfl) rfl rfl ?_ rfl rfl
        rw [unclustered]
        exact (List.append_nil _).symm
      · rename_i cluster clustered
        refine .unsubscribed found (by rw [pc]; rfl) rfl rfl ?_ rfl rfl
        rw [clustered]
        rfl
  | forget =>
      simp only [Swarm.act, pc] at stepped
      cases stepped
      exact .forgotten found (by rw [pc]; rfl) rfl rfl rfl rfl

theorem gossipChange_of_step {before after : Swarm} {event : SwarmEvent}
    (stepped : swarmStep before event = some after) : GossipChange before after event := by
  cases event with
  | setSshBridge =>
      cases stepped
      exact .unrelated rfl rfl rfl rfl
  | accept peer =>
      cases stepped
      exact .accepted rfl rfl rfl rfl rfl rfl
  | closed stream =>
      simp only [swarmStep, Option.bind_eq_bind, Option.bind_eq_some_iff] at stepped
      obtain ⟨handler, found, taken⟩ := stepped
      cases taken
      exact .quiet found rfl rfl rfl rfl (.inl rfl) rfl
  | receive stream frame =>
      simp only [swarmStep, Option.bind_eq_bind, Option.bind_eq_some_iff] at stepped
      obtain ⟨handler, found, taken⟩ := stepped
      split at taken
      · rename_i idle
        cases taken
        exact receive_quiet frame found idle
      · cases taken
  | validated stream result =>
      simp only [swarmStep, Option.bind_eq_bind, Option.bind_eq_some_iff] at stepped
      obtain ⟨handler, found, taken⟩ := stepped
      split at taken
      · rename_i frame now validates
        cases taken
        exact validated_quiet result found validates
      · cases taken
  | act stream =>
      simp only [swarmStep, Option.bind_eq_bind, Option.bind_eq_some_iff] at stepped
      obtain ⟨handler, found, taken⟩ := stepped
      exact act_changes found taken
  | readEnd stream =>
      simp only [swarmStep, Option.bind_eq_bind, Option.bind_eq_some_iff] at stepped
      obtain ⟨handler, found, taken⟩ := stepped
      split at taken
      · rename_i ended
        cases taken
        exact .quiet found rfl rfl (by rw [ended.1]; rfl) rfl (.inl rfl) rfl
      · cases taken
  | clock now =>
      cases stepped
      exact .unrelated rfl rfl rfl rfl

/-! ## Commands and the handlers that sent them -/

/-- No prefix unsubscribes a cluster more often than it subscribes it. -/
def Covered (commands : List GossipCmd) : Prop :=
  ∀ cluster count, (commands.take count).count (.unsubscribe cluster) ≤ (commands.take count).count (.subscribe cluster)

theorem Covered.append {commands : List GossipCmd} {command : GossipCmd} (covered : Covered commands)
    (whole : ∀ cluster, (commands ++ [command]).count (.unsubscribe cluster) ≤
      (commands ++ [command]).count (.subscribe cluster)) : Covered (commands ++ [command]) := by
  intro cluster count
  by_cases short : count ≤ commands.length
  · rw [List.take_append_of_le_length short]
    exact covered cluster count
  · rw [List.take_of_length_le (by simp; omega)]
    exact whole cluster

def holds (handler : Handler) (cluster : Uuid) : Bool :=
  Pc.phase handler.pc ≠ .gone && handler.registeredClusterId = some cluster

def holders (swarm : Swarm) (cluster : Uuid) : Nat := swarm.handlers.tally fun _ handler => holds handler cluster

def Settled (last : Option Uuid) (handler : Handler) : Prop :=
  match Pc.phase handler.pc with
  | .ordinary => last = handler.registeredClusterId
  | .answering cluster => handler.registeredClusterId = cluster
  | .gone => True

structure Balanced (swarm : Swarm) : Prop where
  below : ∀ stream handler, swarm.handlers.lookup stream = some handler → stream < swarm.nextStream
  replied : ∀ entry ∈ swarm.replies, entry.1 < swarm.nextStream
  settled : ∀ stream handler, swarm.handlers.lookup stream = some handler →
    Settled (lastRegistration swarm.replies stream) handler
  covered : Covered swarm.gossip
  held : ∀ cluster, swarm.gossip.count (.subscribe cluster) =
    swarm.gossip.count (.unsubscribe cluster) + holders swarm cluster

theorem holders_insert {before after : Swarm} {stream : StreamId} {handler next : Handler}
    (found : before.handlers.lookup stream = some handler)
    (handlers : after.handlers = before.handlers.insert stream next) (cluster : Uuid) :
    holders after cluster + (if holds handler cluster then 1 else 0) =
      holders before cluster + if holds next cluster then 1 else 0 := by
  have inserted := Table.tally_insert before.handlers stream next fun _ handler => holds handler cluster
  rw [found] at inserted
  unfold holders
  rw [handlers]
  exact inserted

theorem holders_same {before after : Swarm} {stream : StreamId} {handler next : Handler}
    (found : before.handlers.lookup stream = some handler)
    (handlers : after.handlers = before.handlers.insert stream next)
    (same : ∀ cluster, holds next cluster = holds handler cluster) (cluster : Uuid) :
    holders after cluster = holders before cluster := by
  have inserted := holders_insert found handlers cluster
  rw [same] at inserted
  omega

theorem holds_same {handler next : Handler} (cluster : next.registeredClusterId = handler.registeredClusterId)
    (here : Pc.phase handler.pc ≠ .gone) (there : Pc.phase next.pc ≠ .gone) (uuid : Uuid) :
    holds next uuid = holds handler uuid := by
  simp [holds, cluster, here, there]

theorem holds_of_gone {handler : Handler} (gone : Pc.phase handler.pc = .gone) (cluster : Uuid) :
    holds handler cluster = false := by
  simp [holds, gone]

theorem holds_of_present {handler : Handler} (present : Pc.phase handler.pc ≠ .gone) (cluster : Uuid) :
    holds handler cluster = decide (handler.registeredClusterId = some cluster) := by
  simp [holds, present]

theorem count_command {command : Uuid → GossipCmd} (injective : Function.Injective command) (wanted : Option Uuid)
    (cluster : Uuid) :
    (wanted.map command).toList.count (command cluster) = if wanted = some cluster then 1 else 0 := by
  cases wanted with
  | none => rfl
  | some mine =>
      by_cases same : mine = cluster
      · simp [same]
      · have apart : command mine ≠ command cluster := fun equal => same (injective equal)
        simp [same, apart]

theorem count_other_command {command : Uuid → GossipCmd} {other : GossipCmd} (apart : ∀ mine, command mine ≠ other)
    (wanted : Option Uuid) : (wanted.map command).toList.count other = 0 := by
  cases wanted with
  | none => rfl
  | some mine => simp [apart mine]

theorem Covered.append_option {commands : List GossipCmd} (covered : Covered commands) (command : Uuid → GossipCmd)
    (wanted : Option Uuid)
    (held : ∀ cluster, (commands ++ (wanted.map command).toList).count (.unsubscribe cluster) ≤
      (commands ++ (wanted.map command).toList).count (.subscribe cluster)) :
    Covered (commands ++ (wanted.map command).toList) := by
  cases wanted with
  | none => simpa using covered
  | some mine => exact covered.append held

theorem below_insert {before after : Swarm} {stream : StreamId} {handler next : Handler} (balanced : Balanced before)
    (found : before.handlers.lookup stream = some handler)
    (handlers : after.handlers = before.handlers.insert stream next) (nextStream : after.nextStream = before.nextStream) :
    ∀ other held, after.handlers.lookup other = some held → other < after.nextStream := by
  intro other held present
  rw [handlers, Table.lookup_insert_ite] at present
  rw [nextStream]
  split at present
  · rename_i same
    rw [same]
    exact balanced.below stream handler found
  · exact balanced.below other held present

theorem settled_insert {before after : Swarm} {stream : StreamId} {next : Handler} (balanced : Balanced before)
    (handlers : after.handlers = before.handlers.insert stream next)
    (kept : ∀ other, other ≠ stream → lastRegistration after.replies other = lastRegistration before.replies other)
    (settled : Settled (lastRegistration after.replies stream) next) :
    ∀ other held, after.handlers.lookup other = some held → Settled (lastRegistration after.replies other) held := by
  intro other held present
  rw [handlers, Table.lookup_insert_ite] at present
  split at present
  · rename_i same
    cases present
    rw [same]
    exact settled
  · rename_i different
    rw [kept other different]
    exact balanced.settled other held present

theorem registrations_fresh {replies : List (StreamId × Reply)} {stream : StreamId}
    (below : ∀ entry ∈ replies, entry.1 < stream) : lastRegistration replies stream = none := by
  have empty : registrations replies stream = [] := by
    unfold registrations
    rw [List.filterMap_eq_nil_iff]
    intro entry member
    rw [if_neg (Nat.ne_of_lt (below entry member))]
  rw [lastRegistration, empty]
  rfl

theorem replied_append {before after : Swarm} {stream : StreamId} {handler : Handler} {answer : Reply}
    (balanced : Balanced before) (found : before.handlers.lookup stream = some handler)
    (replies : after.replies = before.replies ++ [(stream, answer)]) (nextStream : after.nextStream = before.nextStream) :
    ∀ entry ∈ after.replies, entry.1 < after.nextStream := by
  intro entry member
  rw [replies, List.mem_append, List.mem_singleton] at member
  rw [nextStream]
  rcases member with member | rfl
  · exact balanced.replied entry member
  · exact balanced.below stream handler found

theorem Balanced.quiet {before after : Swarm} {stream : StreamId} {handler next : Handler} (balanced : Balanced before)
    (found : before.handlers.lookup stream = some handler)
    (handlers : after.handlers = before.handlers.insert stream next)
    (cluster : next.registeredClusterId = handler.registeredClusterId)
    (place : Pc.phase next.pc = Pc.phase handler.pc) (gossip : after.gossip = before.gossip)
    (replies : after.replies = before.replies ∨
      ∃ answer, Reply.registration answer = none ∧ after.replies = before.replies ++ [(stream, answer)])
    (nextStream : after.nextStream = before.nextStream) : Balanced after := by
  have last : ∀ other, lastRegistration after.replies other = lastRegistration before.replies other := by
    intro other
    rcases replies with same | ⟨answer, none_, appended⟩
    · rw [same]
    · rw [appended, lastRegistration_append_other (.inr none_)]
  refine ⟨below_insert balanced found handlers nextStream, ?_, ?_, ?_, ?_⟩
  · rcases replies with same | ⟨answer, -, appended⟩
    · rw [same, nextStream]
      exact balanced.replied
    · exact replied_append balanced found appended nextStream
  · apply settled_insert balanced handlers (fun other _ => last other)
    rw [last]
    have settled := balanced.settled stream handler found
    unfold Settled at settled ⊢
    rw [place, cluster]
    exact settled
  · rw [gossip]
    exact balanced.covered
  · intro uuid
    have same : ∀ uuid, holds next uuid = holds handler uuid := by
      intro uuid
      unfold holds
      rw [place, cluster]
    rw [gossip, holders_same found handlers same]
    exact balanced.held uuid

theorem Balanced.subscribed {before after : Swarm} {stream : StreamId} {handler next : Handler}
    {wanted : Option Uuid} (balanced : Balanced before) (found : before.handlers.lookup stream = some handler)
    (here : Pc.phase handler.pc = .ordinary) (first : handler.registeredClusterId = none)
    (handlers : after.handlers = before.handlers.insert stream next) (cluster : next.registeredClusterId = wanted)
    (place : Pc.phase next.pc = .answering wanted)
    (gossip : after.gossip = before.gossip ++ (wanted.map GossipCmd.subscribe).toList)
    (replies : after.replies = before.replies) (nextStream : after.nextStream = before.nextStream) :
    Balanced after := by
  have held : ∀ uuid, after.gossip.count (.subscribe uuid) =
      after.gossip.count (.unsubscribe uuid) + holders after uuid := by
    intro uuid
    have inserted := holders_insert found handlers uuid
    have before_held := balanced.held uuid
    rw [holds_of_present (by simp [here]), holds_of_present (by simp [place]), first, cluster] at inserted
    rw [gossip, List.count_append, List.count_append, count_command fun _ _ => GossipCmd.subscribe.inj,
      count_other_command fun _ same => by cases same]
    simp only [decide_eq_true_eq, reduceCtorEq, if_false] at inserted
    omega
  refine ⟨below_insert balanced found handlers nextStream, ?_, ?_, ?_, held⟩
  · rw [replies, nextStream]
    exact balanced.replied
  · apply settled_insert balanced handlers (fun other _ => by rw [replies])
    unfold Settled
    rw [place]
    exact cluster
  · rw [gossip] at held ⊢
    refine balanced.covered.append_option _ _ fun uuid => ?_
    rw [held uuid]
    exact Nat.le_add_right _ _

theorem Balanced.answered {before after : Swarm} {stream : StreamId} {handler next : Handler} {cluster : Option Uuid}
    {port : Option Nat} (balanced : Balanced before) (found : before.handlers.lookup stream = some handler)
    (here : Pc.phase handler.pc = .answering cluster) (handlers : after.handlers = before.handlers.insert stream next)
    (same : next.registeredClusterId = handler.registeredClusterId) (place : Pc.phase next.pc = .ordinary)
    (gossip : after.gossip = before.gossip)
    (replies : after.replies = before.replies ++ [(stream, .registered cluster port)])
    (nextStream : after.nextStream = before.nextStream) : Balanced after := by
  have settled := balanced.settled stream handler found
  unfold Settled at settled
  rw [here] at settled
  refine ⟨below_insert balanced found handlers nextStream, replied_append balanced found replies nextStream, ?_, ?_, ?_⟩
  · apply settled_insert balanced handlers
    · intro other different
      rw [replies, lastRegistration_append_other (.inl different.symm)]
    · unfold Settled
      rw [place, replies, lastRegistration_append_same, same]
      exact settled.symm
  · rw [gossip]
    exact balanced.covered
  · intro uuid
    rw [gossip, holders_same found handlers (holds_same same (by simp [here]) (by simp [place]))]
    exact balanced.held uuid

theorem Balanced.unsubscribed {before after : Swarm} {stream : StreamId} {handler next : Handler}
    (balanced : Balanced before) (found : before.handlers.lookup stream = some handler)
    (here : Pc.phase handler.pc = .ordinary) (handlers : after.handlers = before.handlers.insert stream next)
    (place : Pc.phase next.pc = .gone)
    (gossip : after.gossip = before.gossip ++ (handler.registeredClusterId.map GossipCmd.unsubscribe).toList)
    (replies : after.replies = before.replies) (nextStream : after.nextStream = before.nextStream) :
    Balanced after := by
  have held : ∀ uuid, after.gossip.count (.subscribe uuid) =
      after.gossip.count (.unsubscribe uuid) + holders after uuid := by
    intro uuid
    have inserted := holders_insert found handlers uuid
    have before_held := balanced.held uuid
    rw [holds_of_present (by simp [here]), holds_of_gone place] at inserted
    rw [gossip, List.count_append, List.count_append, count_command fun _ _ => GossipCmd.unsubscribe.inj,
      count_other_command fun _ same => by cases same]
    simp only [decide_eq_true_eq, Bool.false_eq_true, if_false] at inserted
    omega
  refine ⟨below_insert balanced found handlers nextStream, ?_, ?_, ?_, held⟩
  · rw [replies, nextStream]
    exact balanced.replied
  · apply settled_insert balanced handlers (fun other _ => by rw [replies])
    unfold Settled
    rw [place]
    trivial
  · rw [gossip] at held ⊢
    refine balanced.covered.append_option _ _ fun uuid => ?_
    rw [held uuid]
    exact Nat.le_add_right _ _

theorem Balanced.forgotten {before after : Swarm} {stream : StreamId} {handler : Handler} (balanced : Balanced before)
    (found : before.handlers.lookup stream = some handler) (here : Pc.phase handler.pc = .gone)
    (handlers : after.handlers = before.handlers.erase stream) (gossip : after.gossip = before.gossip)
    (replies : after.replies = before.replies) (nextStream : after.nextStream = before.nextStream) :
    Balanced after := by
  have kept : ∀ other held, after.handlers.lookup other = some held → before.handlers.lookup other = some held := by
    intro other held present
    rw [handlers, Table.lookup_erase_ite] at present
    split at present
    · cases present
    · exact present
  refine ⟨?_, by rw [replies, nextStream]; exact balanced.replied, ?_, by rw [gossip]; exact balanced.covered, ?_⟩
  · intro other held present
    rw [nextStream]
    exact balanced.below other held (kept other held present)
  · intro other held present
    rw [replies]
    exact balanced.settled other held (kept other held present)
  · intro uuid
    have erased := Table.tally_erase before.handlers stream fun _ handler => holds handler uuid
    rw [found] at erased
    simp only [Option.any_some, holds, here] at erased
    simp only [ne_eq, not_true_eq_false, decide_false, Bool.false_and, Bool.false_eq_true, if_false] at erased
    rw [gossip, balanced.held uuid, holders, holders, handlers]
    exact congrArg _ erased

theorem Balanced.accepted {before after : Swarm} {handler : Handler} (balanced : Balanced before)
    (handlers : after.handlers = before.handlers.insert before.nextStream handler)
    (cluster : handler.registeredClusterId = none) (place : Pc.phase handler.pc = .ordinary)
    (gossip : after.gossip = before.gossip) (replies : after.replies = before.replies)
    (nextStream : after.nextStream = before.nextStream + 1) : Balanced after := by
  have fresh : before.handlers.lookup before.nextStream = none := by
    by_contra present
    obtain ⟨held, found⟩ := Option.ne_none_iff_exists'.mp present
    exact Nat.lt_irrefl _ (balanced.below _ held found)
  refine ⟨?_, ?_, ?_, by rw [gossip]; exact balanced.covered, ?_⟩
  · intro other held present
    rw [handlers, Table.lookup_insert_ite] at present
    rw [nextStream]
    split at present
    · rename_i same
      rw [same]
      exact Nat.lt_succ_self _
    · exact Nat.lt_succ_of_lt (balanced.below other held present)
  · intro entry member
    rw [replies] at member
    rw [nextStream]
    exact Nat.lt_succ_of_lt (balanced.replied entry member)
  · apply settled_insert balanced handlers (fun other _ => by rw [replies])
    unfold Settled
    rw [place, replies, registrations_fresh balanced.replied, cluster]
  · intro uuid
    have inserted := Table.tally_insert before.handlers before.nextStream handler fun _ handler => holds handler uuid
    have free : holds handler uuid = false := by simp [holds, cluster]
    rw [fresh, free] at inserted
    rw [gossip, balanced.held uuid, holders, holders, handlers]
    exact congrArg _ inserted.symm

/-- A registration is accepted only while no earlier one of its stream carried a cluster, and gossipsub takes the
subscriptions. -/
def SubscribesOnce (loop : GossipLoop) : GossipEvent → Prop
  | .swarm (.act stream) => ∀ handler ∈ loop.swarm.handlers.lookup stream, Pc.subscribes handler.pc = true →
      handler.registeredClusterId = none
  | .receive accepted => accepted = true
  | _ => True

theorem Balanced.step {before after : Swarm} {event : SwarmEvent} (balanced : Balanced before)
    (once : ∀ stream, event = .act stream → ∀ handler ∈ before.handlers.lookup stream,
      Pc.subscribes handler.pc = true → handler.registeredClusterId = none)
    (stepped : swarmStep before event = some after) : Balanced after := by
  cases gossipChange_of_step stepped with
  | unrelated handlers gossip replies nextStream =>
      refine ⟨?_, ?_, ?_, by rw [gossip]; exact balanced.covered, ?_⟩
      · rw [handlers, nextStream]
        exact balanced.below
      · rw [replies, nextStream]
        exact balanced.replied
      · rw [handlers, replies]
        exact balanced.settled
      · intro cluster
        rw [gossip, balanced.held cluster, holders, holders, handlers]
  | accepted handlers cluster place gossip replies nextStream =>
      exact balanced.accepted handlers cluster place gossip replies nextStream
  | quiet found handlers cluster place gossip replies nextStream =>
      exact balanced.quiet found handlers cluster place gossip replies nextStream
  | subscribed found at_ handlers cluster place gossip replies nextStream =>
      have first := once _ rfl _ found (by rw [at_]; rfl)
      rw [first, Option.or_none] at cluster
      exact balanced.subscribed found (by rw [at_]; rfl) first handlers cluster place gossip replies nextStream
  | answered found here handlers same place gossip replies nextStream =>
      exact balanced.answered found here handlers same place gossip replies nextStream
  | unsubscribed found here handlers place gossip replies nextStream =>
      exact balanced.unsubscribed found here handlers place gossip replies nextStream
  | forgotten found here handlers gossip replies nextStream =>
      exact balanced.forgotten found here handlers gossip replies nextStream

/-! ## The event loop's count -/

def received (loop : GossipLoop) (command : GossipCmd) : Nat := (loop.swarm.gossip.take loop.handled).count command

def balance (loop : GossipLoop) (cluster : Uuid) : Nat :=
  received loop (.subscribe cluster) - received loop (.unsubscribe cluster)

structure Counted (loop : GossipLoop) : Prop where
  balanced : Balanced loop.swarm
  handled : loop.handled ≤ loop.swarm.gossip.length
  counts : ∀ cluster, (loop.clusterPeerCount.lookup cluster).getD 0 = balance loop cluster
  positive : ∀ cluster, loop.clusterPeerCount.lookup cluster ≠ some 0
  topics : ∀ cluster, cluster ∈ loop.subscribed ↔ (loop.clusterPeerCount.lookup cluster).isSome

theorem gossip_grows {before after : Swarm} {event : SwarmEvent} (stepped : swarmStep before event = some after) :
    before.gossip <+: after.gossip := by
  cases gossipChange_of_step stepped with
  | unrelated _ gossip _ _ => rw [gossip]
  | accepted _ _ _ gossip _ _ => rw [gossip]
  | quiet _ _ _ _ gossip _ _ => rw [gossip]
  | subscribed _ _ _ _ _ gossip _ _ =>
      rw [gossip]
      exact List.prefix_append _ _
  | answered _ _ _ _ _ gossip _ _ => rw [gossip]
  | unsubscribed _ _ _ _ gossip _ _ =>
      rw [gossip]
      exact List.prefix_append _ _
  | forgotten _ _ _ gossip _ _ => rw [gossip]

theorem Counted.swarm {loop : GossipLoop} {event : SwarmEvent} {after : Swarm} (counted : Counted loop)
    (once : SubscribesOnce loop (.swarm event)) (stepped : swarmStep loop.swarm event = some after) :
    Counted { loop with swarm := after } := by
  have grows := gossip_grows stepped
  have same : ∀ cluster, balance { loop with swarm := after } cluster = balance loop cluster := by
    intro cluster
    obtain ⟨more, appended⟩ := grows
    unfold balance received
    rw [← appended, List.take_append_of_le_length counted.handled]
  refine ⟨counted.balanced.step ?_ stepped, counted.handled.trans grows.length_le, ?_, counted.positive, counted.topics⟩
  · intro stream acts
    subst acts
    exact once
  · intro cluster
    rw [same]
    exact counted.counts cluster

theorem balance_received {loop : GossipLoop} {command : GossipCmd}
    (next : loop.swarm.gossip[loop.handled]? = some command) (other : GossipCmd) :
    (loop.swarm.gossip.take (loop.handled + 1)).count other =
      received loop other + if command = other then 1 else 0 := by
  rw [List.take_add_one, next, Option.toList_some, List.count_append, List.count_singleton]
  simp [received]

theorem Counted.subscribe {loop : GossipLoop} {cluster : Uuid} (counted : Counted loop)
    (next : loop.swarm.gossip[loop.handled]? = some (.subscribe cluster)) :
    Counted { loop.receive true (.subscribe cluster) with handled := loop.handled + 1 } := by
  have inside : loop.handled < loop.swarm.gossip.length := (List.getElem?_eq_some_iff.mp next).1
  have enough := counted.balanced.covered cluster loop.handled
  refine ⟨counted.balanced, inside, ?_, ?_, ?_⟩
  · intro other
    have count := counted.counts other
    simp only [GossipLoop.receive, Table.lookup_insert_ite]
    simp only [balance, received] at count ⊢
    rw [balance_received next, balance_received next]
    simp only [received]
    split
    · rename_i same
      subst same
      simp only [Option.getD_some, if_true, reduceCtorEq, if_false]
      omega
    · rename_i different
      simp only [GossipCmd.subscribe.injEq, Ne.symm different, reduceCtorEq, if_false]
      exact count
  · intro other
    simp only [GossipLoop.receive, Table.lookup_insert_ite]
    split
    · simp
    · exact counted.positive other
  · intro other
    have topic := counted.topics other
    have positive := counted.positive cluster
    simp only [GossipLoop.receive, Table.lookup_insert_ite]
    by_cases same : other = cluster
    · subst same
      simp only [if_true, Option.isSome_some, iff_true]
      cases known : loop.clusterPeerCount.lookup other with
      | none => simp
      | some count =>
          -- the count was positive, so the topic is subscribed already
          have different : count + 1 ≠ 1 := by
            intro zero
            exact positive (by rw [known]; simp at zero; rw [zero])
          simp only [Option.getD_some, different, false_and, if_false]
          rw [topic, known]
          rfl
    · simp only [if_neg same]
      split
      · rw [Finset.mem_insert, topic]
        simp [same]
      · exact topic

theorem Counted.unsubscribe {loop : GossipLoop} {cluster : Uuid} (counted : Counted loop)
    (next : loop.swarm.gossip[loop.handled]? = some (.unsubscribe cluster)) :
    Counted { loop.receive true (.unsubscribe cluster) with handled := loop.handled + 1 } := by
  have inside : loop.handled < loop.swarm.gossip.length := (List.getElem?_eq_some_iff.mp next).1
  have later := counted.balanced.covered cluster (loop.handled + 1)
  rw [balance_received next, balance_received next] at later
  simp only [reduceCtorEq, if_false, if_true] at later
  -- no prefix unsubscribes more than it subscribes, so the count is there and positive
  have count := counted.counts cluster
  obtain ⟨number, known⟩ : ∃ number, loop.clusterPeerCount.lookup cluster = some number := by
    cases known : loop.clusterPeerCount.lookup cluster with
    | none =>
        rw [known] at count
        simp only [Option.getD_none, balance] at count
        omega
    | some number => exact ⟨number, rfl⟩
  rw [known] at count
  simp only [Option.getD_some] at count
  have others : ∀ other, other ≠ cluster → (loop.clusterPeerCount.lookup other).getD 0 =
      (loop.swarm.gossip.take (loop.handled + 1)).count (.subscribe other) -
        (loop.swarm.gossip.take (loop.handled + 1)).count (.unsubscribe other) := by
    intro other different
    rw [balance_received next, balance_received next]
    simp only [reduceCtorEq, GossipCmd.unsubscribe.injEq, Ne.symm different, if_false]
    exact counted.counts other
  have mine : number - 1 = (loop.swarm.gossip.take (loop.handled + 1)).count (.subscribe cluster) -
      (loop.swarm.gossip.take (loop.handled + 1)).count (.unsubscribe cluster) := by
    rw [balance_received next, balance_received next]
    simp only [reduceCtorEq, if_false, if_true]
    unfold balance at count
    omega
  by_cases empty : number - 1 = 0
  · have after : loop.receive true (.unsubscribe cluster) = { loop with
        clusterPeerCount := loop.clusterPeerCount.erase cluster
        subscribed := loop.subscribed.erase cluster } := by
      simp only [GossipLoop.receive, known, if_pos empty]
    rw [after]
    refine ⟨counted.balanced, inside, ?_, ?_, ?_⟩
    · intro other
      simp only [Table.lookup_erase_ite, balance, received]
      split
      · rename_i same
        rw [same, ← mine, empty]
        rfl
      · rename_i different
        exact others other different
    · intro other
      simp only [Table.lookup_erase_ite]
      split
      · simp
      · exact counted.positive other
    · intro other
      simp only [Table.lookup_erase_ite, Finset.mem_erase]
      split
      · rename_i same
        simp [same]
      · rename_i different
        rw [counted.topics other]
        simp [different]
  · have after : loop.receive true (.unsubscribe cluster) = { loop with
        clusterPeerCount := loop.clusterPeerCount.insert cluster (number - 1) } := by
      simp only [GossipLoop.receive, known, if_neg empty]
    rw [after]
    refine ⟨counted.balanced, inside, ?_, ?_, ?_⟩
    · intro other
      simp only [Table.lookup_insert_ite, balance, received]
      split
      · rename_i same
        rw [same, ← mine]
        rfl
      · rename_i different
        exact others other different
    · intro other
      simp only [Table.lookup_insert_ite]
      split
      · simpa using empty
      · exact counted.positive other
    · intro other
      simp only [Table.lookup_insert_ite]
      split
      · rename_i same
        rw [counted.topics other, same, known]
        rfl
      · exact counted.topics other

theorem Counted.step {loop after : GossipLoop} {event : GossipEvent} (counted : Counted loop)
    (once : SubscribesOnce loop event) (stepped : gossipStep loop event = some after) : Counted after := by
  cases event with
  | swarm event =>
      simp only [gossipStep, Option.bind_eq_bind, Option.bind_eq_some_iff] at stepped
      obtain ⟨swarm, taken, sent⟩ := stepped
      split at sent
      · cases sent
      · cases sent
        exact counted.swarm once taken
  | receive accepted =>
      have taken : accepted = true := once
      subst taken
      simp only [gossipStep, Option.bind_eq_bind, Option.bind_eq_some_iff] at stepped
      obtain ⟨command, next, handled⟩ := stepped
      cases handled
      cases command with
      | subscribe cluster => exact counted.subscribe next
      | unsubscribe cluster => exact counted.unsubscribe next

theorem counted_start (relay : RelayState) : Counted (GossipLoop.start relay) := by
  refine ⟨⟨?_, ?_, ?_, ?_, ?_⟩, Nat.le_refl _, fun cluster => rfl, ?_, ?_⟩
  · exact fun stream handler found => by cases found
  · exact fun entry member => by cases member
  · exact fun stream handler found => by cases found
  · exact fun cluster count => by simp [GossipLoop.start, Swarm.start]
  · exact fun cluster => rfl
  · exact fun cluster zero => by cases zero
  · exact fun cluster => by simp [GossipLoop.start]

/-- Every command has been received, no handler is in the middle of a step and no close is unnoticed. -/
def Drained (loop : GossipLoop) : Prop :=
  loop.handled = loop.swarm.gossip.length ∧ ∀ stream handler, loop.swarm.handlers.lookup stream = some handler →
    handler.pc = .idle ∧ handler.wire = true

/-- The open streams whose last accepted registration is for the cluster. -/
def registeredStreams (swarm : Swarm) (cluster : Uuid) : Nat :=
  swarm.handlers.tally fun stream handler => handler.wire && lastRegistration swarm.replies stream = some cluster

theorem Counted.drained {loop : GossipLoop} (counted : Counted loop) (drained : Drained loop) (cluster : Uuid) :
    (loop.clusterPeerCount.lookup cluster).getD 0 = registeredStreams loop.swarm cluster ∧
      (cluster ∈ loop.subscribed ↔ 0 < registeredStreams loop.swarm cluster) := by
  have same : holders loop.swarm cluster = registeredStreams loop.swarm cluster := by
    apply Table.tally_congr
    intro stream handler found
    obtain ⟨idle, wire⟩ := drained.2 stream handler found
    have settled := counted.balanced.settled stream handler found
    simp only [Settled, idle, Pc.phase] at settled
    simp [holds, idle, wire, settled, Pc.phase]
  have count : (loop.clusterPeerCount.lookup cluster).getD 0 = registeredStreams loop.swarm cluster := by
    have held := counted.balanced.held cluster
    have whole : loop.swarm.gossip.take loop.handled = loop.swarm.gossip :=
      List.take_of_length_le (Nat.le_of_eq drained.1.symm)
    rw [counted.counts, balance, received, received, whole, held, same]
    omega
  refine ⟨count, ?_⟩
  rw [counted.topics, ← count]
  have positive := counted.positive cluster
  cases known : loop.clusterPeerCount.lookup cluster with
  | none => simp
  | some number =>
      rw [known] at positive
      have nonzero : number ≠ 0 := fun zero => positive (by rw [zero])
      simpa using Nat.pos_of_ne_zero nonzero

theorem subscriptions_match_streams {relay : RelayState} {events : List GossipEvent} {final : GossipLoop}
    (ran : run gossipStep (GossipLoop.start relay) events = some final)
    (meets : Meets gossipStep SubscribesOnce (GossipLoop.start relay) events) (drained : Drained final)
    (cluster : Uuid) :
    (final.clusterPeerCount.lookup cluster).getD 0 = registeredStreams final.swarm cluster ∧
      (cluster ∈ final.subscribed ↔ 0 < registeredStreams final.swarm cluster) :=
  (run_invariant_of_meets (fun _ _ _ => Counted.step) (counted_start relay) meets ran).drained drained cluster

instance (loop : GossipLoop) (event : GossipEvent) : Decidable (SubscribesOnce loop event) :=
  match event with
  | .swarm (.act stream) => inferInstanceAs (Decidable (∀ handler ∈ loop.swarm.handlers.lookup stream,
      Pc.subscribes handler.pc = true → handler.registeredClusterId = none))
  | .receive accepted => inferInstanceAs (Decidable (accepted = true))
  | .swarm .setSshBridge | .swarm (.accept _) | .swarm (.closed _) | .swarm (.receive _ _) | .swarm (.validated _ _)
  | .swarm (.readEnd _) | .swarm (.clock _) => instDecidableTrue

instance (loop : GossipLoop) : Decidable (Drained loop) :=
  decidable_of_iff (loop.handled = loop.swarm.gossip.length ∧
    ∀ entry ∈ loop.swarm.handlers.entries, entry.2.pc = .idle ∧ entry.2.wire = true)
    (and_congr_right fun _ => (Table.forall_lookup_iff loop.swarm.handlers
      fun _ handler => handler.pc = .idle ∧ handler.wire = true).symm)

def registerOnce : List GossipEvent :=
  .swarm (.accept 1) :: (registerEvents 0 "a" false).map .swarm ++ [.receive true]

def reregisterAndClose : List GossipEvent :=
  .swarm (.accept 1) :: (registerEvents 0 "a" false ++ registerEvents 0 "a" false ++ finishStream 0).map .swarm ++
    List.replicate 3 (.receive true)

theorem subscriptions_match_registered : ∃ final, run gossipStep (GossipLoop.start emptyRelay) registerOnce = some final ∧
    (final.clusterPeerCount.lookup 1).getD 0 = registeredStreams final.swarm 1 ∧
      (1 ∈ final.subscribed ↔ 0 < registeredStreams final.swarm 1) :=
  ⟨_, rfl, @subscriptions_match_streams emptyRelay registerOnce _ rfl (by decide) (by decide) 1⟩

/-- A daemon that registers again on its stream and leaves is counted for ever. -/
theorem subscription_outlives_streams : ¬ ∀ relay events final,
    run gossipStep (GossipLoop.start relay) events = some final → Drained final → ∀ cluster,
      (final.clusterPeerCount.lookup cluster).getD 0 = registeredStreams final.swarm cluster ∧
        (cluster ∈ final.subscribed ↔ 0 < registeredStreams final.swarm cluster) := by
  intro all
  have counted := (all emptyRelay reregisterAndClose _ rfl (by decide) 1).1
  exact absurd counted (by decide)

end MacMgmt.Proof.Relay
