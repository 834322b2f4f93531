import MacMgmt.Server.PushStreams

/-!
# What a push stream delivers

A client that stayed connected and has read all there is to read was told of a message, by it or by a later equal one, unless
each of these was overwritten before it came to read it. On the federation's channel all messages are equal.
-/

namespace MacMgmt.Proof.Server.PushStreams
open Lib MacMgmt.Agent MacMgmt.Server

structure Sound (push : PushChannels) : Prop where
  channels : ∀ clusterId channel, push.channels.lookup clusterId = some channel → channel.Sound channelCapacity
  federation : push.federation.Sound channelCapacity
  catalogChanged : ∀ event ∈ push.federation.sent, event = .catalogChanged

variable {push after : PushChannels}

theorem Sound.insert (sound : Sound push) {clusterId : Uuid} {channel : PushChannel PushCommand}
    (kept : channel.Sound channelCapacity) : Sound { push with channels := push.channels.insert clusterId channel } where
  channels other found present := by
    rw [Table.lookup_insert_ite] at present
    split at present
    · cases present
      exact kept
    · exact sound.channels other found present
  federation := sound.federation
  catalogChanged := sound.catalogChanged

theorem Sound.notify (sound : Sound push) (clusterId : Uuid) (message : PushCommand) :
    Sound (push.notify clusterId message) := by
  unfold PushChannels.notify PushChannels.notifyCounted
  cases found : push.channels.lookup clusterId with
  | none => exact sound
  | some channel => exact sound.insert ((sound.channels clusterId channel found).send message)

theorem Sound.notifyClusters (sound : Sound push) (clusterIds : List Uuid) (message : PushCommand) :
    Sound (push.notifyClusters clusterIds message) := by
  induction clusterIds generalizing push with
  | nil => exact sound
  | cons clusterId clusterIds ih => exact ih (sound.notify clusterId message)

theorem sent_send {M C : Type} [DecidableEq C] (capacity : Nat) (channel : Broadcast M C) (message : M) :
    ∀ event ∈ (channel.send capacity message).1.sent, event ∈ channel.sent ∨ event = message := by
  intro event member
  unfold Broadcast.send at member
  split at member
  · exact .inl member
  · rcases List.mem_append.mp member with member | member
    · exact .inl member
    · exact .inr (List.mem_singleton.mp member)

theorem sent_turn {M C : Type} [DecidableEq C] (capacity : Nat) (channel : Broadcast M C) (id : C) (turn : Broadcast.Turn) :
    (channel.turn capacity id turn).sent = channel.sent := by
  cases turn <;> rfl

theorem Sound.step (sound : Sound push) {change : PushChange} (taken : push.step change = some after) : Sound after := by
  cases change with
  | notify clusterId message =>
      cases taken
      exact sound.notify clusterId message
  | notifyClusters clusterIds message =>
      cases taken
      exact sound.notifyClusters clusterIds message
  | notifyFederation =>
      cases taken
      refine ⟨sound.channels, sound.federation.send _, fun event member => ?_⟩
      rcases sent_send _ _ _ event member with earlier | same
      · exact sound.catalogChanged event earlier
      · exact same
  | sseEvents token client =>
      change push.sseEvents token client = some after at taken
      unfold PushChannels.sseEvents at taken
      split at taken
      · rename_i clusterId kind
        split at taken
        · cases taken
        · dsimp only at taken
          split at taken
          · cases taken
          · cases taken
            apply sound.insert
            cases found : push.channels.lookup clusterId with
            | none => exact Broadcast.sound_empty.subscribe client
            | some channel => exact (sound.channels clusterId channel found).subscribe client
      all_goals cases taken
  | federationEvents kind client =>
      change push.federationEvents kind client = some after at taken
      unfold PushChannels.federationEvents at taken
      split at taken
      · cases taken
      · cases taken
        exact ⟨sound.channels, sound.federation.subscribe client, sound.catalogChanged⟩
  | stream clusterId client turn =>
      obtain ⟨channel, found, rfl⟩ := Option.map_eq_some_iff.mp taken
      exact sound.insert ((sound.channels clusterId channel found).turn client turn)
  | federationStream client turn =>
      cases taken
      refine ⟨sound.channels, sound.federation.turn client turn, fun event member => ?_⟩
      rw [sent_turn] at member
      exact sound.catalogChanged event member

theorem sound_start : Sound .start where
  channels _ _ found := by cases found
  federation := Broadcast.sound_empty
  catalogChanged _ member := by cases member

theorem sound_run {changes : List PushChange} {final : PushChannels}
    (ran : run PushChannels.step .start changes = some final) : Sound final :=
  run_invariant (fun _ _ _ sound taken => sound.step taken) sound_start ran

/-- The client has read everything that its receiver still holds. -/
def Drained {M : Type} (channel : PushChannel M) (receiver : Receiver M) : Prop := receiver.next = channel.sent.length

theorem streams_hear (changes : List PushChange) (final : PushChannels)
    (ran : run PushChannels.step .start changes = some final) :
    (∀ clusterId channel client receiver position message, final.channels.lookup clusterId = some channel →
      channel.receivers.lookup client = some receiver → Drained channel receiver → receiver.since ≤ position →
      channel.sent[position]? = some message →
      (receiver.Hears position message ↔
        ∃ later, position ≤ later ∧ channel.sent[later]? = some message ∧ later ∉ receiver.overwritten)) ∧
    (∀ clusterId channel client receiver, final.channels.lookup clusterId = some channel →
      channel.receivers.lookup client = some receiver →
      ∀ position ∈ receiver.overwritten, position + channelCapacity < channel.sent.length) ∧
    ∀ client receiver position message, final.federation.receivers.lookup client = some receiver →
      Drained final.federation receiver → receiver.since ≤ position → final.federation.sent[position]? = some message →
      receiver.Hears position message := by
  have sound := sound_run ran
  refine ⟨?_, ?_, ?_⟩
  · intro clusterId channel client receiver position message found connected drained since _
    exact (sound.channels clusterId channel found client receiver connected).hears_iff drained since
  · intro clusterId channel client receiver found connected
    exact (sound.channels clusterId channel found client receiver connected).overwritten
  · intro client receiver position message connected drained since present
    obtain ⟨inside, same⟩ := List.getElem?_eq_some_iff.mp present
    have only := sound.catalogChanged
    rw [← only message (same ▸ List.getElem_mem inside)] at only
    exact (sound.federation client receiver connected).hears_of_all_equal drained (by decide) only since inside

def toldTwice : List PushChange :=
  [.federationEvents (some "federation") 2, .notifyFederation, .notifyFederation, .federationStream 2 .keepalive,
    .federationStream 2 .recv, .federationStream 2 .recv]

theorem streams_hear_catalogChanged : ∃ final receiver, run PushChannels.step .start toldTwice = some final ∧
    final.federation.receivers.lookup 2 = some receiver ∧ receiver.Hears 0 .catalogChanged := by
  have computed : ((run PushChannels.step .start toldTwice).any fun final =>
      final.federation.sent[0]? = some .catalogChanged && (final.federation.receivers.lookup 2).any fun receiver =>
        receiver.next = final.federation.sent.length && receiver.since = 0) = true := by decide +kernel
  obtain ⟨final, ran, computed⟩ := (Option.any_eq_true _ _).mp computed
  obtain ⟨first, computed⟩ := (Bool.and_eq_true _ _).mp computed
  obtain ⟨receiver, connected, computed⟩ := (Option.any_eq_true _ _).mp computed
  simp only [Bool.and_eq_true, decide_eq_true_eq] at first computed
  obtain ⟨drained, since⟩ := computed
  exact ⟨final, receiver, ran, connected, (streams_hear _ final ran).2.2 2 receiver 0 _ connected drained since.le first⟩

/-- A request for the configuration is followed by 64 for the skills before the client reads, and is never told. -/
def crowdedOut : List PushChange :=
  [.sseEvents (some (some 7, "sync")) 1, .notify 7 .syncConfig] ++ List.replicate 64 (.notify 7 .syncSkills) ++
    List.replicate 65 (.stream 7 1 .recv)

def missesConfig (push : PushChannels) : Bool :=
  (push.channels.lookup 7).any fun channel => (channel.receivers.lookup 1).any fun receiver =>
    receiver.next = channel.sent.length && receiver.since = 0 && channel.sent[0]? = some .syncConfig &&
      receiver.output.all fun yielded => match yielded with
        | .message _ message => message ≠ .syncConfig
        | .keepalive => true

theorem kinds_lost : ∃ final clusterId channel client receiver position message,
    run PushChannels.step .start crowdedOut = some final ∧ final.channels.lookup clusterId = some channel ∧
      channel.receivers.lookup client = some receiver ∧ Drained channel receiver ∧ receiver.since ≤ position ∧
      channel.sent[position]? = some message ∧ ¬ receiver.Hears position message := by
  have computed : (run PushChannels.step .start crowdedOut).any missesConfig = true := by decide +kernel
  obtain ⟨final, ran, misses⟩ := (Option.any_eq_true _ _).mp computed
  obtain ⟨channel, found, misses⟩ := (Option.any_eq_true _ _).mp misses
  obtain ⟨receiver, connected, misses⟩ := (Option.any_eq_true _ _).mp misses
  simp only [Bool.and_eq_true, decide_eq_true_eq] at misses
  obtain ⟨⟨⟨drained, since⟩, first⟩, others⟩ := misses
  refine ⟨final, 7, channel, 1, receiver, 0, .syncConfig, ran, found, connected, drained, since.le, first, ?_⟩
  intro hears
  obtain ⟨later, -, member⟩ := hears
  exact absurd (List.all_eq_true.mp others _ member) (by simp)

end MacMgmt.Proof.Server.PushStreams
