import MacMgmt.Agent.ClusterPeers
import Mathlib.Data.List.TakeWhile

/-!
# Who passes the PSK check

The check accepts exactly the agent strings that end with the token of the PSK, and the string of a relay has one part
too few for it. A PSK that is no hexadecimal text is read as none at all, and then the check accepts everyone.
-/

namespace MacMgmt.Proof.ClusterPeers
open Lib MacMgmt.Agent

/-! ## The check -/

theorem splitn_cons {separator : Char} {before : List Char} (bare : separator ∉ before) (count : Nat) (after : List Char) :
    splitn (count + 2) separator (before ++ separator :: after) = before :: splitn (count + 1) separator after := by
  have passes : ∀ c ∈ before, decide (c ≠ separator) = true := by
    intro c member
    exact decide_eq_true fun same => bare (same ▸ member)
  have rest : (before ++ separator :: after).dropWhile (· ≠ separator) = separator :: after := by
    rw [List.dropWhile_append_of_pos passes, List.dropWhile_cons_of_neg (by simp)]
  have taken : (before ++ separator :: after).takeWhile (· ≠ separator) = before := by
    rw [List.takeWhile_append_of_pos passes, List.takeWhile_cons_of_neg (by simp), List.append_nil]
  rw [splitn, rest, taken]

theorem splitn_bare {separator : Char} {text : List Char} (bare : separator ∉ text) (count : Nat) :
    splitn (count + 2) separator text = [text] := by
  have rest : text.dropWhile (· ≠ separator) = [] := by
    rw [List.dropWhile_eq_nil_iff]
    intro c member
    exact decide_eq_true fun same => bare (same ▸ member)
  rw [splitn, rest]

theorem splitn_four_iff {text a b c d : List Char} :
    splitn 4 '/' text = [a, b, c, d] ↔
      '/' ∉ a ∧ '/' ∉ b ∧ '/' ∉ c ∧ text = a ++ '/' :: b ++ '/' :: c ++ '/' :: d := by
  constructor
  · intro split
    by_cases first : '/' ∈ text
    · obtain ⟨a', rest, rfl, bareA⟩ := List.eq_append_cons_of_mem first
      rw [splitn_cons bareA] at split
      by_cases second : '/' ∈ rest
      · obtain ⟨b', rest, rfl, bareB⟩ := List.eq_append_cons_of_mem second
        rw [splitn_cons bareB] at split
        by_cases third : '/' ∈ rest
        · obtain ⟨c', rest, rfl, bareC⟩ := List.eq_append_cons_of_mem third
          rw [splitn_cons bareC, splitn] at split
          simp only [List.cons.injEq, and_true] at split
          obtain ⟨rfl, rfl, rfl, rfl⟩ := split
          exact ⟨bareA, bareB, bareC, by simp⟩
        · rw [splitn_bare third] at split
          simp at split
      · rw [splitn_bare second] at split
        simp at split
    · rw [splitn_bare first] at split
      simp at split
  · rintro ⟨bareA, bareB, bareC, rfl⟩
    have shape : a ++ '/' :: b ++ '/' :: c ++ '/' :: d = a ++ '/' :: (b ++ '/' :: (c ++ '/' :: d)) := by simp
    rw [shape, splitn_cons bareA, splitn_cons bareB, splitn_cons bareC, splitn]

theorem constantTimeEq_iff (a b : List UInt8) : constantTimeEq a b = true ↔ a = b := by
  have folded (diff : UInt8) (length : a.length = b.length) :
      (a.zip b).foldl (fun diff pair => diff ||| (pair.1 ^^^ pair.2)) diff = 0 ↔ diff = 0 ∧ a = b := by
    induction a generalizing b diff with
    | nil =>
        rw [List.eq_nil_of_length_eq_zero length.symm]
        simp
    | cons x a ih =>
        obtain ⟨y, b, rfl⟩ := List.exists_cons_of_length_eq_add_one length.symm
        rw [List.zip_cons_cons, List.foldl_cons, ih _ _ (by simpa using length), UInt8.or_eq_zero_iff,
          UInt8.xor_eq_zero_iff, and_assoc]
        simp
  unfold constantTimeEq
  split
  · rename_i different
    simp only [Bool.false_eq_true, false_iff]
    rintro rfl
    exact different rfl
  · rename_i same
    simp only [ne_eq, not_not] at same
    rw [decide_eq_true_iff, folded 0 same]
    simp

theorem verifyPskAuth_iff (sha256 : List UInt8 → List UInt8) (agent : List Char) (peer : PeerId) (psk : List UInt8) :
    verifyPskAuth sha256 agent peer psk = true ↔ ClusterPeers.Proves sha256 psk peer agent := by
  unfold verifyPskAuth ClusterPeers.Proves
  split
  · rename_i name version instanceId auth split
    obtain ⟨bareA, bareB, bareC, rfl⟩ := splitn_four_iff.mp split
    rw [constantTimeEq_iff, utf8Encode_injective.eq_iff]
    constructor
    · rintro rfl
      exact ⟨name, version, instanceId, bareA, bareB, bareC, rfl⟩
    · rintro ⟨a, b, c, bareA, bareB, bareC, same⟩
      have again := splitn_four_iff.mpr ⟨bareA, bareB, bareC, same⟩
      rw [split] at again
      simp only [List.cons.injEq, and_true] at again
      exact again.2.2.2
  · rename_i other
    simp only [Bool.false_eq_true, false_iff]
    rintro ⟨a, b, c, bareA, bareB, bareC, same⟩
    exact other _ _ _ _ (splitn_four_iff.mpr ⟨bareA, bareB, bareC, same⟩)

theorem daemon_name : "mac-mgmt/".toList = "mac-mgmt".toList ++ ['/'] := by decide +kernel

/-- A daemon with the same PSK passes. -/
theorem verifyPskAuth_agentVersion (sha256 : List UInt8 → List UInt8) (psk : List UInt8) {version instanceId : List Char}
    (peer : PeerId) (bareVersion : '/' ∉ version) (bareInstance : '/' ∉ instanceId) :
    verifyPskAuth sha256 (agentVersion sha256 (some psk) version instanceId peer) peer psk = true := by
  rw [verifyPskAuth_iff]
  refine ⟨"mac-mgmt".toList, version, instanceId, by decide +kernel, bareVersion, bareInstance, ?_⟩
  unfold agentVersion
  simp only [daemon_name, Option.elim_some, List.append_assoc, List.cons_append, List.nil_append]

theorem verifyPskAuth_agentVersion_id :
    verifyPskAuth id (agentVersion id (some [7]) "1.2.0".toList "i".toList [9]) [9] [7] = true :=
  verifyPskAuth_agentVersion id [7] [9] (by decide) (by decide)

theorem count_slash_relay_name : "mac-mgmt-relay/".toList.count '/' = 1 := by decide +kernel

theorem count_slash_relay (node : RelayNode) : node.agentVersion.count '/' = 2 := by
  have version := List.count_eq_zero.mpr node.bare
  have url := List.count_eq_zero.mpr (slash_not_mem_base64UrlEncode (utf8Encode (node.proxyUrl.getD [])))
  unfold RelayNode.agentVersion
  simp only [List.count_append, List.count_cons_self, version, url, count_slash_relay_name]

theorem relay_proves_nothing (sha256 : List UInt8 → List UInt8) (psk : List UInt8) (peer : PeerId) (node : RelayNode) :
    ¬ ClusterPeers.Proves sha256 psk peer node.agentVersion := by
  rintro ⟨a, b, c, _, _, _, same⟩
  have more := congrArg (List.count '/') same
  rw [count_slash_relay] at more
  simp only [List.count_append, List.count_cons_self] at more
  omega

/-! ## What an event does -/

section
variable {node : Option RelayNode} {before after : ClusterPeers}

structure SameChecks (before after : ClusterPeers) : Prop where
  clusterPsk : after.clusterPsk = before.clusterPsk
  authorized : after.authorized = before.authorized
  heard : after.heard = before.heard
  refused : after.refused = before.refused
  greeted : after.greeted = before.greeted
  peerId : after.relay.peerId = before.relay.peerId
  isIdentified : ∀ peer, after.relay.isIdentified peer = before.relay.isIdentified peer
  disabled : after.relay = .disabled ↔ before.relay = .disabled

theorem SameChecks.refl (peers : ClusterPeers) : SameChecks peers peers := ⟨rfl, rfl, rfl, rfl, rfl, rfl, fun _ => rfl, Iff.rfl⟩

theorem SameChecks.trans {middle : ClusterPeers} (first : SameChecks before middle) (second : SameChecks middle after) :
    SameChecks before after where
  clusterPsk := second.clusterPsk.trans first.clusterPsk
  authorized := second.authorized.trans first.authorized
  heard := second.heard.trans first.heard
  refused := second.refused.trans first.refused
  greeted := second.greeted.trans first.greeted
  peerId := second.peerId.trans first.peerId
  isIdentified peer := (second.isIdentified peer).trans (first.isIdentified peer)
  disabled := second.disabled.trans first.disabled

theorem sameChecks_tick (peers : ClusterPeers) (now : Nat) : SameChecks peers (peers.feedRelay now .tick) := by
  unfold ClusterPeers.feedRelay
  cases state : peers.relay with
  | disconnected relayAddr nextDial =>
      by_cases due : nextDial ≤ now
      · simp only [RelayState.handleEvent, if_pos due, List.foldl_cons, List.foldl_nil, ClusterPeers.executeRelayAction]
        constructor <;> simp [state, RelayState.peerId, RelayState.isIdentified]
      · simp only [RelayState.handleEvent, if_neg due, List.foldl_nil]
        constructor <;> simp [state]
  | disabled | connected relayAddr peer | identified relayAddr peer proxyUrl | registered relayAddr peer proxyUrl lastRegister =>
      constructor <;> simp [state, RelayState.handleEvent, ClusterPeers.executeRelayAction]

theorem sameChecks_opened (peers : ClusterPeers) (now : Nat) : SameChecks peers (peers.feedRelay now .rpcStreamOpened) := by
  unfold ClusterPeers.feedRelay
  cases state : peers.relay with
  | identified relayAddr peer proxyUrl =>
      constructor <;> simp [state, RelayState.handleEvent, RelayState.peerId, RelayState.isIdentified]
  | disabled | disconnected relayAddr nextDial | connected relayAddr peer | registered relayAddr peer proxyUrl lastRegister =>
      constructor <;> simp [state, RelayState.handleEvent]

theorem sameChecks_registered (peers : ClusterPeers) (now : Nat) :
    SameChecks peers { peers with relay := peers.relay.markRegistered now, relayRegistered := true } := by
  cases state : peers.relay with
  | disabled | disconnected relayAddr nextDial | connected relayAddr peer | identified relayAddr peer proxyUrl
    | registered relayAddr peer proxyUrl lastRegister =>
      constructor <;> simp [state, RelayState.markRegistered, RelayState.peerId, RelayState.isIdentified]

structure Closed (node : Option RelayNode) (before : ClusterPeers) (peer : PeerId) (after : ClusterPeers) : Prop where
  clusterPsk : after.clusterPsk = before.clusterPsk
  authorized : after.authorized = before.authorized.erase peer
  heard : after.heard = before.heard.filter (·.1 ≠ peer)
  refused : after.refused = before.refused
  greeted : after.greeted = (before.greeted && decide (node.map (·.peer) ≠ some peer))
  relay : before.relay.peerId ≠ some peer ∧ after.relay = before.relay ∨
    before.relay.peerId = some peer ∧ ∃ relayAddr nextDial, after.relay = .disconnected relayAddr nextDial

theorem closed_connectionClosed (node : Option RelayNode) (peers : ClusterPeers) (peer : PeerId) (now : Nat) :
    Closed node peers peer
      ({ peers.forget node peer with authorized := peers.authorized.erase peer }.feedRelay now (.connectionClosed peer)) := by
  by_cases own : peers.relay.peerId = some peer
  · cases state : peers.relay with
    | disabled | disconnected relayAddr nextDial =>
        rw [state] at own
        cases own
    | connected relayAddr other | identified relayAddr other proxyUrl | registered relayAddr other proxyUrl lastRegister =>
        rw [state] at own
        constructor <;> simp [ClusterPeers.feedRelay, ClusterPeers.forget, RelayState.handleEvent, RelayState.close, state, own,
          ClusterPeers.executeRelayAction]
  · constructor <;> simp [ClusterPeers.feedRelay, ClusterPeers.forget, RelayState.handleEvent, own]

theorem closed_drop {peers : ClusterPeers} {peer : PeerId} (node : Option RelayNode) (own : peers.relay.peerId = some peer)
    (now : Nat) : Closed node peers peer (peers.dropRelayConnection node now) := by
  cases state : peers.relay with
  | disabled | disconnected relayAddr nextDial =>
      rw [state] at own
      cases own
  | connected relayAddr other | identified relayAddr other proxyUrl | registered relayAddr other proxyUrl lastRegister =>
      rw [state] at own
      cases own
      constructor <;> simp [ClusterPeers.dropRelayConnection, ClusterPeers.feedRelay, ClusterPeers.forget,
        RelayState.handleEvent, RelayState.close, RelayState.peerId, state, ClusterPeers.executeRelayAction]

/-- The relay takes over a peer that calls itself a relay while it has none, and nothing else changes. -/
structure Identified (before : ClusterPeers) (peer : PeerId) (after : ClusterPeers) : Prop where
  clusterPsk : after.clusterPsk = before.clusterPsk
  authorized : after.authorized = insert peer before.authorized
  heard : after.heard = before.heard
  refused : after.refused = before.refused
  greeted : after.greeted = before.greeted
  relay : after.relay = before.relay ∨ ∃ relayAddr proxyUrl, after.relay = .identified relayAddr peer proxyUrl

theorem identified_feedRelay (peers : ClusterPeers) (peer : PeerId) (agent : List Char) (now : Nat) :
    Identified peers peer ({ peers with authorized := insert peer peers.authorized }.feedRelay now (.identified peer agent)) := by
  by_cases relay : "mac-mgmt-relay/".toList.isPrefixOf agent ∧ (peers.relay.peerId = some peer ∨ peers.relay.isDisconnected)
  · unfold ClusterPeers.feedRelay
    rw [RelayState.handleEvent, if_pos relay]
    cases state : peers.relay with
    | disabled | identified relayAddr other proxyUrl | registered relayAddr other proxyUrl lastRegister =>
        constructor <;> simp [RelayState.becomeIdentified, state]
    | disconnected relayAddr nextDial | connected relayAddr other =>
        constructor <;> simp [RelayState.becomeIdentified, state, ClusterPeers.executeRelayAction]
  · unfold ClusterPeers.feedRelay
    rw [RelayState.handleEvent, if_neg relay]
    constructor <;> simp

theorem isPrefixOf_relay (node : RelayNode) : "mac-mgmt-relay/".toList.isPrefixOf node.agentVersion = true := by
  unfold RelayNode.agentVersion
  generalize "mac-mgmt-relay/".toList = name
  rw [List.isPrefixOf_iff_prefix, List.append_assoc]
  exact List.prefix_append _ _

theorem isIdentified_feedRelay (peers : ClusterPeers) (relay : RelayNode) (now : Nat) (enabled : peers.relay ≠ .disabled)
    (alone : ∀ peer, peers.relay.peerId = some peer → peer = relay.peer) :
    (peers.feedRelay now (.identified relay.peer relay.agentVersion)).relay.isIdentified relay.peer = true := by
  have named := isPrefixOf_relay relay
  unfold ClusterPeers.feedRelay
  cases state : peers.relay with
  | disabled => exact absurd state enabled
  | disconnected relayAddr nextDial =>
      rw [RelayState.handleEvent, if_pos ⟨named, .inr rfl⟩]
      simp [RelayState.becomeIdentified, ClusterPeers.executeRelayAction, RelayState.isIdentified]
  | connected relayAddr other =>
      cases alone other (by rw [state]; rfl)
      rw [RelayState.handleEvent, if_pos ⟨named, .inl rfl⟩]
      simp [RelayState.becomeIdentified, ClusterPeers.executeRelayAction, RelayState.isIdentified]
  | identified relayAddr other proxyUrl | registered relayAddr other proxyUrl lastRegister =>
      cases alone other (by rw [state]; rfl)
      rw [RelayState.handleEvent, if_pos ⟨named, .inl rfl⟩]
      simp [RelayState.becomeIdentified, RelayState.isIdentified]

/-! ## The invariant -/

/-- The peer taken for the relay is authorised, and with a PSK the relay is refused as soon as it is heard. -/
structure Kept (clusterPsk : List Char) (node : Option RelayNode) (peers : ClusterPeers) : Prop where
  clusterPsk : peers.clusterPsk = hexDecode clusterPsk
  held : ∀ peer, peers.relay.peerId = some peer → peer ∈ peers.authorized
  enabled : node.isSome = true → peers.relay ≠ .disabled
  refused : peers.clusterPsk.isSome = true → peers.greeted = true → ∀ relay ∈ node, relay.peer ∈ peers.refused

variable {sha256 : List UInt8 → List UInt8} {clusterPsk : List Char}

theorem kept_start (clusterPsk : List Char) (node : Option RelayNode) :
    Kept clusterPsk node (ClusterPeers.start clusterPsk node) where
  clusterPsk := rfl
  held peer same := by cases node <;> cases same
  enabled present := by
    cases node with
    | none => cases present
    | some relay => intro same; cases same
  refused _ greeted := by cases greeted

theorem SameChecks.kept (same : SameChecks before after) (kept : Kept clusterPsk node before) :
    Kept clusterPsk node after where
  clusterPsk := same.clusterPsk.trans kept.clusterPsk
  held peer taken := by
    rw [same.peerId] at taken
    rw [same.authorized]
    exact kept.held peer taken
  enabled present := fun disabled => kept.enabled present (same.disabled.mp disabled)
  refused := by
    rw [same.clusterPsk, same.greeted, same.refused]
    exact kept.refused

theorem SameChecks.guarded (same : SameChecks before after) (guarded : before.Guarded sha256 clusterPsk node) :
    after.Guarded sha256 clusterPsk node := by
  unfold ClusterPeers.Guarded
  simp only [same.authorized, same.heard, same.refused, same.greeted, same.isIdentified]
  exact guarded

theorem Closed.kept {peer : PeerId} (closed : Closed node before peer after) (kept : Kept clusterPsk node before) :
    Kept clusterPsk node after where
  clusterPsk := closed.clusterPsk.trans kept.clusterPsk
  held other taken := by
    rcases closed.relay with ⟨different, same⟩ | ⟨_, relayAddr, nextDial, gone⟩
    · rw [same] at taken
      rw [closed.authorized, Finset.mem_erase]
      refine ⟨?_, kept.held other taken⟩
      rintro rfl
      exact different taken
    · rw [gone] at taken
      cases taken
  enabled present := by
    rcases closed.relay with ⟨_, same⟩ | ⟨_, relayAddr, nextDial, gone⟩
    · rw [same]
      exact kept.enabled present
    · rw [gone]
      intro same
      cases same
  refused known greeted := by
    rw [closed.clusterPsk] at known
    rw [closed.greeted, Bool.and_eq_true] at greeted
    rw [closed.refused]
    exact kept.refused known greeted.1

theorem peerId_of_isIdentified {state : RelayState} {peer : PeerId} (identified : state.isIdentified peer = true) :
    state.peerId = some peer := by
  cases state with
  | disabled | disconnected relayAddr nextDial | connected relayAddr other => cases identified
  | identified relayAddr other proxyUrl | registered relayAddr other proxyUrl lastRegister =>
      exact congrArg some (of_decide_eq_true identified)

theorem Closed.guarded {peer : PeerId} (closed : Closed node before peer after)
    (guarded : before.Guarded sha256 clusterPsk node) : after.Guarded sha256 clusterPsk node := by
  refine ⟨fun other member unrelated => ?_, fun relay configured => ⟨?_, fun greeted => ?_⟩⟩
  · rw [closed.authorized, Finset.mem_erase] at member
    obtain ⟨psk, decoded, agent, said, proves⟩ := guarded.1 other member.2 unrelated
    refine ⟨psk, decoded, agent, ?_, proves⟩
    rw [closed.heard, List.mem_filter]
    exact ⟨said, decide_eq_true member.1⟩
  · rw [closed.refused]
    exact (guarded.2 relay configured).1
  · rw [closed.greeted, Bool.and_eq_true, decide_eq_true_iff] at greeted
    have identified := (guarded.2 relay configured).2 greeted.1
    rcases closed.relay with ⟨_, same⟩ | ⟨taken, _⟩
    · rw [same]
      exact identified
    · rw [peerId_of_isIdentified identified] at taken
      cases configured
      exact absurd taken greeted.2

/-! ## Identify -/

theorem Identified.kept {peer : PeerId} (identified : Identified before peer after) (kept : Kept clusterPsk node before) :
    Kept clusterPsk node after where
  clusterPsk := identified.clusterPsk.trans kept.clusterPsk
  held other taken := by
    rw [identified.authorized, Finset.mem_insert]
    rcases identified.relay with same | ⟨relayAddr, proxyUrl, same⟩
    · rw [same] at taken
      exact .inr (kept.held other taken)
    · rw [same] at taken
      cases taken
      exact .inl rfl
  enabled present := by
    rcases identified.relay with same | ⟨relayAddr, proxyUrl, same⟩
    · rw [same]
      exact kept.enabled present
    · rw [same]
      intro disabled
      cases disabled
  refused := by
    rw [identified.clusterPsk, identified.greeted, identified.refused]
    exact kept.refused

theorem not_verified_relay {peers : ClusterPeers} {relay : RelayNode} (known : peers.clusterPsk.isSome = true) :
    peers.verified sha256 relay.peer relay.agentVersion = false := by
  obtain ⟨psk, held⟩ := Option.isSome_iff_exists.mp known
  rw [ClusterPeers.verified, held, Option.all_some, Bool.eq_false_iff, ne_eq, verifyPskAuth_iff]
  exact relay_proves_nothing sha256 psk relay.peer relay

section Identify
variable {peers : ClusterPeers} {peer : PeerId} {agent : List Char}
  (own : ∀ relay ∈ node, relay.peer = peer → agent = relay.agentVersion)
include own

theorem kept_identify (kept : Kept clusterPsk node peers) (now : Nat) :
    Kept clusterPsk node ((peers.hear node peer agent).onIdentify sha256 peer agent now) := by
  have heard : ∀ relay ∈ node, relay.peer ≠ peer → (peers.hear node peer agent).greeted = peers.greeted := by
    rintro relay ⟨⟩ different
    simp [ClusterPeers.hear, different]
  unfold ClusterPeers.onIdentify
  split
  · rename_i verified
    refine (identified_feedRelay (peers.hear node peer agent) peer agent now).kept
      ⟨kept.clusterPsk, kept.held, kept.enabled, fun known greeted relay configured => ?_⟩
    by_cases same : relay.peer = peer
    · subst same
      cases own relay configured rfl
      rw [not_verified_relay known] at verified
      cases verified
    · rw [heard relay configured same] at greeted
      exact kept.refused known greeted relay configured
  · refine ⟨kept.clusterPsk, kept.held, kept.enabled, fun known greeted relay configured => ?_⟩
    by_cases same : relay.peer = peer
    · exact same ▸ List.mem_cons_self
    · rw [show ClusterPeers.greeted _ = (peers.hear node peer agent).greeted from rfl, heard relay configured same] at greeted
      exact List.mem_cons_of_mem _ (kept.refused known greeted relay configured)

theorem guarded_identify_known (kept : Kept clusterPsk node peers) (guarded : peers.Guarded sha256 clusterPsk node)
    {psk : List UInt8} (decoded : hexDecode clusterPsk = some psk) (now : Nat) :
    ((peers.hear node peer agent).onIdentify sha256 peer agent now).Guarded sha256 clusterPsk node ↔
      node.map (·.peer) ≠ some peer := by
  have known : peers.clusterPsk = some psk := kept.clusterPsk.trans decoded
  constructor
  · rintro ⟨-, relays⟩ same
    obtain ⟨relay, rfl, rfl⟩ := Option.map_eq_some_iff.mp same
    obtain ⟨accepted, -⟩ := relays relay rfl
    rw [own relay rfl rfl, ClusterPeers.onIdentify, not_verified_relay (by exact Option.isSome_iff_exists.mpr ⟨psk, known⟩)] at accepted
    exact accepted List.mem_cons_self
  · intro different
    have quiet : ∀ relay ∈ node, (peers.hear node peer agent).greeted = false := by
      intro relay configured
      have before : peers.greeted = false := by
        by_contra greeted
        have refused := kept.refused (by rw [known]; rfl) (Bool.eq_true_of_not_eq_false greeted) relay configured
        exact (guarded.2 relay configured).1 refused
      simp [ClusterPeers.hear, before, different]
    unfold ClusterPeers.onIdentify
    split
    · rename_i verified
      have identified := identified_feedRelay (peers.hear node peer agent) peer agent now
      refine ⟨fun other member unrelated => ?_, fun relay configured => ⟨?_, fun greeted => ?_⟩⟩
      · rw [identified.authorized, Finset.mem_insert] at member
        rw [identified.heard]
        rcases member with rfl | member
        · refine ⟨psk, decoded, agent, List.mem_cons_self, ?_⟩
          have checked : peers.clusterPsk.all (verifyPskAuth sha256 agent other) = true := verified
          rw [known, Option.all_some, verifyPskAuth_iff] at checked
          exact checked
        · obtain ⟨psk, decoded, agent, said, proves⟩ := guarded.1 other member unrelated
          exact ⟨psk, decoded, agent, List.mem_cons_of_mem _ said, proves⟩
      · rw [identified.refused]
        exact (guarded.2 relay configured).1
      · rw [identified.greeted, quiet relay configured] at greeted
        cases greeted
    · refine ⟨fun other member unrelated => ?_, fun relay configured => ⟨?_, fun greeted => ?_⟩⟩
      · obtain ⟨psk, decoded, agent, said, proves⟩ := guarded.1 other member unrelated
        exact ⟨psk, decoded, agent, List.mem_cons_of_mem _ said, proves⟩
      · rw [List.mem_cons, not_or]
        refine ⟨fun same => ?_, (guarded.2 relay configured).1⟩
        cases configured
        exact different (congrArg some same)
      · have greeted : (peers.hear node peer agent).greeted = true := greeted
        rw [quiet relay configured] at greeted
        cases greeted

theorem guarded_identify_unknown (kept : Kept clusterPsk node peers) (guarded : peers.Guarded sha256 clusterPsk node)
    (undecoded : hexDecode clusterPsk = none) (now : Nat) :
    ((peers.hear node peer agent).onIdentify sha256 peer agent now).Guarded sha256 clusterPsk node ↔
      node.map (·.peer) = some peer := by
  have unknown : peers.clusterPsk = none := kept.clusterPsk.trans undecoded
  have verified : (peers.hear node peer agent).verified sha256 peer agent = true := by
    show peers.clusterPsk.all (verifyPskAuth sha256 agent peer) = true
    rw [unknown]
    rfl
  have only : ∀ other ∈ peers.authorized, node.map (·.peer) = some other := by
    intro other member
    by_contra unrelated
    obtain ⟨psk, decoded, -⟩ := guarded.1 other member unrelated
    rw [undecoded] at decoded
    cases decoded
  rw [ClusterPeers.onIdentify, if_pos verified]
  have identified := identified_feedRelay (peers.hear node peer agent) peer agent now
  constructor
  · rintro ⟨proven, -⟩
    by_contra unrelated
    have member := Finset.mem_insert_self peer (peers.hear node peer agent).authorized
    rw [← identified.authorized] at member
    obtain ⟨psk, decoded, -⟩ := proven peer member unrelated
    rw [undecoded] at decoded
    cases decoded
  · intro same
    obtain ⟨relay, rfl, rfl⟩ := Option.map_eq_some_iff.mp same
    cases own relay rfl rfl
    refine ⟨fun other member unrelated => absurd ?_ unrelated, fun relay configured => ⟨?_, fun _ => ?_⟩⟩
    · rw [identified.authorized, Finset.mem_insert] at member
      rcases member with rfl | member
      · rfl
      · exact only other member
    · rw [identified.refused]
      exact (guarded.2 relay configured).1
    · cases configured
      refine isIdentified_feedRelay _ relay now (kept.enabled rfl) fun other taken => ?_
      exact (Option.some.inj (only other (kept.held other taken))).symm

end Identify

/-! ## Whole runs -/

theorem drop_cases (peers : ClusterPeers) (node : Option RelayNode) (now : Nat) :
    SameChecks peers (peers.dropRelayConnection node now) ∨ ∃ peer, Closed node peers peer (peers.dropRelayConnection node now) := by
  cases own : peers.relay.peerId with
  | none =>
      refine .inl ?_
      rw [ClusterPeers.dropRelayConnection, own]
      exact .refl peers
  | some peer => exact .inr ⟨peer, closed_drop node own now⟩

theorem reregister_cases (peers : ClusterPeers) (node : Option RelayNode) (now : Nat) (outcome : RegisterOutcome) :
    SameChecks peers (peers.reregister node now outcome) ∨ ∃ peer, Closed node peers peer (peers.reregister node now outcome) := by
  unfold ClusterPeers.reregister
  split
  · cases outcome with
    | rejected => exact .inl (.refl _)
    | registered => exact .inl (sameChecks_registered _ now)
    | failed => exact drop_cases _ node now
  · exact .inl (.refl _)

theorem relayTick_cases (peers : ClusterPeers) (node : Option RelayNode) (now : Nat) (opened : Bool) (outcome : RegisterOutcome) :
    ∃ middle, SameChecks peers middle ∧ (SameChecks middle (peers.onRelayTick node now opened outcome) ∨
      ∃ peer, Closed node middle peer (peers.onRelayTick node now opened outcome)) := by
  have ticked : SameChecks peers (if opened then (peers.feedRelay now .tick).feedRelay now .rpcStreamOpened
      else peers.feedRelay now .tick) := by
    split
    · exact (sameChecks_tick peers now).trans (sameChecks_opened _ now)
    · exact sameChecks_tick peers now
  exact ⟨_, ticked, reregister_cases _ node now outcome⟩

theorem kept_step {event : SwarmEvent} (kept : Kept clusterPsk node before)
    (taken : ClusterPeers.step sha256 node before event = some after) : Kept clusterPsk node after := by
  cases event with
  | connectionEstablished peer now =>
      cases taken
      exact kept
  | connectionClosed peer now =>
      cases taken
      exact (closed_connectionClosed node before peer now).kept kept
  | identify peer agent now =>
      obtain ⟨own, same⟩ := Option.ite_none_right_eq_some.mp taken
      cases same
      exact kept_identify own kept now
  | relayTick now opened outcome =>
      cases taken
      obtain ⟨middle, same, later | ⟨peer, closed⟩⟩ := relayTick_cases before node now opened outcome
      · exact later.kept (same.kept kept)
      · exact closed.kept (same.kept kept)
  | rpcError now =>
      obtain ⟨_, same⟩ := Option.ite_none_right_eq_some.mp taken
      cases same
      rcases drop_cases before node now with same | ⟨peer, closed⟩
      · exact same.kept kept
      · exact closed.kept kept

theorem guarded_step_iff {event : SwarmEvent} (kept : Kept clusterPsk node before)
    (guarded : before.Guarded sha256 clusterPsk node) (taken : ClusterPeers.step sha256 node before event = some after) :
    after.Guarded sha256 clusterPsk node ↔ before.Fits clusterPsk node event := by
  cases event with
  | connectionEstablished peer now =>
      cases taken
      exact ⟨fun _ => trivial, fun _ => guarded⟩
  | connectionClosed peer now =>
      cases taken
      exact ⟨fun _ => trivial, fun _ => (closed_connectionClosed node before peer now).guarded guarded⟩
  | identify peer agent now =>
      obtain ⟨own, same⟩ := Option.ite_none_right_eq_some.mp taken
      cases same
      unfold ClusterPeers.Fits
      cases decoded : hexDecode clusterPsk with
      | some psk =>
          rw [guarded_identify_known own kept guarded decoded now]
          simp
      | none =>
          rw [guarded_identify_unknown own kept guarded decoded now]
          simp
  | relayTick now opened outcome =>
      cases taken
      refine ⟨fun _ => trivial, fun _ => ?_⟩
      obtain ⟨middle, same, later | ⟨peer, closed⟩⟩ := relayTick_cases before node now opened outcome
      · exact later.guarded (same.guarded guarded)
      · exact closed.guarded (same.guarded guarded)
  | rpcError now =>
      obtain ⟨_, same⟩ := Option.ite_none_right_eq_some.mp taken
      cases same
      refine ⟨fun _ => trivial, fun _ => ?_⟩
      rcases drop_cases before node now with same | ⟨peer, closed⟩
      · exact same.guarded guarded
      · exact closed.guarded guarded

theorem peers_guarded_iff (sha256 : List UInt8 → List UInt8) (clusterPsk : List Char) (node : Option RelayNode)
    (events : List SwarmEvent) (final : ClusterPeers)
    (ran : run (ClusterPeers.step sha256 node) (.start clusterPsk node) events = some final) :
    Always (ClusterPeers.step sha256 node) (ClusterPeers.Guarded sha256 clusterPsk node) (.start clusterPsk node) events ↔
      Meets (ClusterPeers.step sha256 node) (ClusterPeers.Fits clusterPsk node) (.start clusterPsk node) events := by
  refine @always_iff_meets _ _ (ClusterPeers.step sha256 node) (Kept clusterPsk node) _ _ ?_ ?_ _ _ _ ?_ ?_ ran
  · intro state event after kept taken
    exact kept_step kept taken
  · intro state event after kept guarded taken
    exact guarded_step_iff kept guarded taken
  · exact kept_start clusterPsk node
  · refine ⟨fun peer member => ?_, fun relay configured => ⟨List.not_mem_nil, fun greeted => ?_⟩⟩
    · exact absurd member (Finset.notMem_empty peer)
    · cases greeted

end

def macMini : PeerId := [0, 36, 8, 1, 18, 32] ++ List.replicate 32 1

def exampleRelay : RelayNode := ⟨"/dns4/relay.plan.ai/tcp/443/wss", [2], "0.1.5".toList, by decide +kernel, none⟩

def macMiniDigest : List UInt8 :=
  [5, 27, 128, 178, 167, 251, 123, 237, 209, 84, 18, 139, 37, 129, 115, 6, 184, 179, 44, 209, 113, 126, 70, 2, 216, 147,
    208, 73, 236, 43, 121, 185]

def hashOfMacMini (input : List UInt8) : List UInt8 := if input = 0xab :: macMini then macMiniDigest else []

theorem peers_guarded_with_proof :
    Always (ClusterPeers.step hashOfMacMini (some exampleRelay))
      (ClusterPeers.Guarded hashOfMacMini "ab".toList (some exampleRelay)) (.start "ab".toList (some exampleRelay))
      [.connectionEstablished macMini 0, .identify macMini "mac-mgmt/0.1.5/mini/051b80b2a7fb7bed".toList 1,
        .connectionClosed macMini 2] := by
  have runs : (run (ClusterPeers.step hashOfMacMini (some exampleRelay)) (.start "ab".toList (some exampleRelay))
      [.connectionEstablished macMini 0, .identify macMini "mac-mgmt/0.1.5/mini/051b80b2a7fb7bed".toList 1,
        .connectionClosed macMini 2]).isSome = true := by decide +kernel
  obtain ⟨final, ran⟩ := Option.isSome_iff_exists.mp runs
  refine (peers_guarded_iff hashOfMacMini "ab".toList (some exampleRelay) _ final ran).mpr ?_
  refine ⟨trivial, fun _ _ => ⟨?_, fun _ _ => ⟨trivial, fun _ _ => trivial⟩⟩⟩
  have decodes : (hexDecode "ab".toList).isSome = true := by decide +kernel
  have other : (some exampleRelay).map (·.peer) ≠ some macMini := by decide +kernel
  exact ⟨fun _ => other, fun _ => decodes⟩

/-- A PSK that is no hexadecimal text lets everyone in, and one that is shuts out the relay. -/
theorem psk_ignored_or_relay_refused :
    (∃ final, run (ClusterPeers.step hashOfMacMini none) (.start "secret".toList none)
        [.identify macMini "mac-mgmt/0.1.5/mini".toList 1] = some final ∧
      ¬ final.Guarded hashOfMacMini "secret".toList none) ∧
    ∃ final, run (ClusterPeers.step hashOfMacMini (some exampleRelay)) (.start "ab".toList (some exampleRelay))
        [.identify [2] exampleRelay.agentVersion 1] = some final ∧
      ¬ final.Guarded hashOfMacMini "ab".toList (some exampleRelay) := by
  have undecoded : hexDecode "secret".toList = none := by decide +kernel
  constructor
  · have lets : ((run (ClusterPeers.step hashOfMacMini none) (.start "secret".toList none)
        [.identify macMini "mac-mgmt/0.1.5/mini".toList 1]).any fun final => decide (macMini ∈ final.authorized)) = true := by
      decide +kernel
    obtain ⟨final, ran, member⟩ := (Option.any_eq_true _ _).mp lets
    refine ⟨final, ran, fun guarded => ?_⟩
    obtain ⟨psk, decoded, -⟩ := guarded.1 macMini (of_decide_eq_true member) (by simp)
    rw [undecoded] at decoded
    cases decoded
  · have shuts : ((run (ClusterPeers.step hashOfMacMini (some exampleRelay)) (.start "ab".toList (some exampleRelay))
        [.identify [2] exampleRelay.agentVersion 1]).any fun final => decide (exampleRelay.peer ∈ final.refused)) = true := by
      decide +kernel
    obtain ⟨final, ran, member⟩ := (Option.any_eq_true _ _).mp shuts
    exact ⟨final, ran, fun guarded => (guarded.2 exampleRelay rfl).1 (of_decide_eq_true member)⟩

end MacMgmt.Proof.ClusterPeers
