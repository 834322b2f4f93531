import MacMgmt.Daemon.AiProxy

/-!
# On whose word requests are routed

What is read of the registry comes from its entries, so it is enough to look at what an event does to one entry.
-/

namespace MacMgmt.Proof.AiProxy
open Lib MacMgmt.Agent MacMgmt.Daemon.AiProxy

/-! ## The readers -/

theorem mem_of_leastLoadedPeer {order : PeerRegistry.Order} {now : Nat} {found : PeerId × BackendAdvertisement}
    (least : PeerRegistry.leastLoadedPeer order now = some found) :
    ∃ entry, (found.1, entry) ∈ order ∧ entry.advertisement = found.2 ∧ found.2.backends ≠ [] := by
  obtain ⟨⟨peer, entry⟩, chosen, rfl⟩ := Option.map_eq_some_iff.mp least
  obtain ⟨listed, offers⟩ := List.mem_filter.mp (List.argmin_mem chosen)
  simp only [PeerRegistry.offers, Bool.and_eq_true, decide_eq_true_eq] at offers
  exact ⟨entry, listed, rfl, offers.2⟩

theorem mem_of_leastLoadedPeerBelow {order : PeerRegistry.Order} {now localJobs : Nat}
    {found : PeerId × BackendAdvertisement} (least : PeerRegistry.leastLoadedPeerBelow order now localJobs = some found) :
    ∃ entry, (found.1, entry) ∈ order ∧ entry.advertisement = found.2 ∧ found.2.backends ≠ [] := by
  obtain ⟨⟨peer, entry⟩, chosen, rfl⟩ := Option.map_eq_some_iff.mp least
  obtain ⟨listed, below⟩ := List.mem_filter.mp (List.argmin_mem chosen)
  simp only [PeerRegistry.offers, Bool.and_eq_true, decide_eq_true_eq] at below
  exact ⟨entry, listed, rfl, below.1.2⟩

theorem mem_of_freshPeers {order : PeerRegistry.Order} {now : Nat} {found : PeerId × BackendAdvertisement}
    (listed : found ∈ PeerRegistry.freshPeers order now) :
    ∃ entry, (found.1, entry) ∈ order ∧ entry.advertisement = found.2 := by
  obtain ⟨⟨peer, entry⟩, member, rfl⟩ := List.mem_map.mp listed
  exact ⟨entry, (List.mem_filter.mp member).1, rfl⟩

theorem peerId_onNode {backends : BackendMap} {peer : PeerId} {name : String} :
    resolveLocal backends ≠ some (.peer peer name) := by
  unfold resolveLocal
  split <;> simp

theorem found_of_resolveBackend {backends : BackendMap} {order : PeerRegistry.Order} {now localJobs : Nat} {peer : PeerId}
    {name : String} (routed : resolveBackend backends (some order) now localJobs = some (.peer peer name)) :
    ∃ advertisement, toPeer (peer, advertisement) = .peer peer name ∧
      (PeerRegistry.leastLoadedPeerBelow order now localJobs = some (peer, advertisement) ∨
        PeerRegistry.leastLoadedPeer order now = some (peer, advertisement)) := by
  rcases Option.or_eq_some_iff.mp routed with found | ⟨_, onNode⟩
  · obtain ⟨⟨other, advertisement⟩, least, named⟩ := Option.map_eq_some_iff.mp found
    have same : other = peer := by
      injection named
    subst same
    refine ⟨advertisement, named, ?_⟩
    unfold peerFor at least
    split at least
    · exact .inl least
    · exact .inr least
  · exact absurd onNode peerId_onNode

theorem name_of_toPeer {peer : PeerId} {name : String} {advertisement : BackendAdvertisement}
    (named : toPeer (peer, advertisement) = .peer peer name) (offers : advertisement.backends ≠ []) :
    name ∈ advertisement.backends.map (·.name) := by
  obtain ⟨first, rest, same⟩ := List.exists_cons_of_ne_nil offers
  simp only [toPeer, same, List.head?_cons, Option.map_some, Option.getD_some, ResolvedBackend.peer.injEq, true_and] at named
  simp [same, named]

theorem peer_of_health {backends : BackendMap} {order : PeerRegistry.Order} {now localJobs : Nat} {row : HealthBackend}
    {peer : PeerId} (member : row ∈ health backends (some order) now localJobs) (own : row.peerId = some peer) :
    ∃ advertisement, (peer, advertisement) ∈ PeerRegistry.freshPeers order now ∧
      row ∈ peerHealth (peer, advertisement) := by
  simp only [health, List.mem_append, Option.elim_some, List.mem_flatMap] at member
  rcases member with (onNode | onNode) | ⟨⟨other, advertisement⟩, listed, shown⟩
  · obtain ⟨endpoint, -, rfl⟩ := Option.map_eq_some_iff.mp (Option.mem_toList.mp onNode)
    cases own
  · obtain ⟨endpoint, -, rfl⟩ := Option.map_eq_some_iff.mp (Option.mem_toList.mp onNode)
    cases own
  · obtain ⟨info, -, rfl⟩ := List.mem_map.mp shown
    cases own
    exact ⟨advertisement, listed, shown⟩

/-! ## The entries -/

theorem trusted_iff_entries (cluster : ClusterRegistry) :
    Trusted cluster ↔ ∀ peer entry, cluster.peers.lookup peer = some entry → cluster.Vouched peer entry.advertisement := by
  constructor
  · exact Trusted.entries
  · intro entries
    have vouched {order : PeerRegistry.Order} (iterates : cluster.peers.Iterates order) {peer : PeerId} {entry : PeerEntry}
        (member : (peer, entry) ∈ order) : cluster.Vouched peer entry.advertisement :=
      entries peer entry ((iterates.2 peer entry).mp member)
    have least (order : PeerRegistry.Order) (now : Nat) (found : PeerId × BackendAdvertisement)
        (iterates : cluster.peers.Iterates order) (chosen : PeerRegistry.leastLoadedPeer order now = some found) :
        cluster.Vouched found.1 found.2 := by
      obtain ⟨entry, member, same, -⟩ := mem_of_leastLoadedPeer chosen
      exact same ▸ vouched iterates member
    have below (order : PeerRegistry.Order) (now localJobs : Nat) (found : PeerId × BackendAdvertisement)
        (iterates : cluster.peers.Iterates order)
        (chosen : PeerRegistry.leastLoadedPeerBelow order now localJobs = some found) : cluster.Vouched found.1 found.2 := by
      obtain ⟨entry, member, same, -⟩ := mem_of_leastLoadedPeerBelow chosen
      exact same ▸ vouched iterates member
    refine ⟨entries, least, below, ?_, ?_⟩
    · intro backends order now localJobs peer name iterates routed
      obtain ⟨advertisement, named, chosen | chosen⟩ := found_of_resolveBackend routed
      · obtain ⟨_, _, _, offers⟩ := mem_of_leastLoadedPeerBelow chosen
        exact ⟨advertisement, below order now localJobs _ iterates chosen, name_of_toPeer named offers⟩
      · obtain ⟨_, _, _, offers⟩ := mem_of_leastLoadedPeer chosen
        exact ⟨advertisement, least order now _ iterates chosen, name_of_toPeer named offers⟩
    · intro backends order now localJobs iterates row member peer own
      obtain ⟨advertisement, listed, shown⟩ := peer_of_health member own
      obtain ⟨entry, known, same⟩ := mem_of_freshPeers listed
      have same : entry.advertisement = advertisement := same
      obtain ⟨info, offered, rfl⟩ := List.mem_map.mp shown
      exact ⟨advertisement, same ▸ vouched iterates known, rfl, rfl, offered⟩

section
variable {parse : String → Option PeerId} {cluster : ClusterRegistry}

theorem trusted_fewer (trusted : Trusted cluster) {fewer : PeerRegistry}
    (subset : ∀ peer entry, fewer.lookup peer = some entry → cluster.peers.lookup peer = some entry) :
    Trusted { cluster with peers := fewer } :=
  (trusted_iff_entries _).mpr fun peer entry found => trusted.entries peer entry (subset peer entry found)

theorem lookup_foldl_erase {peers : List PeerId} {registry : PeerRegistry} {peer : PeerId} {entry : PeerEntry}
    (found : (peers.foldl (fun registry peer => registry.erase peer) registry).lookup peer = some entry) :
    registry.lookup peer = some entry := by
  induction peers generalizing registry with
  | nil => exact found
  | cons other peers ih =>
      have later := ih found
      rw [Table.lookup_erase_ite] at later
      split at later
      · cases later
      · exact later

theorem trusted_onAdvertisement_iff (trusted : Trusted cluster) (publisher peer : PeerId) (advertisement : BackendAdvertisement)
    (now : Nat) :
    Trusted (cluster.onAdvertisement publisher peer advertisement now) ↔
      peer ∈ cluster.authorized ∧ (peer = publisher ∨ cluster.published peer = some advertisement) := by
  have looked (other : PeerId) : (cluster.onAdvertisement publisher peer advertisement now).peers.lookup other =
      if other = peer then some ⟨advertisement, now⟩ else cluster.peers.lookup other := Table.lookup_insert_ite _ _ _ _
  have said (other : PeerId) : (cluster.onAdvertisement publisher peer advertisement now).published other =
      if other = peer ∧ publisher = peer then some advertisement else cluster.published other := by
    by_cases own : publisher = peer
    · simp [ClusterRegistry.onAdvertisement, own, Function.update_apply]
    · simp [ClusterRegistry.onAdvertisement, own]
  rw [trusted_iff_entries]
  constructor
  · intro entries
    have found : (cluster.onAdvertisement publisher peer advertisement now).peers.lookup peer = some ⟨advertisement, now⟩ := by
      rw [looked, if_pos rfl]
    obtain ⟨authorised, own⟩ := entries peer _ found
    refine ⟨authorised, ?_⟩
    rw [said] at own
    by_cases same : publisher = peer
    · exact .inl same.symm
    · exact .inr (by simpa [same] using own)
  · rintro ⟨authorised, own⟩ other entry found
    rw [looked] at found
    by_cases same : other = peer
    · rw [if_pos same] at found
      cases found
      refine ⟨same ▸ authorised, ?_⟩
      rw [said, same]
      rcases own with own | own
      · simp [own]
      · simp [own]
    · rw [if_neg same] at found
      refine ⟨(trusted.entries other entry found).1, ?_⟩
      rw [said, if_neg (fun both => same both.1)]
      exact (trusted.entries other entry found).2

theorem trusted_deauthorize_iff (trusted : Trusted cluster) (peer : PeerId) :
    Trusted { cluster with authorized := cluster.authorized.erase peer } ↔ cluster.peers.lookup peer = none := by
  rw [trusted_iff_entries]
  constructor
  · intro entries
    by_contra known
    obtain ⟨entry, found⟩ := Option.ne_none_iff_exists'.mp known
    exact Finset.notMem_erase peer _ (entries peer entry found).1
  · intro unknown other entry found
    obtain ⟨authorised, own⟩ := trusted.entries other entry found
    refine ⟨Finset.mem_erase_of_ne_of_mem ?_ authorised, own⟩
    rintro rfl
    rw [unknown] at found
    cases found

theorem trusted_step_iff {after : ClusterRegistry} {event : ClusterEvent} (trusted : Trusted cluster)
    (taken : cluster.step parse event = some after) : Trusted after ↔ cluster.Genuine parse event := by
  cases event with
  | gossip publisher message now =>
      cases taken
      cases message with
      | none => simpa [ClusterRegistry.Genuine] using trusted
      | some advertisement =>
          cases named : parse advertisement.peerId with
          | none => simpa [ClusterRegistry.Genuine, named] using trusted
          | some peer =>
              simp only [Option.bind_some, named, Option.map_some]
              rw [trusted_onAdvertisement_iff trusted]
              simp [ClusterRegistry.Genuine, named]
  | mdnsExpired peers =>
      cases taken
      exact ⟨fun _ => trivial, fun _ => trusted_fewer trusted fun peer entry found => lookup_foldl_erase found⟩
  | evictStale now =>
      cases taken
      exact ⟨fun _ => trivial, fun _ => trusted_fewer trusted fun peer entry found => (Table.lookup_retain_some.mp found).1⟩
  | authorize peer =>
      cases taken
      refine ⟨fun _ => trivial, fun _ => (trusted_iff_entries _).mpr fun other entry found => ?_⟩
      obtain ⟨authorised, own⟩ := trusted.entries other entry found
      exact ⟨Finset.mem_insert_of_mem authorised, own⟩
  | deauthorize peer =>
      cases taken
      exact trusted_deauthorize_iff trusted peer

theorem registry_trusted_iff (parse : String → Option PeerId) (events : List ClusterEvent) :
    Always (ClusterRegistry.step parse) Trusted .start events ↔
      Meets (ClusterRegistry.step parse) (ClusterRegistry.Genuine parse) .start events := by
  have total : ∀ cluster event, ∃ after, ClusterRegistry.step parse cluster event = some after := by
    intro cluster event
    cases event <;> exact ⟨_, rfl⟩
  obtain ⟨final, ran⟩ := exists_run total .start events
  have empty : Trusted .start := (trusted_iff_entries _).mpr fun peer entry found => by
    rw [show ClusterRegistry.start.peers.lookup peer = none from AList.lookup_empty peer] at found
    cases found
  have preserved : ∀ (before : ClusterRegistry) (event : ClusterEvent) (after : ClusterRegistry), True →
      ClusterRegistry.step parse before event = some after → True := fun _ _ _ _ _ => trivial
  exact always_iff_meets preserved (fun _ _ _ _ trusted => trusted_step_iff trusted) trivial empty ran

end

def macMini : PeerId := [0, 36, 8, 1, 18, 32] ++ List.replicate 32 1

def macStudio : PeerId := [0, 36, 8, 1, 18, 32] ++ List.replicate 32 2

def parseMac (text : String) : Option PeerId :=
  if text = "12D3KooW9tHTtS3inCZiYykw4u5G4frbjVFqhkmJX12gSNCVeH3e" then some macMini
  else if text = "12D3KooW9xCm2jWjNVrwh51SWCQBMYdMyeU3NpT85QhLVkF6PcNM" then some macStudio else none

def idleMini : BackendAdvertisement :=
  ⟨"12D3KooW9tHTtS3inCZiYykw4u5G4frbjVFqhkmJX12gSNCVeH3e", [⟨"ollama", "http://10.0.0.7:11434"⟩], 0, ["llama3"]⟩

/-- A peer that is not authorised speaks for one that is and has said nothing, and the next request goes there; and an
unauthorised peer has an entry of its own. -/
theorem mini_spoken_for :
    (run (ClusterRegistry.step parseMac) .start [.authorize macMini, .gossip macStudio (some idleMini) 5]).any (fun cluster =>
        cluster.peers.lookup macMini = some ⟨idleMini, 5⟩ && cluster.published macMini = none &&
          resolveBackend ⟨some ⟨"127.0.0.1", 11434⟩, none⟩ (some [(macMini, ⟨idleMini, 5⟩)]) 6 1 =
            some (.peer macMini "ollama")) ∧
      (run (ClusterRegistry.step parseMac) .start [.gossip macMini (some idleMini) 5]).any (fun cluster =>
        cluster.peers.lookup macMini = some ⟨idleMini, 5⟩ && decide (macMini ∉ cluster.authorized)) := by
  constructor <;> decide +kernel

end MacMgmt.Proof.AiProxy
