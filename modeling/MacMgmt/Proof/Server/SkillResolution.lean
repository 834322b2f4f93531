import MacMgmt.Proof.Server.CatalogPackages
import MacMgmt.Server.Catalog

/-!
# Which skills a cluster is given

The skill centers are asked only where there are local rows and a pin server. Two direct rows of a skill may come in either order,
and once in each.
-/

namespace MacMgmt.Proof.Server.SkillResolution
open Lib MacMgmt.Server MacMgmt.Server.CatalogDb

section
variable (db : CatalogDb) (cluster : Uuid) (cache : SkillCenterCache) (client : SkillCenterClient)
  (xzar : Option (Option (List XzarPin))) (arch : String)

def HasDirect (rows : List SkillSlugChannel) (slug : String) : Prop := ∃ row ∈ rows, row.slug = slug ∧ row.isDirect = true

def HasBundled (rows : List SkillSlugChannel) (slug : String) : Prop := ∃ row ∈ rows, row.slug = slug ∧ row.isDirect = false

/-- A skill center has the path of a slug when it is asked for what is assigned from it. -/
def RemotelyResolved (slug path : String) : Prop :=
  ∃ scId slugChannels, (Table.group (db.remoteSkills cluster cache)).lookup scId = some slugChannels ∧
    (db.resolveSkillsAt client arch scId slugChannels).lookup slug = some path

def localSkills (rows : List SkillSlugChannel) : Table String String :=
  resolveStorePaths ((xzar.bind id).getD []) (skillsOf rows) arch

structure Resolves (order : Traversal Uuid) (rows others : List SkillSlugChannel) : Prop where
  union : ∀ answer, db.getSkillsOf cluster cache client rows xzar arch order = some answer → ∀ slug,
    answer.lookup slug = ((localSkills xzar arch rows).lookup slug).or
      ((db.aggregateRemoteSkills cluster cache client arch order).lookup slug)
  remote : ∀ answer, db.getSkillsOf cluster cache client rows xzar arch order = some answer → ∀ slug path,
    RemotelyResolved db cluster cache client arch slug path → (answer.lookup slug).isSome = true
  direct : ∀ slug, HasDirect rows slug → HasBundled rows slug → ∃ row ∈ rows, row.slug = slug ∧ row.isDirect = true ∧
    (slug, row.channel) ∈ skillsOf rows ∧ (resolveWinningSkillChannelsOf others).lookup slug = some row.skillChannelId

end

variable {db : CatalogDb} {cluster : Uuid} {cache : SkillCenterCache} {client : SkillCenterClient}
  {xzar : Option (Option (List XzarPin))} {arch : String} {order : Traversal Uuid} {rows others : List SkillSlugChannel}

/-! ## The winner of a slug -/

theorem winner_direct {V : Type} (value : SkillSlugChannel → V) {slug : String} (direct : HasDirect rows slug) :
    ∃ row ∈ rows, row.slug = slug ∧ row.isDirect = true ∧ (winnersOf rows value).lookup slug = some (value row, true) := by
  obtain ⟨given, member, rfl, isDirect⟩ := direct
  have won : ∃ held, (winnersOf rows value).lookup given.slug = some (held, true) := by
    obtain ⟨before, after, split⟩ := List.append_of_mem member
    unfold winnersOf
    rw [split, List.map_append, Table.fill_append, List.map_cons, Table.fill_cons]
    split
    · rename_i stays
      obtain ⟨⟨held, kept⟩, found, already⟩ := (Option.any_eq_true _ _).mp stays
      cases (show kept = true from already)
      exact ⟨held, Table.lookup_fill_kept found fun _ _ _ => rfl⟩
    · rw [isDirect]
      exact ⟨value given, Table.lookup_fill_kept (AList.lookup_insert _) fun _ _ _ => rfl⟩
  obtain ⟨held, found⟩ := won
  obtain none | listed := Table.lookup_fill found
  · cases none
  · obtain ⟨row, within, same⟩ := List.mem_map.mp listed
    obtain ⟨slug, pair⟩ := Prod.mk.inj same
    obtain ⟨value, direct⟩ := Prod.mk.inj pair
    exact ⟨row, within, slug, direct, by rw [found, value]⟩

theorem winner_first {V : Type} (value : SkillSlugChannel → V) {first : SkillSlugChannel} {rest : List SkillSlugChannel}
    (direct : first.isDirect = true) : (winnersOf (first :: rest) value).lookup first.slug = some (value first, true) := by
  unfold winnersOf
  rw [List.map_cons, Table.fill_cons]
  apply Table.lookup_fill_kept
  · rw [direct]
    exact AList.lookup_insert _
  · exact fun _ _ _ => rfl

theorem mem_skillsOf {slug channel : String} :
    (slug, channel) ∈ skillsOf rows ↔ ∃ direct, (winnersOf rows SkillSlugChannel.channel).lookup slug = some (channel, direct) := by
  unfold skillsOf
  rw [List.mem_map]
  constructor
  · rintro ⟨⟨key, held, direct⟩, member, same⟩
    cases same
    exact ⟨direct, AList.mem_lookup_iff.mpr member⟩
  · rintro ⟨direct, found⟩
    exact ⟨⟨slug, channel, direct⟩, AList.mem_lookup_iff.mp found, rfl⟩

theorem lookup_resolveWinning {slug : String} {held : Uuid × Bool}
    (found : (winnersOf rows SkillSlugChannel.skillChannelId).lookup slug = some held) :
    (resolveWinningSkillChannelsOf rows).lookup slug = some held.1 := by
  unfold resolveWinningSkillChannelsOf
  rw [Table.lookup_mapValues, found]
  rfl

theorem direct_row_unique {first second : SkillSlugChannel} (member : first ∈ db.skillRows cluster)
    (other : second ∈ db.skillRows cluster) (direct : first.isDirect = true) (otherDirect : second.isDirect = true)
    (same : first.skillChannelId = second.skillChannelId) : first = second := by
  have joined {row : SkillSlugChannel} (within : row ∈ db.skillRows cluster) (direct : row.isDirect = true) :
      db.joinSkillChannel true row.skillChannelId = some row := by
    obtain within | within := List.mem_append.mp within
    all_goals
      obtain ⟨id, -, made⟩ := List.mem_filterMap.mp within
      obtain ⟨channel, found, made⟩ := Option.bind_eq_some_iff.mp made
      obtain ⟨slug, named, made⟩ := Option.bind_eq_some_iff.mp made
      cases made
    · unfold joinSkillChannel
      rw [found]
      dsimp only [Option.bind_eq_bind, Option.bind_some]
      rw [named]
      rfl
    · cases direct
  have whole := joined member direct
  rw [same, joined other otherDirect] at whole
  exact (Option.some.inj whole).symm

/-! ## The skill centers -/

theorem aggregated_none_iff {slug : String} : (db.aggregateRemoteSkills cluster cache client arch order).lookup slug = none ↔
    ∀ path, ¬ RemotelyResolved db cluster cache client arch slug path := by
  unfold aggregateRemoteSkills
  rw [Table.lookup_layers_map_eq_none]
  constructor
  · rintro silent path ⟨scId, slugChannels, asked, resolved⟩
    have unanswered := silent ⟨scId, slugChannels⟩ (mem_ordered.mpr asked)
    rw [resolved] at unanswered
    cases unanswered
  · intro unresolved entry member
    rw [Option.eq_none_iff_forall_ne_some]
    intro path found
    exact unresolved path ⟨entry.1, entry.2, mem_ordered.mp member, found⟩

theorem localSkills_unpinned (none : rows = [] ∨ xzar = none) : localSkills xzar arch rows = ∅ := by
  obtain rfl | rfl := none
  · rfl
  · have unpinned (skills : List (String × String)) : resolveStorePaths [] skills arch = ∅ := by
      unfold resolveStorePaths
      rw [List.filterMap_eq_nil_iff.mpr]
      · rfl
      · exact fun _ _ => rfl
    exact unpinned _

theorem getSkillsOf_unpinned (none : rows = [] ∨ xzar = none) :
    db.getSkillsOf cluster cache client rows xzar arch order = some ∅ := by
  unfold getSkillsOf
  obtain rfl | rfl := none
  · rfl
  · rw [ite_self]

theorem getSkillsOf_pinned {answer : Table String String} (some_rows : rows ≠ []) (pinned : xzar ≠ none)
    (answers : db.getSkillsOf cluster cache client rows xzar arch order = some answer) :
    answer = localSkills xzar arch rows ∪ db.aggregateRemoteSkills cluster cache client arch order := by
  unfold getSkillsOf at answers
  rw [if_neg (fun empty => some_rows (List.isEmpty_iff.mp empty))] at answers
  match xzar, pinned with
  | some none, _ => cases answers
  | some (some pins), _ => exact (Option.some.inj answers).symm

/-! ## The answer -/

theorem resolves_of {order : Traversal Uuid} (whole : rows.Perm (db.skillRows cluster)) (same : others.Perm (db.skillRows cluster))
    (asked : db.skillRows cluster = [] ∨ xzar = none → ∀ slug path, ¬ RemotelyResolved db cluster cache client arch slug path)
    (single : ∀ first ∈ db.skillRows cluster, ∀ second ∈ db.skillRows cluster, first.isDirect = true → second.isDirect = true →
      first.slug = second.slug → HasBundled (db.skillRows cluster) first.slug → first.channel = second.channel) :
    Resolves db cluster cache client xzar arch order rows others := by
  have union : ∀ answer, db.getSkillsOf cluster cache client rows xzar arch order = some answer → ∀ slug,
      answer.lookup slug = ((localSkills xzar arch rows).lookup slug).or
        ((db.aggregateRemoteSkills cluster cache client arch order).lookup slug) := by
    intro answer answers slug
    by_cases none : rows = [] ∨ xzar = none
    · have unresolved := asked (none.imp_left fun empty => (empty ▸ whole).symm.eq_nil)
      rw [getSkillsOf_unpinned none] at answers
      cases answers
      rw [localSkills_unpinned none, aggregated_none_iff.mpr (unresolved slug)]
      rfl
    · obtain ⟨some_rows, pinned⟩ := not_or.mp none
      rw [getSkillsOf_pinned some_rows pinned answers, Table.lookup_union_or]
  refine ⟨union, fun answer answers slug path resolved => ?_, fun slug direct bundled => ?_⟩
  · rw [union answer answers]
    cases found : (db.aggregateRemoteSkills cluster cache client arch order).lookup slug with
    | none => exact absurd resolved (aggregated_none_iff.mp found path)
    | some other => rw [Option.isSome_or, Option.isSome_some, Bool.or_true]
  · obtain ⟨first, member, named, isDirect, won⟩ := winner_direct SkillSlugChannel.channel direct
    have otherDirect : HasDirect others slug := ⟨first, (whole.trans same.symm).mem_iff.mp member, named, isDirect⟩
    obtain ⟨second, within, otherNamed, otherIsDirect, otherWon⟩ := winner_direct SkillSlugChannel.skillChannelId otherDirect
    obtain ⟨bundle, bundleMember, bundleNamed, ofBundle⟩ := bundled
    have channels := single first (whole.mem_iff.mp member) second (same.mem_iff.mp within) isDirect otherIsDirect
      (named.trans otherNamed.symm) ⟨bundle, whole.mem_iff.mp bundleMember, bundleNamed.trans named.symm, ofBundle⟩
    rw [channels] at won
    exact ⟨second, (whole.trans same.symm).mem_iff.mpr within, otherNamed, otherIsDirect, mem_skillsOf.mpr ⟨true, won⟩,
      lookup_resolveWinning otherWon⟩

/-- The answer is the union whatever the order of the rows iff the skill centers that have something are asked, and no skill of a
bundle is assigned directly with two channels. -/
theorem skills_resolved_iff (db : CatalogDb) (cluster : Uuid) (cache : SkillCenterCache) (client : SkillCenterClient)
    (xzar : Option (Option (List XzarPin))) (arch : String) (order : Traversal Uuid) :
    (∀ rows others, rows.Perm (db.skillRows cluster) → others.Perm (db.skillRows cluster) →
      Resolves db cluster cache client xzar arch order rows others) ↔
      (db.skillRows cluster = [] ∨ xzar = none → ∀ slug path, ¬ RemotelyResolved db cluster cache client arch slug path) ∧
      ∀ first ∈ db.skillRows cluster, ∀ second ∈ db.skillRows cluster, first.isDirect = true → second.isDirect = true →
        first.slug = second.slug → HasBundled (db.skillRows cluster) first.slug → first.channel = second.channel := by
  constructor
  · intro all
    constructor
    · intro none slug path resolved
      have given := (all _ _ (List.Perm.refl _) (List.Perm.refl _)).remote ∅ (getSkillsOf_unpinned none) slug path resolved
      cases given
    · intro first member second other direct otherDirect sameSlug bundled
      obtain ⟨before, after, split⟩ := List.append_of_mem member
      obtain ⟨otherBefore, otherAfter, otherSplit⟩ := List.append_of_mem other
      have firstly : (first :: (before ++ after)).Perm (db.skillRows cluster) := split ▸ List.perm_middle.symm
      have secondly : (second :: (otherBefore ++ otherAfter)).Perm (db.skillRows cluster) := otherSplit ▸ List.perm_middle.symm
      obtain ⟨bundle, bundleMember, named, ofBundle⟩ := bundled
      obtain ⟨row, within, rowNamed, rowDirect, used, resolved⟩ := (all _ _ firstly secondly).direct first.slug
        ⟨first, List.mem_cons_self, rfl, direct⟩ ⟨bundle, firstly.mem_iff.mpr bundleMember, named, ofBundle⟩
      obtain ⟨_, won⟩ := mem_skillsOf.mp used
      rw [winner_first SkillSlugChannel.channel direct] at won
      rw [sameSlug, lookup_resolveWinning (winner_first SkillSlugChannel.skillChannelId otherDirect)] at resolved
      have same : second = row :=
        direct_row_unique other (firstly.mem_iff.mp within) otherDirect rowDirect (Option.some.inj resolved)
      rw [same]
      exact congrArg Prod.fst (Option.some.inj won)
  · rintro ⟨asked, single⟩ rows others whole same
    exact resolves_of whole same asked single

/-! ## A cluster without local skills -/

def remoteOnly : CatalogDb where
  mcpServers := ∅
  mcpServerBundleItems := []
  skills := ∅
  skillChannels := ∅
  bundleItems := []
  skillMcpDependencies := ∅
  clusterMcpServers := []
  clusterMcpBundles := []
  clusterSkills := [⟨1, none, some 7, some "writer", some "stable"⟩]
  clusterBundles := []
  clusterPackages := []
  skillCenters := AList.singleton 7 ⟨"seven", "token", 10, true⟩

def pinClient : SkillCenterClient where
  resolveMcpServers _ _ _ := some ∅
  resolveSkills _ _ slugChannels _ := some (Table.fill (fun _ _ => true) ∅ (slugChannels.map fun pair => (pair.1, "/nix/store/a-writer")))

theorem remote_skill_missing :
    remoteOnly.getSkills 1 ∅ pinClient (some (some [])) "x86_64-linux" .stored = some ∅ ∧
      RemotelyResolved remoteOnly 1 ∅ pinClient "x86_64-linux" "writer" "/nix/store/a-writer" ∧
      ¬ Resolves remoteOnly 1 ∅ pinClient (some (some [])) "x86_64-linux" .stored [] [] := by
  have resolved : RemotelyResolved remoteOnly 1 ∅ pinClient "x86_64-linux" "writer" "/nix/store/a-writer" :=
    ⟨7, [("writer", "stable")], by decide, by decide⟩
  refine ⟨rfl, resolved, fun resolves => ?_⟩
  cases resolves.remote ∅ rfl "writer" "/nix/store/a-writer" resolved

end MacMgmt.Proof.Server.SkillResolution
