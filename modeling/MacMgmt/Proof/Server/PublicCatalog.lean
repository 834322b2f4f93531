import MacMgmt.Server.FederationCatalog
import Mathlib.Data.String.Basic

/-!
# The catalog without a token

Two databases that differ in what is hidden, or in the credentials of an MCP server, answer alike except for one join: the
slugs of the hidden MCP servers that a visible skill channel depends on.
-/

namespace MacMgmt.Proof.Server.PublicCatalog
open Lib MacMgmt.Server.Federation
open MacMgmt.Server (Json Uuid)

/-! ## What anyone may see -/

def ShowsSkill (db : Db) (id : Uuid) : Prop :=
  ∃ skill, db.skills.lookup id = some skill ∧ skill.hideFromPublicCatalog = false

def ShowsChannel (db : Db) (id : Uuid) : Prop :=
  ∃ channel, db.skillChannels.lookup id = some channel ∧ ShowsSkill db channel.skillId

def ShowsServer (db : Db) (id : Uuid) : Prop :=
  ∃ server, db.mcpServers.lookup id = some server ∧ server.hideFromPublicCatalog = false

def ShowsBundle (table : Table Uuid Bundle) (id : Uuid) : Prop :=
  ∃ bundle, table.lookup id = some bundle ∧ bundle.hideFromPublicCatalog = false

def isCredential (name : String) : Bool := name = "env" || name = "headers"

inductive SameBesidesCredentials : Json → Json → Prop where
  | same (json : Json) : SameBesidesCredentials json json
  | members {first second : List (String × Json)} :
      (first.filter fun field => !isCredential field.1) = (second.filter fun field => !isCredential field.1) →
      SameBesidesCredentials (.object first) (.object second)

def SameServer (first second : McpServer) : Prop :=
  second = { first with configJson := second.configJson } ∧ SameBesidesCredentials first.configJson second.configJson

structure Published (one two : Db) : Prop where
  skills : ∀ id skill, skill.hideFromPublicCatalog = false → one.skills.lookup id = some skill →
    two.skills.lookup id = some skill
  skillChannels : ∀ id channel, one.skillChannels.lookup id = some channel → ShowsSkill one channel.skillId →
    two.skillChannels.lookup id = some channel
  bundles : ∀ id bundle, bundle.hideFromPublicCatalog = false → one.bundles.lookup id = some bundle →
    two.bundles.lookup id = some bundle
  bundleItems : ∀ bundle channel, (bundle, channel) ∈ one.bundleItems → ShowsBundle one.bundles bundle →
    ShowsChannel one channel → (bundle, channel) ∈ two.bundleItems
  mcpServers : ∀ id server, server.hideFromPublicCatalog = false → one.mcpServers.lookup id = some server →
    ∃ other, two.mcpServers.lookup id = some other ∧ SameServer server other
  mcpServerBundles : ∀ id bundle, bundle.hideFromPublicCatalog = false → one.mcpServerBundles.lookup id = some bundle →
    two.mcpServerBundles.lookup id = some bundle
  mcpServerBundleItems : ∀ bundle server, (bundle, server) ∈ one.mcpServerBundleItems →
    ShowsBundle one.mcpServerBundles bundle → ShowsServer one server → (bundle, server) ∈ two.mcpServerBundleItems
  skillMcpDependencies : ∀ channel server, (channel, server) ∈ one.skillMcpDependencies → ShowsChannel one channel →
    ShowsServer one server → (channel, server) ∈ two.skillMcpDependencies

/-- The databases differ in hidden rows, in the rows of joins that mention one, and in credentials. -/
def Alike (one two : Db) : Prop := Published one two ∧ Published two one

variable {κ : Type} [LinearOrder κ] {collate : String ↪ κ} {db one two : Db}

namespace Published

theorem showsSkill (published : Published one two) {id : Uuid} : ShowsSkill one id → ShowsSkill two id
  | ⟨skill, found, shown⟩ => ⟨skill, published.skills id skill shown found, shown⟩

theorem showsChannel (published : Published one two) {id : Uuid} : ShowsChannel one id → ShowsChannel two id
  | ⟨channel, found, shown⟩ => ⟨channel, published.skillChannels id channel found shown, published.showsSkill shown⟩

end Published

theorem nodup_entries {V : Type} (table : Table Uuid V) : table.entries.Nodup := table.nodupKeys.nodup

/-! ## Skill channels -/

def channelRow (id : Uuid) (channel : SkillChannel) (skill : Skill) : FederationSkillChannel :=
  { id, skillSlug := skill.slug, skillName := skill.name, skillDescription := skill.description
    channel := channel.channel, hidden := skill.hideFromPublicCatalog, nixPackages := channel.nixPackages
    mcpServerSlugs := [] }

theorem mem_skillChannelRows {row : FederationSkillChannel} : row ∈ skillChannelRows collate db false ↔
    ∃ id channel skill, db.skillChannels.lookup id = some channel ∧ db.skills.lookup channel.skillId = some skill ∧
      skill.hideFromPublicCatalog = false ∧ row = channelRow id channel skill := by
  unfold skillChannelRows
  rw [mem_orderBy, List.mem_filterMap]
  constructor
  · rintro ⟨entry, member, bound⟩
    obtain ⟨skill, found, shown⟩ := Option.bind_eq_some_iff.mp bound
    obtain ⟨shown, same⟩ := Option.ite_none_right_eq_some.mp shown
    cases same
    exact ⟨entry.1, entry.2, skill, AList.mem_lookup_iff.mpr member, found, by simpa [visible] using shown, rfl⟩
  · rintro ⟨id, channel, skill, present, found, shown, rfl⟩
    refine ⟨⟨id, channel⟩, AList.mem_lookup_iff.mp present, Option.bind_eq_some_iff.mpr ⟨skill, found, ?_⟩⟩
    exact Option.ite_none_right_eq_some.mpr ⟨by simp [visible, shown], rfl⟩

theorem mem_channelIds {id : Uuid} :
    id ∈ (skillChannelRows collate db false).map FederationSkillChannel.id ↔ ShowsChannel db id := by
  rw [List.mem_map]
  constructor
  · rintro ⟨row, member, rfl⟩
    obtain ⟨id, channel, skill, present, found, shown, rfl⟩ := mem_skillChannelRows.mp member
    exact ⟨channel, present, skill, found, shown⟩
  · rintro ⟨channel, present, skill, found, shown⟩
    exact ⟨channelRow id channel skill, mem_skillChannelRows.mpr ⟨id, channel, skill, present, found, shown, rfl⟩, rfl⟩

theorem Published.mem_skillChannelRows (published : Published one two) {row : FederationSkillChannel}
    (member : row ∈ skillChannelRows collate one false) : row ∈ skillChannelRows collate two false := by
  obtain ⟨id, channel, skill, present, found, shown, rfl⟩ := PublicCatalog.mem_skillChannelRows.mp member
  exact PublicCatalog.mem_skillChannelRows.mpr ⟨id, channel, skill,
    published.skillChannels id channel present ⟨skill, found, shown⟩, published.skills _ skill shown found, shown, rfl⟩

theorem skillChannelRows_eq (alike : Alike one two) :
    skillChannelRows collate one false = skillChannelRows collate two false := by
  have nodup (db : Db) : (db.skillChannels.entries.filterMap fun entry =>
      (db.skills.lookup entry.2.skillId).bind fun skill =>
        if visible false skill.hideFromPublicCatalog then some (channelRow entry.1 entry.2 skill) else none).Nodup := by
    apply Table.nodup_filterMap _ FederationSkillChannel.id
    intro entry row bound
    obtain ⟨_, -, shown⟩ := Option.bind_eq_some_iff.mp bound
    obtain ⟨-, same⟩ := Option.ite_none_right_eq_some.mp shown
    cases same
    rfl
  refine orderBy_eq_of_mem (nodup one) (nodup two)
    (fun row => ⟨alike.1.mem_skillChannelRows, alike.2.mem_skillChannelRows⟩) ?_
  intro first left second right same
  obtain ⟨id, channel, skill, present, found, -, rfl⟩ := mem_skillChannelRows.mp left
  obtain ⟨other, otherChannel, otherSkill, otherPresent, otherFound, -, rfl⟩ := mem_skillChannelRows.mp right
  obtain ⟨slugs, channels⟩ := Prod.mk.injEq .. ▸ toLex_inj.mp same
  have sameSkill : channel.skillId = otherChannel.skillId :=
    one.skillSlugs _ _ _ _ found otherFound (collate.injective slugs)
  have sameName : channel.channel = otherChannel.channel := collate.injective channels
  obtain rfl : id = other := one.skillChannelNames _ _ _ _ present otherPresent (Prod.ext sameSkill sameName)
  cases present.symm.trans otherPresent
  cases found.symm.trans otherFound
  rfl

/-! ## Dependencies -/

def Depends (db : Db) (channel : Uuid) (slug : String) : Prop :=
  ∃ id server, (channel, id) ∈ db.skillMcpDependencies ∧ db.mcpServers.lookup id = some server ∧ server.slug = slug

/-- A hidden MCP server that the channel depends on has the slug. -/
def DependsHidden (db : Db) (channel : Uuid) (slug : String) : Prop :=
  ∃ id server, (channel, id) ∈ db.skillMcpDependencies ∧ db.mcpServers.lookup id = some server ∧
    server.hideFromPublicCatalog = true ∧ server.slug = slug

theorem DependsHidden.depends {channel : Uuid} {slug : String} : DependsHidden db channel slug → Depends db channel slug
  | ⟨id, server, member, found, _, named⟩ => ⟨id, server, member, found, named⟩

theorem Published.depends_of_hidden (published : Published one two) {channel : Uuid} (shows : ShowsChannel one channel)
    (hidden : ∀ slug, DependsHidden one channel slug → DependsHidden two channel slug) {slug : String}
    (depends : Depends one channel slug) : Depends two channel slug := by
  obtain ⟨id, server, member, found, named⟩ := depends
  cases hides : server.hideFromPublicCatalog with
  | true => exact (hidden slug ⟨id, server, member, found, hides, named⟩).depends
  | false =>
      obtain ⟨other, otherFound, same, -⟩ := published.mcpServers id server hides found
      refine ⟨id, other, ?_, otherFound, ?_⟩
      · exact published.skillMcpDependencies channel id member shows ⟨server, found, hides⟩
      · rw [same]
        exact named

theorem Published.hidden_of_depends (published : Published two one) {channel : Uuid}
    (depends : ∀ slug, Depends one channel slug → Depends two channel slug) {slug : String}
    (hidden : DependsHidden one channel slug) : DependsHidden two channel slug := by
  obtain ⟨other, otherServer, otherMember, otherFound, otherNamed⟩ := depends slug hidden.depends
  cases hides : otherServer.hideFromPublicCatalog with
  | true => exact ⟨other, otherServer, otherMember, otherFound, hides, otherNamed⟩
  | false =>
      exfalso
      obtain ⟨id, server, -, found, hidden, named⟩ := hidden
      obtain ⟨visible, visibleFound, same, -⟩ := published.mcpServers other otherServer hides otherFound
      have sameSlug : server.slug = visible.slug := by
        rw [same]
        exact named.trans otherNamed.symm
      obtain rfl := one.mcpServerSlugs _ _ _ _ found visibleFound sameSlug
      cases found.symm.trans visibleFound
      rw [same] at hidden
      exact Bool.noConfusion (hidden.symm.trans hides)

theorem depends_iff_hidden (alike : Alike one two) {channel : Uuid} (shows : ShowsChannel one channel) :
    (∀ slug, Depends one channel slug ↔ Depends two channel slug) ↔
      ∀ slug, DependsHidden one channel slug ↔ DependsHidden two channel slug := by
  have showsTwo := alike.1.showsChannel shows
  constructor
  · intro same slug
    exact ⟨alike.2.hidden_of_depends fun slug => (same slug).mp, alike.1.hidden_of_depends fun slug => (same slug).mpr⟩
  · intro same slug
    exact ⟨alike.1.depends_of_hidden shows fun slug => (same slug).mp,
      alike.2.depends_of_hidden showsTwo fun slug => (same slug).mpr⟩

def slugsOf (collate : String ↪ κ) (db : Db) (channelIds : List Uuid) (channel : Uuid) : List String :=
  Table.ofKey (mcpDependencyRows collate db channelIds) channel

theorem mem_slugsOf {channelIds : List Uuid} {channel : Uuid} {slug : String} :
    slug ∈ slugsOf collate db channelIds channel ↔ channel ∈ channelIds ∧ Depends db channel slug := by
  unfold slugsOf mcpDependencyRows
  rw [Table.mem_ofKey, mem_orderBy, List.mem_filterMap]
  constructor
  · rintro ⟨dependency, member, kept⟩
    obtain ⟨listed, kept⟩ := Option.ite_none_right_eq_some.mp kept
    obtain ⟨server, found, same⟩ := Option.map_eq_some_iff.mp kept
    cases same
    exact ⟨listed, dependency.2, server, member, found, rfl⟩
  · rintro ⟨listed, id, server, member, found, rfl⟩
    exact ⟨(channel, id), member, Option.ite_none_right_eq_some.mpr ⟨listed, Option.map_eq_some_iff.mpr ⟨server, found, rfl⟩⟩⟩

theorem nodup_mcpDependencyRows (collate : String ↪ κ) (db : Db) (channelIds : List Uuid) :
    (mcpDependencyRows collate db channelIds).Nodup := by
  refine (orderBy_perm _ _).nodup_iff.mpr (db.dependenciesOnce.filterMap ?_)
  intro first second row ofFirst ofSecond
  obtain ⟨-, kept⟩ := Option.ite_none_right_eq_some.mp ofFirst
  obtain ⟨server, found, rfl⟩ := Option.map_eq_some_iff.mp kept
  obtain ⟨-, kept⟩ := Option.ite_none_right_eq_some.mp ofSecond
  obtain ⟨other, otherFound, same⟩ := Option.map_eq_some_iff.mp kept
  obtain ⟨channels, slugs⟩ := Prod.mk.inj same
  exact Prod.ext channels.symm (db.mcpServerSlugs _ _ _ _ found otherFound slugs.symm)

theorem nodup_slugsOf (collate : String ↪ κ) (db : Db) (channelIds : List Uuid) (channel : Uuid) :
    (slugsOf collate db channelIds channel).Nodup := by
  refine (nodup_mcpDependencyRows collate db channelIds).filterMap ?_
  intro first second slug ofFirst ofSecond
  obtain ⟨channels, slugs⟩ := Option.ite_none_right_eq_some.mp ofFirst
  obtain ⟨otherChannels, otherSlugs⟩ := Option.ite_none_right_eq_some.mp ofSecond
  exact Prod.ext (channels.trans otherChannels.symm) (Option.some.inj (slugs.trans otherSlugs.symm))

theorem sorted_slugsOf (collate : String ↪ κ) (db : Db) (channelIds : List Uuid) (channel : Uuid) :
    (slugsOf collate db channelIds channel).Pairwise fun first second => collate first ≤ collate second := by
  refine List.pairwise_filterMap.mpr ((orderBy_pairwise _ _).imp ?_)
  intro first second below slug ofFirst other ofSecond
  obtain ⟨-, same⟩ := Option.ite_none_right_eq_some.mp ofFirst
  cases same
  obtain ⟨-, same⟩ := Option.ite_none_right_eq_some.mp ofSecond
  cases same
  exact below

theorem slugsOf_eq_iff {channelIds : List Uuid} {channel : Uuid} (listed : channel ∈ channelIds) :
    slugsOf collate one channelIds channel = slugsOf collate two channelIds channel ↔
      ∀ slug, Depends one channel slug ↔ Depends two channel slug := by
  have members : (∀ slug, Depends one channel slug ↔ Depends two channel slug) ↔
      ∀ slug, slug ∈ slugsOf collate one channelIds channel ↔ slug ∈ slugsOf collate two channelIds channel := by
    simp only [mem_slugsOf, listed, true_and]
  rw [members]
  constructor
  · intro same slug
    rw [same]
  · intro same
    have perm := (List.perm_ext_iff_of_nodup (nodup_slugsOf collate one channelIds channel)
      (nodup_slugsOf collate two channelIds channel)).mpr same
    refine perm.eq_of_pairwise (fun first second _ _ below above => ?_) (sorted_slugsOf collate one channelIds channel)
      (sorted_slugsOf collate two channelIds channel)
    exact collate.injective (le_antisymm below above)

theorem fetchSkillChannels_eq_iff (alike : Alike one two) :
    fetchSkillChannels collate one false = fetchSkillChannels collate two false ↔
      ∀ channel, ShowsChannel one channel → ∀ slug, DependsHidden one channel slug ↔ DependsHidden two channel slug := by
  unfold fetchSkillChannels
  simp only [Table.getD_lookup_group]
  rw [← skillChannelRows_eq alike, List.map_inj_left]
  constructor
  · intro same channel shows
    have listed : channel ∈ (skillChannelRows collate one false).map FederationSkillChannel.id := mem_channelIds.mpr shows
    obtain ⟨row, member, rfl⟩ := List.mem_map.mp listed
    have slugs := congrArg FederationSkillChannel.mcpServerSlugs (same row member)
    exact (depends_iff_hidden alike shows).mp ((slugsOf_eq_iff listed).mp slugs)
  · intro same row member
    have listed := List.mem_map_of_mem (f := FederationSkillChannel.id) member
    have shows : ShowsChannel one row.id := mem_channelIds.mp listed
    have slugs : slugsOf collate one _ row.id = slugsOf collate two _ row.id :=
      (slugsOf_eq_iff listed).mpr ((depends_iff_hidden alike shows).mpr (same _ shows))
    unfold slugsOf at slugs
    rw [slugs]

/-! ## Bundles -/

theorem bundleRows_eq {first second : Table Uuid Bundle} (slugs : Unique first Bundle.slug)
    (onwards : ∀ id bundle, bundle.hideFromPublicCatalog = false → first.lookup id = some bundle →
      second.lookup id = some bundle)
    (back : ∀ id bundle, bundle.hideFromPublicCatalog = false → second.lookup id = some bundle →
      first.lookup id = some bundle) :
    bundleRows collate false first = bundleRows collate false second := by
  have members (table : Table Uuid Bundle) (entry : Σ _ : Uuid, Bundle) : entry ∈ bundleRows collate false table ↔
      table.lookup entry.1 = some entry.2 ∧ entry.2.hideFromPublicCatalog = false := by
    unfold bundleRows
    rw [mem_orderBy, List.mem_filter, ← AList.mem_lookup_iff]
    simp [visible]
  refine orderBy_eq_of_mem ((nodup_entries first).filter _) ((nodup_entries second).filter _) (fun entry => ?_) ?_
  · refine (members first entry).trans (Iff.trans ?_ (members second entry).symm)
    constructor
    · rintro ⟨found, shown⟩
      exact ⟨onwards _ _ shown found, shown⟩
    · rintro ⟨found, shown⟩
      exact ⟨back _ _ shown found, shown⟩
  · intro entry left other right same
    have found := ((members first entry).mp left).1
    have otherFound := ((members first other).mp right).1
    obtain ⟨id, bundle⟩ := entry
    obtain ⟨otherId, otherBundle⟩ := other
    obtain rfl : id = otherId := slugs _ _ _ _ found otherFound (collate.injective same)
    cases found.symm.trans otherFound
    rfl

theorem mem_bundleRows {table : Table Uuid Bundle} {entry : Σ _ : Uuid, Bundle}
    (member : entry ∈ bundleRows collate false table) : ShowsBundle table entry.1 := by
  obtain ⟨member, shown⟩ := List.mem_filter.mp (mem_orderBy.mp member)
  exact ⟨entry.2, AList.mem_lookup_iff.mpr member, by simpa [visible] using shown⟩

theorem fetchBundlesOf_eq {M : Type} {first second : Table Uuid Bundle} {items others : List (Uuid × M)}
    (rows : bundleRows collate false first = bundleRows collate false second)
    (same : ∀ id, ShowsBundle first id → Table.ofKey items id = Table.ofKey others id) :
    fetchBundlesOf collate false first items = fetchBundlesOf collate false second others := by
  unfold fetchBundlesOf
  simp only [Table.getD_lookup_group]
  rw [← rows]
  refine List.map_congr_left fun entry member => ?_
  rw [same entry.1 (mem_bundleRows member)]

theorem mem_bundleItemRows {row : Uuid × FederationBundleSkill} : row ∈ bundleItemRows db false ↔
    ∃ bundle id channel skill, (bundle, id) ∈ db.bundleItems ∧ db.skillChannels.lookup id = some channel ∧
      db.skills.lookup channel.skillId = some skill ∧ skill.hideFromPublicCatalog = false ∧
      row = (bundle, ⟨id, skill.slug, channel.channel⟩) := by
  unfold bundleItemRows
  rw [List.mem_filterMap]
  constructor
  · rintro ⟨item, member, bound⟩
    obtain ⟨channel, present, bound⟩ := Option.bind_eq_some_iff.mp bound
    obtain ⟨skill, found, shown⟩ := Option.bind_eq_some_iff.mp bound
    obtain ⟨shown, same⟩ := Option.ite_none_right_eq_some.mp shown
    cases same
    exact ⟨item.1, item.2, channel, skill, member, present, found, by simpa [visible] using shown, rfl⟩
  · rintro ⟨bundle, id, channel, skill, member, present, found, shown, rfl⟩
    refine ⟨(bundle, id), member, Option.bind_eq_some_iff.mpr ⟨channel, present, Option.bind_eq_some_iff.mpr
      ⟨skill, found, ?_⟩⟩⟩
    exact Option.ite_none_right_eq_some.mpr ⟨by simp [visible, shown], rfl⟩

theorem Published.mem_bundleItemRows (published : Published one two) {row : Uuid × FederationBundleSkill}
    (shows : ShowsBundle one.bundles row.1) (listed : row ∈ bundleItemRows one false) : row ∈ bundleItemRows two false := by
  obtain ⟨bundle, id, channel, skill, member, present, found, shown, rfl⟩ := PublicCatalog.mem_bundleItemRows.mp listed
  have showsSkill : ShowsSkill one channel.skillId := ⟨skill, found, shown⟩
  refine PublicCatalog.mem_bundleItemRows.mpr ⟨bundle, id, channel, skill, ?_, ?_, ?_, shown, rfl⟩
  · exact published.bundleItems bundle id member shows ⟨channel, present, showsSkill⟩
  · exact published.skillChannels id channel present showsSkill
  · exact published.skills _ skill shown found

theorem nodup_bundleItemRows (db : Db) : (bundleItemRows db false).Nodup := by
  refine db.bundleItemsOnce.filterMap ?_
  intro first second row ofFirst ofSecond
  obtain ⟨_, -, bound⟩ := Option.bind_eq_some_iff.mp ofFirst
  obtain ⟨_, -, shown⟩ := Option.bind_eq_some_iff.mp bound
  obtain ⟨-, same⟩ := Option.ite_none_right_eq_some.mp shown
  cases same
  obtain ⟨_, -, bound⟩ := Option.bind_eq_some_iff.mp ofSecond
  obtain ⟨_, -, shown⟩ := Option.bind_eq_some_iff.mp bound
  obtain ⟨-, same⟩ := Option.ite_none_right_eq_some.mp shown
  obtain ⟨bundles, skills⟩ := Prod.mk.inj (Option.some.inj same)
  exact Prod.ext bundles.symm (FederationBundleSkill.mk.inj skills).1.symm

theorem ShowsBundle.published (published : Published one two) {id : Uuid} (shows : ShowsBundle one.bundles id) :
    ShowsBundle two.bundles id := by
  obtain ⟨bundle, found, shown⟩ := shows
  exact ⟨bundle, published.bundles id bundle shown found, shown⟩

theorem exists_bundles (alike : Alike one two) {items : List (Uuid × FederationBundleSkill)}
    (perm : items.Perm (bundleItemRows one false)) : ∃ others, others.Perm (bundleItemRows two false) ∧
      fetchBundles collate one false items = fetchBundles collate two false others := by
  obtain ⟨others, read, same⟩ := Table.exists_perm_ofKey perm (nodup_bundleItemRows one) (nodup_bundleItemRows two)
    fun item shows => ⟨alike.1.mem_bundleItemRows shows, alike.2.mem_bundleItemRows (shows.published alike.1)⟩
  refine ⟨others, read, fetchBundlesOf_eq ?_ fun id shows => (same id shows).symm⟩
  exact bundleRows_eq one.bundleSlugs alike.1.bundles alike.2.bundles

/-! ## MCP servers and their bundles -/

def publicServer (id : Uuid) (server : McpServer) : FederationMcpServer :=
  { id, slug := server.slug, name := server.name, description := server.description
    hidden := server.hideFromPublicCatalog, config := redactMcpConfig server.configJson, nixPackages := server.nixPackages }

theorem redactMcpConfig_eq {first second : Json} (same : SameBesidesCredentials first second) :
    redactMcpConfig first = redactMcpConfig second := by
  cases same with
  | same => rfl
  | @members left right equal =>
      have kept (field : String × Json) : (decide (field.1 ≠ "env") && decide (field.1 ≠ "headers")) = !isCredential field.1 := by
        simp [isCredential]
      simp only [redactMcpConfig, kept]
      rw [equal]

theorem fetchMcpServers_eq_orderBy (collate : String ↪ κ) (db : Db) : fetchMcpServers collate db false =
    orderBy (fun server => collate server.slug) ((db.mcpServers.entries.filter fun entry =>
      visible false entry.2.hideFromPublicCatalog).map fun entry => publicServer entry.1 entry.2) :=
  map_orderBy (fun entry : Σ _ : Uuid, McpServer => publicServer entry.1 entry.2) (fun server => collate server.slug) _

theorem mem_fetchMcpServers {listed : FederationMcpServer} : listed ∈ fetchMcpServers collate db false ↔
    ∃ id server, db.mcpServers.lookup id = some server ∧ server.hideFromPublicCatalog = false ∧
      listed = publicServer id server := by
  rw [fetchMcpServers_eq_orderBy, mem_orderBy, List.mem_map]
  constructor
  · rintro ⟨entry, member, rfl⟩
    obtain ⟨member, shown⟩ := List.mem_filter.mp member
    exact ⟨entry.1, entry.2, AList.mem_lookup_iff.mpr member, by simpa [visible] using shown, rfl⟩
  · rintro ⟨id, server, found, shown, rfl⟩
    exact ⟨⟨id, server⟩, List.mem_filter.mpr ⟨AList.mem_lookup_iff.mp found, by simp [visible, shown]⟩, rfl⟩

theorem Published.mem_fetchMcpServers (published : Published one two) {listed : FederationMcpServer}
    (member : listed ∈ fetchMcpServers collate one false) : listed ∈ fetchMcpServers collate two false := by
  obtain ⟨id, server, found, shown, rfl⟩ := PublicCatalog.mem_fetchMcpServers.mp member
  obtain ⟨other, otherFound, same, credentials⟩ := published.mcpServers id server shown found
  refine PublicCatalog.mem_fetchMcpServers.mpr ⟨id, other, otherFound, ?_, ?_⟩
  · rw [same]
    exact shown
  · rw [same]
    simp only [publicServer, redactMcpConfig_eq credentials]

theorem fetchMcpServers_eq (alike : Alike one two) : fetchMcpServers collate one false = fetchMcpServers collate two false := by
  have nodup (db : Db) : ((db.mcpServers.entries.filter fun entry => visible false entry.2.hideFromPublicCatalog).map
      fun entry => publicServer entry.1 entry.2).Nodup := by
    apply List.Nodup.of_map FederationMcpServer.id
    rw [List.map_map]
    exact (List.filter_sublist.map Sigma.fst).nodup db.mcpServers.nodupKeys
  rw [fetchMcpServers_eq_orderBy, fetchMcpServers_eq_orderBy]
  refine orderBy_eq_of_mem (nodup one) (nodup two) (fun listed => ?_) ?_
  · rw [← fetchMcpServers_eq_orderBy, ← fetchMcpServers_eq_orderBy]
    exact ⟨alike.1.mem_fetchMcpServers, alike.2.mem_fetchMcpServers⟩
  · intro first left second right same
    rw [← fetchMcpServers_eq_orderBy] at left right
    obtain ⟨id, server, found, -, rfl⟩ := mem_fetchMcpServers.mp left
    obtain ⟨other, otherServer, otherFound, -, rfl⟩ := mem_fetchMcpServers.mp right
    obtain rfl : id = other := one.mcpServerSlugs _ _ _ _ found otherFound (collate.injective same)
    cases found.symm.trans otherFound
    rfl

theorem mem_mcpBundleItemRows {row : Uuid × FederationMcpBundleServer} : row ∈ mcpBundleItemRows db false ↔
    ∃ bundle id server, (bundle, id) ∈ db.mcpServerBundleItems ∧ db.mcpServers.lookup id = some server ∧
      server.hideFromPublicCatalog = false ∧ row = (bundle, ⟨id, server.slug⟩) := by
  unfold mcpBundleItemRows
  rw [List.mem_filterMap]
  constructor
  · rintro ⟨item, member, bound⟩
    obtain ⟨server, found, shown⟩ := Option.bind_eq_some_iff.mp bound
    obtain ⟨shown, same⟩ := Option.ite_none_right_eq_some.mp shown
    cases same
    exact ⟨item.1, item.2, server, member, found, by simpa [visible] using shown, rfl⟩
  · rintro ⟨bundle, id, server, member, found, shown, rfl⟩
    refine ⟨(bundle, id), member, Option.bind_eq_some_iff.mpr ⟨server, found, ?_⟩⟩
    exact Option.ite_none_right_eq_some.mpr ⟨by simp [visible, shown], rfl⟩

theorem Published.mem_mcpBundleItemRows (published : Published one two) {row : Uuid × FederationMcpBundleServer}
    (shows : ShowsBundle one.mcpServerBundles row.1) (listed : row ∈ mcpBundleItemRows one false) :
    row ∈ mcpBundleItemRows two false := by
  obtain ⟨bundle, id, server, member, found, shown, rfl⟩ := PublicCatalog.mem_mcpBundleItemRows.mp listed
  obtain ⟨other, otherFound, same, -⟩ := published.mcpServers id server shown found
  refine PublicCatalog.mem_mcpBundleItemRows.mpr ⟨bundle, id, other, ?_, otherFound, ?_, ?_⟩
  · exact published.mcpServerBundleItems bundle id member shows ⟨server, found, shown⟩
  · rw [same]
    exact shown
  · rw [same]

theorem nodup_mcpBundleItemRows (db : Db) : (mcpBundleItemRows db false).Nodup := by
  refine db.mcpBundleItemsOnce.filterMap ?_
  intro first second row ofFirst ofSecond
  obtain ⟨_, -, shown⟩ := Option.bind_eq_some_iff.mp ofFirst
  obtain ⟨-, same⟩ := Option.ite_none_right_eq_some.mp shown
  cases same
  obtain ⟨_, -, shown⟩ := Option.bind_eq_some_iff.mp ofSecond
  obtain ⟨-, same⟩ := Option.ite_none_right_eq_some.mp shown
  obtain ⟨bundles, servers⟩ := Prod.mk.inj (Option.some.inj same)
  exact Prod.ext bundles.symm (FederationMcpBundleServer.mk.inj servers).1.symm

theorem ShowsBundle.publishedMcp (published : Published one two) {id : Uuid} (shows : ShowsBundle one.mcpServerBundles id) :
    ShowsBundle two.mcpServerBundles id := by
  obtain ⟨bundle, found, shown⟩ := shows
  exact ⟨bundle, published.mcpServerBundles id bundle shown found, shown⟩

theorem exists_mcpBundles (alike : Alike one two) {servers : List (Uuid × FederationMcpBundleServer)}
    (perm : servers.Perm (mcpBundleItemRows one false)) : ∃ others, others.Perm (mcpBundleItemRows two false) ∧
      fetchMcpBundles collate one false servers = fetchMcpBundles collate two false others := by
  obtain ⟨others, read, same⟩ := Table.exists_perm_ofKey perm (nodup_mcpBundleItemRows one) (nodup_mcpBundleItemRows two)
    fun item shows => ⟨alike.1.mem_mcpBundleItemRows shows, alike.2.mem_mcpBundleItemRows (shows.publishedMcp alike.1)⟩
  refine ⟨others, read, fetchBundlesOf_eq ?_ fun id shows => (same id shows).symm⟩
  exact bundleRows_eq one.mcpBundleSlugs alike.1.mcpServerBundles alike.2.mcpServerBundles

/-! ## The response -/

theorem responds_of_channels (alike : Alike one two) (channels : fetchSkillChannels collate one false =
    fetchSkillChannels collate two false) {response : FederationCatalog} (responds : Responds collate one false response) :
    Responds collate two false response := by
  obtain ⟨items, servers, readItems, readServers, rfl⟩ := responds
  obtain ⟨otherItems, readItems, bundles⟩ := exists_bundles (κ := κ) alike readItems
  obtain ⟨otherServers, readServers, mcpBundles⟩ := exists_mcpBundles (κ := κ) alike readServers
  refine ⟨otherItems, otherServers, readItems, readServers, ?_⟩
  unfold federationCatalog
  rw [FederationCatalog.mk.injEq]
  exact ⟨channels, bundles, fetchMcpServers_eq alike, mcpBundles⟩

theorem public_responses_same_iff (collate : String ↪ κ) (one two : Db) (alike : Alike one two) :
    (∀ response, Responds collate one false response ↔ Responds collate two false response) ↔
      ∀ channel, ShowsChannel one channel → ∀ slug, DependsHidden one channel slug ↔ DependsHidden two channel slug := by
  rw [← fetchSkillChannels_eq_iff (κ := κ) alike]
  constructor
  · intro same
    obtain ⟨items, servers, -, -, response⟩ := (same _).mp ⟨_, _, .refl _, .refl _, rfl⟩
    exact congrArg FederationCatalog.skillChannels response
  · intro channels response
    exact ⟨responds_of_channels alike channels, responds_of_channels ⟨alike.2, alike.1⟩ channels.symm⟩

def github (config : Json) : McpServer := ⟨"github", "GitHub", "", false, config, []⟩

def internal : McpServer := ⟨"internal", "Internal", "", true, .null, []⟩

theorem unique_singleton {C V : Type} (id : Uuid) (row : V) (column : V → C) :
    Unique (AList.singleton id row : Table Uuid V) column := by
  intro one other _ _ first second _
  rw [(Table.lookup_singleton_some first).1, (Table.lookup_singleton_some second).1]

theorem lookup_servers {config : Json} {id : Uuid} {server : McpServer}
    (found : ((AList.singleton 3 internal).insert 4 (github config) : Table Uuid McpServer).lookup id = some server) :
    id = 4 ∧ server = github config ∨ id = 3 ∧ server = internal := by
  rw [Table.lookup_insert_ite] at found
  split at found
  · rename_i same
    exact .inl ⟨same, (Option.some.inj found).symm⟩
  · exact .inr (Table.lookup_singleton_some found)

/-- Skill channel 2 of the visible skill 1, the visible MCP server 4 and the hidden one 3. -/
def catalogDb (config : Json) (dependencies : List (Uuid × Uuid)) (once : dependencies.Nodup) : Db where
  skills := AList.singleton 1 ⟨"pdf", "PDF", "", false⟩
  skillChannels := AList.singleton 2 ⟨1, "stable", []⟩
  bundles := ∅
  bundleItems := []
  mcpServers := (AList.singleton 3 internal).insert 4 (github config)
  mcpServerBundles := ∅
  mcpServerBundleItems := []
  skillMcpDependencies := dependencies
  skillSlugs := unique_singleton _ _ _
  skillChannelNames := unique_singleton _ _ _
  bundleSlugs _ _ _ _ found := by cases found
  bundleItemsOnce := List.nodup_nil
  mcpServerSlugs := by
    intro one other first second found otherFound same
    rcases lookup_servers found with ⟨rfl, rfl⟩ | ⟨rfl, rfl⟩ <;>
      rcases lookup_servers otherFound with ⟨rfl, rfl⟩ | ⟨rfl, rfl⟩
    · rfl
    · exact absurd same (by decide +kernel : "github" ≠ "internal")
    · exact absurd same (by decide +kernel : "internal" ≠ "github")
    · rfl
  mcpBundleSlugs _ _ _ _ found := by cases found
  mcpBundleItemsOnce := List.nodup_nil
  dependenciesOnce := once

theorem catalogDb_published {one two : Json} {dependencies others : List (Uuid × Uuid)} (once : dependencies.Nodup)
    (othersOnce : others.Nodup) (same : SameBesidesCredentials one two) (hidden : ∀ dependency ∈ dependencies, dependency.2 = 3) :
    Published (catalogDb one dependencies once) (catalogDb two others othersOnce) where
  skills _ _ _ found := found
  skillChannels _ _ found _ := found
  bundles _ _ _ found := found
  bundleItems _ _ member := by cases member
  mcpServers id server shown found := by
    rcases lookup_servers found with ⟨rfl, rfl⟩ | ⟨rfl, rfl⟩
    · exact ⟨github two, rfl, rfl, same⟩
    · cases shown
  mcpServerBundles _ _ _ found := found
  mcpServerBundleItems _ _ member := by cases member
  skillMcpDependencies channel server member _ shows := by
    obtain ⟨row, found, shown⟩ := shows
    obtain rfl : server = 3 := hidden _ member
    cases found
    cases shown

def withToken : Json := .object [("command", .string "mcp-server-github"), ("env", .string "ghp_secret")]

def withoutToken : Json := .object [("command", .string "mcp-server-github")]

theorem public_responses_same_credentials :
    Responds (Function.Embedding.refl String) (catalogDb withToken [] .nil) false =
      Responds (Function.Embedding.refl String) (catalogDb withoutToken [] .nil) false := by
  have same : SameBesidesCredentials withToken withoutToken := .members (by simp [isCredential])
  have back : SameBesidesCredentials withoutToken withToken := .members (by simp [isCredential])
  have alike : Alike (catalogDb withToken [] .nil) (catalogDb withoutToken [] .nil) :=
    ⟨catalogDb_published _ _ same fun _ => nofun, catalogDb_published _ _ back fun _ => nofun⟩
  funext response
  apply propext
  revert response
  refine (public_responses_same_iff _ _ _ alike).mpr ?_
  intro channel _ slug
  exact iff_of_false (fun ⟨_, _, member, _⟩ => by cases member) fun ⟨_, _, member, _⟩ => by cases member

/-- Only one database has the visible channel depend on the hidden server, whose slug is answered. -/
theorem hidden_dependency_listed : ∃ one two, Alike one two ∧
    ¬ ∀ response, Responds (Function.Embedding.refl String) one false response ↔ Responds (Function.Embedding.refl String) two false response := by
  have once : [((2 : Uuid), (3 : Uuid))].Nodup := List.nodup_singleton _
  have one := catalogDb_published once .nil (.same withToken) (by simp)
  have two := catalogDb_published .nil once (.same withToken) fun _ => nofun
  refine ⟨_, _, ⟨one, two⟩, fun same => ?_⟩
  obtain ⟨items, servers, -, -, response⟩ := (same _).mp ⟨_, _, .refl _, .refl _, rfl⟩
  have slugs := congrArg (fun catalog => catalog.skillChannels.map FederationSkillChannel.mcpServerSlugs) response
  exact absurd slugs (by decide +kernel : ([["internal"]] : List (List String)) ≠ [[]])

end MacMgmt.Proof.Server.PublicCatalog
