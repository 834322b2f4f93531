import MacMgmt.Server.Catalog

/-!
# The packages of the MCP servers

`get_mcp_servers` lets a daemon run a server, `get_packages` lets it install what the server needs, and each resolves the
assignments of the cluster by itself. `get_packages` reads every local row that `get_mcp_servers` reads, so only entries
of skill centers can need a package that it leaves out: those that come from the dependencies of a remote skill, which
it never resolves, and those of a tie between skill centers, which the two requests may break differently. On the
other side it takes every channel of a remote skill that is assigned directly.
-/

namespace MacMgmt.Server.CatalogDb
open Lib

variable (db : CatalogDb) (cluster : Uuid) (cache : SkillCenterCache) (client : SkillCenterClient)

/-! ## Where an entry comes from -/

def localServers : List McpServer :=
  db.joinMcpServers (db.directMcpServers cluster ++ db.bundleMcpServers cluster ++ db.transitiveMcpServers cluster)

def LocalSlug (slug : String) : Prop := ∃ server ∈ db.localServers cluster, server.slug = slug

/-- A skill center answers the request for the servers that an assigned remote skill depends on with this entry. -/
def SkillOffers (scId : Uuid) (slug : String) (entry : McpServerEntry) : Prop :=
  ∃ slugs, (db.mcpSlugsBySc cluster cache).lookup scId = some slugs ∧
    (db.resolveMcpServersAt client scId slugs).lookup slug = some entry

def Offers (scId : Uuid) (slug : String) (entry : McpServerEntry) : Prop :=
  ∃ slugs, (Table.group (db.remoteMcpServers cluster cache)).lookup scId = some slugs ∧
    (db.resolveMcpServersAt client scId slugs).lookup slug = some entry

variable {db cluster cache client}

theorem mem_localServers {server : McpServer} :
    server ∈ db.localServers cluster ↔
      server ∈ db.joinMcpServers (db.directMcpServers cluster) ∨ server ∈ db.joinMcpServers (db.bundleMcpServers cluster) ∨
        server ∈ db.joinMcpServers (db.transitiveMcpServers cluster) := by
  simp [localServers, joinMcpServers, List.filterMap_append]

theorem lookup_localMcpServers {slug : String} {entry : McpServerEntry} {precedence : Nat}
    (found : (db.localMcpServers cluster).lookup slug = some (entry, precedence)) :
    ∃ server ∈ db.localServers cluster, server.slug = slug ∧ server.entry = entry := by
  obtain assigned | transitive := Table.lookup_fill found
  · obtain none | row := Table.lookup_fill assigned
    · simp at none
    · simp only [List.mem_append, List.mem_map, Prod.mk.injEq] at row
      obtain ⟨server, member, rfl, rfl, -⟩ | ⟨server, member, rfl, rfl, -⟩ := row
      · exact ⟨server, mem_localServers.mpr (.inl member), rfl, rfl⟩
      · exact ⟨server, mem_localServers.mpr (.inr (.inl member)), rfl, rfl⟩
  · simp only [List.mem_map, Prod.mk.injEq] at transitive
    obtain ⟨server, member, rfl, rfl, -⟩ := transitive
    exact ⟨server, mem_localServers.mpr (.inr (.inr member)), rfl, rfl⟩

theorem mem_localMcpServers {slug : String} : slug ∈ db.localMcpServers cluster ↔ db.LocalSlug cluster slug := by
  simp only [localMcpServers, Table.mem_fill, AList.notMem_empty, false_or, List.mem_append, List.mem_map, LocalSlug,
    mem_localServers]
  constructor
  · rintro (⟨_, ⟨server, member, rfl⟩ | ⟨server, member, rfl⟩, rfl⟩ | ⟨_, ⟨server, member, rfl⟩, rfl⟩)
    · exact ⟨server, .inl member, rfl⟩
    · exact ⟨server, .inr (.inl member), rfl⟩
    · exact ⟨server, .inr (.inr member), rfl⟩
  · rintro ⟨server, member | member | member, rfl⟩
    · exact .inl ⟨_, .inl ⟨server, member, rfl⟩, rfl⟩
    · exact .inl ⟨_, .inr ⟨server, member, rfl⟩, rfl⟩
    · exact .inr ⟨_, ⟨server, member, rfl⟩, rfl⟩

theorem lookup_getMcpServers (dependencyOrder order : Traversal Uuid) (slug : String) :
    (db.getMcpServers cluster cache client dependencyOrder order).lookup slug =
      (((db.localMcpServers cluster).lookup slug).map Prod.fst).or
        (((db.resolveRemoteSkillMcpDeps cluster cache client dependencyOrder).lookup slug).or
          ((db.aggregateRemoteMcpServers cluster cache client order).lookup slug)) := by
  rw [getMcpServers, Table.lookup_union_or, Table.lookup_mapValues, Table.lookup_union_or, Table.lookup_mapValues,
    Option.map_or, Option.or_assoc, Option.map_map]
  congr 2
  simp [Function.comp_def]

theorem skillOffers_of_lookup {order : Traversal Uuid} {slug : String} {entry : McpServerEntry}
    (found : (db.resolveRemoteSkillMcpDeps cluster cache client order).lookup slug = some entry) :
    ∃ scId, db.SkillOffers cluster cache client scId slug entry := by
  obtain ⟨before, ⟨scId, slugs⟩, after, split, offered, -⟩ := Table.lookup_layers_map_iff.mp found
  exact ⟨scId, slugs, order.mem_entries.mp (split ▸ by simp), offered⟩

theorem lookup_of_skillOffers {scId : Uuid} {slug : String} {entry : McpServerEntry}
    (offers : db.SkillOffers cluster cache client scId slug entry) :
    (db.resolveRemoteSkillMcpDeps cluster cache client (.lastly scId)).lookup slug = some entry := by
  obtain ⟨slugs, asked, offered⟩ := offers
  obtain ⟨before, split⟩ := Traversal.entries_lastly asked
  exact Table.lookup_layers_map_iff.mpr ⟨before, ⟨scId, slugs⟩, [], split, offered, by simp⟩

/-- No skill center with a higher priority offers an entry for the slug. -/
def Foremost (db : CatalogDb) (cluster : Uuid) (cache : SkillCenterCache) (client : SkillCenterClient) (scId : Uuid)
    (slug : String) : Prop :=
  ∀ other entry, db.Offers cluster cache client other slug entry → db.priority other ≤ db.priority scId

theorem mem_ordered {V : Type} {order : Traversal Uuid} {bySc : Table Uuid (List V)} {entry : Σ _ : Uuid, List V} :
    entry ∈ db.ordered order bySc ↔ bySc.lookup entry.1 = some entry.2 := by
  rw [ordered, List.mem_insertionSort, order.mem_entries]

theorem offers_of_lookup {order : Traversal Uuid} {slug : String} {entry : McpServerEntry}
    (found : (db.aggregateRemoteMcpServers cluster cache client order).lookup slug = some entry) :
    ∃ scId, db.Offers cluster cache client scId slug entry ∧ db.Foremost cluster cache client scId slug := by
  obtain ⟨before, ⟨scId, slugs⟩, after, split, offered, later⟩ := Table.lookup_layers_map_iff.mp found
  have members (other : Σ _ : Uuid, List String) : other ∈ before ++ ⟨scId, slugs⟩ :: after ↔
      (Table.group (db.remoteMcpServers cluster cache)).lookup other.1 = some other.2 := by
    rw [← split, mem_ordered]
  have sorted : (before ++ ⟨scId, slugs⟩ :: after).Pairwise fun first second => db.priority first.1 ≤ db.priority second.1 := by
    rw [← split]
    exact List.pairwise_insertionSort _ _
  refine ⟨scId, ⟨slugs, (members ⟨scId, slugs⟩).mp (by simp), offered⟩, ?_⟩
  rintro other otherEntry ⟨otherSlugs, asked, otherOffered⟩
  obtain earlier | same | afterwards : _ ∨ _ ∨ _ := by simpa using (members ⟨other, otherSlugs⟩).mpr asked
  · exact (List.pairwise_append.mp sorted).2.2 _ earlier _ List.mem_cons_self
  · rw [same.1]
  · rw [later _ afterwards] at otherOffered
    cases otherOffered

theorem lookup_of_offers {scId : Uuid} {slug : String} {entry : McpServerEntry}
    (offers : db.Offers cluster cache client scId slug entry) (foremost : db.Foremost cluster cache client scId slug) :
    (db.aggregateRemoteMcpServers cluster cache client (.lastly scId)).lookup slug = some entry := by
  obtain ⟨slugs, asked, offered⟩ := offers
  have member : ⟨scId, slugs⟩ ∈ db.ordered (.lastly scId) (Table.group (db.remoteMcpServers cluster cache)) :=
    mem_ordered.mpr asked
  obtain ⟨before, after, split⟩ := List.append_of_mem member
  refine Table.lookup_layers_map_iff.mpr ⟨before, ⟨scId, slugs⟩, after, split, offered, fun other later => ?_⟩
  have higher := Traversal.rank_lt_of_lastly db.priority split later
  cases found : (db.resolveMcpServersAt client other.1 other.2).lookup slug with
  | none => rfl
  | some otherEntry =>
      have asked : (Table.group (db.remoteMcpServers cluster cache)).lookup other.1 = some other.2 := by
        apply mem_ordered.mp
        rw [split]
        simp [later]
      exact absurd (foremost other.1 otherEntry ⟨other.2, asked, found⟩) (not_le.mpr higher)

/-! ## Where a package comes from -/

variable (db cluster cache client)

def WinningPackage (slug package : String) : Prop :=
  ∃ id ∈ db.winningChannels cluster, ∃ channel, db.skillChannels.lookup id = some channel ∧
    db.skills.lookup channel.skillId = some slug ∧ package ∈ channel.nixPackages

def ChannelPackage (cache : SkillCenterCache) (scId : Uuid) (slug channel package : String) : Prop :=
  ∃ catalog, cache.lookup scId = some catalog ∧
    ∃ entry ∈ catalog.skillChannels, entry.skillSlug = slug ∧ entry.channel = channel ∧ package ∈ entry.nixPackages

/-- The package belongs to a channel of a remote skill that is assigned directly or through a bundle. -/
def AssignedPackage (slug package : String) : Prop :=
  ∃ scId channel, (scId, slug, channel) ∈ db.remoteSkills cluster cache ∧ ChannelPackage cache scId slug channel package

/-- The package belongs to some channel of a remote skill that is assigned directly. -/
def DirectSlugPackage (slug package : String) : Prop :=
  ∃ scId channel, (scId, slug) ∈ db.directRemoteSlugs cluster ∧ ChannelPackage cache scId slug channel package

def BundlePackage (slug package : String) : Prop :=
  ∃ scId channel, (scId, slug, channel) ∈ db.bundleRemoteSkills cluster cache ∧
    ChannelPackage cache scId slug channel package

def AggregatePackage (order : Traversal Uuid) (package : String) : Prop :=
  ∃ slug entry, (db.aggregateRemoteMcpServers cluster cache client order).lookup slug = some entry ∧
    package ∈ entry.nixPackages

variable {db cluster cache client}

theorem mem_packagesOf {source other : PackageSource} {nixPackages : List String} {package : String} :
    (package, other) ∈ packagesOf source nixPackages ↔ other = source ∧ package ∈ nixPackages := by
  simp [packagesOf, and_comm, eq_comm]

theorem mem_mcpServerPackages {ids : List Uuid} {package : String} {source : PackageSource} :
    (package, source) ∈ db.mcpServerPackages ids ↔
      ∃ server ∈ db.joinMcpServers ids, source = .mcpServer server.slug ∧ package ∈ server.nixPackages := by
  simp only [mcpServerPackages, List.mem_flatMap, List.mem_filter, mem_packagesOf]
  constructor
  · rintro ⟨server, ⟨member, -⟩, same, listed⟩
    exact ⟨server, member, same, listed⟩
  · rintro ⟨server, member, same, listed⟩
    exact ⟨server, ⟨member, by simpa using List.ne_nil_of_mem listed⟩, same, listed⟩

theorem mem_remoteMcpPackages {order : Traversal Uuid} {package : String} {source : PackageSource} :
    (package, source) ∈ db.remoteMcpPackages cluster cache client order ↔
      ∃ slug entry, (db.aggregateRemoteMcpServers cluster cache client order).lookup slug = some entry ∧
        source = .mcpServer slug ∧ package ∈ entry.nixPackages := by
  simp only [remoteMcpPackages, List.mem_flatMap, mem_packagesOf, Sigma.exists, ← AList.mem_lookup_iff, Option.mem_def]

theorem mem_skillPackages {package : String} {source : PackageSource} :
    (package, source) ∈ db.skillPackages cluster ↔
      ∃ slug, source = .skill slug ∧ db.WinningPackage cluster slug package := by
  simp only [skillPackages, List.mem_flatMap]
  constructor
  · rintro ⟨⟨id, channel⟩, stored, listed⟩
    split at listed
    · rename_i winning
      split at listed
      · rename_i slug named
        obtain ⟨same, listed⟩ := mem_packagesOf.mp listed
        exact ⟨slug, same, id, winning.1, channel, AList.mem_lookup_iff.mpr stored, named, listed⟩
      · cases listed
    · cases listed
  · rintro ⟨slug, same, id, winning, channel, stored, named, listed⟩
    refine ⟨⟨id, channel⟩, AList.mem_lookup_iff.mp stored, ?_⟩
    simp only [winning, List.ne_nil_of_mem listed, ne_eq, not_false_eq_true, and_self, if_true, named]
    exact mem_packagesOf.mpr ⟨same, listed⟩

theorem mem_directRemoteSkillPackages {package : String} {source : PackageSource} :
    (package, source) ∈ db.directRemoteSkillPackages cluster cache ↔
      ∃ slug, source = .skill slug ∧ db.DirectSlugPackage cluster cache slug package := by
  simp only [directRemoteSkillPackages, List.mem_flatMap]
  constructor
  · rintro ⟨⟨scId, slug⟩, assigned, listed⟩
    cases cached : cache.lookup scId with
    | none => simp [cached] at listed
    | some catalog =>
        simp only [cached, List.mem_flatMap, List.mem_filter, decide_eq_true_eq, mem_packagesOf] at listed
        obtain ⟨entry, ⟨member, named⟩, same, listed⟩ := listed
        exact ⟨slug, same, scId, entry.channel, assigned, catalog, cached, entry, member, named, rfl, listed⟩
  · rintro ⟨slug, same, scId, channel, assigned, catalog, cached, entry, member, named, -, listed⟩
    refine ⟨(scId, slug), assigned, ?_⟩
    simp only [cached, List.mem_flatMap, List.mem_filter, decide_eq_true_eq, mem_packagesOf]
    exact ⟨entry, ⟨member, named⟩, same, listed⟩

theorem lookup_of_mem_remoteBundles {bundles : List ClusterBundle} {scId remoteId : Uuid} {catalog : FederationCatalog}
    (member : (scId, remoteId, catalog) ∈ remoteBundles cluster cache bundles) : cache.lookup scId = some catalog := by
  simp only [remoteBundles, List.mem_filterMap, Option.bind_eq_bind, Option.bind_eq_some_iff, Option.pure_def,
    Option.some.injEq, Prod.mk.injEq] at member
  obtain ⟨row, -, -, -, _, -, _, -, _, cached, rfl, rfl, rfl⟩ := member
  exact cached

theorem mem_bundleRemoteSkillPackages {package : String} {source : PackageSource} :
    (package, source) ∈ db.bundleRemoteSkillPackages cluster cache ↔
      ∃ slug, source = .skill slug ∧ db.BundlePackage cluster cache slug package := by
  simp only [bundleRemoteSkillPackages, BundlePackage, bundleRemoteSkills, List.mem_flatMap]
  constructor
  · rintro ⟨⟨scId, remoteId, catalog⟩, assigned, listed⟩
    split at listed
    · rename_i bundle found
      simp only [List.mem_flatMap, List.mem_filter, Bool.and_eq_true, decide_eq_true_eq, mem_packagesOf] at listed
      obtain ⟨skill, inside, entry, ⟨member, named, onChannel⟩, same, listed⟩ := listed
      refine ⟨skill.skillSlug, same, scId, skill.channel, ⟨_, assigned, ?_⟩, catalog, lookup_of_mem_remoteBundles assigned,
        entry, member, named, onChannel, listed⟩
      simp only [found, List.mem_map]
      exact ⟨skill, inside, rfl⟩
    · cases listed
  · rintro ⟨slug, same, scId, channel, ⟨⟨bundleSc, remoteId, catalog⟩, assigned, inside⟩, other, cached, entry, member,
      named, onChannel, listed⟩
    refine ⟨_, assigned, ?_⟩
    split at inside
    · rename_i bundle found
      simp only [List.mem_map, Prod.mk.injEq] at inside
      obtain ⟨skill, inside, rfl, rfl, rfl⟩ := inside
      obtain rfl : catalog = other := by
        rw [lookup_of_mem_remoteBundles assigned] at cached
        exact Option.some.inj cached
      simp only [List.mem_flatMap, List.mem_filter, Bool.and_eq_true, decide_eq_true_eq, mem_packagesOf]
      exact ⟨skill, inside, entry, ⟨member, named, onChannel⟩, same, listed⟩
    · cases inside

theorem mem_manualPackages {package : String} {source : PackageSource} :
    (package, source) ∈ db.manualPackages cluster ↔ source = .manual ∧ (cluster, package) ∈ db.clusterPackages := by
  simp only [manualPackages, List.mem_map, List.mem_filter, decide_eq_true_eq, Prod.mk.injEq]
  constructor
  · rintro ⟨⟨_, _⟩, ⟨member, rfl⟩, rfl, rfl⟩
    exact ⟨rfl, member⟩
  · rintro ⟨rfl, member⟩
    exact ⟨_, ⟨member, rfl⟩, rfl, rfl⟩

variable (db cluster cache) in
/-- The packages of the sources that do not depend on the order in which skill centers are asked. -/
def FixedPackage (package : String) : Prop :=
  (∃ server ∈ db.localServers cluster, package ∈ server.nixPackages) ∨
    (∃ slug, db.WinningPackage cluster slug package) ∨ (∃ slug, db.DirectSlugPackage cluster cache slug package) ∨
    (∃ slug, db.BundlePackage cluster cache slug package) ∨ (cluster, package) ∈ db.clusterPackages

theorem skill_mem_packageSources {order : Traversal Uuid} {package slug : String} :
    (package, .skill slug) ∈ db.packageSources cluster cache client order ↔
      db.WinningPackage cluster slug package ∨ db.DirectSlugPackage cluster cache slug package ∨
        db.BundlePackage cluster cache slug package := by
  simp only [packageSources, List.mem_append, mem_mcpServerPackages, mem_remoteMcpPackages, mem_skillPackages,
    mem_directRemoteSkillPackages, mem_bundleRemoteSkillPackages, mem_manualPackages]
  simp [or_assoc]

theorem exists_source_of_localServers {package : String} :
    (∃ source, (package, source) ∈ db.mcpServerPackages (db.directMcpServers cluster ++ db.bundleMcpServers cluster)) ∨
      (∃ source, (package, source) ∈ db.mcpServerPackages (db.transitiveMcpServers cluster)) ↔
        ∃ server ∈ db.localServers cluster, package ∈ server.nixPackages := by
  simp [mem_mcpServerPackages, localServers, joinMcpServers, or_and_right, exists_or, or_assoc]

theorem exists_mem_packageSources {order : Traversal Uuid} {package : String} :
    (∃ source, (package, source) ∈ db.packageSources cluster cache client order) ↔
      db.FixedPackage cluster cache package ∨ db.AggregatePackage cluster cache client order package := by
  have skills (found : String → Prop) : (∃ source slug, source = PackageSource.skill slug ∧ found slug) ↔ ∃ slug, found slug := by
    simp
  have servers : (∃ source, (package, source) ∈ db.remoteMcpPackages cluster cache client order) ↔
      db.AggregatePackage cluster cache client order package := by
    simp [mem_remoteMcpPackages, AggregatePackage]
  simp only [packageSources, List.mem_append, exists_or, servers, mem_skillPackages, mem_directRemoteSkillPackages,
    mem_bundleRemoteSkillPackages, mem_manualPackages, exists_eq_left, skills, exists_source_of_localServers, FixedPackage]
  simp only [or_assoc, or_left_comm, or_comm]

theorem mem_dedup_iff {α : Type} [DecidableEq α] {list : List α} {item : α} :
    item ∈ list.destutter (· ≠ ·) ↔ item ∈ list := by
  refine ⟨fun member => (List.destutter_sublist _ _).subset member, fun member => ?_⟩
  cases list with
  | nil => cases member
  | cons first rest =>
      rw [List.destutter_cons']
      induction rest generalizing first with
      | nil => exact member
      | cons second rest ih =>
          by_cases same : first = second
          · subst same
            rw [List.destutter'_cons_neg _ (by simp)]
            exact ih first (by simpa using member)
          · rw [List.destutter'_cons_pos _ same]
            obtain rfl | later := List.mem_cons.mp member
            · exact List.mem_cons_self
            · exact List.mem_cons_of_mem _ (ih second later)

theorem lookup_getPackages (debug : PackageSource → String) (order : Traversal Uuid) (package : String) :
    (∀ source, (∃ sources, (db.getPackages cluster cache client debug order).lookup package = some sources ∧
      source ∈ sources) ↔ (package, source) ∈ db.packageSources cluster cache client order) := by
  intro source
  rw [getPackages, Table.lookup_mapValues, Table.lookup_group, ← Table.mem_ofKey]
  split
  · rename_i none
    simp [none]
  · simp [mem_dedup_iff]

theorem mem_getPackages {debug : PackageSource → String} {order : Traversal Uuid} {package : String} :
    package ∈ db.getPackages cluster cache client debug order ↔
      db.FixedPackage cluster cache package ∨ db.AggregatePackage cluster cache client order package := by
  rw [← exists_mem_packageSources, ← AList.lookup_isSome, getPackages, Table.lookup_mapValues, Option.isSome_map,
    Table.lookup_group]
  simp only [← Table.mem_ofKey]
  split
  · rename_i none
    simp [none]
  · rename_i some
    simp [List.exists_mem_of_ne_nil _ some]

/-! ## When the two endpoints agree -/

variable (db cluster cache client)

def PackagesListed (debug : PackageSource → String) : Prop :=
  ∀ dependencyOrder order packageOrder slug entry,
    (db.getMcpServers cluster cache client dependencyOrder order).lookup slug = some entry →
      ∀ package ∈ entry.nixPackages, package ∈ db.getPackages cluster cache client debug packageOrder

/-- Every package attributed to a skill is one of the winning local channel of that slug or of a remote channel that is
assigned. -/
def SkillsAssigned (debug : PackageSource → String) : Prop :=
  ∀ order package sources slug, (db.getPackages cluster cache client debug order).lookup package = some sources →
    .skill slug ∈ sources → db.WinningPackage cluster slug package ∨ db.AssignedPackage cluster cache slug package

/-- The package has a source in `get_packages` whatever the order in which it asks the skill centers. -/
def Installed (package : String) : Prop :=
  db.FixedPackage cluster cache package ∨ ∀ order, db.AggregatePackage cluster cache client order package

/-- The packages of the servers that assigned remote skills depend on have another source. -/
def DependenciesInstalled : Prop :=
  ∀ scId slug entry, db.SkillOffers cluster cache client scId slug entry → ¬ db.LocalSlug cluster slug →
    ∀ package ∈ entry.nixPackages, db.Installed cluster cache client package

/-- Of the skill centers that may win a slug, each offers packages that are installed whichever wins. -/
def TiesInstalled : Prop :=
  ∀ scId slug entry, db.Offers cluster cache client scId slug entry → db.Foremost cluster cache client scId slug →
    ¬ db.LocalSlug cluster slug → (∀ other depended, ¬ db.SkillOffers cluster cache client other slug depended) →
      ∀ package ∈ entry.nixPackages, db.Installed cluster cache client package

/-- The cached channels of a directly assigned remote slug have no package beyond those of assigned channels. -/
def ChannelsAssigned : Prop :=
  ∀ slug package, db.DirectSlugPackage cluster cache slug package →
    db.WinningPackage cluster slug package ∨ db.AssignedPackage cluster cache slug package

variable {db cluster cache client}

theorem installed_iff (debug : PackageSource → String) {package : String} :
    db.Installed cluster cache client package ↔ ∀ order, package ∈ db.getPackages cluster cache client debug order := by
  simp only [mem_getPackages, Installed, forall_or_left]

theorem packagesListed_iff (debug : PackageSource → String) :
    db.PackagesListed cluster cache client debug ↔
      db.DependenciesInstalled cluster cache client ∧ db.TiesInstalled cluster cache client := by
  have absent {slug : String} (remote : ¬ db.LocalSlug cluster slug) : (db.localMcpServers cluster).lookup slug = none :=
    AList.lookup_eq_none.mpr (mem_localMcpServers.not.mpr remote)
  constructor
  · intro listed
    constructor
    · intro scId slug entry offers remote package member
      apply (installed_iff debug).mpr
      intro order
      apply listed (.lastly scId) .stored order slug entry _ package member
      rw [lookup_getMcpServers, absent remote, lookup_of_skillOffers offers]
      rfl
    · intro scId slug entry offers foremost remote undepended package member
      apply (installed_iff debug).mpr
      intro order
      apply listed .stored (.lastly scId) order slug entry _ package member
      have none : (db.resolveRemoteSkillMcpDeps cluster cache client .stored).lookup slug = none := by
        rw [Option.eq_none_iff_forall_ne_some]
        intro depended found
        obtain ⟨other, offered⟩ := skillOffers_of_lookup found
        exact undepended other depended offered
      rw [lookup_getMcpServers, absent remote, none, lookup_of_offers offers foremost]
      rfl
  · rintro ⟨dependencies, ties⟩ dependencyOrder order packageOrder slug entry found package member
    rw [lookup_getMcpServers, Option.or_eq_some_iff, Option.or_eq_some_iff] at found
    obtain here | ⟨remote, there⟩ := found
    · obtain ⟨⟨_, precedence⟩, held, rfl⟩ := Option.map_eq_some_iff.mp here
      obtain ⟨server, assigned, -, same⟩ := lookup_localMcpServers held
      subst same
      exact mem_getPackages.mpr (.inl (.inl ⟨server, assigned, member⟩))
    · have remote : ¬ db.LocalSlug cluster slug := by
        rw [← mem_localMcpServers, ← AList.lookup_eq_none, ← Option.map_eq_none_iff]
        exact remote
      obtain depended | ⟨undepended, aggregated⟩ := there
      · obtain ⟨scId, offers⟩ := skillOffers_of_lookup depended
        exact (installed_iff debug).mp (dependencies scId slug entry offers remote package member) packageOrder
      · obtain ⟨scId, offers, foremost⟩ := offers_of_lookup aggregated
        have none (other : Uuid) (depended : McpServerEntry) : ¬ db.SkillOffers cluster cache client other slug depended := by
          rintro ⟨slugs, asked, offered⟩
          have silent := Table.lookup_layers_map_eq_none.mp undepended ⟨other, slugs⟩ (dependencyOrder.mem_entries.mpr asked)
          rw [offered] at silent
          cases silent
        exact (installed_iff debug).mp (ties scId slug entry offers foremost remote none package member) packageOrder

theorem skillsAssigned_iff (debug : PackageSource → String) :
    db.SkillsAssigned cluster cache client debug ↔ db.ChannelsAssigned cluster cache := by
  constructor
  · intro assigned slug package direct
    have source : (package, .skill slug) ∈ db.packageSources cluster cache client .stored :=
      skill_mem_packageSources.mpr (.inr (.inl direct))
    obtain ⟨sources, found, attributed⟩ := (lookup_getPackages debug .stored package (.skill slug)).mpr source
    exact assigned .stored package sources slug found attributed
  · intro channels order package sources slug found attributed
    have source := (lookup_getPackages debug order package (.skill slug)).mp ⟨sources, found, attributed⟩
    obtain winning | direct | ⟨scId, channel, bundled, listed⟩ := skill_mem_packageSources.mp source
    · exact .inl winning
    · exact channels slug package direct
    · exact .inr ⟨scId, channel, List.mem_append_right _ bundled, listed⟩

def writerDb : CatalogDb where
  mcpServers := ∅
  mcpServerBundleItems := []
  skills := ∅
  skillChannels := ∅
  bundleItems := []
  skillMcpDependencies := ∅
  clusterMcpServers := []
  clusterMcpBundles := []
  clusterSkills := [⟨1, none, some 7, some "writer", some "stable"⟩]
  clusterBundles := []
  clusterPackages := []
  skillCenters := AList.insert 7 ⟨"https://skills.example", "token", 10, true⟩ ∅

def writerCache : SkillCenterCache :=
  AList.insert 7 ⟨[⟨"writer", "stable", [], ["search"]⟩, ⟨"writer", "beta", ["pandoc"], []⟩], [], []⟩ ∅

def searchEntry : McpServerEntry := ⟨.object [("command", .string "search")], ["ripgrep"]⟩

def searchClient : SkillCenterClient where
  resolveMcpServers _ _ slugs := some (if "search" ∈ slugs then AList.insert "search" searchEntry ∅ else ∅)
  resolveSkills _ _ _ _ := some ∅

def debugText : PackageSource → String
  | .mcpServer slug => "McpServer " ++ slug
  | .skill slug => "Skill " ++ slug
  | .manual => "Manual"

end MacMgmt.Server.CatalogDb
