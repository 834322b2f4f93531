import MacMgmt.Server.Push
import MacMgmt.Proof.Server.CatalogPackages

/-!
# Which clusters hear of a change

A cluster has to fetch again when a server or a channel behind its answers changes. The queries of `push.rs` select the
clusters by assignment. For skill channels that covers the winning ones. For an MCP server it leaves out the clusters
that have it only as a dependency of a winning skill channel; and the requests that edit a server, edit the dependencies
of a channel or delete the skills of an import source send nothing to clusters at all.
-/

namespace MacMgmt.Server.CatalogDb
open Lib

variable (db : CatalogDb)

def HasDependency (channelId serverId : Uuid) : Prop :=
  ∃ depId, db.skillMcpDependencies.lookup depId = some ⟨channelId, serverId⟩

/-- Constraints of the schema: the slug of a server is unique, a dependency is stored once and refers to a channel and a
server. -/
structure Valid : Prop where
  slugs : ∀ {id other server otherServer}, db.mcpServers.lookup id = some server →
    db.mcpServers.lookup other = some otherServer → server.slug = otherServer.slug → id = other
  dependencies : ∀ {depId other dependency}, db.skillMcpDependencies.lookup depId = some dependency →
    db.skillMcpDependencies.lookup other = some dependency → depId = other
  references : ∀ {depId dependency}, db.skillMcpDependencies.lookup depId = some dependency →
    dependency.skillChannelId ∈ db.skillChannels ∧ dependency.mcpServerId ∈ db.mcpServers

/-- The local part of the answer of `get_mcp_servers` has the definition of the server under its slug. -/
def ContainsServer (cluster id : Uuid) : Prop :=
  ∃ server precedence, db.mcpServers.lookup id = some server ∧
    (db.localMcpServers cluster).lookup server.slug = some (server.entry, precedence)

/-- The row that `get_skills` or `get_mcp_servers` takes for some slug is that of the channel. -/
def DependsOn (cluster channelId : Uuid) : Prop :=
  (∃ slug row, (db.winners cluster fun row => row).lookup slug = some row ∧ row.1.skillChannelId = channelId) ∨
    channelId ∈ db.winningChannels cluster

/-- The row of the channel is changed, or whether it depends on a server that stays. -/
def ChannelChanged (after : CatalogDb) (channelId : Uuid) : Prop :=
  after.skillChannels.lookup channelId ≠ db.skillChannels.lookup channelId ∨
    ∃ serverId ∈ after.mcpServers, ¬ (after.HasDependency channelId serverId ↔ db.HasDependency channelId serverId)

def Reaches (connected : Uuid → Bool) (change : CatalogChange) : Prop :=
  (∀ id, (db.perform connected change).1.mcpServers.lookup id ≠ db.mcpServers.lookup id →
    ∀ cluster, connected cluster = true → db.ContainsServer cluster id →
      ⟨cluster, .syncMcpServers⟩ ∈ (db.perform connected change).2) ∧
  ∀ channelId, db.ChannelChanged (db.perform connected change).1 channelId →
    ∀ cluster, connected cluster = true → db.DependsOn cluster channelId →
      ⟨cluster, .syncSkills⟩ ∈ (db.perform connected change).2

variable {db} {cluster : Uuid}

/-! ## What an answer contains -/

theorem mem_joinMcpServers {ids : List Uuid} {server : McpServer} :
    server ∈ db.joinMcpServers ids ↔ ∃ id ∈ ids, db.mcpServers.lookup id = some server := by
  simp [joinMcpServers]

/-- The server is in the database and assigned directly, by a bundle or by a winning skill channel. -/
def Receives (db : CatalogDb) (cluster id : Uuid) : Prop :=
  id ∈ db.mcpServers ∧
    (id ∈ db.directMcpServers cluster ∨ id ∈ db.bundleMcpServers cluster ∨ id ∈ db.transitiveMcpServers cluster)

theorem receives_iff {id : Uuid} :
    db.Receives cluster id ↔ ∃ server, db.mcpServers.lookup id = some server ∧ id ∈ db.directMcpServers cluster ++
      db.bundleMcpServers cluster ++ db.transitiveMcpServers cluster := by
  rw [Receives, ← AList.lookup_isSome, Option.isSome_iff_exists]
  simp

theorem containsServer_iff (valid : db.Valid) {id : Uuid} : db.ContainsServer cluster id ↔ db.Receives cluster id := by
  rw [receives_iff]
  constructor
  · rintro ⟨server, precedence, stored, found⟩
    obtain ⟨other, member, same, -⟩ := lookup_localMcpServers found
    obtain ⟨otherId, assigned, otherStored⟩ := mem_joinMcpServers.mp member
    cases valid.slugs otherStored stored same
    exact ⟨server, stored, assigned⟩
  · rintro ⟨server, stored, assigned⟩
    have present : server.slug ∈ db.localMcpServers cluster :=
      mem_localMcpServers.mpr ⟨server, mem_joinMcpServers.mpr ⟨id, assigned, stored⟩, rfl⟩
    obtain ⟨⟨entry, precedence⟩, found⟩ := Option.isSome_iff_exists.mp (AList.lookup_isSome.mpr present)
    obtain ⟨other, member, same, rfl⟩ := lookup_localMcpServers found
    obtain ⟨otherId, -, otherStored⟩ := mem_joinMcpServers.mp member
    cases valid.slugs otherStored stored same
    rw [stored] at otherStored
    cases otherStored
    exact ⟨server, precedence, stored, found⟩

theorem lookup_winners {V : Type} (value : SkillSlugChannel → V) (slug : String) :
    (db.winners cluster value).lookup slug =
      ((db.winners cluster fun row => row).lookup slug).map fun row => (value row.1, row.2) := by
  let rows := (db.skillRows cluster).map fun row => (row.slug, (row, row.isDirect))
  have mapped : (Table.fill (fun old _ => old.2) ∅ (rows.map fun item => (item.1, (value item.2.1, item.2.2)))).lookup slug =
      ((Table.fill (fun old _ => old.2) ∅ rows).lookup slug).map fun row => (value row.1, row.2) :=
    Table.lookup_fill_map (fun row : SkillSlugChannel × Bool => (value row.1, row.2)) (fun _ _ => rfl) (by simp) slug
  rw [List.map_map] at mapped
  exact mapped

theorem mem_winningChannels {channelId : Uuid} :
    channelId ∈ db.winningChannels cluster ↔
      ∃ slug row, (db.winners cluster fun row => row).lookup slug = some row ∧ row.1.skillChannelId = channelId := by
  rw [winningChannels, Table.mem_values]
  apply exists_congr
  intro slug
  rw [resolveWinningSkillChannels, Table.lookup_mapValues, lookup_winners, Option.map_map, Option.map_eq_some_iff]
  rfl

theorem dependsOn_iff {channelId : Uuid} : db.DependsOn cluster channelId ↔ channelId ∈ db.winningChannels cluster := by
  rw [DependsOn, ← mem_winningChannels, or_self]

theorem skillChannelId_of_join {isDirect : Bool} {id : Uuid} {row : SkillSlugChannel}
    (joined : db.joinSkillChannel isDirect id = some row) : row.skillChannelId = id := by
  simp only [joinSkillChannel, Option.bind_eq_bind, Option.bind_eq_some_iff, Option.pure_def, Option.some.injEq] at joined
  obtain ⟨_, -, _, -, rfl⟩ := joined
  rfl

theorem assigned_of_mem_winningChannels {channelId : Uuid} (winning : channelId ∈ db.winningChannels cluster) :
    channelId ∈ db.directSkillChannels cluster ∨ channelId ∈ db.bundleSkillChannels cluster := by
  obtain ⟨slug, row, found, rfl⟩ := mem_winningChannels.mp winning
  obtain none | member := Table.lookup_fill found
  · simp at none
  · simp only [skillRows, List.map_append, List.mem_append, List.mem_map, List.mem_filterMap, Prod.mk.injEq] at member
    obtain ⟨_, ⟨id, assigned, joined⟩, -, rfl⟩ | ⟨_, ⟨id, assigned, joined⟩, -, rfl⟩ := member
    · left
      rw [skillChannelId_of_join joined]
      exact assigned
    · right
      rw [skillChannelId_of_join joined]
      exact assigned

/-! ## Whom the queries select -/

theorem mem_notifyClusters {connected : Uuid → Bool} {clusterIds : List Uuid} {message : PushMessage} {cluster : Uuid} :
    ⟨cluster, message⟩ ∈ notifyClusters connected clusterIds message ↔ cluster ∈ clusterIds ∧ connected cluster = true := by
  simp [notifyClusters]

theorem mem_bundleClusters {bundles : List ClusterBundle} {items : List (Uuid × Uuid)} {selects : Uuid → Bool} :
    cluster ∈ bundleClusters bundles items selects ↔ ∃ id ∈ bundleMembers cluster bundles items, selects id = true := by
  simp only [bundleClusters, bundleMembers, List.mem_flatMap, List.mem_map, List.mem_filter, Bool.and_eq_true,
    decide_eq_true_eq, List.mem_filterMap, Option.ite_none_right_eq_some, Option.some.injEq]
  constructor
  · rintro ⟨row, member, item, ⟨inside, bundle, selected⟩, rfl⟩
    exact ⟨item.2, ⟨row, ⟨member, rfl⟩, item, inside, bundle, rfl⟩, selected⟩
  · rintro ⟨_, ⟨row, ⟨member, rfl⟩, item, inside, bundle, rfl⟩, selected⟩
    exact ⟨row, member, item, ⟨inside, bundle, selected⟩, rfl⟩

theorem mem_skillChannelClusters {channelIds : List Uuid} :
    cluster ∈ db.skillChannelClusters channelIds ↔
      ∃ id ∈ channelIds, id ∈ db.directSkillChannels cluster ∨ id ∈ db.bundleSkillChannels cluster := by
  simp only [skillChannelClusters, List.mem_dedup, List.mem_append, mem_bundleClusters, List.mem_map, List.mem_filter,
    directSkillChannels, bundleSkillChannels, List.mem_filterMap, Option.any_eq_true, decide_eq_true_eq,
    Option.ite_none_right_eq_some]
  constructor
  · rintro (⟨row, ⟨member, id, named, selected⟩, rfl⟩ | ⟨id, inside, selected⟩)
    · exact ⟨id, selected, .inl ⟨row, member, rfl, named⟩⟩
    · exact ⟨id, selected, .inr inside⟩
  · rintro ⟨id, selected, ⟨row, member, rfl, named⟩ | inside⟩
    · exact .inl ⟨row, ⟨member, id, named, selected⟩, rfl⟩
    · exact .inr ⟨id, inside, selected⟩

theorem mem_mcpServerClusters {id : Uuid} :
    cluster ∈ db.mcpServerClusters id ↔ id ∈ db.directMcpServers cluster ∨ id ∈ db.bundleMcpServers cluster := by
  simp only [mcpServerClusters, List.mem_dedup, List.mem_append, mem_bundleClusters, List.mem_map, List.mem_filter,
    directMcpServers, bundleMcpServers, List.mem_filterMap, decide_eq_true_eq, Option.ite_none_right_eq_some,
    exists_eq_right]
  refine or_congr ?_ Iff.rfl
  constructor
  · rintro ⟨row, ⟨member, named⟩, rfl⟩
    exact ⟨row, member, rfl, named⟩
  · rintro ⟨row, member, rfl, named⟩
    exact ⟨row, ⟨member, named⟩, rfl⟩

theorem mem_notifySkillChannelClusters {connected : Uuid → Bool} {channelIds : List Uuid} {channelId : Uuid}
    (changed : channelId ∈ channelIds) (online : connected cluster = true) (depends : db.DependsOn cluster channelId) :
    ⟨cluster, .syncSkills⟩ ∈ db.notifySkillChannelClusters connected channelIds :=
  mem_notifyClusters.mpr
    ⟨mem_skillChannelClusters.mpr ⟨channelId, changed, assigned_of_mem_winningChannels (dependsOn_iff.mp depends)⟩, online⟩

/-! ## What a request changes -/

theorem channelChanged_iff {after : CatalogDb} {channelId : Uuid}
    (kept : after.skillMcpDependencies = db.skillMcpDependencies) :
    db.ChannelChanged after channelId ↔ after.skillChannels.lookup channelId ≠ db.skillChannels.lookup channelId := by
  constructor
  · rintro (changed | ⟨serverId, -, changed⟩)
    · exact changed
    · rw [HasDependency, HasDependency, kept] at changed
      exact absurd Iff.rfl changed
  · exact Or.inl

theorem lookup_updateMcpServer {id other : Uuid} {edit : McpServer → McpServer} :
    (db.updateMcpServer id edit).mcpServers.lookup other ≠ db.mcpServers.lookup other ↔
      other = id ∧ ∃ server, db.mcpServers.lookup id = some server ∧ edit server ≠ server := by
  show (db.mcpServers.update _ _).lookup other ≠ _ ↔ _
  rw [Table.lookup_update]
  cases found : db.mcpServers.lookup other with
  | none =>
      simp only [Option.map_none, ne_eq, not_true_eq_false, false_iff]
      rintro ⟨rfl, server, held, -⟩
      rw [found] at held
      cases held
  | some server =>
      by_cases same : other = id
      · subst same
        simp [found]
      · simp [same]

theorem lookup_updateSkillChannel_ne {id other : Uuid} {edit : List String → List String}
    (changed : (db.updateSkillChannel id edit).skillChannels.lookup other ≠ db.skillChannels.lookup other) :
    other = id := by
  by_contra different
  apply changed
  show (db.skillChannels.update _ _).lookup other = _
  rw [Table.lookup_update]
  simp [different]

theorem lookup_deleteSkillChannels {selects : Uuid → SkillChannel → Bool} {channelId : Uuid} :
    (db.deleteSkillChannels selects).skillChannels.lookup channelId ≠ db.skillChannels.lookup channelId ↔
      ∃ channel, db.skillChannels.lookup channelId = some channel ∧ selects channelId channel = true := by
  show (db.skillChannels.retain _).lookup channelId ≠ _ ↔ _
  rw [Table.lookup_retain]
  cases db.skillChannels.lookup channelId with
  | none => simp
  | some channel => simp [Option.filter]

theorem channelChanged_deleteSkillChannels (valid : db.Valid) {selects : Uuid → SkillChannel → Bool} {channelId : Uuid} :
    db.ChannelChanged (db.deleteSkillChannels selects) channelId ↔
      ∃ channel, db.skillChannels.lookup channelId = some channel ∧ selects channelId channel = true := by
  rw [← lookup_deleteSkillChannels]
  constructor
  · rintro (changed | ⟨serverId, -, changed⟩)
    · exact changed
    · intro same
      apply changed
      constructor
      · rintro ⟨depId, found⟩
        exact ⟨depId, (Table.lookup_retain_some.mp found).1⟩
      · rintro ⟨depId, found⟩
        have stored : channelId ∈ db.skillChannels := (valid.references found).1
        have kept : channelId ∈ (db.deleteSkillChannels selects).skillChannels := by
          rw [← AList.lookup_isSome, same, AList.lookup_isSome]
          exact stored
        exact ⟨depId, Table.lookup_retain_some.mpr ⟨found, decide_eq_true kept⟩⟩
  · exact Or.inl

/-! ## When every affected cluster hears of it -/

variable (db) (connected : Uuid → Bool)

def Unreceived (id : Uuid) : Prop := ∀ cluster, connected cluster = true → ¬ db.Receives cluster id

def Unused (channelId : Uuid) : Prop := ∀ cluster, connected cluster = true → channelId ∉ db.winningChannels cluster

def ReachCondition : CatalogChange → Prop
  | .mcpServerUpsert id configJson =>
      (∀ server, db.mcpServers.lookup id = some server → server.configJson = configJson) ∨ db.Unreceived connected id
  | .mcpServerNixPackageAdd id package =>
      trim package = "" ∨ (∀ server, db.mcpServers.lookup id = some server → trim package ∈ server.nixPackages) ∨
        db.Unreceived connected id
  | .mcpServerNixPackageRemove id package =>
      (∀ server, db.mcpServers.lookup id = some server → package ∉ server.nixPackages) ∨ db.Unreceived connected id
  | .mcpServerDelete id =>
      id ∈ db.mcpServers → ∀ cluster, connected cluster = true → id ∈ db.transitiveMcpServers cluster →
        id ∈ db.directMcpServers cluster ∨ id ∈ db.bundleMcpServers cluster
  | .skillChannelMcpDepAdd depId channelId serverId =>
      channelId ∈ db.skillChannels → serverId ∈ db.mcpServers → depId ∉ db.skillMcpDependencies →
        ¬ db.HasDependency channelId serverId → db.Unused connected channelId
  | .skillChannelMcpDepRemove depId channelId =>
      ∀ dependency, db.skillMcpDependencies.lookup depId = some dependency →
        (∀ required, channelId = some required → dependency.skillChannelId = required) →
          db.Unused connected dependency.skillChannelId
  | .importSourceDelete slugs =>
      ∀ id channel slug, db.skillChannels.lookup id = some channel → db.skills.lookup channel.skillId = some slug →
        slug ∈ slugs → db.Unused connected id
  | .skillChannelNixPackageAdd _ _ | .skillChannelNixPackageRemove _ _ | .adminSetSkillNixPackages _ _
  | .syncSkillsFromPins _ => True

variable {db connected}

theorem reaches_silent (valid : db.Valid) {change : CatalogChange} {after : CatalogDb}
    (silent : db.perform connected change = (after, [])) :
    db.Reaches connected change ↔
      (∀ id, after.mcpServers.lookup id ≠ db.mcpServers.lookup id → db.Unreceived connected id) ∧
        ∀ channelId, db.ChannelChanged after channelId → db.Unused connected channelId := by
  simp only [Reaches, silent, List.not_mem_nil, containsServer_iff valid, dependsOn_iff, Unreceived, Unused]

theorem reaches_unchanged (valid : db.Valid) {change : CatalogChange}
    (performed : db.perform connected change = (db, [])) : db.Reaches connected change := by
  refine (reaches_silent valid performed).mpr ⟨?_, ?_⟩
  · intro id changed
    exact absurd rfl changed
  · intro channelId changed
    exact absurd rfl ((channelChanged_iff rfl).mp changed)

theorem reaches_edit (valid : db.Valid) {change : CatalogChange} {id : Uuid} {edit : McpServer → McpServer}
    (performed : db.perform connected change = (db.updateMcpServer id edit, [])) :
    db.Reaches connected change ↔
      (∀ server, db.mcpServers.lookup id = some server → edit server = server) ∨ db.Unreceived connected id := by
  rw [reaches_silent valid performed]
  constructor
  · rintro ⟨servers, -⟩
    by_cases unchanged : ∀ server, db.mcpServers.lookup id = some server → edit server = server
    · exact .inl unchanged
    · push Not at unchanged
      exact .inr (servers id (lookup_updateMcpServer.mpr ⟨rfl, unchanged⟩))
  · intro condition
    constructor
    · intro other changed
      obtain ⟨rfl, server, stored, edited⟩ := lookup_updateMcpServer.mp changed
      obtain unchanged | unreceived := condition
      · exact absurd (unchanged server stored) edited
      · exact unreceived
    · intro channelId changed
      exact absurd rfl ((channelChanged_iff rfl).mp changed)

theorem reaches_channels {change : CatalogChange} {after : CatalogDb} {channelIds : List Uuid}
    (performed : db.perform connected change = (after, db.notifySkillChannelClusters connected channelIds))
    (servers : after.mcpServers = db.mcpServers)
    (channels : ∀ channelId, db.ChannelChanged after channelId → channelId ∈ channelIds) : db.Reaches connected change := by
  rw [Reaches, performed]
  constructor
  · intro id changed
    rw [servers] at changed
    exact absurd rfl changed
  · intro channelId changed cluster online depends
    exact mem_notifySkillChannelClusters (channels channelId changed) online depends

theorem reaches_updateSkillChannel {change : CatalogChange} {id : Uuid} {edit : List String → List String}
    (performed : db.perform connected change =
      (db.updateSkillChannel id edit, (db.updateSkillChannel id edit).notifySkillChannelClusters connected [id])) :
    db.Reaches connected change := by
  apply reaches_channels performed rfl
  intro channelId changed
  have kept : (db.updateSkillChannel id edit).skillMcpDependencies = db.skillMcpDependencies := rfl
  exact List.mem_singleton.mpr (lookup_updateSkillChannel_ne ((channelChanged_iff kept).mp changed))

theorem reaches_mcpServerDelete (valid : db.Valid) {id : Uuid} :
    db.Reaches connected (.mcpServerDelete id) ↔ db.ReachCondition connected (.mcpServerDelete id) := by
  have pushed {cluster : Uuid} (online : connected cluster = true) :
      (⟨cluster, .syncMcpServers⟩ : Push) ∈ db.notifyMcpServerClusters connected id ↔
        id ∈ db.directMcpServers cluster ∨ id ∈ db.bundleMcpServers cluster := by
    rw [notifyMcpServerClusters, mem_notifyClusters, mem_mcpServerClusters, and_iff_left online]
  have removed {other : Uuid} : (db.deleteMcpServer id).mcpServers.lookup other ≠ db.mcpServers.lookup other ↔
      other = id ∧ id ∈ db.mcpServers := by
    show (db.mcpServers.erase id).lookup other ≠ _ ↔ _
    rw [Table.lookup_erase_ite]
    by_cases same : other = id
    · subst same
      rw [if_pos rfl, ne_comm, ne_eq, AList.lookup_eq_none, not_not]
      simp
    · simp [same]
  constructor
  · rintro ⟨servers, -⟩ stored cluster online transitive
    apply (pushed online).mp
    exact servers id (removed.mpr ⟨rfl, stored⟩) cluster online ((containsServer_iff valid).mpr ⟨stored, .inr (.inr transitive)⟩)
  · intro condition
    constructor
    · intro other changed cluster online contains
      obtain ⟨rfl, stored⟩ := removed.mp changed
      apply (pushed online).mpr
      obtain direct | bundled | transitive := ((containsServer_iff valid).mp contains).2
      · exact .inl direct
      · exact .inr bundled
      · exact condition stored cluster online transitive
    · -- A dependency on a server that stays is not one on the deleted server.
      rintro channelId (changed | ⟨serverId, stays, changed⟩)
      · exact absurd rfl changed
      · have different : serverId ≠ id := (AList.mem_erase.mp stays).1
        apply absurd _ changed
        apply exists_congr
        intro depId
        rw [show (db.perform connected (.mcpServerDelete id)).1.skillMcpDependencies = db.skillMcpDependencies.retain
          fun _ dependency => dependency.mcpServerId ≠ id from rfl, Table.lookup_retain_some]
        simp [different]

theorem mem_values_dependency {channelId serverId : Uuid} :
    (∀ dependency ∈ db.skillMcpDependencies.values,
      ¬ (dependency.skillChannelId = channelId ∧ dependency.mcpServerId = serverId)) ↔
        ¬ db.HasDependency channelId serverId := by
  constructor
  · rintro none ⟨depId, found⟩
    exact none _ (Table.mem_values.mpr ⟨depId, found⟩) ⟨rfl, rfl⟩
  · rintro none ⟨_, _⟩ member ⟨rfl, rfl⟩
    exact none (Table.mem_values.mp member)

theorem reaches_skillChannelMcpDepAdd (valid : db.Valid) {depId channelId serverId : Uuid} :
    db.Reaches connected (.skillChannelMcpDepAdd depId channelId serverId) ↔
      db.ReachCondition connected (.skillChannelMcpDepAdd depId channelId serverId) := by
  by_cases stores : channelId ∈ db.skillChannels ∧ serverId ∈ db.mcpServers ∧ depId ∉ db.skillMcpDependencies ∧
      ∀ dependency ∈ db.skillMcpDependencies.values,
        ¬ (dependency.skillChannelId = channelId ∧ dependency.mcpServerId = serverId)
  · let after := { db with skillMcpDependencies := db.skillMcpDependencies.insert depId ⟨channelId, serverId⟩ }
    have performed : db.perform connected (.skillChannelMcpDepAdd depId channelId serverId) = (after, []) := if_pos stores
    obtain ⟨channelStored, serverStored, fresh, absent⟩ := stores
    have new := mem_values_dependency.mp absent
    rw [reaches_silent valid performed]
    constructor
    · rintro ⟨-, channels⟩ - - - -
      refine channels channelId (.inr ⟨serverId, serverStored, fun same => new (same.mp ⟨depId, ?_⟩)⟩)
      exact AList.lookup_insert _
    · intro condition
      refine ⟨fun id changed => absurd rfl changed, ?_⟩
      rintro other (changed | ⟨otherServer, -, changed⟩)
      · exact absurd rfl changed
      · by_cases same : other = channelId
        · subst same
          exact condition channelStored serverStored fresh new
        · apply absurd _ changed
          apply exists_congr
          intro key
          show (db.skillMcpDependencies.insert depId ⟨channelId, serverId⟩).lookup key = _ ↔ _
          rw [Table.lookup_insert_ite]
          split
          · rename_i inserted
            rw [inserted, AList.lookup_eq_none.mpr fresh]
            simp [Ne.symm same]
          · rfl
  · have performed : db.perform connected (.skillChannelMcpDepAdd depId channelId serverId) = (db, []) := if_neg stores
    rw [mem_values_dependency] at stores
    refine iff_of_true (reaches_unchanged valid performed) ?_
    intro channelStored serverStored fresh new
    exact absurd ⟨channelStored, serverStored, fresh, new⟩ stores

theorem reaches_skillChannelMcpDepRemove (valid : db.Valid) {depId : Uuid} {channelId : Option Uuid} :
    db.Reaches connected (.skillChannelMcpDepRemove depId channelId) ↔
      db.ReachCondition connected (.skillChannelMcpDepRemove depId channelId) := by
  let keeps (id : Uuid) (dependency : SkillMcpDependency) : Bool :=
    id ≠ depId || channelId.any (· ≠ dependency.skillChannelId)
  have dropped {id : Uuid} {dependency : SkillMcpDependency} : keeps id dependency = false ↔
      id = depId ∧ ∀ required, channelId = some required → dependency.skillChannelId = required := by
    cases channelId with
    | none => simp [keeps]
    | some required =>
        simp only [keeps, Option.any_some, Bool.or_eq_false_iff, decide_eq_false_iff_not, not_not, Option.some.injEq,
          eq_comm (a := required), forall_eq]
  let after := { db with skillMcpDependencies := db.skillMcpDependencies.retain keeps }
  have performed : db.perform connected (.skillChannelMcpDepRemove depId channelId) = (after, []) := rfl
  rw [reaches_silent valid performed]
  constructor
  · rintro ⟨-, channels⟩ dependency stored named
    apply channels
    refine .inr ⟨dependency.mcpServerId, (valid.references stored).2, fun same => ?_⟩
    obtain ⟨other, found⟩ := same.mpr ⟨depId, stored⟩
    obtain ⟨held, kept⟩ := Table.lookup_retain_some.mp found
    rw [dropped.mpr ⟨valid.dependencies held stored, named⟩] at kept
    cases kept
  · intro condition
    refine ⟨fun id changed => absurd rfl changed, ?_⟩
    rintro channel (changed | ⟨serverId, -, changed⟩)
    · exact absurd rfl changed
    · have lost : ∃ id, db.skillMcpDependencies.lookup id = some ⟨channel, serverId⟩ ∧ keeps id ⟨channel, serverId⟩ = false := by
        by_contra kept
        push Not at kept
        apply changed
        constructor
        · rintro ⟨id, found⟩
          exact ⟨id, (Table.lookup_retain_some.mp found).1⟩
        · rintro ⟨id, found⟩
          exact ⟨id, Table.lookup_retain_some.mpr ⟨found, Bool.eq_true_of_not_eq_false (kept id found)⟩⟩
      obtain ⟨id, stored, forgotten⟩ := lost
      obtain ⟨rfl, named⟩ := dropped.mp forgotten
      exact condition _ stored named

theorem reaches_importSourceDelete (valid : db.Valid) {slugs : List String} :
    db.Reaches connected (.importSourceDelete slugs) ↔ db.ReachCondition connected (.importSourceDelete slugs) := by
  let removed (_ : Uuid) (channel : SkillChannel) : Bool := (db.skills.lookup channel.skillId).any (· ∈ slugs)
  let after := { db.deleteSkillChannels removed with skills := db.skills.retain fun _ slug => slug ∉ slugs }
  have performed : db.perform connected (.importSourceDelete slugs) = (after, []) := rfl
  have changed {channelId : Uuid} : db.ChannelChanged after channelId ↔
      ∃ channel, db.skillChannels.lookup channelId = some channel ∧ removed channelId channel = true :=
    channelChanged_deleteSkillChannels valid
  rw [reaches_silent valid performed]
  simp only [changed, removed, Option.any_eq_true, decide_eq_true_eq]
  constructor
  · rintro ⟨-, channels⟩ id channel slug stored named member
    exact channels id ⟨channel, stored, slug, named, member⟩
  · intro condition
    refine ⟨fun id changed => absurd rfl changed, ?_⟩
    rintro id ⟨channel, stored, slug, named, member⟩
    exact condition id channel slug stored named member

theorem reaches_syncSkillsFromPins (valid : db.Valid) {pins : List XzarPin} :
    db.Reaches connected (.syncSkillsFromPins pins) := by
  refine reaches_channels rfl rfl ?_
  intro channelId changed
  obtain ⟨channel, stored, stale⟩ := (channelChanged_deleteSkillChannels valid).mp changed
  apply List.mem_map.mpr
  exact ⟨⟨channelId, channel⟩, AList.mem_lookup_iff.mp (Table.lookup_retain_some.mpr ⟨stored, stale⟩), rfl⟩

theorem withPackages_eq_self {server : McpServer} {nixPackages : List String} :
    { server with nixPackages } = server ↔ nixPackages = server.nixPackages :=
  ⟨congrArg McpServer.nixPackages, fun same => by rw [same]⟩

theorem addPackage_eq_self {package : String} {nixPackages : List String} :
    addPackage package nixPackages = nixPackages ↔ package ∈ nixPackages := by
  unfold addPackage
  split <;> simp_all

theorem removePackage_eq_self {package : String} {nixPackages : List String} :
    removePackage package nixPackages = nixPackages ↔ package ∉ nixPackages := by
  rw [removePackage, List.filter_eq_self]
  constructor
  · intro all member
    simpa using all package member
  · intro absent other member
    exact decide_eq_true fun same => absent (same ▸ member)

/-- Every connected cluster with a stake in a change hears of it exactly if the change is one of the channel requests
that push, changes nothing, or meets no connected cluster beyond the direct and bundle assignments of a deleted server. -/
theorem reaches_iff (valid : db.Valid) (connected : Uuid → Bool) (change : CatalogChange) :
    db.Reaches connected change ↔ db.ReachCondition connected change := by
  cases change with
  | mcpServerUpsert id configJson =>
      have same (server : McpServer) : { server with configJson } = server ↔ server.configJson = configJson :=
        ⟨fun equal => (congrArg McpServer.configJson equal).symm, fun equal => by rw [← equal]⟩
      rw [reaches_edit valid rfl]
      simp only [same, ReachCondition]
  | mcpServerNixPackageAdd id package =>
      by_cases empty : trim package = ""
      · have performed : db.perform connected (.mcpServerNixPackageAdd id package) = (db, []) := if_pos empty
        exact iff_of_true (reaches_unchanged valid performed) (.inl empty)
      · have performed : db.perform connected (.mcpServerNixPackageAdd id package) = (db.updateMcpServer id fun server =>
            { server with nixPackages := addPackage (trim package) server.nixPackages }, []) := if_neg empty
        rw [reaches_edit valid performed, ReachCondition, or_iff_right empty]
        simp only [withPackages_eq_self, addPackage_eq_self]
  | mcpServerNixPackageRemove id package =>
      rw [reaches_edit valid rfl]
      simp only [withPackages_eq_self, removePackage_eq_self, ReachCondition]
  | mcpServerDelete id => exact reaches_mcpServerDelete valid
  | skillChannelNixPackageAdd id package => exact iff_of_true (reaches_updateSkillChannel rfl) trivial
  | skillChannelNixPackageRemove id package => exact iff_of_true (reaches_updateSkillChannel rfl) trivial
  | adminSetSkillNixPackages id packages =>
      refine iff_of_true ?_ trivial
      by_cases stored : id ∈ db.skillChannels
      · exact reaches_updateSkillChannel (if_pos stored)
      · have performed : db.perform connected (.adminSetSkillNixPackages id packages) = (db, []) := if_neg stored
        exact reaches_unchanged valid performed
  | skillChannelMcpDepAdd depId channelId serverId => exact reaches_skillChannelMcpDepAdd valid
  | skillChannelMcpDepRemove depId channelId => exact reaches_skillChannelMcpDepRemove valid
  | syncSkillsFromPins pins => exact iff_of_true (reaches_syncSkillsFromPins valid) trivial
  | importSourceDelete slugs => exact reaches_importSourceDelete valid

/-! ## A server that comes with a skill -/

/-- Cluster 1 has the channel 3 of a skill, which depends on the server 5; `assigned` are its direct servers. -/
def searchDb (assigned : List ClusterMcpServer) : CatalogDb where
  mcpServers := AList.insert 5 ⟨"search", .object [("command", .string "search")], ["ripgrep"]⟩ ∅
  mcpServerBundleItems := []
  skills := AList.insert 2 "writer" ∅
  skillChannels := AList.insert 3 ⟨2, "stable", []⟩ ∅
  bundleItems := []
  skillMcpDependencies := AList.insert 9 ⟨3, 5⟩ ∅
  clusterMcpServers := assigned
  clusterMcpBundles := []
  clusterSkills := [⟨1, some 3, none, none, none⟩]
  clusterBundles := []
  clusterPackages := []
  skillCenters := ∅

theorem searchDb_valid (assigned : List ClusterMcpServer) : (searchDb assigned).Valid where
  slugs := by
    intro id other server otherServer stored otherStored _
    simp only [searchDb, Table.lookup_insert_ite, AList.lookup_empty, Option.ite_none_right_eq_some] at stored otherStored
    rw [stored.1, otherStored.1]
  dependencies := by
    intro depId other dependency stored otherStored
    simp only [searchDb, Table.lookup_insert_ite, AList.lookup_empty, Option.ite_none_right_eq_some] at stored otherStored
    rw [stored.1, otherStored.1]
  references := by
    intro depId dependency stored
    simp only [searchDb, Table.lookup_insert_ite, AList.lookup_empty, Option.ite_none_right_eq_some,
      Option.some.injEq] at stored
    obtain ⟨-, rfl⟩ := stored
    exact ⟨(AList.mem_insert _).mpr (.inl rfl), (AList.mem_insert _).mpr (.inl rfl)⟩

/-- Neither deleting nor editing the server reaches the cluster that has it through the skill. -/
theorem search_change_unheard :
    ¬ (searchDb []).Reaches (fun _ => true) (.mcpServerDelete 5) ∧
      ¬ (searchDb []).Reaches (fun _ => true) (.mcpServerNixPackageAdd 5 "fd") := by
  have transitive : (5 : Uuid) ∈ (searchDb []).transitiveMcpServers 1 := by decide
  have stored : (5 : Uuid) ∈ (searchDb []).mcpServers := by decide
  constructor
  · intro reaches
    obtain direct | bundled := (reaches_mcpServerDelete (searchDb_valid [])).mp reaches stored 1 rfl transitive
    · cases direct
    · cases bundled
  · intro reaches
    have named : trim "fd" ≠ "" := by decide
    have performed : (searchDb []).perform (fun _ => true) (.mcpServerNixPackageAdd 5 "fd") =
        ((searchDb []).updateMcpServer 5 fun server =>
          { server with nixPackages := addPackage (trim "fd") server.nixPackages }, []) := by
      rw [perform, mcpServerNixPackageAdd, if_neg named]
    obtain unchanged | unreceived := (reaches_edit (searchDb_valid []) performed).mp reaches
    · have added := congrArg McpServer.nixPackages (unchanged _ rfl)
      revert added
      decide
    · exact unreceived 1 rfl ⟨stored, .inr (.inr transitive)⟩

theorem search_delete_heard :
    (searchDb [⟨1, some 5, none, none⟩]).Reaches (fun cluster => cluster = 1) (.mcpServerDelete 5) := by
  apply (reaches_iff (searchDb_valid _) _ _).mpr
  intro _ cluster online _
  obtain rfl := of_decide_eq_true online
  exact .inl (by decide)

end MacMgmt.Server.CatalogDb
