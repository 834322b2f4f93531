import MacMgmt.Server.Json
import MacMgmt.Server.Rollouts
import Mathlib.Data.List.Destutter
import Mathlib.Data.List.Sort

/-!
# What a cluster is given

The skills, MCP servers and packages that a daemon fetches: `get_skills`, `get_mcp_servers` and `get_packages` of
`server/src/api/routes.rs` with the functions they share. A row comes from a direct assignment or from a bundle, and it
names a local record or one of a federated skill center, whose cached catalog says what is in a remote bundle. A query
without an `ORDER BY` gives its rows in the order of the tables.
-/

namespace MacMgmt.Server
open Lib

structure McpServer where
  slug : String
  configJson : Json
  nixPackages : List String

structure McpServerEntry where
  config : Json
  nixPackages : List String

def McpServer.entry (server : McpServer) : McpServerEntry := ⟨server.configJson, server.nixPackages⟩

structure SkillChannel where
  skillId : Uuid
  channel : String
  nixPackages : List String

structure SkillMcpDependency where
  skillChannelId : Uuid
  mcpServerId : Uuid

/-- A local row has `mcpServerId`, a remote one the skill center and the slug there. -/
structure ClusterMcpServer where
  clusterId : Uuid
  mcpServerId : Option Uuid
  skillCenterId : Option Uuid
  slug : Option String

structure ClusterSkill where
  clusterId : Uuid
  skillChannelId : Option Uuid
  skillCenterId : Option Uuid
  slug : Option String
  channel : Option String

structure ClusterBundle where
  clusterId : Uuid
  bundleId : Option Uuid
  skillCenterId : Option Uuid
  remoteId : Option Uuid

structure SkillCenter where
  url : String
  federationToken : String
  priority : Int
  enabled : Bool

/-- The tables keyed by their primary key; `skills` holds the slugs. `mcpServerBundleItems` and `bundleItems` are pairs
of a bundle and its member, `clusterPackages` pairs of a cluster and a package. -/
structure CatalogDb where
  mcpServers : Table Uuid McpServer
  mcpServerBundleItems : List (Uuid × Uuid)
  skills : Table Uuid String
  skillChannels : Table Uuid SkillChannel
  bundleItems : List (Uuid × Uuid)
  skillMcpDependencies : Table Uuid SkillMcpDependency
  clusterMcpServers : List ClusterMcpServer
  clusterMcpBundles : List ClusterBundle
  clusterSkills : List ClusterSkill
  clusterBundles : List ClusterBundle
  clusterPackages : List (Uuid × String)
  skillCenters : Table Uuid SkillCenter

structure FederationSkillChannel where
  skillSlug : String
  channel : String
  nixPackages : List String
  mcpServerSlugs : List String

structure FederationBundleSkill where
  skillSlug : String
  channel : String

structure FederationBundle where
  id : Uuid
  skills : List FederationBundleSkill

structure FederationMcpBundle where
  id : Uuid
  servers : List String

structure FederationCatalog where
  skillChannels : List FederationSkillChannel
  bundles : List FederationBundle
  mcpBundles : List FederationMcpBundle

abbrev SkillCenterCache := Table Uuid FederationCatalog

/-- What the skill centers answer over HTTP, from their URL and token; `none` is a failed request. -/
structure SkillCenterClient where
  resolveMcpServers : String → String → List String → Option (Table String McpServerEntry)
  resolveSkills : String → String → List (String × String) → String → Option (Table String String)

/-! ## The built-in skill center -/

def builtinSkillCenterId : Uuid := 0x00b17100000040008000000000000001

def isBuiltin (id : Uuid) : Bool := id = builtinSkillCenterId

def builtinConfig (arg : String) : Json :=
  .object [("command", .string "mac-mgmt"), ("args", .array [.string arg])]

def builtinMcpServer (slug : String) : Option McpServerEntry :=
  if slug = "plan-ai-cleaner" then some ⟨builtinConfig "mcp-cleaner", []⟩
  else if slug = "plan-ai-cloud" then some ⟨builtinConfig "mcp-cloud", []⟩
  else if slug = "plan-ai-memvault" then some ⟨builtinConfig "mcp-memvault", []⟩
  else none

def resolveBuiltinMcpServers (slugs : List String) : Table String McpServerEntry :=
  Table.fill (fun _ _ => false) ∅ (slugs.filterMap fun slug => (builtinMcpServer slug).map fun entry => (slug, entry))

/-- The folders of `skills/` with a `SKILL.md` whose frontmatter has a name. -/
def embeddedSkills : List String := ["custom-service", "memvault", "pii-redact"]

def resolveBuiltinSkills (slugChannels : List (String × String)) : Table String String :=
  Table.fill (fun _ _ => false) ∅ ((slugChannels.filter fun pair => pair.1 ∈ embeddedSkills).map fun pair =>
    (pair.1, "builtin://" ++ pair.1))

/-! ## Local rows -/

namespace CatalogDb
variable (db : CatalogDb) (cluster : Uuid)

def directMcpServers : List Uuid :=
  db.clusterMcpServers.filterMap fun row => if row.clusterId = cluster then row.mcpServerId else none

/-- `cluster_mcp_bundles` or `cluster_bundles` joined with the items of the bundles. -/
def bundleMembers (bundles : List ClusterBundle) (items : List (Uuid × Uuid)) : List Uuid :=
  (bundles.filter fun row => row.clusterId = cluster).flatMap fun row =>
    items.filterMap fun item => if row.bundleId = some item.1 then some item.2 else none

def bundleMcpServers : List Uuid := bundleMembers cluster db.clusterMcpBundles db.mcpServerBundleItems

def joinMcpServers (ids : List Uuid) : List McpServer := ids.filterMap db.mcpServers.lookup

def directSkillChannels : List Uuid :=
  db.clusterSkills.filterMap fun row => if row.clusterId = cluster then row.skillChannelId else none

def bundleSkillChannels : List Uuid := bundleMembers cluster db.clusterBundles db.bundleItems

end CatalogDb

structure SkillSlugChannel where
  skillChannelId : Uuid
  slug : String
  channel : String
  isDirect : Bool

namespace CatalogDb
variable (db : CatalogDb) (cluster : Uuid)

def joinSkillChannel (isDirect : Bool) (id : Uuid) : Option SkillSlugChannel := do
  let skillChannel ← db.skillChannels.lookup id
  let slug ← db.skills.lookup skillChannel.skillId
  return ⟨id, slug, skillChannel.channel, isDirect⟩

def skillRows : List SkillSlugChannel :=
  (db.directSkillChannels cluster).filterMap (db.joinSkillChannel true) ++
    (db.bundleSkillChannels cluster).filterMap (db.joinSkillChannel false)

/-- The loop over the rows that `resolve_winning_skill_channels` and `get_skills` share: a direct row stays, any other
is replaced by the next row of the slug. -/
def winners {V : Type} (value : SkillSlugChannel → V) : Table String (V × Bool) :=
  Table.fill (fun old _ => old.2) ∅ ((db.skillRows cluster).map fun row => (row.slug, (value row, row.isDirect)))

def resolveWinningSkillChannels : Table String Uuid :=
  (db.winners cluster SkillSlugChannel.skillChannelId).mapValues Prod.fst

def winningChannels : List Uuid := (db.resolveWinningSkillChannels cluster).values

def transitiveMcpServers : List Uuid :=
  db.skillMcpDependencies.values.filterMap fun dependency =>
    if dependency.skillChannelId ∈ db.winningChannels cluster then some dependency.mcpServerId else none

/-! ## Remote rows -/

variable (cache : SkillCenterCache)

/-- The remote rows of `cluster_bundles` or of `cluster_mcp_bundles`, with the catalog of the skill center. -/
def remoteBundles (bundles : List ClusterBundle) : List (Uuid × Uuid × FederationCatalog) :=
  bundles.filterMap fun row => do
    guard (row.clusterId = cluster)
    let scId ← row.skillCenterId
    let remoteId ← row.remoteId
    let catalog ← cache.lookup scId
    return (scId, remoteId, catalog)

def directRemoteMcpServers : List (Uuid × String) :=
  db.clusterMcpServers.filterMap fun row => do
    guard (row.clusterId = cluster)
    return (← row.skillCenterId, ← row.slug)

/-- What is pushed to `by_sc` in `aggregate_remote_mcp_servers`. -/
def remoteMcpServers : List (Uuid × String) :=
  db.directRemoteMcpServers cluster ++
    (remoteBundles cluster cache db.clusterMcpBundles).flatMap fun (scId, remoteId, catalog) =>
      match catalog.mcpBundles.find? (·.id = remoteId) with
      | some bundle => bundle.servers.map fun slug => (scId, slug)
      | none => []

def directRemoteSkills : List (Uuid × String × String) :=
  db.clusterSkills.filterMap fun row => do
    guard (row.clusterId = cluster)
    return (← row.skillCenterId, ← row.slug, ← row.channel)

def bundleRemoteSkills : List (Uuid × String × String) :=
  (remoteBundles cluster cache db.clusterBundles).flatMap fun (scId, remoteId, catalog) =>
    match catalog.bundles.find? (·.id = remoteId) with
    | some bundle => bundle.skills.map fun skill => (scId, skill.skillSlug, skill.channel)
    | none => []

/-- What is pushed to `by_sc` in `resolve_remote_skill_mcp_deps` and in `aggregate_remote_skills`: the assigned pairs of
slug and channel with their skill center. -/
def remoteSkills : List (Uuid × String × String) :=
  db.directRemoteSkills cluster ++ db.bundleRemoteSkills cluster cache

def enabledCenter (scId : Uuid) : Option SkillCenter := (db.skillCenters.lookup scId).filter (·.enabled)

def priority (scId : Uuid) : Int := ((db.enabledCenter scId).map (·.priority)).getD 0

/-- `ordered`: the traversal of `by_sc`, sorted by priority with a stable sort. -/
def ordered {V : Type} (order : Traversal Uuid) (bySc : Table Uuid (List V)) : List (Σ _ : Uuid, List V) :=
  (order.entries bySc).insertionSort fun first second => db.priority first.1 ≤ db.priority second.1

variable (client : SkillCenterClient)

/-- The answer of one skill center. A failed request and a center that is not enabled give nothing. -/
def resolveMcpServersAt (scId : Uuid) (slugs : List String) : Table String McpServerEntry :=
  if isBuiltin scId then resolveBuiltinMcpServers slugs
  else match db.enabledCenter scId with
    | some center => (client.resolveMcpServers center.url center.federationToken slugs).getD ∅
    | none => ∅

def aggregateRemoteMcpServers (order : Traversal Uuid) : Table String McpServerEntry :=
  Table.layers ((db.ordered order (Table.group (db.remoteMcpServers cluster cache))).map fun entry =>
    db.resolveMcpServersAt client entry.1 entry.2)

/-- The `mcp_server_slugs` of the assigned channel in the cached catalog of its skill center. -/
def mcpSlugsOf (cache : SkillCenterCache) (scId : Uuid) (slug channel : String) : List String :=
  match cache.lookup scId with
  | none => []
  | some catalog =>
      match catalog.skillChannels.find? fun entry => entry.skillSlug = slug && entry.channel = channel with
      | some entry => entry.mcpServerSlugs
      | none => []

def mcpSlugsBySc : Table Uuid (List String) :=
  Table.group ((Table.group (db.remoteSkills cluster cache)).entries.flatMap fun entry =>
    entry.2.flatMap fun (slug, channel) => (mcpSlugsOf cache entry.1 slug channel).map fun mcpSlug => (entry.1, mcpSlug))

def resolveRemoteSkillMcpDeps (order : Traversal Uuid) : Table String McpServerEntry :=
  Table.layers ((order.entries (db.mcpSlugsBySc cluster cache)).map fun entry =>
    db.resolveMcpServersAt client entry.1 entry.2)

/-! ## The endpoints -/

/-- The local part of `get_mcp_servers` with the precedence of each entry: direct (2), bundle (1), transitive from a
skill (0). -/
def localMcpServers : Table String (McpServerEntry × Nat) :=
  let rows := (db.joinMcpServers (db.directMcpServers cluster)).map (fun row => (row.slug, (row.entry, 2))) ++
    (db.joinMcpServers (db.bundleMcpServers cluster)).map fun row => (row.slug, (row.entry, 1))
  let result := Table.fill (fun old new => old.2 ≥ new.2) ∅ rows
  Table.fill (fun _ _ => true) result
    ((db.joinMcpServers (db.transitiveMcpServers cluster)).map fun row => (row.slug, (row.entry, 0)))

def getMcpServers (dependencyOrder order : Traversal Uuid) : Table String McpServerEntry :=
  let remoteTransitive := (db.resolveRemoteSkillMcpDeps cluster cache client dependencyOrder).mapValues fun entry => (entry, 0)
  let localResult := Table.mapValues (db.localMcpServers cluster ∪ remoteTransitive) Prod.fst
  localResult ∪ db.aggregateRemoteMcpServers cluster cache client order

end CatalogDb

inductive PackageSource where
  | mcpServer (slug : String)
  | skill (slug : String)
  | manual
deriving DecidableEq

namespace CatalogDb
variable (db : CatalogDb) (cluster : Uuid) (cache : SkillCenterCache) (client : SkillCenterClient)

def packagesOf (source : PackageSource) (nixPackages : List String) : List (String × PackageSource) :=
  nixPackages.map fun package => (package, source)

/-- Rows of `mcp_servers` with `nix_packages != '{}'`. -/
def mcpServerPackages (ids : List Uuid) : List (String × PackageSource) :=
  ((db.joinMcpServers ids).filter fun row => row.nixPackages ≠ []).flatMap fun row =>
    packagesOf (.mcpServer row.slug) row.nixPackages

def remoteMcpPackages (order : Traversal Uuid) : List (String × PackageSource) :=
  (db.aggregateRemoteMcpServers cluster cache client order).entries.flatMap fun entry =>
    packagesOf (.mcpServer entry.1) entry.2.nixPackages

/-- The winning channels with their slug, in the order of `skill_channels`. -/
def skillPackages : List (String × PackageSource) :=
  db.skillChannels.entries.flatMap fun channel =>
    if channel.1 ∈ db.winningChannels cluster ∧ channel.2.nixPackages ≠ [] then
      match db.skills.lookup channel.2.skillId with
      | some slug => packagesOf (.skill slug) channel.2.nixPackages
      | none => []
    else []

/-- The `direct_remote` rows of `get_packages`, which have no channel. -/
def directRemoteSlugs : List (Uuid × String) :=
  db.clusterSkills.filterMap fun row => do
    guard (row.clusterId = cluster)
    return (← row.skillCenterId, ← row.slug)

def directRemoteSkillPackages : List (String × PackageSource) :=
  (db.directRemoteSlugs cluster).flatMap fun (scId, slug) =>
    match cache.lookup scId with
    | some catalog =>
        (catalog.skillChannels.filter (·.skillSlug = slug)).flatMap fun entry => packagesOf (.skill slug) entry.nixPackages
    | none => []

def bundleRemoteSkillPackages : List (String × PackageSource) :=
  (remoteBundles cluster cache db.clusterBundles).flatMap fun (_, remoteId, catalog) =>
    match catalog.bundles.find? (·.id = remoteId) with
    | some bundle => bundle.skills.flatMap fun skill =>
        (catalog.skillChannels.filter fun entry => entry.skillSlug = skill.skillSlug && entry.channel = skill.channel).flatMap
          fun entry => packagesOf (.skill skill.skillSlug) entry.nixPackages
    | none => []

def manualPackages : List (String × PackageSource) :=
  (db.clusterPackages.filter fun row => row.1 = cluster).map fun row => (row.2, .manual)

def packageSources (order : Traversal Uuid) : List (String × PackageSource) :=
  db.mcpServerPackages (db.directMcpServers cluster ++ db.bundleMcpServers cluster) ++
    db.mcpServerPackages (db.transitiveMcpServers cluster) ++
    db.remoteMcpPackages cluster cache client order ++
    db.skillPackages cluster ++
    db.directRemoteSkillPackages cluster cache ++
    db.bundleRemoteSkillPackages cluster cache ++
    db.manualPackages cluster

/-- `debug` is the `{:?}` text of a source, by which the sources of a package are sorted before equal neighbours are
dropped. -/
def getPackages (debug : PackageSource → String) (order : Traversal Uuid) : Table String (List PackageSource) :=
  (Table.group (db.packageSources cluster cache client order)).mapValues fun sources =>
    (sources.insertionSort fun first second => debug first ≤ debug second).destutter (· ≠ ·)

end CatalogDb

structure XzarPin where
  name : String
  abandoned : Bool
  roots : List String

def storePath (root : String) : String :=
  if "/nix/store/".toList <+: root.toList then root else "/nix/store/" ++ root

def findPin (pins : List XzarPin) (name : String) : Option XzarPin :=
  pins.find? fun pin => pin.name = name && !pin.abandoned

def resolveStorePaths (pins : List XzarPin) (skills : List (String × String)) (arch : String) : Table String String :=
  Table.fill (fun _ _ => false) ∅ (skills.filterMap fun (slug, channel) => do
    let name := "skill/" ++ slug ++ "/" ++ channel ++ "/"
    let pin ← (findPin pins (name ++ arch)).or (findPin pins (name ++ "noarch"))
    let root ← pin.roots.head?
    return (slug, storePath root))

namespace CatalogDb
variable (db : CatalogDb) (cluster : Uuid) (cache : SkillCenterCache) (client : SkillCenterClient)

def resolveSkillsAt (arch : String) (scId : Uuid) (slugChannels : List (String × String)) : Table String String :=
  if isBuiltin scId then resolveBuiltinSkills slugChannels
  else match db.enabledCenter scId with
    | some center => (client.resolveSkills center.url center.federationToken slugChannels arch).getD ∅
    | none => ∅

def aggregateRemoteSkills (arch : String) (order : Traversal Uuid) : Table String String :=
  Table.layers ((db.ordered order (Table.group (db.remoteSkills cluster cache))).map fun entry =>
    db.resolveSkillsAt client arch entry.1 entry.2)

/-- `xzar` is the configured pin server, `none` when there is none, with what it answers; a failed request is the
status 500. -/
def getSkills (xzar : Option (Option (List XzarPin))) (arch : String) (order : Traversal Uuid) :
    Option (Table String String) :=
  if (db.skillRows cluster).isEmpty then some ∅
  else match xzar with
    | none => some ∅
    | some none => none
    | some (some pins) =>
        let slugChannel := db.winners cluster SkillSlugChannel.channel
        let skills := slugChannel.entries.map fun entry => (entry.1, entry.2.1)
        some (resolveStorePaths pins skills arch ∪ db.aggregateRemoteSkills cluster cache client arch order)

end CatalogDb

/-! ## The rows of the skills in any order

`resolve_winning_skill_channels` and `get_skills` make the same query, each on its own. It has no `ORDER BY`, so that its rows
come in any order. -/

section
variable (rows : List SkillSlugChannel)

def winnersOf {V : Type} (value : SkillSlugChannel → V) : Table String (V × Bool) :=
  Table.fill (fun old _ => old.2) ∅ (rows.map fun row => (row.slug, (value row, row.isDirect)))

def resolveWinningSkillChannelsOf : Table String Uuid := (winnersOf rows SkillSlugChannel.skillChannelId).mapValues Prod.fst

/-- `skills` of `get_skills` -/
def skillsOf : List (String × String) :=
  (winnersOf rows SkillSlugChannel.channel).entries.map fun entry => (entry.1, entry.2.1)

end

namespace CatalogDb
variable (db : CatalogDb) (cluster : Uuid) (cache : SkillCenterCache) (client : SkillCenterClient)

def getSkillsOf (rows : List SkillSlugChannel) (xzar : Option (Option (List XzarPin))) (arch : String) (order : Traversal Uuid) :
    Option (Table String String) :=
  if rows.isEmpty then some ∅
  else match xzar with
    | none => some ∅
    | some none => none
    | some (some pins) =>
        some (resolveStorePaths pins (skillsOf rows) arch ∪ db.aggregateRemoteSkills cluster cache client arch order)

end CatalogDb

end MacMgmt.Server
