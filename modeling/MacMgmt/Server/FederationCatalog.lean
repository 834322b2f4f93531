import MacMgmt.Lib.Sorting
import MacMgmt.Server.Json
import MacMgmt.Server.Rollouts
import Mathlib.Data.Prod.Lex

/-!
# The catalog for other servers

`federation_catalog` of `server/src/api/federation.rs`: the skill channels, bundles, MCP servers and MCP bundles that a server
shows to a federated one, and to anyone without a token what is not marked `hide_from_public_catalog`. `ORDER BY` follows the
database's collation, and the rows of a query without one may come in any order.
-/

namespace MacMgmt.Server.Federation
open Lib

/-! ## The tables -/

structure Skill where
  slug : String
  name : String
  description : String
  hideFromPublicCatalog : Bool

structure SkillChannel where
  skillId : Uuid
  channel : String
  nixPackages : List String

structure McpServer where
  slug : String
  name : String
  description : String
  hideFromPublicCatalog : Bool
  configJson : Json
  nixPackages : List String

structure Bundle where
  slug : String
  name : String
  description : String
  hideFromPublicCatalog : Bool

def Unique {C V : Type} (table : Table Uuid V) (column : V → C) : Prop :=
  ∀ id other row otherRow, table.lookup id = some row → table.lookup other = some otherRow → column row = column otherRow →
    id = other

/-- The tables keyed by their primary key, those of the joins as pairs, with the unique columns of the migrations. -/
structure Db where
  skills : Table Uuid Skill
  skillChannels : Table Uuid SkillChannel
  bundles : Table Uuid Bundle
  bundleItems : List (Uuid × Uuid)
  mcpServers : Table Uuid McpServer
  mcpServerBundles : Table Uuid Bundle
  mcpServerBundleItems : List (Uuid × Uuid)
  skillMcpDependencies : List (Uuid × Uuid)
  skillSlugs : Unique skills Skill.slug
  skillChannelNames : Unique skillChannels fun channel => (channel.skillId, channel.channel)
  bundleSlugs : Unique bundles Bundle.slug
  bundleItemsOnce : bundleItems.Nodup
  mcpServerSlugs : Unique mcpServers McpServer.slug
  mcpBundleSlugs : Unique mcpServerBundles Bundle.slug
  mcpBundleItemsOnce : mcpServerBundleItems.Nodup
  dependenciesOnce : skillMcpDependencies.Nodup

/-! ## The response -/

structure FederationSkillChannel where
  id : Uuid
  skillSlug : String
  skillName : String
  skillDescription : String
  channel : String
  hidden : Bool
  nixPackages : List String
  mcpServerSlugs : List String

structure FederationBundleSkill where
  skillChannelId : Uuid
  skillSlug : String
  channel : String
deriving DecidableEq

structure FederationMcpBundleServer where
  mcpServerId : Uuid
  slug : String
deriving DecidableEq

structure FederationMcpServer where
  id : Uuid
  slug : String
  name : String
  description : String
  hidden : Bool
  config : Json
  nixPackages : List String

/-- `members` are the `skills` of a bundle or the `servers` of an MCP bundle. -/
structure FederationBundle (M : Type) where
  id : Uuid
  slug : String
  name : String
  description : String
  hidden : Bool
  members : List M

structure FederationCatalog where
  skillChannels : List FederationSkillChannel
  bundles : List (FederationBundle FederationBundleSkill)
  mcpServers : List FederationMcpServer
  mcpBundles : List (FederationBundle FederationMcpBundleServer)

def redactMcpConfig : Json → Json
  | .object fields => .object (fields.filter fun field => field.1 ≠ "env" && field.1 ≠ "headers")
  | other => other

/-! ## The queries -/

def visible (includeHidden hidden : Bool) : Bool := includeHidden || !hidden

section Queries
variable {κ : Type} [LinearOrder κ] (collate : String ↪ κ) (db : Db) (includeHidden : Bool)

/-- The rows of the skill channels, with no slugs of MCP servers yet. -/
def skillChannelRows : List FederationSkillChannel :=
  orderBy (fun row => toLex (collate row.skillSlug, collate row.channel)) (db.skillChannels.entries.filterMap fun entry =>
    (db.skills.lookup entry.2.skillId).bind fun skill =>
      if visible includeHidden skill.hideFromPublicCatalog then
        some { id := entry.1, skillSlug := skill.slug, skillName := skill.name, skillDescription := skill.description
               channel := entry.2.channel, hidden := skill.hideFromPublicCatalog, nixPackages := entry.2.nixPackages
               mcpServerSlugs := [] }
      else none)

def mcpDependencyRows (channelIds : List Uuid) : List (Uuid × String) :=
  orderBy (fun row => collate row.2) (db.skillMcpDependencies.filterMap fun dependency =>
    if dependency.1 ∈ channelIds then (db.mcpServers.lookup dependency.2).map fun server => (dependency.1, server.slug)
    else none)

/-- The channels' ids differ, so that what is taken out of the map is what was collected. -/
def fetchSkillChannels : List FederationSkillChannel :=
  let rows := skillChannelRows collate db includeHidden
  let mcpDeps := Table.group (mcpDependencyRows collate db (rows.map FederationSkillChannel.id))
  rows.map fun row => { row with mcpServerSlugs := (mcpDeps.lookup row.id).getD [] }

def bundleRows (table : Table Uuid Bundle) : List (Σ _ : Uuid, Bundle) :=
  orderBy (fun entry => collate entry.2.slug)
    (table.entries.filter fun entry => visible includeHidden entry.2.hideFromPublicCatalog)

/-- Both kinds of bundles, from the rows of their members. -/
def fetchBundlesOf {M : Type} (table : Table Uuid Bundle) (items : List (Uuid × M)) : List (FederationBundle M) :=
  let itemsByBundle := Table.group items
  (bundleRows collate includeHidden table).map fun entry =>
    { id := entry.1, slug := entry.2.slug, name := entry.2.name, description := entry.2.description
      hidden := entry.2.hideFromPublicCatalog, members := (itemsByBundle.lookup entry.1).getD [] }

def bundleItemRows : List (Uuid × FederationBundleSkill) :=
  db.bundleItems.filterMap fun item =>
    (db.skillChannels.lookup item.2).bind fun channel =>
      (db.skills.lookup channel.skillId).bind fun skill =>
        if visible includeHidden skill.hideFromPublicCatalog then some (item.1, ⟨item.2, skill.slug, channel.channel⟩) else none

def fetchBundles (items : List (Uuid × FederationBundleSkill)) : List (FederationBundle FederationBundleSkill) :=
  fetchBundlesOf collate includeHidden db.bundles items

def fetchMcpServers : List FederationMcpServer :=
  (orderBy (fun entry => collate entry.2.slug)
    (db.mcpServers.entries.filter fun entry => visible includeHidden entry.2.hideFromPublicCatalog)).map fun entry =>
      { id := entry.1, slug := entry.2.slug, name := entry.2.name, description := entry.2.description
        hidden := entry.2.hideFromPublicCatalog
        config := if includeHidden then entry.2.configJson else redactMcpConfig entry.2.configJson
        nixPackages := entry.2.nixPackages }

def mcpBundleItemRows : List (Uuid × FederationMcpBundleServer) :=
  db.mcpServerBundleItems.filterMap fun item =>
    (db.mcpServers.lookup item.2).bind fun server =>
      if visible includeHidden server.hideFromPublicCatalog then some (item.1, ⟨item.2, server.slug⟩) else none

def fetchMcpBundles (items : List (Uuid × FederationMcpBundleServer)) : List (FederationBundle FederationMcpBundleServer) :=
  fetchBundlesOf collate includeHidden db.mcpServerBundles items

/-- The catalog for the order in which the members of the bundles were read. -/
def federationCatalog (isAuthenticated : Bool) (items : List (Uuid × FederationBundleSkill))
    (servers : List (Uuid × FederationMcpBundleServer)) : FederationCatalog :=
  let includeHidden := isAuthenticated
  { skillChannels := fetchSkillChannels collate db includeHidden
    bundles := fetchBundles collate db includeHidden items
    mcpServers := fetchMcpServers collate db includeHidden
    mcpBundles := fetchMcpBundles collate db includeHidden servers }

def Responds (isAuthenticated : Bool) (response : FederationCatalog) : Prop :=
  ∃ items servers, items.Perm (bundleItemRows db isAuthenticated) ∧ servers.Perm (mcpBundleItemRows db isAuthenticated) ∧
    response = federationCatalog collate db isAuthenticated items servers

end Queries
end MacMgmt.Server.Federation
