import MacMgmt.Server.Catalog

/-!
# Pushing changes to the clusters

`server/src/api/push.rs` and the requests that write `mcp_servers`, `skill_channels` and `skill_mcp_dependencies`, in
`server/src/api_mcp/endpoints`, `server/src/api/routes.rs` and `server/src/xzar.rs`. Each gives the database after it
and the messages it sends; deleting a row deletes the rows that refer to it.
-/

namespace MacMgmt.Server
open Lib

inductive PushMessage where
  | syncSkills
  | syncMcpServers
deriving DecidableEq

structure Push where
  clusterId : Uuid
  message : PushMessage
deriving DecidableEq

/-- `connected` says which clusters have a push channel. -/
def notifyClusters (connected : Uuid → Bool) (clusterIds : List Uuid) (message : PushMessage) : List Push :=
  (clusterIds.filter connected).map fun clusterId => ⟨clusterId, message⟩

/-- What Rust's `char::is_whitespace` accepts. -/
def isWhitespace (c : Char) : Bool :=
  let code := c.toNat
  (9 ≤ code && code ≤ 13) || code = 0x20 || code = 0x85 || code = 0xa0 || code = 0x1680 ||
    (0x2000 ≤ code && code ≤ 0x200a) || code = 0x2028 || code = 0x2029 || code = 0x202f || code = 0x205f || code = 0x3000

def trim (text : String) : String :=
  String.ofList ((text.toList.dropWhile isWhitespace).reverse.dropWhile isWhitespace).reverse

def addPackage (package : String) (nixPackages : List String) : List String :=
  if package ∈ nixPackages then nixPackages else nixPackages ++ [package]

def removePackage (package : String) (nixPackages : List String) : List String := nixPackages.filter (· ≠ package)

namespace CatalogDb
variable (db : CatalogDb) (connected : Uuid → Bool)

/-! ## The affected clusters -/

def bundleClusters (bundles : List ClusterBundle) (items : List (Uuid × Uuid)) (selects : Uuid → Bool) : List Uuid :=
  bundles.flatMap fun row =>
    (items.filter fun item => row.bundleId = some item.1 && selects item.2).map fun _ => row.clusterId

def skillChannelClusters (channelIds : List Uuid) : List Uuid :=
  ((db.clusterSkills.filter fun row => row.skillChannelId.any (· ∈ channelIds)).map (·.clusterId) ++
    bundleClusters db.clusterBundles db.bundleItems (· ∈ channelIds)).dedup

def mcpServerClusters (mcpServerId : Uuid) : List Uuid :=
  ((db.clusterMcpServers.filter fun row => row.mcpServerId = some mcpServerId).map (·.clusterId) ++
    bundleClusters db.clusterMcpBundles db.mcpServerBundleItems (· = mcpServerId)).dedup

def notifySkillChannelClusters (channelIds : List Uuid) : List Push :=
  notifyClusters connected (db.skillChannelClusters channelIds) .syncSkills

def notifyMcpServerClusters (mcpServerId : Uuid) : List Push :=
  notifyClusters connected (db.mcpServerClusters mcpServerId) .syncMcpServers

/-! ## Requests that change an MCP server -/

def updateMcpServer (id : Uuid) (change : McpServer → McpServer) : CatalogDb :=
  { db with mcpServers := db.mcpServers.update (fun key _ => key = id) change }

/-- `mcp_server_upsert` with an id, after the config passed its checks. -/
def mcpServerUpsert (id : Uuid) (configJson : Json) : CatalogDb × List Push :=
  (db.updateMcpServer id fun server => { server with configJson }, [])

def mcpServerNixPackageAdd (id : Uuid) (package : String) : CatalogDb × List Push :=
  if trim package = "" then (db, [])
  else (db.updateMcpServer id fun server => { server with nixPackages := addPackage (trim package) server.nixPackages }, [])

def mcpServerNixPackageRemove (id : Uuid) (package : String) : CatalogDb × List Push :=
  (db.updateMcpServer id fun server => { server with nixPackages := removePackage package server.nixPackages }, [])

def deleteMcpServer (id : Uuid) : CatalogDb :=
  { db with
    mcpServers := db.mcpServers.erase id
    clusterMcpServers := db.clusterMcpServers.filter fun row => row.mcpServerId ≠ some id
    mcpServerBundleItems := db.mcpServerBundleItems.filter fun item => item.2 ≠ id
    skillMcpDependencies := db.skillMcpDependencies.retain fun _ dependency => dependency.mcpServerId ≠ id }

def mcpServerDelete (id : Uuid) : CatalogDb × List Push :=
  (db.deleteMcpServer id, db.notifyMcpServerClusters connected id)

/-! ## Requests that change a skill channel -/

def updateSkillChannel (id : Uuid) (change : List String → List String) : CatalogDb :=
  { db with
    skillChannels := db.skillChannels.update (fun key _ => key = id) fun channel =>
      { channel with nixPackages := change channel.nixPackages } }

def skillChannelNixPackageAdd (id : Uuid) (package : String) : CatalogDb × List Push :=
  let after := db.updateSkillChannel id (addPackage package)
  (after, after.notifySkillChannelClusters connected [id])

def skillChannelNixPackageRemove (id : Uuid) (package : String) : CatalogDb × List Push :=
  let after := db.updateSkillChannel id (removePackage package)
  (after, after.notifySkillChannelClusters connected [id])

def adminSetSkillNixPackages (id : Uuid) (packages : List String) : CatalogDb × List Push :=
  if id ∈ db.skillChannels then
    let after := db.updateSkillChannel id fun _ => packages
    (after, after.notifySkillChannelClusters connected [id])
  else (db, [])

/-- `skill_channel_mcp_dep_add` and `admin_add_skill_mcp_dep`: a dependency that exists or refers to a missing row is
not stored. `depId` is the id that the database generates. -/
def skillChannelMcpDepAdd (depId channelId serverId : Uuid) : CatalogDb × List Push :=
  if channelId ∈ db.skillChannels ∧ serverId ∈ db.mcpServers ∧ depId ∉ db.skillMcpDependencies ∧
      ∀ dependency ∈ db.skillMcpDependencies.values,
        ¬ (dependency.skillChannelId = channelId ∧ dependency.mcpServerId = serverId) then
    ({ db with skillMcpDependencies := db.skillMcpDependencies.insert depId ⟨channelId, serverId⟩ }, [])
  else (db, [])

/-- `skill_channel_mcp_dep_remove`, or with a channel id `admin_remove_skill_mcp_dep`. -/
def skillChannelMcpDepRemove (depId : Uuid) (channelId : Option Uuid) : CatalogDb × List Push :=
  ({ db with skillMcpDependencies := db.skillMcpDependencies.retain fun id dependency =>
      id ≠ depId || channelId.any (· ≠ dependency.skillChannelId) }, [])

def deleteSkillChannels (selects : Uuid → SkillChannel → Bool) : CatalogDb :=
  let kept := db.skillChannels.retain fun id channel => !selects id channel
  { db with
    skillChannels := kept
    clusterSkills := db.clusterSkills.filter fun row => row.skillChannelId.all (· ∈ kept)
    bundleItems := db.bundleItems.filter fun item => item.2 ∈ kept
    skillMcpDependencies := db.skillMcpDependencies.retain fun _ dependency => dependency.skillChannelId ∈ kept }

end CatalogDb

def splitSlash (text : List Char) : Option (String × List Char) :=
  match text.dropWhile (· ≠ '/') with
  | [] => none
  | _ :: rest => some (String.ofList (text.takeWhile (· ≠ '/')), rest)

/-- The slug and the channel of a pin `skill/slug/channel/arch` that is in use. -/
def XzarPin.pair (pin : XzarPin) : Option (String × String) := do
  guard (!pin.abandoned && !pin.roots.isEmpty)
  let (kind, rest) ← splitSlash pin.name.toList
  guard (kind = "skill")
  let (slug, rest) ← splitSlash rest
  let (channel, _) ← splitSlash rest
  return (slug, channel)

namespace CatalogDb
variable (db : CatalogDb) (connected : Uuid → Bool)

/-- The channels without a pin: `to_remove_channel_ids` of `sync_skills_from_pins`. -/
def stale (pins : List XzarPin) (_ : Uuid) (channel : SkillChannel) : Bool :=
  (db.skills.lookup channel.skillId).any fun slug => (slug, channel.channel) ∉ pins.filterMap XzarPin.pair

/-- `sync_skills_from_pins` after the new skills and channels are stored. -/
def syncSkillsFromPins (pins : List XzarPin) : CatalogDb × List Push :=
  let toRemove := (db.skillChannels.retain (db.stale pins)).entries.map (·.1)
  let after := db.deleteSkillChannels (db.stale pins)
  ({ after with skills := after.skills.retain fun id _ => after.skillChannels.entries.any (·.2.skillId = id) },
    db.notifySkillChannelClusters connected toRemove)

/-- `delete_source` and `import_source_delete` with `remove_skills`, for the slugs that the source imported. -/
def importSourceDelete (slugs : List String) : CatalogDb × List Push :=
  let removed (_ : Uuid) (channel : SkillChannel) : Bool := (db.skills.lookup channel.skillId).any (· ∈ slugs)
  ({ db.deleteSkillChannels removed with skills := db.skills.retain fun _ slug => slug ∉ slugs }, [])

end CatalogDb

inductive CatalogChange where
  | mcpServerUpsert (id : Uuid) (configJson : Json)
  | mcpServerNixPackageAdd (id : Uuid) (package : String)
  | mcpServerNixPackageRemove (id : Uuid) (package : String)
  | mcpServerDelete (id : Uuid)
  | skillChannelNixPackageAdd (id : Uuid) (package : String)
  | skillChannelNixPackageRemove (id : Uuid) (package : String)
  | adminSetSkillNixPackages (id : Uuid) (packages : List String)
  | skillChannelMcpDepAdd (depId channelId serverId : Uuid)
  | skillChannelMcpDepRemove (depId : Uuid) (channelId : Option Uuid)
  | syncSkillsFromPins (pins : List XzarPin)
  | importSourceDelete (slugs : List String)

def CatalogDb.perform (db : CatalogDb) (connected : Uuid → Bool) : CatalogChange → CatalogDb × List Push
  | .mcpServerUpsert id configJson => db.mcpServerUpsert id configJson
  | .mcpServerNixPackageAdd id package => db.mcpServerNixPackageAdd id package
  | .mcpServerNixPackageRemove id package => db.mcpServerNixPackageRemove id package
  | .mcpServerDelete id => db.mcpServerDelete connected id
  | .skillChannelNixPackageAdd id package => db.skillChannelNixPackageAdd connected id package
  | .skillChannelNixPackageRemove id package => db.skillChannelNixPackageRemove connected id package
  | .adminSetSkillNixPackages id packages => db.adminSetSkillNixPackages connected id packages
  | .skillChannelMcpDepAdd depId channelId serverId => db.skillChannelMcpDepAdd depId channelId serverId
  | .skillChannelMcpDepRemove depId channelId => db.skillChannelMcpDepRemove depId channelId
  | .syncSkillsFromPins pins => db.syncSkillsFromPins connected pins
  | .importSourceDelete slugs => db.importSourceDelete slugs

end MacMgmt.Server
