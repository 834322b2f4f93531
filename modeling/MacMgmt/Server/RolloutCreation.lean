import MacMgmt.Daemon.UpdateTarget
import MacMgmt.Lib.Sorting
import MacMgmt.Server.CommitCounts
import MacMgmt.Server.Push
import MacMgmt.Server.Rollouts
import Mathlib.Data.String.Basic

/-!
# Creating a rollout

`rollout_create` of `server/src/api_mcp/endpoints/rollouts.rs` and `admin_create_rollout` of `server/src/api/routes.rs`, with
the checks that come before their inserts. Text is compared in the order of the database's collation.
-/

namespace MacMgmt.Server
open Lib

/-- `rollout_groups` with the names. The sentinel row can not be deleted, and a member's group is a foreign key. -/
structure RolloutGroups (db : Database) where
  names : Table Uuid String
  sentinel : allClusters ∈ names
  members : ∀ member ∈ db.groupMembers, member.1 ∈ names

def nonBlank (text : Option String) : Option String := (text.map trim).filter (· ≠ "")

def stageMembers (db : Database) (group : Uuid) : List Uuid :=
  ((db.groupMembers.filter fun member => member.1 = group).map Prod.snd) ++
    if group = allClusters then db.clusters.keys else []

/-! ## The errors of `rollout_create` -/

structure DowngradeRow where
  clusterName : String
  pinnedVersion : String
  groupName : String
deriving DecidableEq

inductive CreateError where
  | version
  | noStages
  | stageId (error : String)
  | nixpkgsCommit
  | noTarget
  | rampMinutes
  | downgrade (target : String) (byCluster : List (String × List DowngradeRow))
  | unknownCommit (commit : String)
  | unresolvedCommit (current : String)
  | olderCommit (commit : String) (count : Nat) (current : String) (currentCount : Nat)
  | database

def describe (cluster : String × List DowngradeRow) : String :=
  let current := (cluster.2.head?.map DowngradeRow.pinnedVersion).getD ""
  cluster.1 ++ " (v" ++ current ++ ", in: " ++ ", ".intercalate (cluster.2.map DowngradeRow.groupName) ++ ")"

def short (commit : String) : String := String.ofList (commit.toList.take 12)

def CreateError.report : CreateError → ApiError
  | .version => .badRequest "version must be semver (e.g., 0.1.6) or a known channel (e.g., rolling)"
  | .noStages => .badRequest "select at least one stage"
  | .stageId error => .badRequest error
  | .nixpkgsCommit => .badRequest "nixpkgs commit must be 7-40 hex chars"
  | .noTarget => .badRequest "set at least one of target version or nixpkgs commit"
  | .rampMinutes => .badRequest "ramp duration must be positive"
  | .downgrade target byCluster =>
      .badRequest ("Would downgrade to " ++ target ++ ": " ++ "; ".intercalate (byCluster.map describe))
  | .unknownCommit commit => .badRequest ("unknown nixpkgs commit " ++ commit)
  | .unresolvedCommit _ => .internal
  | .olderCommit commit count current currentCount =>
      .badRequest ("nixpkgs " ++ short commit ++ " (#" ++ toString count ++ ") is older than current " ++ short current ++
        " (#" ++ toString currentCount ++ "); use rollback to downgrade")
  | .database => .internal

/-! ## `rollout_create` -/

structure RolloutCreateInput where
  targetVersion : Option String
  stageIds : List String
  nixpkgsCommit : Option String
  rampMinutes : Option Int

/-- The input after the checks, with the groups of its stages. -/
structure CheckedInput where
  targetVersion : Option String
  nixpkgsCommit : Option String
  rampMinutes : Option Nat
  groups : List Uuid

def hasThreeNumbers (version : String) : Bool :=
  let parts := Daemon.versionParts version
  3 ≤ parts.length && parts.all fun part => (Daemon.parseU64 part).isSome

section
variable (collate : String → String → Ordering) (parseUuid : String → Except String Uuid)
  (commitCounts : List String → String → Option Nat)

def resolveStage (stageId : String) : Except CreateError Uuid :=
  if stageId = "__all__" then .ok allClusters
  else match parseUuid stageId with
    | .ok group => .ok group
    | .error error => .error (.stageId error)

def checkInput (daemonVersions : List String) (input : RolloutCreateInput) : Except CreateError CheckedInput := do
  let targetVersion := nonBlank input.targetVersion
  let nixpkgsCommit := nonBlank input.nixpkgsCommit
  if targetVersion.any fun version => !hasThreeNumbers version && version ∉ daemonVersions then .error .version
  else if input.stageIds = [] then .error .noStages
  else if nixpkgsCommit.any fun commit => !Commits.isCommitSha commit.toList then .error .nixpkgsCommit
  else if targetVersion = none ∧ nixpkgsCommit = none then .error .noTarget
  else if input.rampMinutes.any (· ≤ 0) then .error .rampMinutes
  else
    let groups ← input.stageIds.mapM (resolveStage parseUuid)
    .ok { targetVersion, nixpkgsCommit, rampMinutes := input.rampMinutes.map Int.toNat, groups }

/-- `pinned_version > $2` compares text. -/
def downgradesOf (db : Database) (clusterName : Uuid → String) (groupName : String) (group : Uuid) (target : String) :
    List DowngradeRow :=
  (stageMembers db group).filterMap fun cluster => do
    let row ← db.clusters.lookup cluster
    let pinnedVersion ← row.pinnedVersion
    if collate pinnedVersion target = .gt then some { clusterName := clusterName cluster, pinnedVersion, groupName } else none

def downgrades (db : Database) (rolloutGroups : RolloutGroups db) (clusterName : Uuid → String) (groups : List Uuid)
    (target : String) : List DowngradeRow :=
  let rows := groups.flatMap fun group =>
    match rolloutGroups.names.lookup group with
    | some groupName => downgradesOf collate db clusterName groupName group target
    | none => []
  rows.dedup.insertionSort fun first second =>
    ((collate first.clusterName second.clusterName).then (collate first.groupName second.groupName)).isLE

/-- A `BTreeMap` from the names of the clusters. -/
def byCluster (rows : List DowngradeRow) : List (String × List DowngradeRow) :=
  (orderBy Sigma.fst (Table.group (rows.map fun row => (row.clusterName, row))).entries).map fun entry => (entry.1, entry.2)

def downgradeError (db : Database) (rolloutGroups : RolloutGroups db) (clusterName : Uuid → String) (checked : CheckedInput) :
    Option CreateError := do
  let target ← checked.targetVersion
  let rows := downgrades collate db rolloutGroups clusterName checked.groups target
  if rows = [] then none else some (.downgrade target (byCluster rows))

def currentCommits (db : Database) (groups : List Uuid) : List String :=
  ((groups.flatMap (stageMembers db)).filterMap fun cluster => (db.clusters.lookup cluster).bind Cluster.nixpkgsCommit).dedup

def commitError (db : Database) (checked : CheckedInput) : Option CreateError := do
  let commit ← checked.nixpkgsCommit
  let currents := currentCommits db checked.groups
  let counts := commitCounts (commit :: currents).dedup
  match counts commit with
  | none => some (.unknownCommit commit)
  | some count => currents.findSome? fun current =>
      match counts current with
      | none => some (.unresolvedCommit current)
      | some currentCount =>
          if count < currentCount then some (.olderCommit commit count current currentCount) else none

/-- The inserts, with the ids they generate. The group of a stage is a foreign key. -/
def insertRollout (db : Database) (rolloutGroups : RolloutGroups db) (rid : Uuid) (ids : List Uuid) (checked : CheckedInput) :
    Option Database :=
  if checked.groups.all (· ∈ rolloutGroups.names) then
    db.createRollout rid checked.targetVersion checked.nixpkgsCommit checked.rampMinutes (ids.zip checked.groups)
  else none

def rolloutCreate (db : Database) (rolloutGroups : RolloutGroups db) (clusterName : Uuid → String) (rid : Uuid)
    (ids : List Uuid) (input : RolloutCreateInput) : Except CreateError Database := do
  let checked ← checkInput parseUuid db.daemonVersions input
  match (downgradeError collate db rolloutGroups clusterName checked).or (commitError commitCounts db checked) with
  | some error => .error error
  | none => (insertRollout db rolloutGroups rid ids checked).elim (.error .database) .ok

end

/-! ## `admin_create_rollout` -/

structure CreateRolloutBody where
  targetVersion : Option String
  groupIds : List Uuid
  nixpkgsCommit : Option String
  rampMinutes : Option Int

def describeSkipped (db : Database) (clusterName : Uuid → String) (cluster : Uuid) : String :=
  let pinned := ((db.clusters.lookup cluster).bind Cluster.pinnedVersion).getD ""
  clusterName cluster ++ " (v" ++ pinned ++ ")"

/-- The database after it and `skipped_clusters`. -/
def adminCreateRollout (db : Database) (rolloutGroups : RolloutGroups db) (clusterName : Uuid → String) (rid : Uuid)
    (ids : List Uuid) (body : CreateRolloutBody) : Except HttpStatus (Database × List String) := do
  let targetVersion := nonBlank body.targetVersion
  let nixpkgsCommit := nonBlank body.nixpkgsCommit
  let numbers (version : String) := (Daemon.versionParts version).filterMap Daemon.parseU64
  if targetVersion.any fun version => (numbers version).length < 3 && version ∉ db.daemonVersions then .error .badRequest
  else if nixpkgsCommit.any fun commit => !Commits.isCommitSha commit.toList then .error .badRequest
  else if targetVersion = none ∧ nixpkgsCommit = none then .error .badRequest
  else if body.rampMinutes.any (· ≤ 0) then .error .badRequest
  else
    let skipped ← match targetVersion with
      | some version => skippedClusters db version body.groupIds
      | none => .ok []
    if body.groupIds = [] then .error .unprocessableEntity
    else
      let checked : CheckedInput :=
        { targetVersion, nixpkgsCommit, rampMinutes := body.rampMinutes.map Int.toNat, groups := body.groupIds }
      match insertRollout db rolloutGroups rid ids checked with
      | some after => .ok (after, skipped.map (describeSkipped db clusterName))
      | none => .error .internalServerError

end MacMgmt.Server
