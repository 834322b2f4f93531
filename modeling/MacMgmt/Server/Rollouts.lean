import MacMgmt.Lib.Table
import Mathlib.Data.List.MinMax

/-!
# Rollouts

The rollout tables of the server and everything that writes them: the admin routes and the update queries of
`server/src/api/routes.rs`, `rollout_action_apply` of `server/src/api_mcp/endpoints/rollouts.rs` and the health-gate loop
of `server/src/rollout_health.rs`. Each SQL statement is one function on the database; a transaction that is dropped
leaves it as it was.
-/

namespace MacMgmt.Server
open Lib

abbrev Uuid := BitVec 128

abbrev DateTime := Int

def minutes (count : Int) : DateTime := count * 60 * 1000000

inductive RolloutStatus where
  | pending
  | rolling
  | paused
  | completed
  | failed
  | rolledBack
deriving DecidableEq

structure Rollout where
  targetVersion : Option String
  nixpkgsCommit : Option String
  status : RolloutStatus
  createdAt : DateTime
  updatedAt : DateTime
  baselineVersion : Option String
  baselineNixpkgsCommit : Option String
deriving DecidableEq

structure Stage where
  rolloutId : Uuid
  groupId : Uuid
  stageOrder : Int
  status : RolloutStatus
  startedAt : Option DateTime
  completedAt : Option DateTime
  rampMinutes : Option Nat
deriving DecidableEq

structure Cluster where
  pinnedVersion : Option String
  nixpkgsCommit : Option String
deriving DecidableEq

structure Heartbeat where
  clusterId : Uuid
  version : String
  nixpkgsCommit : Option String
  reportedAt : DateTime
deriving DecidableEq

/-- The tables keyed by their primary key. `groupMembers` holds pairs of group and cluster, `deliveries` pairs of
rollout and cluster. `now` is the time of the current transaction. -/
structure Database where
  now : DateTime
  rollouts : Table Uuid Rollout
  stages : Table Uuid Stage
  clusters : Table Uuid Cluster
  groupMembers : List (Uuid × Uuid)
  deliveries : List (Uuid × Uuid)
  heartbeats : List Heartbeat
  daemonVersions : List String

def allClusters : Uuid := 0

namespace Database
variable (db : Database) (rid : Uuid)

/-! ## The statements -/

def setStatus (status : RolloutStatus) : Database :=
  { db with rollouts := db.rollouts.update (fun id _ => id = rid) fun rollout =>
      { rollout with status, updatedAt := db.now } }

def touch : Database :=
  { db with rollouts := db.rollouts.update (fun id _ => id = rid) fun rollout => { rollout with updatedAt := db.now } }

/-- `status = 'rolling'` with the baseline columns filled in where they are null. -/
def setRollingWithBaseline (baseline : Option String × Option String) : Database :=
  { db with rollouts := db.rollouts.update (fun id _ => id = rid) fun rollout =>
      { rollout with
        status := .rolling, updatedAt := db.now
        baselineVersion := rollout.baselineVersion.or baseline.1
        baselineNixpkgsCommit := rollout.baselineNixpkgsCommit.or baseline.2 } }

def atOrder (order : Int) (_ : Uuid) (stage : Stage) : Bool := stage.rolloutId = rid && stage.stageOrder = order

def inStatus (status : RolloutStatus) (_ : Uuid) (stage : Stage) : Bool :=
  stage.rolloutId = rid && stage.status = status

def startStage (order : Int) : Database :=
  { db with stages := db.stages.update (atOrder rid order) fun stage =>
      { stage with status := .rolling, startedAt := some db.now } }

def completeStage (order : Int) : Database :=
  { db with stages := db.stages.update (atOrder rid order) fun stage =>
      { stage with status := .completed, completedAt := some db.now } }

def moveStages (old new : RolloutStatus) : Database :=
  { db with stages := db.stages.update (inStatus rid old) fun stage => { stage with status := new } }

def completeStages : Database :=
  { db with stages := db.stages.update (fun _ stage => stage.rolloutId = rid) fun stage =>
      { stage with status := .completed, completedAt := stage.completedAt.or (some db.now) } }

def rollBackStages : Database :=
  { db with
    stages := db.stages.update
      (fun _ stage => stage.rolloutId = rid &&
        (stage.status = .rolling || stage.status = .paused || stage.status = .completed))
      fun stage => { stage with status := .rolledBack } }

def cohort : List Uuid :=
  ((db.stages.values.filter fun stage => stage.rolloutId = rid).flatMap fun stage =>
    ((db.groupMembers.filter fun member => member.1 = stage.groupId).map Prod.snd) ++
      if stage.groupId = allClusters then db.clusters.keys else []).dedup

def pinVersion (version : String) : Database :=
  { db with clusters := db.clusters.update (fun id _ => id ∈ db.cohort rid) fun cluster =>
      { cluster with pinnedVersion := some version } }

def pinNixpkgs (commit : String) : Database :=
  { db with clusters := db.clusters.update (fun id _ => id ∈ db.cohort rid) fun cluster =>
      { cluster with nixpkgsCommit := some commit } }

def rewindPins (clusters : List Uuid) (version commit : Option String) : Database :=
  { db with clusters := db.clusters.update (fun id _ => id ∈ clusters) fun _ =>
      { pinnedVersion := version, nixpkgsCommit := commit } }

def deleteRollout : Database :=
  { db with
    rollouts := db.rollouts.erase rid
    stages := db.stages.retain fun _ stage => stage.rolloutId ≠ rid
    deliveries := db.deliveries.filter fun delivery => delivery.1 ≠ rid }

def rollingStageOrder : Option Int :=
  (db.stages.values.find? fun stage => stage.rolloutId = rid ∧ stage.status = .rolling).map Stage.stageOrder

/-! ## Creating a rollout -/

def insertStages (rampMinutes : Option Nat) : List (Uuid × Uuid) → Int → Database → Option Database
  | [], _, db => some db
  | (id, group) :: stages, order, db =>
      if id ∈ db.stages then none
      else insertStages rampMinutes stages (order + 1) { db with
        stages := db.stages.insert id
          { rolloutId := rid, groupId := group, stageOrder := order, status := .pending, startedAt := none
            completedAt := none, rampMinutes } }

/-- The inserts at the end of `admin_create_rollout` and `rollout_create`, with the ids they generate. -/
def createRollout (targetVersion nixpkgsCommit : Option String) (rampMinutes : Option Nat)
    (stages : List (Uuid × Uuid)) : Option Database :=
  if targetVersion = none ∧ nixpkgsCommit = none ∨ stages = [] ∨ rid ∈ db.rollouts then none
  else insertStages rid rampMinutes stages 0 { db with
    rollouts := db.rollouts.insert rid
      { targetVersion, nixpkgsCommit, status := .pending, createdAt := db.now, updatedAt := db.now
        baselineVersion := none, baselineNixpkgsCommit := none } }

def StagesReference : Prop := ∀ id stage, db.stages.lookup id = some stage → stage.rolloutId ∈ db.rollouts

/-! ## The baseline -/

def recentHeartbeats : List Heartbeat :=
  db.heartbeats.filter fun heartbeat =>
    heartbeat.clusterId ∈ db.cohort rid ∧ db.now - minutes 30 < heartbeat.reportedAt

def majority (values : List String) : Option String := values.argmax fun value => values.count value

def cohortBaseline : Option String × Option String :=
  (majority ((db.recentHeartbeats rid).map Heartbeat.version),
    majority ((db.recentHeartbeats rid).filterMap Heartbeat.nixpkgsCommit))

end Database

/-! ## The admin routes -/

inductive HttpStatus where
  | badRequest
  | notFound
  | conflict
  | unprocessableEntity
  | internalServerError
deriving DecidableEq

section Routes
variable (db : Database) (rid : Uuid)

def adminStartRollout : Except HttpStatus Database :=
  match db.rollouts.lookup rid with
  | none => .error .notFound
  | some rollout =>
      if rollout.status ≠ .pending then .error .conflict
      else .ok ((db.setStatus rid .rolling).startStage rid 0)

def adminAdvanceRollout : Except HttpStatus Database :=
  match db.rollingStageOrder rid with
  | none => .error .conflict
  | some current =>
      let completed := db.completeStage rid current
      let started := completed.startStage rid (current + 1)
      -- rows_affected of the second update
      if completed.stages.tally (Database.atOrder rid (current + 1)) = 0 then
        .ok ((started.setStatus rid .completed).touch rid)
      else .ok (started.touch rid)

def adminPauseRollout : Except HttpStatus Database :=
  if db.stages.tally (Database.inStatus rid .rolling) = 0 then .error .conflict
  else .ok ((db.moveStages rid .rolling .paused).setStatus rid .paused)

def adminResumeRollout : Except HttpStatus Database :=
  if db.stages.tally (Database.inStatus rid .paused) = 0 then .error .conflict
  else .ok ((db.moveStages rid .paused .rolling).setStatus rid .rolling)

def adminCompleteRollout : Except HttpStatus Database :=
  match db.rollouts.lookup rid with
  | none => .error .notFound
  | some rollout =>
      let completed := (db.completeStages rid).setStatus rid .completed
      let pinned := match rollout.targetVersion with
        | some version => completed.pinVersion rid version
        | none => completed
      .ok (match rollout.nixpkgsCommit with
        | some commit => pinned.pinNixpkgs rid commit
        | none => pinned)

def adminRollbackRollout : Except HttpStatus Database :=
  match db.rollouts.lookup rid with
  | none => .error .notFound
  | some rollout =>
      .ok (((db.rollBackStages rid).setStatus rid .rolledBack).rewindPins (db.cohort rid) rollout.baselineVersion
        rollout.baselineNixpkgsCommit)

def adminDeleteRollout : Except HttpStatus Database :=
  if rid ∈ db.rollouts then .ok (db.deleteRollout rid) else .error .notFound

end Routes

inductive RolloutAction where
  | start
  | advance
  | pause
  | resume
  | complete
  | rollback
  | delete
deriving DecidableEq

def adminRoute (db : Database) (rid : Uuid) : RolloutAction → Except HttpStatus Database
  | .start => adminStartRollout db rid
  | .advance => adminAdvanceRollout db rid
  | .pause => adminPauseRollout db rid
  | .resume => adminResumeRollout db rid
  | .complete => adminCompleteRollout db rid
  | .rollback => adminRollbackRollout db rid
  | .delete => adminDeleteRollout db rid

/-! ## The API action -/

inductive ApiError where
  | badRequest (message : String)
  | notFound (message : String)
  | internal
deriving DecidableEq

def rolloutActionApply (db : Database) (rid : Uuid) : RolloutAction → Except ApiError Database
  | .start => .ok ((db.setRollingWithBaseline rid (db.cohortBaseline rid)).startStage rid 0)
  | .rollback =>
      match db.rollouts.lookup rid with
      | none => .error (.notFound "rollout not found")
      | some rollout =>
          .ok (((db.rollBackStages rid).setStatus rid .rolledBack).rewindPins (db.cohort rid) rollout.baselineVersion
            rollout.baselineNixpkgsCommit)
  | .advance =>
      match db.rollingStageOrder rid with
      | none => .error .internal
      | some current =>
          let completed := db.completeStage rid current
          let started := completed.startStage rid (current + 1)
          if completed.stages.tally (Database.atOrder rid (current + 1)) = 0 then .ok (started.setStatus rid .completed)
          else .ok (started.touch rid)
  | .pause => .ok ((db.moveStages rid .rolling .paused).setStatus rid .paused)
  | .resume => .ok ((db.moveStages rid .paused .rolling).setStatus rid .rolling)
  | .complete =>
      match db.rollouts.lookup rid with
      | none => .error .internal
      | some rollout =>
          let completed := (db.completeStages rid).setStatus rid .completed
          let pinned := match rollout.targetVersion with
            | some version => completed.pinVersion rid version
            | none => completed
          .ok (match rollout.nixpkgsCommit with
            | some commit => pinned.pinNixpkgs rid commit
            | none => pinned)
  | .delete => .ok (db.deleteRollout rid)

/-! ## What a cluster is told -/

section Queries
variable (hashtextextended : Uuid → Uuid → Int) (db : Database) (cluster : Uuid)

def bucket (rid : Uuid) : Int := ((hashtextextended rid cluster).tmod 100 + 100).tmod 100

/-- A stage that ramps up reaches a cluster once its bucket is below the share of the ramp that has passed. -/
def rampReached (rid : Uuid) (stage : Stage) : Bool :=
  match stage.rampMinutes, stage.startedAt with
  | some ramp, some startedAt => bucket hashtextextended cluster rid * minutes ramp < 100 * (db.now - startedAt)
  | _, _ => true

def rollsOutTo (rid : Uuid) (stage : Stage) : Bool :=
  stage.rolloutId = rid && stage.status = .rolling &&
    (stage.groupId = allClusters || (stage.groupId, cluster) ∈ db.groupMembers) &&
    rampReached hashtextextended db cluster rid stage

def applies (rid : Uuid) (rollout : Rollout) : Bool :=
  (rollout.status = .rolling && db.stages.values.any (rollsOutTo hashtextextended db cluster rid)) ||
    ((rollout.status = .rolling || rollout.status = .paused) && (rid, cluster) ∈ db.deliveries)

-- With all of Mathlib in scope the order found on `Int` is its conditionally complete one, which does not compute.
local instance : Preorder DateTime := Int.instLinearOrder.toPreorder

def activeRolloutForCluster : Option (Σ _ : Uuid, Rollout) :=
  (db.rollouts.entries.filter fun entry => applies hashtextextended db cluster entry.1 entry.2).argmax
    fun entry => entry.2.createdAt

/-- `inserted` is whether the insert goes through; a failure is only logged. -/
def recordRolloutDelivery (inserted : Bool) (rid : Uuid) : Database :=
  if inserted ∧ cluster ∈ db.clusters ∧ (rid, cluster) ∉ db.deliveries then
    { db with deliveries := db.deliveries ++ [(rid, cluster)] }
  else db

def recordActive (inserted : Bool) : Database :=
  match activeRolloutForCluster hashtextextended db cluster with
  | some active => recordRolloutDelivery db cluster inserted active.1
  | none => db

/-- Versions that are dot-separated numbers compare part by part. -/
def versionParts (version : String) : Option (List Nat) :=
  (version.splitOn ".").mapM fun part => if part ≠ "" ∧ part.all Char.isDigit then part.toNat? else none

def latestVersion (versions : List String) : Option String :=
  (versions.foldl (fun (best : Option (String × List Nat)) version =>
    match best, versionParts version with
    | best, none => best
    | none, some parts => some (version, parts)
    | some best, some parts => if best.2 < parts then some (version, parts) else some best) none).map Prod.fst

def getUpdateTarget : Except HttpStatus (Option String) :=
  match (activeRolloutForCluster hashtextextended db cluster).bind fun active => active.2.targetVersion with
  | some version => .ok (some version)
  | none =>
      match db.clusters.lookup cluster with
      | none => .error .internalServerError
      | some row => .ok (row.pinnedVersion.or (latestVersion db.daemonVersions))

/-- `rolling` is what the CI API answers for the newest commit. -/
def getNixpkgsPin (rolling : Option String) : Except HttpStatus (Option String) :=
  match (activeRolloutForCluster hashtextextended db cluster).bind fun active => active.2.nixpkgsCommit with
  | some commit => .ok (some commit)
  | none =>
      match db.clusters.lookup cluster with
      | none => .error .internalServerError
      | some row => .ok (row.nixpkgsCommit.or rolling)

end Queries

/-! ## The server's steps -/

/-- `activeStages` is what the health-gate loop has read and not evaluated yet. -/
structure RolloutServer where
  db : Database
  activeStages : List Uuid

def tickStages (db : Database) : List Uuid :=
  (db.stages.entries.filter fun entry => entry.2.status = .rolling &&
    (db.rollouts.lookup entry.2.rolloutId).any fun rollout => rollout.status = .rolling).map Sigma.fst

def pauseStage (db : Database) (stageId : Uuid) : Database :=
  { db with stages := db.stages.update (fun id stage => id = stageId && stage.status = .rolling) fun stage =>
      { stage with status := .paused } }

/-- `evaluated` is the verdict of `evaluate_and_store` on the next stage of the loop, `none` without a gate; `tickFailed`
is a query error, which ends the tick. -/
inductive RolloutEvent where
  | clock (now : DateTime)
  | heartbeats (rows : List Heartbeat)
  | create (rid : Uuid) (targetVersion nixpkgsCommit : Option String) (rampMinutes : Option Nat)
      (stages : List (Uuid × Uuid))
  | route (action : RolloutAction) (rid : Uuid)
  | apply (action : RolloutAction) (rid : Uuid)
  | tick
  | evaluated (verdict : Option Bool)
  | tickFailed
  | getUpdateTarget (cluster : Uuid) (inserted : Bool)
  | getNixpkgsPin (cluster : Uuid) (inserted : Bool)

def afterRequest {ε : Type} (server : RolloutServer) : Except ε Database → RolloutServer
  | .ok db => { server with db }
  | .error _ => server

def rolloutStep (hashtextextended : Uuid → Uuid → Int) (server : RolloutServer) : RolloutEvent → Option RolloutServer
  | .clock now => some { server with db := { server.db with now } }
  | .heartbeats rows => some { server with db := { server.db with heartbeats := rows } }
  | .create rid targetVersion nixpkgsCommit rampMinutes stages => do
      let db ← server.db.createRollout rid targetVersion nixpkgsCommit rampMinutes stages
      some { server with db }
  | .route action rid => some (afterRequest server (adminRoute server.db rid action))
  | .apply action rid => some (afterRequest server (rolloutActionApply server.db rid action))
  | .tick => if server.activeStages = [] then some { server with activeStages := tickStages server.db } else none
  | .evaluated verdict =>
      match server.activeStages with
      | [] => none
      | stage :: later => some
          { db := if verdict = some false then pauseStage server.db stage else server.db, activeStages := later }
  | .tickFailed => some { server with activeStages := [] }
  | .getUpdateTarget cluster inserted => some
      { server with db := recordActive hashtextextended server.db cluster inserted }
  | .getNixpkgsPin cluster inserted => some
      { server with db := recordActive hashtextextended server.db cluster inserted }

/-! ## The ramp of a stage

The ramp condition of `active_rollout_for_cluster` in `server/src/api/routes.rs` with the arithmetic of the database: the
column `ramp_minutes` is an `int`, and so is its product with 60. The query fails where that product is out of range. -/

def rampSeconds (rampMinutes : Nat) : Option Nat :=
  if rampMinutes * 60 < 2 ^ 31 then some (rampMinutes * 60) else none

section
variable (hashtextextended : Uuid → Uuid → Int) (cluster rid : Uuid)

/-- `none` where the query fails. Both sides of the comparison are multiplied by the length of the ramp. -/
def rampEligible (rampMinutes : Nat) (startedAt now : DateTime) : Option Bool :=
  (rampSeconds rampMinutes).map fun seconds : Nat =>
    decide (bucket hashtextextended cluster rid * ((seconds : Int) * 1000000) < 100 * (now - startedAt))

def stageEligible (db : Database) (stage : Stage) : Option Bool :=
  match stage.rampMinutes, stage.startedAt with
  | some rampMinutes, some startedAt => rampEligible hashtextextended cluster rid rampMinutes startedAt db.now
  | _, _ => some true

end

/-! ## The downgrade check of a new rollout

The query of `admin_create_rollout` in `server/src/api/routes.rs` that names the clusters a rollout would take back to an
older version than their pin. The cast to `int[]` fails, and the query with it, on a number out of range. -/

def stringToArray (version : String) : List (List Char) := version.toList.splitOn '.'

/-- `version ~ '^[0-9]+(\.[0-9]+)*$'` -/
def isDotted (version : String) : Bool := (stringToArray version).all fun part => part ≠ [] && part.all Char.isDigit

def decimal (digits : List Char) : Nat := digits.foldl (fun value digit => 10 * value + (digit.toNat - 48)) 0

def castInt (digits : List Char) : Option Nat := if decimal digits < 2 ^ 31 then some (decimal digits) else none

def intArray (version : String) : Option (List Nat) := (stringToArray version).mapM castInt

/-- Whether a cluster with the pin is skipped; `none` where the cast fails. -/
def isSkipped (target pinned : String) : Option Bool :=
  if isDotted target && isDotted pinned then do
    let current ← intArray pinned
    let wanted ← intArray target
    some (wanted < current)
  else some false

def inGroups (db : Database) (groups : List Uuid) (cluster : Uuid) : Bool :=
  allClusters ∈ groups || groups.any fun group => (group, cluster) ∈ db.groupMembers

def skippedClusters (db : Database) (target : String) (groups : List Uuid) : Except HttpStatus (List Uuid) :=
  let pins := db.clusters.entries.filterMap fun entry => entry.2.pinnedVersion.map fun pinned => (entry.1, pinned)
  match pins.mapM fun pin => (isSkipped target pin.2).map fun skipped => (pin.1, skipped) with
  | none => .error .internalServerError
  | some checked => .ok ((checked.filter fun row => row.2 && inGroups db groups row.1).map Prod.fst)

end MacMgmt.Server
