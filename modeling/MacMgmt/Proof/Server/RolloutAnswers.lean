import MacMgmt.Proof.Server.RolloutStages
import Mathlib.Data.List.Dedup

/-!
# What a cluster is told never goes back

For one cluster and one of the two fields a rollout may carry, the steps of the server are seen through the rollouts'
standing, the deliveries to the cluster and its pin. A delivered rollout is either unfinished, and then it or a newer one
answers, or completed, and then the pin is its value or that of a newer one.
-/

namespace MacMgmt.Proof.Server
open Lib MacMgmt.Server

inductive Field where
  | version
  | nixpkgs
deriving DecidableEq

def carriedBy (rollout : Rollout) : Field → Option String
  | .version => rollout.targetVersion
  | .nixpkgs => rollout.nixpkgsCommit

def pinnedIn (cluster : Cluster) : Field → Option String
  | .version => cluster.pinnedVersion
  | .nixpkgs => cluster.nixpkgsCommit

def ask (cluster : Uuid) (inserted : Bool) : Field → RolloutEvent
  | .version => .getUpdateTarget cluster inserted
  | .nixpkgs => .getNixpkgsPin cluster inserted

def response (hash : Uuid → Uuid → Int) (db : Database) (cluster : Uuid) (rolling : Option String) :
    Field → Except HttpStatus (Option String)
  | .version => getUpdateTarget hash db cluster
  | .nixpkgs => getNixpkgsPin hash db cluster rolling

/-! ## The view of one cluster and field -/

structure Standing where
  status : RolloutStatus
  createdAt : DateTime
  carried : Option String

def standing (field : Field) (rollout : Rollout) : Standing :=
  { status := rollout.status, createdAt := rollout.createdAt, carried := carriedBy rollout field }

@[ext]
structure ClusterView where
  rollouts : Uuid → Option Standing
  targeted : Uuid → Prop
  delivered : Uuid → Prop
  known : Prop
  pin : Option String

def clusterView (db : Database) (cluster : Uuid) (field : Field) : ClusterView :=
  { rollouts := fun id => (db.rollouts.lookup id).map (standing field)
    targeted := fun id => cluster ∈ db.cohort id
    delivered := fun id => (id, cluster) ∈ db.deliveries
    known := cluster ∈ db.clusters
    pin := (db.clusters.lookup cluster).bind fun row => pinnedIn row field }

namespace ClusterView
variable (view : ClusterView)

/-- The rollout is older than a completed one that the cluster was told about. -/
def Overtaken (id : Uuid) : Prop :=
  ∃ other newer older, view.rollouts other = some newer ∧ newer.status = .completed ∧ view.delivered other ∧
    newer.carried.isSome ∧ view.rollouts id = some older ∧ older.carried.isSome ∧ view.targeted id ∧
    older.createdAt < newer.createdAt

/-- The cluster was told about the rollout while an older one still applies to it. -/
def Overtakes (id : Uuid) : Prop :=
  ∃ other older newer, view.rollouts id = some newer ∧ view.delivered id ∧ newer.carried.isSome ∧
    view.rollouts other = some older ∧ RolloutStatus.active older.status ∧ older.carried.isSome ∧ view.targeted other ∧
    older.createdAt < newer.createdAt

/-- The cluster was told about the rollout and is not pinned to what it carries. -/
def Unpinned (id : Uuid) : Prop :=
  ∃ entry, view.rollouts id = some entry ∧ view.delivered id ∧ entry.carried.isSome ∧ view.pin ≠ entry.carried

def AtLeast (since : DateTime) (value answer : String) : Prop :=
  answer = value ∨ ∃ id newer, view.rollouts id = some newer ∧ since < newer.createdAt ∧ newer.carried = some answer

end ClusterView

structure Steady (view : ClusterView) : Prop where
  present : ∀ id, view.delivered id → view.known ∧ view.targeted id ∧ (view.rollouts id).isSome
  begun : ∀ id entry, view.rollouts id = some entry → view.delivered id →
    RolloutStatus.active entry.status ∨ entry.status = .completed
  apart : ∀ a b first second, view.rollouts a = some first → view.rollouts b = some second →
    first.createdAt = second.createdAt → a = b
  settled : ∀ id entry value, view.rollouts id = some entry → entry.status = .completed → view.delivered id →
    entry.carried = some value → ∃ pin, view.pin = some pin ∧ view.AtLeast entry.createdAt value pin
  newest : ∀ id entry other older, view.rollouts id = some entry → entry.status = .completed → view.delivered id →
    entry.carried.isSome → view.rollouts other = some older → older.carried.isSome → view.targeted other →
    older.createdAt < entry.createdAt → ¬ RolloutStatus.active older.status

/-- One rollout is given a status; nothing is created or delivered. -/
structure Restated (view after : ClusterView) (id : Uuid) (status : RolloutStatus) : Prop where
  rollouts : ∀ other, after.rollouts other = if other = id
    then (view.rollouts id).map fun entry => { entry with status } else view.rollouts other
  targeted : after.targeted = view.targeted
  delivered : after.delivered = view.delivered
  known : after.known = view.known

/-- What one step does to the view. The guards are those `NeverOlder` asks for. -/
inductive ViewChange (view after : ClusterView) : Prop where
  | same (equal : after = view)
  | created {id : Uuid} {entry : Standing} (fresh : view.rollouts id = none) (pending : entry.status = .pending)
      (newest : ∀ other older, view.rollouts other = some older → older.createdAt < entry.createdAt)
      (rollouts : ∀ other, after.rollouts other = if other = id then some entry else view.rollouts other)
      (targeted : ∀ other, other ≠ id → (after.targeted other ↔ view.targeted other))
      (delivered : after.delivered = view.delivered) (known : after.known = view.known) (pin : after.pin = view.pin)
  | moved {id : Uuid} {status : RolloutStatus} (active : RolloutStatus.active status) (allowed : ¬ view.Overtaken id)
      (restated : Restated view after id status) (pin : after.pin = view.pin)
  | completed {id : Uuid} {entry : Standing} (found : view.rollouts id = some entry) (allowed : ¬ view.Overtaken id)
      (last : ¬ view.Overtakes id) (restated : Restated view after id .completed)
      (pinned : view.known → view.targeted id → after.pin = entry.carried.or view.pin)
      (unpinned : ¬ view.targeted id → after.pin = view.pin)
  | advancedPast {id : Uuid} (last : ¬ view.Overtakes id) (pinned : ¬ view.Unpinned id)
      (restated : Restated view after id .completed) (pin : after.pin = view.pin)
  | recorded {id : Uuid} {entry : Standing} (found : view.rollouts id = some entry)
      (active : RolloutStatus.active entry.status) (known : view.known) (aimed : view.targeted id)
      (rollouts : after.rollouts = view.rollouts) (targeted : after.targeted = view.targeted)
      (delivered : ∀ other, after.delivered other ↔ view.delivered other ∨ other = id)
      (stillKnown : after.known = view.known) (pin : after.pin = view.pin)

theorem Restated.entry {view after : ClusterView} {id : Uuid} {status : RolloutStatus}
    (restated : Restated view after id status) {other : Uuid} {entry : Standing} (found : after.rollouts other = some entry) :
    ∃ old, view.rollouts other = some old ∧ entry.createdAt = old.createdAt ∧ entry.carried = old.carried ∧
      (other = id ∧ entry.status = status ∨ other ≠ id ∧ entry = old) := by
  rw [restated.rollouts] at found
  split at found
  · rename_i same
    obtain ⟨old, was, rfl⟩ := Option.map_eq_some_iff.mp found
    exact ⟨old, same ▸ was, rfl, rfl, .inl ⟨same, rfl⟩⟩
  · rename_i different
    exact ⟨entry, found, rfl, rfl, .inr ⟨different, rfl⟩⟩

theorem Restated.kept {view after : ClusterView} {id : Uuid} {status : RolloutStatus}
    (restated : Restated view after id status) {other : Uuid} {entry : Standing} (found : view.rollouts other = some entry) :
    ∃ new, after.rollouts other = some new ∧ new.createdAt = entry.createdAt ∧ new.carried = entry.carried := by
  rw [restated.rollouts]
  split
  · rename_i same
    subst same
    exact ⟨{ entry with status }, by rw [found]; rfl, rfl, rfl⟩
  · exact ⟨entry, found, rfl, rfl⟩

theorem Restated.atLeast {view after : ClusterView} {id : Uuid} {status : RolloutStatus}
    (restated : Restated view after id status) {since : DateTime} {value answer : String}
    (atLeast : view.AtLeast since value answer) : after.AtLeast since value answer := by
  rcases atLeast with same | ⟨other, newer, found, later, carried⟩
  · exact .inl same
  · obtain ⟨new, there, created, carries⟩ := restated.kept found
    exact .inr ⟨other, new, there, created ▸ later, carries.trans carried⟩

theorem Steady.restated {view after : ClusterView} {id : Uuid} {status : RolloutStatus} (steady : Steady view)
    (restated : Restated view after id status)
    (allowed : RolloutStatus.active status ∧ ¬ view.Overtaken id ∨ status = .completed ∧ ¬ view.Overtakes id)
    (settled : ∀ other entry value, view.rollouts other = some entry → view.delivered other →
      (other = id ∧ status = .completed ∨ other ≠ id ∧ entry.status = .completed) → entry.carried = some value →
      ∃ pin, after.pin = some pin ∧ view.AtLeast entry.createdAt value pin) : Steady after := by
  constructor
  · intro other delivered
    rw [restated.delivered] at delivered
    obtain ⟨known, targeted, there⟩ := steady.present other delivered
    obtain ⟨entry, found⟩ := Option.isSome_iff_exists.mp there
    obtain ⟨new, now_, -, -⟩ := restated.kept found
    rw [restated.known, restated.targeted, now_]
    exact ⟨known, targeted, rfl⟩
  · intro other entry found delivered
    rw [restated.delivered] at delivered
    obtain ⟨old, was, -, -, ⟨-, became⟩ | ⟨-, rfl⟩⟩ := restated.entry found
    · rcases allowed with ⟨active, -⟩ | ⟨done, -⟩
      · exact .inl (became ▸ active)
      · exact .inr (became.trans done)
    · exact steady.begun other entry was delivered
  · intro a b first second foundA foundB same
    obtain ⟨oldA, wasA, createdA, -, -⟩ := restated.entry foundA
    obtain ⟨oldB, wasB, createdB, -, -⟩ := restated.entry foundB
    exact steady.apart a b oldA oldB wasA wasB (createdA ▸ createdB ▸ same)
  · intro other entry value found done delivered carried
    rw [restated.delivered] at delivered
    obtain ⟨old, was, created, carries, place⟩ := restated.entry found
    have applies : other = id ∧ status = .completed ∨ other ≠ id ∧ old.status = .completed := by
      rcases place with ⟨same, became⟩ | ⟨different, rfl⟩
      · exact .inl ⟨same, became ▸ done⟩
      · exact .inr ⟨different, done⟩
    obtain ⟨pin, pinned, atLeast⟩ := settled other old value was delivered applies (carries ▸ carried)
    rw [created]
    exact ⟨pin, pinned, restated.atLeast atLeast⟩
  · intro other entry another older found done delivered carries foundOlder carriesOlder targeted before active
    rw [restated.delivered] at delivered
    rw [restated.targeted] at targeted
    obtain ⟨old, was, created, carried, place⟩ := restated.entry found
    obtain ⟨oldOlder, wasOlder, createdOlder, carriedOlder, placeOlder⟩ := restated.entry foundOlder
    rw [created, createdOlder] at before
    rw [carried] at carries
    rw [carriedOlder] at carriesOlder
    rcases place with ⟨rfl, became⟩ | ⟨-, rfl⟩
    · -- the completed one is the one that was given the status
      rcases placeOlder with ⟨rfl, -⟩ | ⟨-, rfl⟩
      · rw [was] at wasOlder
        cases wasOlder
        exact lt_irrefl _ before
      · rcases allowed with ⟨active', -⟩ | ⟨-, last⟩
        · rw [← became, done] at active'
          rcases active' with same | same <;> cases same
        · exact last ⟨another, older, old, was, delivered, carries, wasOlder, active, carriesOlder, targeted, before⟩
    · rcases placeOlder with ⟨rfl, became⟩ | ⟨-, rfl⟩
      · rcases allowed with ⟨-, free⟩ | ⟨finished, -⟩
        · exact free ⟨other, entry, oldOlder, was, done, delivered, carries, wasOlder, carriesOlder, targeted, before⟩
        · rw [became, finished] at active
          rcases active with same | same <;> cases same
      · exact steady.newest other entry another older was done delivered carries wasOlder carriesOlder targeted before active

theorem Steady.created {view after : ClusterView} {id : Uuid} {entry : Standing} (steady : Steady view)
    (fresh : view.rollouts id = none) (pending : entry.status = .pending)
    (newest : ∀ other older, view.rollouts other = some older → older.createdAt < entry.createdAt)
    (rollouts : ∀ other, after.rollouts other = if other = id then some entry else view.rollouts other)
    (targeted : ∀ other, other ≠ id → (after.targeted other ↔ view.targeted other))
    (delivered : after.delivered = view.delivered) (known : after.known = view.known) (pin : after.pin = view.pin) :
    Steady after := by
  have split : ∀ other new, after.rollouts other = some new →
      other = id ∧ new = entry ∨ other ≠ id ∧ view.rollouts other = some new := by
    intro other new found
    rw [rollouts] at found
    split at found
    · rename_i same
      cases found
      exact .inl ⟨same, rfl⟩
    · rename_i different
      exact .inr ⟨different, found⟩
  have old : ∀ other, view.delivered other → other ≠ id := by
    rintro other delivered rfl
    have there := (steady.present other delivered).2.2
    rw [fresh] at there
    cases there
  constructor
  · intro other told
    rw [delivered] at told
    obtain ⟨wasKnown, wasTargeted, there⟩ := steady.present other told
    rw [known, targeted other (old other told), rollouts, if_neg (old other told)]
    exact ⟨wasKnown, wasTargeted, there⟩
  · intro other new found told
    rw [delivered] at told
    rcases split other new found with ⟨same, -⟩ | ⟨-, was⟩
    · exact absurd same (old other told)
    · exact steady.begun other new was told
  · intro a b first second foundA foundB same
    rcases split a first foundA with ⟨rfl, rfl⟩ | ⟨-, wasA⟩
    · rcases split b second foundB with ⟨rfl, rfl⟩ | ⟨-, wasB⟩
      · rfl
      · exact absurd same (newest b second wasB).ne'
    · rcases split b second foundB with ⟨rfl, rfl⟩ | ⟨-, wasB⟩
      · exact absurd same (newest a first wasA).ne
      · exact steady.apart a b first second wasA wasB same
  · intro other new value found done told carried
    rw [delivered] at told
    rcases split other new found with ⟨same, -⟩ | ⟨-, was⟩
    · exact absurd same (old other told)
    · obtain ⟨kept, pinned, atLeast⟩ := steady.settled other new value was done told carried
      refine ⟨kept, pin.trans pinned, ?_⟩
      rcases atLeast with same | ⟨another, newer, there, later, carries⟩
      · exact .inl same
      · have different : another ≠ id := by
          rintro rfl
          rw [fresh] at there
          cases there
        exact .inr ⟨another, newer, by rw [rollouts, if_neg different]; exact there, later, carries⟩
  · intro other new another older found done told carries foundOlder carriesOlder aimed before
    rw [delivered] at told
    rcases split other new found with ⟨same, -⟩ | ⟨-, was⟩
    · exact absurd same (old other told)
    · rcases split another older foundOlder with ⟨-, rfl⟩ | ⟨different, wasOlder⟩
      · rw [pending]
        rintro (same | same) <;> cases same
      · rw [targeted another different] at aimed
        exact steady.newest other new another older was done told carries wasOlder carriesOlder aimed before

theorem Steady.recorded {view after : ClusterView} {id : Uuid} {entry : Standing} (steady : Steady view)
    (found : view.rollouts id = some entry) (active : RolloutStatus.active entry.status) (known : view.known)
    (aimed : view.targeted id) (rollouts : after.rollouts = view.rollouts) (targeted : after.targeted = view.targeted)
    (delivered : ∀ other, after.delivered other ↔ view.delivered other ∨ other = id)
    (stillKnown : after.known = view.known) (pin : after.pin = view.pin) : Steady after := by
  have unfinished : ∀ other new, view.rollouts other = some new → new.status = .completed → after.delivered other →
      view.delivered other := by
    intro other new was done told
    rcases (delivered other).mp told with told | rfl
    · exact told
    · rw [found] at was
      cases was
      rw [done] at active
      rcases active with same | same <;> cases same
  constructor
  · intro other told
    rw [stillKnown, targeted, rollouts]
    rcases (delivered other).mp told with told | rfl
    · exact steady.present other told
    · exact ⟨known, aimed, by rw [found]; rfl⟩
  · intro other new was told
    rw [rollouts] at was
    rcases (delivered other).mp told with told | rfl
    · exact steady.begun other new was told
    · rw [found] at was
      cases was
      exact .inl active
  · rw [rollouts]
    exact steady.apart
  · intro other new value was done told carried
    rw [rollouts] at was
    obtain ⟨kept, pinned, atLeast⟩ := steady.settled other new value was done (unfinished other new was done told) carried
    refine ⟨kept, pin.trans pinned, ?_⟩
    unfold ClusterView.AtLeast
    rw [rollouts]
    exact atLeast
  · intro other new another older was done told carries wasOlder carriesOlder aimed before
    rw [rollouts] at was wasOlder
    rw [targeted] at aimed
    exact steady.newest other new another older was done (unfinished other new was done told) carries wasOlder
      carriesOlder aimed before

theorem Steady.changed {view after : ClusterView} (steady : Steady view) (change : ViewChange view after) :
    Steady after := by
  cases change with
  | same equal => exact equal ▸ steady
  | created fresh pending newest rollouts targeted delivered known pin =>
      exact steady.created fresh pending newest rollouts targeted delivered known pin
  | moved active allowed restated pin =>
      apply steady.restated restated (.inl ⟨active, allowed⟩)
      intro other entry value found told place carried
      rcases place with ⟨-, done⟩ | ⟨-, done⟩
      · rw [done] at active
        rcases active with same | same <;> cases same
      · rw [pin]
        exact steady.settled other entry value found done told carried
  | @completed id entry found allowed last restated pinned unpinned =>
      apply steady.restated restated (.inr ⟨rfl, last⟩)
      intro other older value foundOther told place carried
      by_cases targeted : view.targeted id
      · have written := pinned (steady.present other told).1 targeted
        cases carries : entry.carried with
        | none =>
            rw [carries, Option.none_or] at written
            rcases place with ⟨rfl, -⟩ | ⟨-, done⟩
            · rw [found] at foundOther
              cases foundOther
              rw [carries] at carried
              cases carried
            · rw [written]
              exact steady.settled other older value foundOther done told carried
        | some new =>
            rw [carries, Option.some_or] at written
            refine ⟨new, written, ?_⟩
            rcases place with ⟨rfl, -⟩ | ⟨different, done⟩
            · rw [found] at foundOther
              cases foundOther
              rw [carries] at carried
              cases carried
              exact .inl rfl
            · -- an older rollout is not completed over a newer one
              have notOlder : ¬ entry.createdAt < older.createdAt := fun before => allowed
                ⟨other, older, entry, foundOther, done, told, by rw [carried]; rfl, found, by rw [carries]; rfl, targeted,
                  before⟩
              have notSame : older.createdAt ≠ entry.createdAt := fun same =>
                different (steady.apart other id older entry foundOther found same)
              exact .inr ⟨id, entry, found, lt_of_le_of_ne (not_lt.mp notOlder) notSame, carries⟩
      · rw [unpinned targeted]
        rcases place with ⟨rfl, -⟩ | ⟨-, done⟩
        · exact absurd (steady.present other told).2.1 targeted
        · exact steady.settled other older value foundOther done told carried
  | advancedPast last pinned restated pin =>
      apply steady.restated restated (.inr ⟨rfl, last⟩)
      intro other entry value found told place carried
      rw [pin]
      rcases place with ⟨rfl, -⟩ | ⟨-, done⟩
      · refine ⟨value, ?_, .inl rfl⟩
        by_contra wrong
        exact pinned ⟨entry, found, told, by rw [carried]; rfl, carried ▸ wrong⟩
      · exact steady.settled other entry value found done told carried
  | recorded found active known aimed rollouts targeted delivered stillKnown pin =>
      exact steady.recorded found active known aimed rollouts targeted delivered stillKnown pin

structure Told (view : ClusterView) (id : Uuid) (since : DateTime) (value : String) : Prop where
  entry : ∃ entry, view.rollouts id = some entry ∧ entry.createdAt = since ∧ entry.carried = some value
  delivered : view.delivered id

theorem Told.changed {view after : ClusterView} {id : Uuid} {since : DateTime} {value : String}
    (told : Told view id since value) (change : ViewChange view after) : Told after id since value := by
  obtain ⟨⟨entry, found, created, carried⟩, delivered⟩ := told
  have restate : ∀ {target status}, Restated view after target status → Told after id since value := by
    intro target status restated
    obtain ⟨new, there, same, carries⟩ := restated.kept found
    exact ⟨⟨new, there, same.trans created, carries.trans carried⟩, by rw [restated.delivered]; exact delivered⟩
  cases change with
  | same equal => exact equal ▸ ⟨⟨entry, found, created, carried⟩, delivered⟩
  | @created target row fresh pending newest rollouts targeted same known pin =>
      have different : id ≠ target := by
        rintro rfl
        rw [fresh] at found
        cases found
      refine ⟨⟨entry, ?_, created, carried⟩, by rw [same]; exact delivered⟩
      rw [rollouts, if_neg different]
      exact found
  | moved active allowed restated pin => exact restate restated
  | completed there allowed last restated pinned unpinned => exact restate restated
  | advancedPast last pinned restated pin => exact restate restated
  | recorded there active known aimed rollouts targeted recorded stillKnown pin =>
      exact ⟨⟨entry, by rw [rollouts]; exact found, created, carried⟩, (recorded id).mpr (.inl delivered)⟩

/-! ## The statements on the view -/

theorem mem_cohort {db : Database} {rid cluster : Uuid} : cluster ∈ db.cohort rid ↔
    ∃ id stage, db.stages.lookup id = some stage ∧ stage.rolloutId = rid ∧
      ((stage.groupId, cluster) ∈ db.groupMembers ∨ stage.groupId = allClusters ∧ cluster ∈ db.clusters) := by
  simp only [Database.cohort, List.mem_dedup, List.mem_flatMap, List.mem_filter, Table.mem_values, List.mem_append,
    List.mem_map, decide_eq_true_eq, Prod.exists, exists_eq_right]
  constructor
  · rintro ⟨stage, ⟨⟨id, found⟩, mine⟩, member | member⟩
    · exact ⟨id, stage, found, mine, .inl member⟩
    · split at member
      · rename_i all
        exact ⟨id, stage, found, mine, .inr ⟨all, AList.mem_keys.mp member⟩⟩
      · cases member
  · rintro ⟨id, stage, found, mine, member | ⟨all, known⟩⟩
    · exact ⟨stage, ⟨⟨id, found⟩, mine⟩, .inl member⟩
    · refine ⟨stage, ⟨⟨id, found⟩, mine⟩, .inr ?_⟩
      rw [if_pos all]
      exact AList.mem_keys.mpr known

/-- Which clusters a rollout targets and was delivered to stays. -/
structure KeepsAims (before after : Database) : Prop where
  cohort : ∀ rid cluster, cluster ∈ after.cohort rid ↔ cluster ∈ before.cohort rid
  deliveries : after.deliveries = before.deliveries
  clusters : ∀ id, id ∈ after.clusters ↔ id ∈ before.clusters

theorem KeepsAims.refl (db : Database) : KeepsAims db db := ⟨fun _ _ => Iff.rfl, rfl, fun _ => Iff.rfl⟩

theorem KeepsAims.trans {before middle after : Database} (first : KeepsAims before middle) (second : KeepsAims middle after) :
    KeepsAims before after where
  cohort rid cluster := (second.cohort rid cluster).trans (first.cohort rid cluster)
  deliveries := second.deliveries.trans first.deliveries
  clusters id := (second.clusters id).trans (first.clusters id)

theorem keepsAims_rollouts (db : Database) (rollouts : Table Uuid Rollout) : KeepsAims db { db with rollouts } :=
  ⟨fun _ _ => Iff.rfl, rfl, fun _ => Iff.rfl⟩

theorem keepsAims_stages (db : Database) (selects : Uuid → Stage → Bool) (change : Stage → Stage)
    (kept : ∀ old, (change old).rolloutId = old.rolloutId ∧ (change old).groupId = old.groupId) :
    KeepsAims db { db with stages := db.stages.update selects change } := by
  refine ⟨fun rid cluster => ?_, rfl, fun _ => Iff.rfl⟩
  have same : ∀ id old, (if selects id old then change old else old).rolloutId = old.rolloutId ∧
      (if selects id old then change old else old).groupId = old.groupId := by
    intro id old
    split
    · exact kept old
    · exact ⟨rfl, rfl⟩
  rw [mem_cohort, mem_cohort]
  constructor
  · rintro ⟨id, stage, found, mine, member⟩
    obtain ⟨old, was, rfl⟩ := Table.lookup_update_some.mp found
    rw [(same id old).1] at mine
    rw [(same id old).2] at member
    exact ⟨id, old, was, mine, member⟩
  · rintro ⟨id, stage, found, mine, member⟩
    refine ⟨id, _, Table.lookup_update_some.mpr ⟨stage, found, rfl⟩, (same id stage).1.trans mine, ?_⟩
    rw [(same id stage).2]
    exact member

theorem keepsAims_clusters (db : Database) (selects : Uuid → Cluster → Bool) (change : Cluster → Cluster) :
    KeepsAims db { db with clusters := db.clusters.update selects change } := by
  refine ⟨fun rid cluster => ?_, rfl, fun _ => Table.mem_update⟩
  simp only [mem_cohort, Table.mem_update]

section Statements
variable (db : Database) (target cluster : Uuid) (field : Field)

theorem rollouts_update (change : Rollout → Rollout) (status : RolloutStatus)
    (restates : ∀ old, standing field (change old) = { standing field old with status }) (other : Uuid) :
    (clusterView { db with rollouts := db.rollouts.update (fun id _ => id = target) change } cluster field).rollouts other =
      if other = target then ((clusterView db cluster field).rollouts target).map fun entry => { entry with status }
        else (clusterView db cluster field).rollouts other := by
  simp only [clusterView, Table.lookup_update, Option.map_map]
  by_cases same : other = target
  · subst same
    simp [Function.comp_def, restates]
  · simp [same, Function.comp_def]

theorem rollouts_setStatus (status : RolloutStatus) (other : Uuid) :
    (clusterView (db.setStatus target status) cluster field).rollouts other = if other = target
      then ((clusterView db cluster field).rollouts target).map fun entry => { entry with status }
      else (clusterView db cluster field).rollouts other :=
  rollouts_update db target cluster field _ status (fun _ => by cases field <;> rfl) other

theorem rollouts_setRollingWithBaseline (baseline : Option String × Option String) (other : Uuid) :
    (clusterView (db.setRollingWithBaseline target baseline) cluster field).rollouts other = if other = target
      then ((clusterView db cluster field).rollouts target).map fun entry => { entry with status := .rolling }
      else (clusterView db cluster field).rollouts other :=
  rollouts_update db target cluster field _ .rolling (fun _ => by cases field <;> rfl) other

theorem rollouts_touch :
    (clusterView (db.touch target) cluster field).rollouts = (clusterView db cluster field).rollouts := by
  funext other
  simp only [clusterView, Database.touch, Table.lookup_update, Option.map_map]
  congr 1
  funext rollout
  by_cases same : other = target <;> cases field <;> simp [standing, carriedBy, same]

end Statements

theorem KeepsAims.restated {before after : Database} {target cluster : Uuid} {field : Field} {status : RolloutStatus}
    (aims : KeepsAims before after)
    (rollouts : ∀ other, (clusterView after cluster field).rollouts other = if other = target
      then ((clusterView before cluster field).rollouts target).map fun entry => { entry with status }
      else (clusterView before cluster field).rollouts other) :
    Restated (clusterView before cluster field) (clusterView after cluster field) target status where
  rollouts := rollouts
  targeted := funext fun rid => propext (aims.cohort rid cluster)
  delivered := by simp only [clusterView, aims.deliveries]
  known := propext (aims.clusters cluster)

theorem KeepsAims.view_eq {before after : Database} {cluster : Uuid} {field : Field} (aims : KeepsAims before after)
    (rollouts : (clusterView after cluster field).rollouts = (clusterView before cluster field).rollouts)
    (clusters : after.clusters = before.clusters) : clusterView after cluster field = clusterView before cluster field := by
  ext1
  · exact rollouts
  · exact funext fun rid => propext (aims.cohort rid cluster)
  · simp only [clusterView, aims.deliveries]
  · exact propext (aims.clusters cluster)
  · simp only [clusterView, clusters]

/-! ## The rollout that applies -/

section Active
variable {hash : Uuid → Uuid → Int} {db : Database} {cluster : Uuid}

theorem active_some {id : Uuid} {rollout : Rollout} (active : activeRolloutForCluster hash db cluster = some ⟨id, rollout⟩) :
    db.rollouts.lookup id = some rollout ∧ applies hash db cluster id rollout = true ∧
      ∀ other row, db.rollouts.lookup other = some row → applies hash db cluster other row = true →
        row.createdAt ≤ rollout.createdAt := by
  have member := List.argmax_mem (Option.mem_def.mpr active)
  obtain ⟨there, holds⟩ := List.mem_filter.mp member
  refine ⟨AList.mem_lookup_iff.mpr there, holds, fun other row found applied => ?_⟩
  have inside : (⟨other, row⟩ : Σ _ : Uuid, Rollout) ∈
      db.rollouts.entries.filter fun entry => applies hash db cluster entry.1 entry.2 :=
    List.mem_filter.mpr ⟨AList.mem_lookup_iff.mp found, applied⟩
  have bound := List.le_of_mem_argmax inside (Option.mem_def.mpr active)
  exact bound

theorem active_none (active : activeRolloutForCluster hash db cluster = none) {id : Uuid} {rollout : Rollout}
    (found : db.rollouts.lookup id = some rollout) : applies hash db cluster id rollout = false := by
  have empty := List.argmax_eq_none.mp active
  rw [List.filter_eq_nil_iff] at empty
  have holds := empty ⟨id, rollout⟩ (AList.mem_lookup_iff.mp found)
  simpa using holds

theorem applies_status {id : Uuid} {rollout : Rollout} (applied : applies hash db cluster id rollout = true) :
    RolloutStatus.active rollout.status := by
  simp only [applies, Bool.or_eq_true, Bool.and_eq_true, decide_eq_true_eq] at applied
  rcases applied with ⟨rolling, -⟩ | ⟨either, -⟩
  · exact .inl rolling
  · exact either

theorem applies_targets {id : Uuid} {rollout : Rollout} (applied : applies hash db cluster id rollout = true)
    (known : cluster ∈ db.clusters) : cluster ∈ db.cohort id ∨ (id, cluster) ∈ db.deliveries := by
  simp only [applies, Bool.or_eq_true, Bool.and_eq_true, decide_eq_true_eq, List.any_eq_true, Table.mem_values] at applied
  rcases applied with ⟨-, stage, ⟨stageId, found⟩, rolls⟩ | ⟨-, delivered⟩
  · simp only [rollsOutTo, Bool.and_eq_true, Bool.or_eq_true, decide_eq_true_eq] at rolls
    refine .inl (mem_cohort.mpr ⟨stageId, stage, found, rolls.1.1.1, ?_⟩)
    rcases rolls.1.2 with all | member
    · exact .inr ⟨all, known⟩
    · exact .inl member
  · exact .inr delivered

theorem applies_of_delivered {id : Uuid} {rollout : Rollout} (active : RolloutStatus.active rollout.status)
    (delivered : (id, cluster) ∈ db.deliveries) : applies hash db cluster id rollout = true := by
  simp only [applies, Bool.or_eq_true, Bool.and_eq_true, decide_eq_true_eq]
  exact .inr ⟨active, delivered⟩

end Active

/-! ## The steps -/

def LastStage (db : Database) (id : Uuid) : Prop :=
  ∃ current, db.rollingStageOrder id = some current ∧
    (db.completeStage id current).stages.tally (Database.atOrder id (current + 1)) = 0

/-- The rollout that answers carries the field if an unfinished rollout that the cluster was told about does. -/
def Unshadowed (hash : Uuid → Uuid → Int) (db : Database) (cluster : Uuid) (field : Field) : Prop :=
  ∀ active, activeRolloutForCluster hash db cluster = some active → carriedBy active.2 field = none →
    ∀ id rollout, db.rollouts.lookup id = some rollout → RolloutStatus.active rollout.status →
      (id, cluster) ∈ db.deliveries → carriedBy rollout field = none

def OrderlyAction (db : Database) (cluster : Uuid) (field : Field) (id : Uuid) : RolloutAction → Prop
  | .start | .pause | .resume => ¬ (clusterView db cluster field).Overtaken id
  | .complete => ¬ (clusterView db cluster field).Overtaken id ∧ ¬ (clusterView db cluster field).Overtakes id
  | .advance => LastStage db id →
      ¬ (clusterView db cluster field).Overtakes id ∧ ¬ (clusterView db cluster field).Unpinned id
  | .rollback | .delete => False

def NeverOlder (hash : Uuid → Uuid → Int) (cluster : Uuid) (field : Field) (server : RolloutServer) :
    RolloutEvent → Prop
  | .create _ _ _ _ _ => ∀ id rollout, server.db.rollouts.lookup id = some rollout → rollout.createdAt < server.db.now
  | .route action id | .apply action id => OrderlyAction server.db cluster field id action
  | .getUpdateTarget asking inserted => asking = cluster → field = .version →
      inserted = true ∧ Unshadowed hash server.db cluster field
  | .getNixpkgsPin asking inserted => asking = cluster → field = .nixpkgs →
      inserted = true ∧ Unshadowed hash server.db cluster field
  | _ => True

section Actions
variable {db : Database} {id cluster : Uuid} {field : Field}

theorem keepsAims_startStage (db : Database) (id : Uuid) (order : Int) : KeepsAims db (db.startStage id order) :=
  keepsAims_stages db _ _ fun _ => ⟨rfl, rfl⟩

theorem keepsAims_completeStage (db : Database) (id : Uuid) (order : Int) : KeepsAims db (db.completeStage id order) :=
  keepsAims_stages db _ _ fun _ => ⟨rfl, rfl⟩

theorem keepsAims_moveStages (db : Database) (id : Uuid) (old new : RolloutStatus) :
    KeepsAims db (db.moveStages id old new) :=
  keepsAims_stages db _ _ fun _ => ⟨rfl, rfl⟩

theorem keepsAims_completeStages (db : Database) (id : Uuid) : KeepsAims db (db.completeStages id) :=
  keepsAims_stages db _ _ fun _ => ⟨rfl, rfl⟩

theorem view_started (allowed : ¬ (clusterView db cluster field).Overtaken id) :
    ViewChange (clusterView db cluster field)
      (clusterView ((db.setStatus id .rolling).startStage id 0) cluster field) :=
  .moved (.inl rfl) allowed (((keepsAims_rollouts db _).trans (keepsAims_startStage _ id 0)).restated
    (rollouts_setStatus db id cluster field .rolling)) rfl

theorem view_startedWithBaseline (allowed : ¬ (clusterView db cluster field).Overtaken id)
    (baseline : Option String × Option String) :
    ViewChange (clusterView db cluster field)
      (clusterView ((db.setRollingWithBaseline id baseline).startStage id 0) cluster field) :=
  .moved (.inl rfl) allowed (((keepsAims_rollouts db _).trans (keepsAims_startStage _ id 0)).restated
    (rollouts_setRollingWithBaseline db id cluster field baseline)) rfl

theorem view_moved {old new : RolloutStatus} (active : RolloutStatus.active new)
    (allowed : ¬ (clusterView db cluster field).Overtaken id) :
    ViewChange (clusterView db cluster field)
      (clusterView ((db.moveStages id old new).setStatus id new) cluster field) :=
  .moved active allowed (((keepsAims_moveStages db id old new).trans (keepsAims_rollouts _ _)).restated
    (rollouts_setStatus (db.moveStages id old new) id cluster field new)) rfl

theorem view_advanced (current : Int) :
    clusterView (((db.completeStage id current).startStage id (current + 1)).touch id) cluster field =
      clusterView db cluster field := by
  refine KeepsAims.view_eq ?_ (rollouts_touch _ id cluster field) rfl
  exact (keepsAims_completeStage db id current).trans
    ((keepsAims_startStage _ id (current + 1)).trans (keepsAims_rollouts _ _))

theorem view_advancedPast {current : Int} {after : Database}
    (allowed : ¬ (clusterView db cluster field).Overtakes id ∧ ¬ (clusterView db cluster field).Unpinned id)
    (aims : KeepsAims (((db.completeStage id current).startStage id (current + 1)).setStatus id .completed) after)
    (rollouts : (clusterView after cluster field).rollouts = (clusterView
      (((db.completeStage id current).startStage id (current + 1)).setStatus id .completed) cluster field).rollouts)
    (clusters : after.clusters = db.clusters) :
    ViewChange (clusterView db cluster field) (clusterView after cluster field) := by
  have whole : KeepsAims db after := (keepsAims_completeStage db id current).trans
    ((keepsAims_startStage _ id (current + 1)).trans ((keepsAims_rollouts _ _).trans aims))
  refine .advancedPast allowed.1 allowed.2 (whole.restated fun other => ?_) ?_
  · rw [rollouts]
    exact rollouts_setStatus _ id cluster field .completed other
  · simp only [clusterView, clusters]

def pinCompleted (db : Database) (id : Uuid) (rollout : Rollout) : Database :=
  let completed := (db.completeStages id).setStatus id .completed
  let pinned := match rollout.targetVersion with
    | some version => completed.pinVersion id version
    | none => completed
  match rollout.nixpkgsCommit with
    | some commit => pinned.pinNixpkgs id commit
    | none => pinned

theorem keepsAims_completed (db : Database) (id : Uuid) :
    KeepsAims db ((db.completeStages id).setStatus id .completed) :=
  (keepsAims_completeStages db id).trans (keepsAims_rollouts _ _)

theorem keepsAims_pinVersion (db : Database) (id : Uuid) (version : String) : KeepsAims db (db.pinVersion id version) :=
  keepsAims_clusters db _ _

theorem keepsAims_pinNixpkgs (db : Database) (id : Uuid) (commit : String) : KeepsAims db (db.pinNixpkgs id commit) :=
  keepsAims_clusters db _ _

theorem pin_pinVersion (version : String) : (clusterView (db.pinVersion id version) cluster field).pin =
    if cluster ∈ db.cohort id ∧ cluster ∈ db.clusters ∧ field = .version then some version
      else (clusterView db cluster field).pin := by
  simp only [clusterView, Database.pinVersion, Table.lookup_update, ← AList.lookup_isSome]
  cases db.clusters.lookup cluster with
  | none => simp
  | some row => by_cases targeted : cluster ∈ db.cohort id <;> cases field <;> simp [pinnedIn, targeted]

theorem pin_pinNixpkgs (commit : String) : (clusterView (db.pinNixpkgs id commit) cluster field).pin =
    if cluster ∈ db.cohort id ∧ cluster ∈ db.clusters ∧ field = .nixpkgs then some commit
      else (clusterView db cluster field).pin := by
  simp only [clusterView, Database.pinNixpkgs, Table.lookup_update, ← AList.lookup_isSome]
  cases db.clusters.lookup cluster with
  | none => simp
  | some row => by_cases targeted : cluster ∈ db.cohort id <;> cases field <;> simp [pinnedIn, targeted]

theorem keepsAims_pinCompleted (db : Database) (id : Uuid) (rollout : Rollout) :
    KeepsAims db (pinCompleted db id rollout) := by
  have completed := keepsAims_completed db id
  unfold pinCompleted
  cases rollout.targetVersion with
  | none =>
      cases rollout.nixpkgsCommit with
      | none => exact completed
      | some commit => exact completed.trans (keepsAims_pinNixpkgs _ id commit)
  | some version =>
      have pinned := completed.trans (keepsAims_pinVersion _ id version)
      cases rollout.nixpkgsCommit with
      | none => exact pinned
      | some commit => exact pinned.trans (keepsAims_pinNixpkgs _ id commit)

theorem pin_pinCompleted (rollout : Rollout) : (clusterView (pinCompleted db id rollout) cluster field).pin =
    if cluster ∈ db.cohort id ∧ cluster ∈ db.clusters
      then (carriedBy rollout field).or (clusterView db cluster field).pin
      else (clusterView db cluster field).pin := by
  have completed := keepsAims_completed db id
  have unpinned : (clusterView ((db.completeStages id).setStatus id .completed) cluster field).pin =
      (clusterView db cluster field).pin := rfl
  unfold pinCompleted
  cases version : rollout.targetVersion with
  | none =>
      cases commit : rollout.nixpkgsCommit with
      | none => cases field <;> simp [unpinned, carriedBy, version, commit]
      | some commit' =>
          simp only [pin_pinNixpkgs, completed.cohort, completed.clusters, unpinned]
          cases field <;> simp [carriedBy, version, commit]
  | some version' =>
      have pinned := completed.trans (keepsAims_pinVersion _ id version')
      cases commit : rollout.nixpkgsCommit with
      | none =>
          simp only [pin_pinVersion, completed.cohort, completed.clusters, unpinned]
          cases field <;> simp [carriedBy, version, commit]
      | some commit' =>
          simp only [pin_pinNixpkgs, pinned.cohort, pinned.clusters, pin_pinVersion, completed.cohort,
            completed.clusters, unpinned]
          cases field <;> simp [carriedBy, version, commit]

theorem view_completed {rollout : Rollout} (found : db.rollouts.lookup id = some rollout)
    (allowed : ¬ (clusterView db cluster field).Overtaken id ∧ ¬ (clusterView db cluster field).Overtakes id) :
    ViewChange (clusterView db cluster field) (clusterView (pinCompleted db id rollout) cluster field) := by
  have there : (clusterView db cluster field).rollouts id = some (standing field rollout) := by simp [clusterView, found]
  have rollouts : (clusterView (pinCompleted db id rollout) cluster field).rollouts =
      (clusterView ((db.completeStages id).setStatus id .completed) cluster field).rollouts := by
    unfold pinCompleted
    cases rollout.targetVersion <;> cases rollout.nixpkgsCommit <;> rfl
  refine .completed there allowed.1 allowed.2 ((keepsAims_pinCompleted db id rollout).restated fun other => ?_)
    (fun known targeted => ?_) (fun untargeted => ?_)
  · rw [rollouts]
    exact rollouts_setStatus _ id cluster field .completed other
  · rw [pin_pinCompleted, if_pos ⟨targeted, known⟩]
    rfl
  · rw [pin_pinCompleted, if_neg fun both => untargeted both.1]

theorem view_advance {current : Int} (found : db.rollingStageOrder id = some current)
    (orderly : OrderlyAction db cluster field id .advance)
    {past next : Database}
    (pastIs : past = ((db.completeStage id current).startStage id (current + 1)).setStatus id .completed ∨
      past = (((db.completeStage id current).startStage id (current + 1)).setStatus id .completed).touch id)
    (nextIs : next = ((db.completeStage id current).startStage id (current + 1)).touch id) :
    ViewChange (clusterView db cluster field) (clusterView
      (if (db.completeStage id current).stages.tally (Database.atOrder id (current + 1)) = 0 then past else next)
      cluster field) := by
  split
  · rename_i last
    have allowed := orderly ⟨current, found, last⟩
    rcases pastIs with rfl | rfl
    · exact view_advancedPast allowed (.refl _) rfl rfl
    · exact view_advancedPast allowed (keepsAims_rollouts _ _) (rollouts_touch _ id cluster field) rfl
  · rw [nextIs, view_advanced]
    exact .same rfl

end Actions

theorem route_view {server : RolloutServer} {id cluster : Uuid} {field : Field} (action : RolloutAction)
    (orderly : OrderlyAction server.db cluster field id action) :
    ViewChange (clusterView server.db cluster field)
      (clusterView (afterRequest server (adminRoute server.db id action)).db cluster field) := by
  cases action with
  | start =>
      dsimp only [adminRoute]
      unfold adminStartRollout
      split
      · exact .same rfl
      · split
        · exact .same rfl
        · exact view_started orderly
  | advance =>
      dsimp only [adminRoute]
      unfold adminAdvanceRollout
      split
      · exact .same rfl
      · rename_i current found
        have change := view_advance found orderly (.inr rfl) rfl
        dsimp only
        split at change
        · rename_i last
          rw [if_pos last]
          exact change
        · rename_i more
          rw [if_neg more]
          exact change
  | pause =>
      dsimp only [adminRoute]
      unfold adminPauseRollout
      split
      · exact .same rfl
      · exact view_moved (.inr rfl) orderly
  | resume =>
      dsimp only [adminRoute]
      unfold adminResumeRollout
      split
      · exact .same rfl
      · exact view_moved (.inl rfl) orderly
  | complete =>
      dsimp only [adminRoute]
      unfold adminCompleteRollout
      split
      · exact .same rfl
      · rename_i rollout found
        exact view_completed found orderly
  | rollback => exact orderly.elim
  | delete => exact orderly.elim

theorem apply_view {server : RolloutServer} {id cluster : Uuid} {field : Field} (action : RolloutAction)
    (orderly : OrderlyAction server.db cluster field id action) :
    ViewChange (clusterView server.db cluster field)
      (clusterView (afterRequest server (rolloutActionApply server.db id action)).db cluster field) := by
  cases action with
  | start => exact view_startedWithBaseline orderly _
  | advance =>
      dsimp only [rolloutActionApply]
      split
      · exact .same rfl
      · rename_i current found
        have change := view_advance found orderly (.inl rfl) rfl
        split at change
        · rename_i last
          rw [if_pos last]
          exact change
        · rename_i more
          rw [if_neg more]
          exact change
  | pause => exact view_moved (.inr rfl) orderly
  | resume => exact view_moved (.inl rfl) orderly
  | complete =>
      dsimp only [rolloutActionApply]
      split
      · exact .same rfl
      · rename_i rollout found
        exact view_completed found orderly
  | rollback => exact orderly.elim
  | delete => exact orderly.elim

theorem insertStages_keeps {target : Uuid} {ramp : Option Nat} {stages : List (Uuid × Uuid)} {order : Int}
    {before after : Database} (inserted : Database.insertStages target ramp stages order before = some after) :
    after.rollouts = before.rollouts ∧ after.deliveries = before.deliveries ∧ after.clusters = before.clusters ∧
      ∀ rid cluster, rid ≠ target → (cluster ∈ after.cohort rid ↔ cluster ∈ before.cohort rid) := by
  induction stages generalizing order before with
  | nil =>
      cases inserted
      exact ⟨rfl, rfl, rfl, fun _ _ _ => Iff.rfl⟩
  | cons stage stages ih =>
      unfold Database.insertStages at inserted
      split at inserted
      · cases inserted
      · rename_i fresh
        obtain ⟨rollouts, deliveries, clusters, cohort⟩ := ih inserted
        refine ⟨rollouts, deliveries, clusters, fun rid cluster different => (cohort rid cluster different).trans ?_⟩
        rw [mem_cohort, mem_cohort]
        constructor
        · rintro ⟨id, row, found, mine, member⟩
          rw [Table.lookup_insert_ite] at found
          split at found
          · cases found
            exact absurd mine.symm different
          · exact ⟨id, row, found, mine, member⟩
        · rintro ⟨id, row, found, mine, member⟩
          refine ⟨id, row, ?_, mine, member⟩
          rw [Table.lookup_insert_ite, if_neg]
          · exact found
          · rintro rfl
            exact fresh (AList.lookup_isSome.mp (by rw [found]; rfl))

theorem view_created {before after : Database} {target cluster : Uuid} {field : Field} {version commit : Option String}
    {ramp : Option Nat} {stages : List (Uuid × Uuid)}
    (later : ∀ id rollout, before.rollouts.lookup id = some rollout → rollout.createdAt < before.now)
    (created : before.createRollout target version commit ramp stages = some after) :
    ViewChange (clusterView before cluster field) (clusterView after cluster field) := by
  unfold Database.createRollout at created
  split at created
  · cases created
  · rename_i accepted
    have fresh : target ∉ before.rollouts := fun present => accepted (.inr (.inr present))
    obtain ⟨rollouts, deliveries, clusters, cohort⟩ := insertStages_keeps created
    have absent : (clusterView before cluster field).rollouts target = none := by
      simp [clusterView, AList.lookup_eq_none.mpr fresh]
    let row : Rollout :=
      { targetVersion := version, nixpkgsCommit := commit, status := .pending, createdAt := before.now
        updatedAt := before.now, baselineVersion := none, baselineNixpkgsCommit := none }
    refine @ViewChange.created _ _ target (standing field row) absent rfl ?_ (fun other => ?_) (fun other different => ?_)
      ?_ ?_ ?_
    · intro other older found
      obtain ⟨row, there, rfl⟩ := Option.map_eq_some_iff.mp found
      exact later other row there
    · simp only [clusterView, rollouts, Table.lookup_insert_ite]
      split <;> rfl
    · exact cohort other cluster different
    · simp only [clusterView, deliveries]
    · simp only [clusterView, clusters]
    · simp only [clusterView, clusters]

theorem view_recorded {hash : Uuid → Uuid → Int} {db : Database} {cluster : Uuid} {field : Field} (asking : Uuid)
    (inserted : Bool) : ViewChange (clusterView db cluster field)
      (clusterView (recordActive hash db asking inserted) cluster field) := by
  unfold recordActive
  split
  · rename_i active found
    obtain ⟨id, rollout⟩ := active
    obtain ⟨there, applied, -⟩ := active_some found
    unfold recordRolloutDelivery
    split
    · rename_i accepted
      obtain ⟨-, known, absent⟩ := accepted
      by_cases same : asking = cluster
      · subst same
        have targeted := (applies_targets applied known).resolve_right absent
        have row : (clusterView db asking field).rollouts id = some (standing field rollout) := by
          simp [clusterView, there]
        refine .recorded row (applies_status applied) known targeted rfl rfl (fun other => ?_) rfl rfl
        simp [clusterView]
      · apply ViewChange.same
        ext1
        · rfl
        · rfl
        · funext other
          simp [clusterView, Ne.symm same]
        · rfl
        · rfl
    · exact .same rfl
  · exact .same rfl

theorem viewChange_of_step {hash : Uuid → Uuid → Int} {cluster : Uuid} {field : Field} {server after : RolloutServer}
    {event : RolloutEvent} (orderly : NeverOlder hash cluster field server event)
    (stepped : rolloutStep hash server event = some after) :
    ViewChange (clusterView server.db cluster field) (clusterView after.db cluster field) := by
  cases event with
  | clock now =>
      cases stepped
      exact .same rfl
  | heartbeats rows =>
      cases stepped
      exact .same rfl
  | create target version commit ramp stages =>
      simp only [rolloutStep, Option.bind_eq_bind, Option.bind_eq_some_iff] at stepped
      obtain ⟨db, created, taken⟩ := stepped
      cases taken
      exact view_created orderly created
  | route action target =>
      cases stepped
      exact route_view action orderly
  | apply action target =>
      cases stepped
      exact apply_view action orderly
  | tick =>
      simp only [rolloutStep] at stepped
      split at stepped
      · cases stepped
        exact .same rfl
      · cases stepped
  | evaluated verdict =>
      simp only [rolloutStep] at stepped
      split at stepped
      · cases stepped
      · rename_i stage later _
        cases stepped
        dsimp only
        split
        · have aims : KeepsAims server.db (pauseStage server.db stage) :=
            keepsAims_stages server.db _ _ fun _ => ⟨rfl, rfl⟩
          exact .same (aims.view_eq rfl rfl)
        · exact .same rfl
  | tickFailed =>
      cases stepped
      exact .same rfl
  | getUpdateTarget asking inserted =>
      cases stepped
      exact view_recorded asking inserted
  | getNixpkgsPin asking inserted =>
      cases stepped
      exact view_recorded asking inserted

/-! ## Runs -/

def withoutRollouts (db : Database) : RolloutServer :=
  { db := { db with rollouts := ∅, stages := ∅, deliveries := [] }, activeStages := [] }

theorem steady_withoutRollouts (db : Database) (cluster : Uuid) (field : Field) :
    Steady (clusterView (withoutRollouts db).db cluster field) := by
  have empty : ∀ id, (clusterView (withoutRollouts db).db cluster field).rollouts id = none := fun _ => rfl
  have none_ : ∀ id, ¬ (clusterView (withoutRollouts db).db cluster field).delivered id := by
    intro id
    simp [clusterView, withoutRollouts]
  constructor
  · exact fun id delivered => absurd delivered (none_ id)
  · exact fun id entry found => nomatch (empty id).symm.trans found
  · exact fun a b first second found => nomatch (empty a).symm.trans found
  · exact fun id entry value found => nomatch (empty id).symm.trans found
  · exact fun id entry other older found => nomatch (empty id).symm.trans found

theorem response_eq (hash : Uuid → Uuid → Int) {db : Database} {cluster : Uuid} {row : Cluster}
    (known : db.clusters.lookup cluster = some row) (rolling : Option String) (field : Field) :
    ∃ fallback, response hash db cluster rolling field =
      .ok (((activeRolloutForCluster hash db cluster).bind fun active => carriedBy active.2 field).or
        ((pinnedIn row field).or fallback)) := by
  cases field with
  | version =>
      refine ⟨latestVersion db.daemonVersions, ?_⟩
      simp only [response, getUpdateTarget, carriedBy, pinnedIn, known]
      split
      · rename_i version carried
        rw [carried, Option.some_or]
      · rename_i missing
        rw [missing, Option.none_or]
  | nixpkgs =>
      refine ⟨rolling, ?_⟩
      simp only [response, getNixpkgsPin, carriedBy, pinnedIn, known]
      split
      · rename_i commit carried
        rw [carried, Option.some_or]
      · rename_i missing
        rw [missing, Option.none_or]

theorem Steady.answer {hash : Uuid → Uuid → Int} {db : Database} {cluster id : Uuid} {field : Field} {since : DateTime}
    {value : String} (steady : Steady (clusterView db cluster field))
    (told : Told (clusterView db cluster field) id since value) (unshadowed : Unshadowed hash db cluster field)
    (rolling : Option String) : ∃ answer, response hash db cluster rolling field = .ok (some answer) ∧
      (clusterView db cluster field).AtLeast since value answer := by
  obtain ⟨⟨entry, found, rfl, carried⟩, delivered⟩ := told
  obtain ⟨rollout, there, rfl⟩ := Option.map_eq_some_iff.mp found
  have knownHere : cluster ∈ db.clusters := (steady.present id delivered).1
  obtain ⟨row, known⟩ := Option.isSome_iff_exists.mp (AList.lookup_isSome.mpr knownHere)
  obtain ⟨fallback, answers⟩ := response_eq hash known rolling field
  rw [answers]
  -- the pin answers only for a completed rollout
  have pinAnswers : ∀ answering, answering = (activeRolloutForCluster hash db cluster).bind (fun active =>
      carriedBy active.2 field) → answering = none → rollout.status = .completed →
      ∃ answer, (Except.ok (answering.or ((pinnedIn row field).or fallback)) : Except HttpStatus (Option String)) =
        .ok (some answer) ∧ (clusterView db cluster field).AtLeast rollout.createdAt value answer := by
    intro answering _ silent done
    obtain ⟨pin, pinned, atLeast⟩ := steady.settled id _ value found done delivered carried
    have kept : pinnedIn row field = some pin := by simpa [clusterView, known] using pinned
    exact ⟨pin, by rw [silent, Option.none_or, kept, Option.some_or], atLeast⟩
  cases active : activeRolloutForCluster hash db cluster with
  | none =>
      rcases steady.begun id _ found delivered with active' | done
      · have applied : applies hash db cluster id rollout = true := applies_of_delivered active' delivered
        rw [active_none active there] at applied
        cases applied
      · exact pinAnswers _ (by rw [active]) rfl done
  | some answering =>
      obtain ⟨newest, answeringRow⟩ := answering
      obtain ⟨thereNewest, applied, most⟩ := active_some active
      have foundNewest : (clusterView db cluster field).rollouts newest = some (standing field answeringRow) := by
        simp [clusterView, thereNewest]
      cases carries : carriedBy answeringRow field with
      | none =>
          rcases steady.begun id _ found delivered with active' | done
          · have missing := unshadowed _ active carries id rollout there active' delivered
            exact absurd (carried.symm.trans missing) nofun
          · exact pinAnswers _ (by rw [active]) (by simpa using carries) done
      | some answer =>
          refine ⟨answer, by simp [carries], ?_⟩
          have notOlder : rollout.createdAt ≤ answeringRow.createdAt := by
            rcases steady.begun id _ found delivered with active' | done
            · exact most id rollout there (applies_of_delivered active' delivered)
            · have targeted : (clusterView db cluster field).targeted newest := by
                rcases applies_targets applied knownHere with aimed | earlier
                · exact aimed
                · exact (steady.present newest earlier).2.1
              by_contra older
              exact steady.newest id _ newest _ found done delivered (by rw [carried]; rfl) foundNewest
                (by simp [standing, carries]) targeted (not_le.mp older) (applies_status applied)
          rcases notOlder.lt_or_eq with later | same
          · exact .inr ⟨newest, _, foundNewest, later, carries⟩
          · obtain rfl := steady.apart id newest _ _ found foundNewest same
            rw [there] at thereNewest
            cases thereNewest
            exact .inl (Option.some.inj (carries.symm.trans carried))

theorem steady_step {hash : Uuid → Uuid → Int} {cluster : Uuid} {field : Field} {server after : RolloutServer}
    {event : RolloutEvent} (steady : Steady (clusterView server.db cluster field))
    (orderly : NeverOlder hash cluster field server event) (stepped : rolloutStep hash server event = some after) :
    Steady (clusterView after.db cluster field) :=
  steady.changed (viewChange_of_step orderly stepped)

theorem told_run {hash : Uuid → Uuid → Int} {cluster id : Uuid} {field : Field} {since : DateTime} {value : String}
    {events : List RolloutEvent} {server final : RolloutServer}
    (told : Told (clusterView server.db cluster field) id since value)
    (orderly : Meets (rolloutStep hash) (NeverOlder hash cluster field) server events)
    (ran : run (rolloutStep hash) server events = some final) :
    Told (clusterView final.db cluster field) id since value := by
  have preserved : ∀ server event after, Told (clusterView server.db cluster field) id since value →
      NeverOlder hash cluster field server event → rolloutStep hash server event = some after →
      Told (clusterView after.db cluster field) id since value :=
    fun _ _ _ told met stepped => told.changed (viewChange_of_step met stepped)
  exact run_invariant_of_meets preserved told orderly ran

theorem told_asked {hash : Uuid → Uuid → Int} {cluster id : Uuid} {field : Field} {rollout : Rollout} {value : String}
    {server after : RolloutServer} (known : cluster ∈ server.db.clusters)
    (active : activeRolloutForCluster hash server.db cluster = some ⟨id, rollout⟩)
    (carries : carriedBy rollout field = some value)
    (stepped : rolloutStep hash server (ask cluster true field) = some after) :
    Told (clusterView after.db cluster field) id rollout.createdAt value := by
  have there := (active_some active).1
  have recorded : after.db = recordActive hash server.db cluster true := by
    cases field <;> cases stepped <;> rfl
  rw [recorded, recordActive, active]
  constructor
  · refine ⟨standing field rollout, ?_, rfl, carries⟩
    simp only [recordRolloutDelivery]
    split <;> simp [clusterView, there]
  · simp only [clusterView, recordRolloutDelivery]
    split
    · simp
    · rename_i refused
      simpa [known] using refused

theorem clusters_kept {hash : Uuid → Uuid → Int} {cluster : Uuid} {field : Field} {events : List RolloutEvent}
    {server final : RolloutServer} (known : cluster ∈ server.db.clusters)
    (orderly : Meets (rolloutStep hash) (NeverOlder hash cluster field) server events)
    (ran : run (rolloutStep hash) server events = some final) : cluster ∈ final.db.clusters := by
  have preserved : ∀ server event after, (clusterView server.db cluster field).known →
      NeverOlder hash cluster field server event → rolloutStep hash server event = some after →
      (clusterView after.db cluster field).known := by
    intro server event after known met stepped
    cases viewChange_of_step met stepped with
    | same equal => exact equal ▸ known
    | created fresh pending newest rollouts targeted delivered same pin => exact same ▸ known
    | moved active allowed restated pin => exact restated.known ▸ known
    | completed found allowed last restated pinned unpinned => exact restated.known ▸ known
    | advancedPast last pinned restated pin => exact restated.known ▸ known
    | recorded found active here aimed rollouts targeted delivered same pin => exact same ▸ known
  exact run_invariant_of_meets preserved known orderly ran

theorem answers_never_go_back {hash : Uuid → Uuid → Int} {db : Database} {cluster rid : Uuid} {field : Field}
    (known : cluster ∈ db.clusters) {before later : List RolloutEvent} {first second : RolloutServer} {rollout : Rollout}
    {value : String} {inserted : Bool}
    (orderly : Meets (rolloutStep hash) (NeverOlder hash cluster field) (withoutRollouts db)
      (before ++ ask cluster inserted field :: later ++ [ask cluster true field]))
    (ran : run (rolloutStep hash) (withoutRollouts db) before = some first)
    (active : activeRolloutForCluster hash first.db cluster = some ⟨rid, rollout⟩)
    (carries : carriedBy rollout field = some value)
    (ranLater : run (rolloutStep hash) first (ask cluster inserted field :: later) = some second)
    (rolling : Option String) :
    response hash first.db cluster rolling field = .ok (some value) ∧
      ∃ answer, response hash second.db cluster rolling field = .ok (some answer) ∧
        (answer = value ∨ ∃ id newer, second.db.rollouts.lookup id = some newer ∧
          rollout.createdAt < newer.createdAt ∧ carriedBy newer field = some answer) := by
  rw [List.append_assoc, meets_append_iff ran, List.cons_append, ← List.cons_append, meets_append_iff ranLater] at orderly
  obtain ⟨orderlyBefore, ⟨asked, orderlyLater⟩, askedAgain, -⟩ := orderly
  have delivers : inserted = true := by
    cases field
    · exact (asked rfl rfl).1
    · exact (asked rfl rfl).1
  subst delivers
  have unshadowed : Unshadowed hash second.db cluster field := by
    cases field
    · exact (askedAgain rfl rfl).2
    · exact (askedAgain rfl rfl).2
  have steadyFirst : Steady (clusterView first.db cluster field) :=
    run_invariant_of_meets (fun _ _ _ => steady_step) (steady_withoutRollouts db cluster field) orderlyBefore ran
  have knownFirst := @clusters_kept hash cluster field before (withoutRollouts db) first known orderlyBefore ran
  obtain ⟨middle, stepped, rest⟩ := run_cons_some.mp ranLater
  have steadySecond : Steady (clusterView second.db cluster field) :=
    run_invariant_of_meets (fun _ _ _ => steady_step) (steady_step steadyFirst asked stepped)
      (orderlyLater middle stepped) rest
  have told := told_run (told_asked knownFirst active carries stepped) (orderlyLater middle stepped) rest
  constructor
  · obtain ⟨row, there⟩ := Option.isSome_iff_exists.mp (AList.lookup_isSome.mpr knownFirst)
    obtain ⟨fallback, answers⟩ := response_eq hash there rolling field
    rw [answers, active, Option.bind_some, carries, Option.some_or]
  · obtain ⟨answer, answered, same | ⟨id, entry, found, later, carried⟩⟩ := steadySecond.answer told unshadowed rolling
    · exact ⟨answer, answered, .inl same⟩
    · obtain ⟨newer, there, rfl⟩ := Option.map_eq_some_iff.mp found
      exact ⟨answer, answered, .inr ⟨id, newer, there, later, carried⟩⟩

theorem not_overtaken {db : Database} (unfinished : ∀ entry ∈ db.rollouts.entries, entry.2.status ≠ .completed)
    (cluster : Uuid) (field : Field) (id : Uuid) : ¬ (clusterView db cluster field).Overtaken id := by
  rintro ⟨other, newer, older, found, done, -⟩
  obtain ⟨rollout, there, rfl⟩ := Option.map_eq_some_iff.mp found
  exact unfinished _ (AList.mem_lookup_iff.mp there) done

def startedRun : List RolloutEvent := [.create 5 (some "1.2.0") none none [(11, allClusters)], .route .start 5]

theorem answer_kept_when_paused : ∃ first second,
    run (rolloutStep fun _ _ => 0) (withoutRollouts reportingDb) startedRun = some first ∧
      run (rolloutStep fun _ _ => 0) first [ask 7 true .version, .route .pause 5] = some second ∧
      response (fun _ _ => 0) first.db 7 none .version = .ok (some "1.2.0") ∧
      ∃ answer, response (fun _ _ => 0) second.db 7 none .version = .ok (some answer) ∧
        (answer = "1.2.0" ∨ ∃ id newer, second.db.rollouts.lookup id = some newer ∧ 0 < newer.createdAt ∧
          carriedBy newer .version = some answer) := by
  refine ⟨_, _, rfl, rfl, @answers_never_go_back (fun _ _ => 0) reportingDb 7 5 .version (by decide) startedRun
    [.route .pause 5] _ _ _ "1.2.0" true ?_ rfl rfl rfl rfl none⟩
  have unused : NeverOlder (fun _ _ => 0) 7 .version (withoutRollouts reportingDb)
      (.create 5 (some "1.2.0") none none [(11, allClusters)]) := by
    intro id rollout found
    have absent : (withoutRollouts reportingDb).db.rollouts.lookup id = none := rfl
    cases absent.symm.trans found
  refine (meets_cons_iff rfl).mpr ⟨unused, (meets_cons_iff rfl).mpr ⟨not_overtaken (by decide) 7 .version 5,
    (meets_cons_iff rfl).mpr ⟨fun _ _ => ⟨rfl, ?_⟩, (meets_cons_iff rfl).mpr ⟨not_overtaken (by decide) 7 .version 5,
      (meets_cons_iff rfl).mpr ⟨fun _ _ => ⟨rfl, ?_⟩, trivial⟩⟩⟩⟩⟩
  -- the rollout that answers carries a version
  · rintro active found missing
    cases found
    cases missing
  · rintro active found missing
    cases found
    cases missing

def keepsRollouts : RolloutEvent → Bool
  | .route action _ | .apply action _ => action ≠ .rollback && action ≠ .delete
  | _ => true

/-- Advanced past its only stage the rollout is completed without a pin, and the cluster is told its old version. -/
theorem answer_falls_back : ¬ ∀ (hash : Uuid → Uuid → Int) (db : Database) (cluster rid : Uuid) (field : Field)
    (before later : List RolloutEvent) (first second : RolloutServer) (rollout : Rollout) (value : String)
    (rolling : Option String), cluster ∈ db.clusters →
      (∀ event ∈ before ++ later, keepsRollouts event = true) →
      run (rolloutStep hash) (withoutRollouts db) before = some first →
      activeRolloutForCluster hash first.db cluster = some ⟨rid, rollout⟩ → carriedBy rollout field = some value →
      run (rolloutStep hash) first (ask cluster true field :: later) = some second →
      ∃ answer, response hash second.db cluster rolling field = .ok (some answer) ∧
        (answer = value ∨ ∃ id newer, second.db.rollouts.lookup id = some newer ∧
          rollout.createdAt < newer.createdAt ∧ carriedBy newer field = some answer) := by
  intro all
  obtain ⟨answer, answered, newer⟩ := all (fun _ _ => 0) reportingDb 7 5 .version startedRun [.route .advance 5] _ _ _
    "1.2.0" none (by decide) (by decide) rfl rfl rfl rfl
  cases answered
  rcases newer with same | ⟨id, newer, found, -, carried⟩
  · exact absurd same (by decide)
  · have only := (Table.forall_lookup_iff _ fun _ (rollout : Rollout) => carriedBy rollout .version ≠ some "1.1.0").mpr
      (by decide) id newer found
    exact only carried

end MacMgmt.Proof.Server
