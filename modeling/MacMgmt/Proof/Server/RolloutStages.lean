import MacMgmt.Lib.Run
import MacMgmt.Proof.Server.RolloutSurfaces
import MacMgmt.Server.Rollouts

/-!
# The stages of a rollout go one after another

What the actions do to one rollout is seen through its status and the order and status of its stages. Every step maps
the statuses and keeps the orders, so the invariant is checked on these maps.
-/

namespace MacMgmt.Proof.Server
open Lib MacMgmt.Server

/-! ## The view of one rollout -/

@[ext]
structure RolloutView where
  status : Option RolloutStatus
  stages : Uuid → Option (Int × RolloutStatus)

def stageOf (rid : Uuid) (stage : Stage) : Option (Int × RolloutStatus) :=
  if stage.rolloutId = rid then some (stage.stageOrder, stage.status) else none

def viewOf (db : Database) (rid : Uuid) : RolloutView :=
  { status := (db.rollouts.lookup rid).map Rollout.status
    stages := fun id => (db.stages.lookup id).bind (stageOf rid) }

/-- One status for the rollout and a map on the statuses of its stages. -/
def RolloutView.change (view : RolloutView) (status : RolloutStatus → RolloutStatus)
    (stage : Uuid → Int → RolloutStatus → RolloutStatus) : RolloutView :=
  { status := view.status.map status
    stages := fun id => (view.stages id).map fun entry => (entry.1, stage id entry.1 entry.2) }

theorem stages_viewOf (db : Database) (rid id : Uuid) :
    (viewOf db rid).stages id = (db.stages.lookup id).bind (stageOf rid) := rfl

theorem RolloutView.stages_change (view : RolloutView) (status : RolloutStatus → RolloutStatus)
    (stage : Uuid → Int → RolloutStatus → RolloutStatus) (id : Uuid) : (view.change status stage).stages id =
      (view.stages id).map fun entry => (entry.1, stage id entry.1 entry.2) := rfl

theorem RolloutView.change_change (view : RolloutView) (first second : RolloutStatus → RolloutStatus)
    (stage later : Uuid → Int → RolloutStatus → RolloutStatus) :
    (view.change first stage).change second later =
      view.change (second ∘ first) fun id order status => later id order (stage id order status) := by
  ext1
  · simp [change]
  · funext id
    simp [change, Function.comp_def]

theorem RolloutView.change_id (view : RolloutView) : view.change (fun status => status) (fun _ _ status => status) = view := by
  ext1
  · exact Option.map_id'
  · funext id
    exact Option.map_id'

def toStatus (status : RolloutStatus) (_ : RolloutStatus) : RolloutStatus := status

theorem viewOf_stages (db : Database) (rid target : Uuid) (selects : Uuid → Stage → Bool) (change : Stage → Stage)
    (stage : Uuid → Int → RolloutStatus → RolloutStatus)
    (own : ∀ id old, selects id old = true → old.rolloutId = target)
    (kept : ∀ old, (change old).rolloutId = old.rolloutId ∧ (change old).stageOrder = old.stageOrder)
    (maps : ∀ id old, old.rolloutId = target →
      (if selects id old then change old else old).status = stage id old.stageOrder old.status) :
    viewOf { db with stages := db.stages.update selects change } rid =
      if rid = target then (viewOf db rid).change (fun status => status) stage else viewOf db rid := by
  have entry : ∀ id old, old.rolloutId = target → stageOf target (if selects id old then change old else old) =
      some (old.stageOrder, stage id old.stageOrder old.status) := by
    intro id old mine
    rw [← maps id old mine, stageOf]
    by_cases selected : selects id old = true
    · rw [if_pos selected, (kept old).1, (kept old).2, if_pos mine]
    · rw [if_neg selected, if_pos mine]
  split
  · rename_i same
    subst same
    ext1
    · simp [viewOf, RolloutView.change, Function.comp_def]
    · funext id
      simp only [viewOf, RolloutView.change, Table.lookup_update]
      cases db.stages.lookup id with
      | none => rfl
      | some old =>
          by_cases mine : old.rolloutId = rid
          · rw [Option.map_some, Option.bind_some, entry id old mine, Option.bind_some, stageOf, if_pos mine]
            rfl
          · have unselected : selects id old ≠ true := fun selected => mine (own id old selected)
            simp [unselected, stageOf, mine]
  · rename_i different
    ext1
    · rfl
    · funext id
      simp only [viewOf, Table.lookup_update]
      cases db.stages.lookup id with
      | none => rfl
      | some old =>
          by_cases selected : selects id old = true
          · have foreign : old.rolloutId ≠ rid := fun mine => different (mine.symm.trans (own id old selected))
            simp [selected, stageOf, (kept old).1, foreign]
          · simp [selected]

theorem viewOf_rollouts (db : Database) (rid target : Uuid) (change : Rollout → Rollout)
    (status : RolloutStatus → RolloutStatus) (maps : ∀ old, (change old).status = status old.status) :
    viewOf { db with rollouts := db.rollouts.update (fun id _ => id = target) change } rid =
      if rid = target then (viewOf db rid).change status (fun _ _ status => status) else viewOf db rid := by
  split
  · rename_i same
    subst same
    ext1
    · simp [viewOf, RolloutView.change, Table.lookup_update, Function.comp_def, maps]
    · funext id
      simp [viewOf, RolloutView.change]
  · rename_i different
    ext1
    · simp [viewOf, Table.lookup_update, different]
    · rfl

/-! ## The actions on the view -/

def startMap (order : Int) (_ : Uuid) (at_ : Int) (status : RolloutStatus) : RolloutStatus :=
  if at_ = order then .rolling else status

def completeMap (order : Int) (_ : Uuid) (at_ : Int) (status : RolloutStatus) : RolloutStatus :=
  if at_ = order then .completed else status

def moveMap (old new : RolloutStatus) (_ : Uuid) (_ : Int) (status : RolloutStatus) : RolloutStatus :=
  if status = old then new else status

def rollBackMap (_ : Uuid) (_ : Int) (status : RolloutStatus) : RolloutStatus :=
  if status = .rolling ∨ status = .paused ∨ status = .completed then .rolledBack else status

def pauseMap (target id : Uuid) (_ : Int) (status : RolloutStatus) : RolloutStatus :=
  if id = target ∧ status = .rolling then .paused else status

section Statements
variable (db : Database) (rid target : Uuid)

theorem viewOf_setStatus (status : RolloutStatus) : viewOf (db.setStatus target status) rid =
    if rid = target then (viewOf db rid).change (toStatus status) (fun _ _ status => status) else viewOf db rid :=
  viewOf_rollouts db rid target _ (toStatus status) fun _ => rfl

theorem viewOf_setRollingWithBaseline (baseline : Option String × Option String) :
    viewOf (db.setRollingWithBaseline target baseline) rid =
      if rid = target then (viewOf db rid).change (toStatus .rolling) (fun _ _ status => status) else viewOf db rid :=
  viewOf_rollouts db rid target _ (toStatus .rolling) fun _ => rfl

theorem viewOf_touch : viewOf (db.touch target) rid = viewOf db rid := by
  have viewed : viewOf (db.touch target) rid = _ :=
    viewOf_rollouts db rid target _ (fun status => status) fun _ => rfl
  rw [viewed, RolloutView.change_id, ite_self]

theorem viewOf_startStage (order : Int) : viewOf (db.startStage target order) rid =
    if rid = target then (viewOf db rid).change (fun status => status) (startMap order) else viewOf db rid := by
  refine viewOf_stages db rid target _ _ _ (fun id old selected => ?_) (fun _ => ⟨rfl, rfl⟩) (fun id old mine => ?_)
  · simp only [Database.atOrder, Bool.and_eq_true, decide_eq_true_eq] at selected
    exact selected.1
  · by_cases here : old.stageOrder = order <;> simp [Database.atOrder, startMap, mine, here]

theorem viewOf_completeStage (order : Int) : viewOf (db.completeStage target order) rid =
    if rid = target then (viewOf db rid).change (fun status => status) (completeMap order) else viewOf db rid := by
  refine viewOf_stages db rid target _ _ _ (fun id old selected => ?_) (fun _ => ⟨rfl, rfl⟩) (fun id old mine => ?_)
  · simp only [Database.atOrder, Bool.and_eq_true, decide_eq_true_eq] at selected
    exact selected.1
  · by_cases here : old.stageOrder = order <;> simp [Database.atOrder, completeMap, mine, here]

theorem viewOf_moveStages (old new : RolloutStatus) : viewOf (db.moveStages target old new) rid =
    if rid = target then (viewOf db rid).change (fun status => status) (moveMap old new) else viewOf db rid := by
  refine viewOf_stages db rid target _ _ _ (fun id stage selected => ?_) (fun _ => ⟨rfl, rfl⟩) (fun id stage mine => ?_)
  · simp only [Database.inStatus, Bool.and_eq_true, decide_eq_true_eq] at selected
    exact selected.1
  · by_cases here : stage.status = old <;> simp [Database.inStatus, moveMap, mine, here]

theorem viewOf_completeStages : viewOf (db.completeStages target) rid =
    if rid = target then (viewOf db rid).change (fun status => status) (fun _ _ => toStatus .completed)
      else viewOf db rid := by
  refine viewOf_stages db rid target _ _ _ (fun id stage selected => ?_) (fun _ => ⟨rfl, rfl⟩) (fun id stage mine => ?_)
  · exact of_decide_eq_true selected
  · simp [mine, toStatus]

theorem viewOf_rollBackStages : viewOf (db.rollBackStages target) rid =
    if rid = target then (viewOf db rid).change (fun status => status) rollBackMap else viewOf db rid := by
  refine viewOf_stages db rid target _ _ _ (fun id stage selected => ?_) (fun _ => ⟨rfl, rfl⟩) (fun id stage mine => ?_)
  · simp only [Bool.and_eq_true, decide_eq_true_eq] at selected
    exact selected.1
  · cases status : stage.status <;> simp [rollBackMap, mine, status]

theorem viewOf_pauseStage (stageId : Uuid) : viewOf (pauseStage db stageId) rid =
    (viewOf db rid).change (fun status => status) (pauseMap stageId) := by
  ext1
  · simp [viewOf, RolloutView.change, pauseStage, Function.comp_def]
  · funext id
    simp only [viewOf, RolloutView.change, pauseStage, Table.lookup_update]
    cases db.stages.lookup id with
    | none => rfl
    | some stage =>
        by_cases mine : stage.rolloutId = rid
        · by_cases here : id = stageId ∧ stage.status = .rolling
          · simp [stageOf, pauseMap, mine, here]
          · simp [stageOf, pauseMap, mine, here]
        · by_cases here : id = stageId ∧ stage.status = .rolling
          · simp [stageOf, mine, here]
          · simp [stageOf, mine, here]

theorem viewOf_deleteRollout {rid target : Uuid} (different : rid ≠ target) :
    viewOf (db.deleteRollout target) rid = viewOf db rid := by
  ext1
  · simp [viewOf, Database.deleteRollout, different]
  · funext id
    simp only [viewOf, Database.deleteRollout, Table.lookup_retain]
    cases db.stages.lookup id with
    | none => rfl
    | some stage =>
        by_cases removed : stage.rolloutId = target
        · have foreign : stage.rolloutId ≠ rid := fun mine => different (mine.symm.trans removed)
          simp [removed, stageOf, Ne.symm different]
        · simp [Option.filter_some, removed]

end Statements

theorem viewOf_insertStages {rid target : Uuid} (different : rid ≠ target) {ramp : Option Nat}
    {stages : List (Uuid × Uuid)} {order : Int} {before after : Database}
    (inserted : Database.insertStages target ramp stages order before = some after) :
    viewOf after rid = viewOf before rid := by
  induction stages generalizing order before with
  | nil =>
      cases inserted
      rfl
  | cons stage stages ih =>
      unfold Database.insertStages at inserted
      split at inserted
      · cases inserted
      · rename_i fresh
        rw [ih inserted]
        ext1
        · rfl
        · funext id
          simp only [viewOf, Table.lookup_insert_ite]
          split
          · rename_i same
            rw [same, AList.lookup_eq_none.mpr fresh]
            simp [stageOf, Ne.symm different]
          · rfl

theorem viewOf_createRollout {rid target : Uuid} {before after : Database} {version commit : Option String}
    {ramp : Option Nat} {stages : List (Uuid × Uuid)} (present : rid ∈ before.rollouts)
    (created : before.createRollout target version commit ramp stages = some after) :
    viewOf after rid = viewOf before rid := by
  unfold Database.createRollout at created
  split at created
  · cases created
  · rename_i accepted
    have different : rid ≠ target := fun same => accepted (.inr (.inr (same ▸ present)))
    rw [viewOf_insertStages different created]
    ext1
    · simp [viewOf, different]
    · rfl

theorem viewOf_recordActive (hash : Uuid → Uuid → Int) (db : Database) (cluster : Uuid) (inserted : Bool) (rid : Uuid) :
    viewOf (recordActive hash db cluster inserted) rid = viewOf db rid := by
  unfold recordActive recordRolloutDelivery
  split
  · split <;> rfl
  · rfl

/-! ## What a step does to a rollout -/

def RolloutStatus.active (status : RolloutStatus) : Prop := status = .rolling ∨ status = .paused

def RolloutStatus.finished (status : RolloutStatus) : Prop := status = .completed ∨ status = .rolledBack

def RolloutView.Finished (view : RolloutView) : Prop := ∃ status, view.status = some status ∧ RolloutStatus.finished status

def RolloutView.OnlyFirst (view : RolloutView) : Prop :=
  ∀ id order status, view.stages id = some (order, status) → 0 < order → status = .pending

/-- The guards are those the routes check, or that `Guarded` asks of the other surface. -/
inductive RolloutChange (view : RolloutView) : RolloutView → Prop where
  | same : RolloutChange view view
  | started (allowed : view.status = some .pending ∨ ¬ view.Finished ∧ view.OnlyFirst) :
      RolloutChange view (view.change (toStatus .rolling) (startMap 0))
  | advanced {id : Uuid} {current : Int} (rolling : view.stages id = some (current, .rolling)) :
      RolloutChange view (view.change (fun status => status)
        fun id order status => startMap (current + 1) id order (completeMap current id order status))
  | advancedPast {id : Uuid} {current : Int} (rolling : view.stages id = some (current, .rolling))
      (last : ∀ id status, view.stages id ≠ some (current + 1, status)) :
      RolloutChange view (view.change (toStatus .completed)
        fun id order status => startMap (current + 1) id order (completeMap current id order status))
  | paused (allowed : (∃ id order, view.stages id = some (order, .rolling)) ∨ ¬ view.Finished) :
      RolloutChange view (view.change (toStatus .paused) (moveMap .rolling .paused))
  | resumed (allowed : (∃ id order, view.stages id = some (order, .paused)) ∨ ¬ view.Finished) :
      RolloutChange view (view.change (toStatus .rolling) (moveMap .paused .rolling))
  | completed : RolloutChange view (view.change (toStatus .completed) fun _ _ => toStatus .completed)
  | rolledBack : RolloutChange view (view.change (toStatus .rolledBack) rollBackMap)
  | stagePaused (id : Uuid) : RolloutChange view (view.change (fun status => status) (pauseMap id))

/-- `rollout_action_apply` starts, pauses or resumes whatever the status is. -/
def Guarded (rid : Uuid) (server : RolloutServer) : RolloutEvent → Prop
  | .apply .start target => target = rid → ¬ (viewOf server.db rid).Finished ∧ (viewOf server.db rid).OnlyFirst
  | .apply .pause target | .apply .resume target => target = rid → ¬ (viewOf server.db rid).Finished
  | .apply .delete target | .route .delete target => target ≠ rid
  | _ => True

section Changes
variable {db : Database} {rid target : Uuid}

theorem change_of_setStatus_startStage {after : Database}
    (allowed : target = rid → (viewOf db rid).status = some .pending ∨
      ¬ (viewOf db rid).Finished ∧ (viewOf db rid).OnlyFirst)
    (rolled : viewOf after rid = if rid = target
      then (viewOf db rid).change (toStatus .rolling) (fun _ _ status => status) else viewOf db rid) :
    RolloutChange (viewOf db rid) (viewOf (after.startStage target 0) rid) := by
  rw [viewOf_startStage, rolled]
  split
  · rename_i same
    rw [RolloutView.change_change]
    exact .started (allowed same.symm)
  · exact .same

theorem mem_stages_of_find {current : Int} (found : db.rollingStageOrder target = some current) :
    ∃ id, (viewOf db target).stages id = some (current, .rolling) := by
  obtain ⟨stage, first, rfl⟩ := Option.map_eq_some_iff.mp found
  have holds := List.find?_some first
  obtain ⟨id, present⟩ := Table.mem_values.mp (List.mem_of_find?_eq_some first)
  have both : stage.rolloutId = target ∧ stage.status = .rolling := by simpa using holds
  refine ⟨id, ?_⟩
  rw [stages_viewOf, present, Option.bind_some, stageOf, if_pos both.1, both.2]

theorem no_stage_of_tally {order : Int} (empty : db.stages.tally (Database.atOrder target order) = 0) (id : Uuid)
    (status : RolloutStatus) : (viewOf db target).stages id ≠ some (order, status) := by
  intro present
  obtain ⟨stage, found, own⟩ := Option.bind_eq_some_iff.mp present
  have positive : 0 < db.stages.tally (Database.atOrder target order) := by
    refine Table.tally_pos_iff.mpr ⟨id, stage, found, ?_⟩
    unfold stageOf at own
    split at own
    · rename_i mine
      cases own
      simp [Database.atOrder, mine]
    · cases own
  omega

theorem change_of_advance {current : Int} {after : Database} (found : db.rollingStageOrder target = some current)
    (written : viewOf after rid = if rid = target ∧
        (db.completeStage target current).stages.tally (Database.atOrder target (current + 1)) = 0
      then (viewOf ((db.completeStage target current).startStage target (current + 1)) rid).change
        (toStatus .completed) (fun _ _ status => status)
      else viewOf ((db.completeStage target current).startStage target (current + 1)) rid) :
    RolloutChange (viewOf db rid) (viewOf after rid) := by
  rw [written, viewOf_startStage, viewOf_completeStage]
  by_cases same : rid = target
  · subst same
    obtain ⟨id, rolling⟩ := mem_stages_of_find found
    simp only [if_true, true_and, RolloutView.change_change]
    split
    · rename_i empty
      refine .advancedPast rolling fun id status present => ?_
      have gone := no_stage_of_tally empty id (completeMap current id (current + 1) status)
      rw [viewOf_completeStage, if_pos rfl] at gone
      exact gone (by rw [RolloutView.stages_change, present]; rfl)
    · exact .advanced rolling
  · simp only [same, false_and, if_false]
    exact .same

theorem hasStage_view {status : RolloutStatus} (present : HasStage db rid status) :
    ∃ id order, (viewOf db rid).stages id = some (order, status) := by
  obtain ⟨id, stage, found, mine, there⟩ := present
  refine ⟨id, stage.stageOrder, ?_⟩
  rw [stages_viewOf, found, Option.bind_some, stageOf, if_pos mine, there]

theorem change_of_pause (allowed : target = rid →
      (∃ id order, (viewOf db rid).stages id = some (order, .rolling)) ∨ ¬ (viewOf db rid).Finished) :
    RolloutChange (viewOf db rid) (viewOf ((db.moveStages target .rolling .paused).setStatus target .paused) rid) := by
  rw [viewOf_setStatus, viewOf_moveStages]
  split
  · rename_i same
    rw [RolloutView.change_change]
    exact .paused (allowed same.symm)
  · exact .same

theorem change_of_resume (allowed : target = rid →
      (∃ id order, (viewOf db rid).stages id = some (order, .paused)) ∨ ¬ (viewOf db rid).Finished) :
    RolloutChange (viewOf db rid) (viewOf ((db.moveStages target .paused .rolling).setStatus target .rolling) rid) := by
  rw [viewOf_setStatus, viewOf_moveStages]
  split
  · rename_i same
    rw [RolloutView.change_change]
    exact .resumed (allowed same.symm)
  · exact .same

theorem change_of_complete (rollout : Rollout) :
    let completed := (db.completeStages target).setStatus target .completed
    let pinned := match rollout.targetVersion with
      | some version => completed.pinVersion target version
      | none => completed
    RolloutChange (viewOf db rid) (viewOf (match rollout.nixpkgsCommit with
      | some commit => pinned.pinNixpkgs target commit
      | none => pinned) rid) := by
  intro completed pinned
  -- the pins are in another table
  have viewed : viewOf (match rollout.nixpkgsCommit with
      | some commit => pinned.pinNixpkgs target commit
      | none => pinned) rid = viewOf completed rid := by
    cases commit : rollout.nixpkgsCommit <;> cases version : rollout.targetVersion <;> simp only [pinned, version] <;> rfl
  rw [viewed, viewOf_setStatus, viewOf_completeStages]
  split
  · rw [RolloutView.change_change]
    exact .completed
  · exact .same

theorem change_of_rollback (clusters : List Uuid) (version commit : Option String) :
    RolloutChange (viewOf db rid)
      (viewOf (((db.rollBackStages target).setStatus target .rolledBack).rewindPins clusters version commit) rid) := by
  change RolloutChange _ (viewOf ((db.rollBackStages target).setStatus target .rolledBack) rid)
  rw [viewOf_setStatus, viewOf_rollBackStages]
  split
  · rw [RolloutView.change_change]
    exact .rolledBack
  · exact .same

end Changes

theorem route_changes (server : RolloutServer) (rid target : Uuid) (action : RolloutAction)
    (kept : action = .delete → target ≠ rid) :
    RolloutChange (viewOf server.db rid) (viewOf (afterRequest server (adminRoute server.db target action)).db rid) := by
  cases action with
  | start =>
      dsimp only [adminRoute]
      unfold adminStartRollout
      split
      · exact .same
      · rename_i rollout found
        split
        · exact .same
        · rename_i pending
          apply change_of_setStatus_startStage
          · rintro rfl
            rw [ne_eq, not_not] at pending
            exact .inl (by simp [viewOf, found, pending])
          · exact viewOf_setStatus _ _ _ _
  | advance =>
      dsimp only [adminRoute]
      unfold adminAdvanceRollout
      split
      · exact .same
      · rename_i current found
        apply change_of_advance found
        dsimp only
        split
        · rename_i empty
          simp only [afterRequest, viewOf_touch, viewOf_setStatus, empty, and_true]
        · rename_i more
          simp only [afterRequest, viewOf_touch, more, and_false, if_false]
  | pause =>
      dsimp only [adminRoute]
      unfold adminPauseRollout
      split
      · exact .same
      · rename_i present
        rw [tally_inStatus_eq_zero, not_not] at present
        exact change_of_pause fun same => .inl (hasStage_view (same ▸ present))
  | resume =>
      dsimp only [adminRoute]
      unfold adminResumeRollout
      split
      · exact .same
      · rename_i present
        rw [tally_inStatus_eq_zero, not_not] at present
        exact change_of_resume fun same => .inl (hasStage_view (same ▸ present))
  | complete =>
      dsimp only [adminRoute]
      unfold adminCompleteRollout
      split
      · exact .same
      · rename_i rollout found
        exact change_of_complete rollout
  | rollback =>
      dsimp only [adminRoute]
      unfold adminRollbackRollout
      split
      · exact .same
      · exact change_of_rollback _ _ _
  | delete =>
      dsimp only [adminRoute]
      unfold adminDeleteRollout
      split
      · rw [afterRequest, viewOf_deleteRollout server.db (Ne.symm (kept rfl))]
        exact .same
      · exact .same

theorem apply_changes {server : RolloutServer} {rid target : Uuid} (action : RolloutAction)
    (guarded : Guarded rid server (.apply action target)) :
    RolloutChange (viewOf server.db rid)
      (viewOf (afterRequest server (rolloutActionApply server.db target action)).db rid) := by
  cases action with
  | start =>
      apply change_of_setStatus_startStage
      · exact fun same => .inr (guarded same)
      · exact viewOf_setRollingWithBaseline _ _ _ _
  | advance =>
      unfold rolloutActionApply
      dsimp only
      split
      · exact .same
      · rename_i current found
        apply change_of_advance found
        split
        · rename_i empty
          simp only [afterRequest, viewOf_setStatus, empty, and_true]
        · rename_i more
          simp only [afterRequest, viewOf_touch, more, and_false, if_false]
  | pause => exact change_of_pause fun same => .inr (guarded same)
  | resume => exact change_of_resume fun same => .inr (guarded same)
  | complete =>
      unfold rolloutActionApply
      dsimp only
      split
      · exact .same
      · rename_i rollout found
        exact change_of_complete rollout
  | rollback =>
      unfold rolloutActionApply
      dsimp only
      split
      · exact .same
      · exact change_of_rollback _ _ _
  | delete =>
      have kept : target ≠ rid := guarded
      rw [rolloutActionApply, afterRequest, viewOf_deleteRollout server.db (Ne.symm kept)]
      exact .same

theorem rolloutChange_of_step {hash : Uuid → Uuid → Int} {rid : Uuid} {server after : RolloutServer} {event : RolloutEvent}
    (present : rid ∈ server.db.rollouts) (guarded : Guarded rid server event)
    (stepped : rolloutStep hash server event = some after) :
    RolloutChange (viewOf server.db rid) (viewOf after.db rid) := by
  cases event with
  | clock now =>
      cases stepped
      exact .same
  | heartbeats rows =>
      cases stepped
      exact .same
  | create target version commit ramp stages =>
      simp only [rolloutStep, Option.bind_eq_bind, Option.bind_eq_some_iff] at stepped
      obtain ⟨db, created, taken⟩ := stepped
      cases taken
      rw [viewOf_createRollout present created]
      exact .same
  | route action target =>
      cases stepped
      apply route_changes
      rintro rfl
      exact guarded
  | apply action target =>
      cases stepped
      exact apply_changes action guarded
  | tick =>
      simp only [rolloutStep] at stepped
      split at stepped
      · cases stepped
        exact .same
      · cases stepped
  | evaluated verdict =>
      simp only [rolloutStep] at stepped
      split at stepped
      · cases stepped
      · rename_i stage later _
        cases stepped
        dsimp only
        split
        · rw [viewOf_pauseStage]
          exact .stagePaused stage
        · exact .same
  | tickFailed =>
      cases stepped
      exact .same
  | getUpdateTarget cluster inserted =>
      cases stepped
      rw [viewOf_recordActive]
      exact .same
  | getNixpkgsPin cluster inserted =>
      cases stepped
      rw [viewOf_recordActive]
      exact .same

/-! ## The invariant -/

structure Orderly (view : RolloutView) : Prop where
  nonneg : ∀ id order status, view.stages id = some (order, status) → 0 ≤ order
  distinct : ∀ a b order first second, view.stages a = some (order, first) → view.stages b = some (order, second) → a = b
  ordered : ∀ a b i j first second, view.stages a = some (i, first) → RolloutStatus.active first →
    view.stages b = some (j, second) → (j < i → second = .completed) ∧ (i < j → second = .pending)
  untouched : view.status = some .pending → ∀ id order status, view.stages id = some (order, status) → status = .pending
  finished : view.Finished → ∀ id order status, view.stages id = some (order, status) → ¬ RolloutStatus.active status

theorem RolloutView.stages_change_some {view : RolloutView} {status : RolloutStatus → RolloutStatus}
    {stage : Uuid → Int → RolloutStatus → RolloutStatus} {id : Uuid} {order : Int} {new : RolloutStatus} :
    (view.change status stage).stages id = some (order, new) ↔
      ∃ old, view.stages id = some (order, old) ∧ stage id order old = new := by
  rw [stages_change, Option.map_eq_some_iff]
  constructor
  · rintro ⟨⟨at_, old⟩, present, same⟩
    cases same
    exact ⟨old, present, rfl⟩
  · rintro ⟨old, present, rfl⟩
    exact ⟨(order, old), present, rfl⟩

theorem Orderly.of_change {view : RolloutView} {status : RolloutStatus → RolloutStatus}
    {stage : Uuid → Int → RolloutStatus → RolloutStatus} (orderly : Orderly view)
    (ordered : ∀ a b i j first second, view.stages a = some (i, first) → RolloutStatus.active (stage a i first) →
      view.stages b = some (j, second) →
        (j < i → stage b j second = .completed) ∧ (i < j → stage b j second = .pending))
    (untouched : ∀ old, view.status = some old → status old = .pending →
      ∀ id order first, view.stages id = some (order, first) → stage id order first = .pending)
    (finished : ∀ old, view.status = some old → RolloutStatus.finished (status old) →
      ∀ id order first, view.stages id = some (order, first) → ¬ RolloutStatus.active (stage id order first)) :
    Orderly (view.change status stage) where
  nonneg id order new present := by
    obtain ⟨old, found, -⟩ := RolloutView.stages_change_some.mp present
    exact orderly.nonneg id order old found
  distinct a b order first second presentA presentB := by
    obtain ⟨oldA, foundA, -⟩ := RolloutView.stages_change_some.mp presentA
    obtain ⟨oldB, foundB, -⟩ := RolloutView.stages_change_some.mp presentB
    exact orderly.distinct a b order oldA oldB foundA foundB
  ordered a b i j first second presentA active presentB := by
    obtain ⟨oldA, foundA, rfl⟩ := RolloutView.stages_change_some.mp presentA
    obtain ⟨oldB, foundB, rfl⟩ := RolloutView.stages_change_some.mp presentB
    exact ordered a b i j oldA oldB foundA active foundB
  untouched pending id order new present := by
    obtain ⟨old, found, rfl⟩ := RolloutView.stages_change_some.mp present
    obtain ⟨before, was, became⟩ := Option.map_eq_some_iff.mp pending
    exact untouched before was became id order old found
  finished ended id order new present := by
    obtain ⟨old, found, rfl⟩ := RolloutView.stages_change_some.mp present
    obtain ⟨last, became, ended⟩ := ended
    obtain ⟨before, was, rfl⟩ := Option.map_eq_some_iff.mp became
    exact finished before was ended id order old found

theorem Orderly.of_tame {view : RolloutView} {status : RolloutStatus → RolloutStatus}
    {stage : Uuid → Int → RolloutStatus → RolloutStatus} (orderly : Orderly view)
    (inactive : ∀ id order old, RolloutStatus.active (stage id order old) → RolloutStatus.active old)
    (completed : ∀ id order, stage id order .completed = .completed)
    (pending : ∀ id order, stage id order .pending = .pending)
    (kept : (∀ old, status old = old) ∨ ∀ old, RolloutStatus.active (status old)) :
    Orderly (view.change status stage) := by
  apply orderly.of_change
  · intro a b i j first second presentA active presentB
    have both := orderly.ordered a b i j first second presentA (inactive a i first active) presentB
    refine ⟨fun below => ?_, fun above => ?_⟩
    · rw [both.1 below, completed]
    · rw [both.2 above, pending]
  · intro old was became id order first present
    rcases kept with same | active
    · rw [same] at became
      rw [orderly.untouched (by rw [was, became]) id order first present, pending]
    · have rolls := active old
      rw [became] at rolls
      rcases rolls with rolls | rolls <;> cases rolls
  · intro old was ended id order first present active
    rcases kept with same | rolls
    · rw [same] at ended
      exact orderly.finished ⟨old, was, ended⟩ id order first present (inactive id order first active)
    · rcases ended with ended | ended <;> rcases rolls old with rolls | rolls <;> rw [ended] at rolls <;> cases rolls

theorem Orderly.started {view : RolloutView} (orderly : Orderly view)
    (allowed : view.status = some .pending ∨ ¬ view.Finished ∧ view.OnlyFirst) :
    Orderly (view.change (toStatus .rolling) (startMap 0)) := by
  have onlyFirst : view.OnlyFirst := by
    rcases allowed with pending | ⟨-, onlyFirst⟩
    · exact fun id order status present _ => orderly.untouched pending id order status present
    · exact onlyFirst
  apply orderly.of_change
  · intro a b i j first second presentA active presentB
    have nonneg := orderly.nonneg b j second presentB
    by_cases zero : i = 0
    · subst zero
      refine ⟨fun below => ?_, fun above => ?_⟩
      · omega
      · rw [startMap, if_neg (by omega)]
        exact onlyFirst b j second presentB above
    · have positive : 0 < i := lt_of_le_of_ne (orderly.nonneg a i first presentA) (Ne.symm zero)
      rw [startMap, if_neg zero, onlyFirst a i first presentA positive] at active
      rcases active with active | active <;> cases active
  · intro old _ became
    cases became
  · intro old _ ended
    rcases ended with ended | ended <;> cases ended

theorem Orderly.not_active_beside {view : RolloutView} (orderly : Orderly view) {a b : Uuid} {i j : Int}
    {first second : RolloutStatus} (presentA : view.stages a = some (i, first)) (active : RolloutStatus.active first)
    (presentB : view.stages b = some (j, second)) (different : j ≠ i) : ¬ RolloutStatus.active second := by
  have both := orderly.ordered a b i j first second presentA active presentB
  rcases lt_or_gt_of_ne different with below | above
  · rw [both.1 below]
    rintro (same | same) <;> cases same
  · rw [both.2 above]
    rintro (same | same) <;> cases same

theorem Orderly.advanced_active {view : RolloutView} (orderly : Orderly view) {id a : Uuid} {current i : Int}
    {first : RolloutStatus} (rolling : view.stages id = some (current, .rolling)) (present : view.stages a = some (i, first))
    (active : RolloutStatus.active (startMap (current + 1) a i (completeMap current a i first))) : i = current + 1 := by
  by_contra different
  rw [startMap, if_neg different] at active
  by_cases here : i = current
  · rw [completeMap, if_pos here] at active
    rcases active with active | active <;> cases active
  · rw [completeMap, if_neg here] at active
    exact orderly.not_active_beside rolling (.inl rfl) present here active

theorem Orderly.advanced_ordered {view : RolloutView} (orderly : Orderly view) {id a b : Uuid} {current i j : Int}
    {first second : RolloutStatus} (rolling : view.stages id = some (current, .rolling))
    (presentA : view.stages a = some (i, first))
    (active : RolloutStatus.active (startMap (current + 1) a i (completeMap current a i first)))
    (presentB : view.stages b = some (j, second)) :
    (j < i → startMap (current + 1) b j (completeMap current b j second) = .completed) ∧
      (i < j → startMap (current + 1) b j (completeMap current b j second) = .pending) := by
  obtain rfl := orderly.advanced_active rolling presentA active
  have both := orderly.ordered id b current j .rolling second rolling (.inl rfl) presentB
  refine ⟨fun below => ?_, fun above => ?_⟩
  · rw [startMap, if_neg (by omega), completeMap]
    split
    · rfl
    · exact both.1 (by omega)
  · rw [startMap, if_neg (by omega), completeMap, if_neg (by omega)]
    exact both.2 (by omega)

theorem Orderly.advanced {view : RolloutView} (orderly : Orderly view) {id : Uuid} {current : Int}
    (rolling : view.stages id = some (current, .rolling)) : Orderly (view.change (fun status => status)
      fun id order status => startMap (current + 1) id order (completeMap current id order status)) := by
  apply orderly.of_change
  · intro a b i j first second presentA active presentB
    exact orderly.advanced_ordered rolling presentA active presentB
  · intro old was pending
    cases orderly.untouched (by rw [was, pending]) id current .rolling rolling
  · intro old was ended
    exact absurd (.inl rfl) (orderly.finished ⟨old, was, ended⟩ id current .rolling rolling)

theorem Orderly.advancedPast {view : RolloutView} (orderly : Orderly view) {id : Uuid} {current : Int}
    (rolling : view.stages id = some (current, .rolling))
    (last : ∀ id status, view.stages id ≠ some (current + 1, status)) : Orderly (view.change (toStatus .completed)
      fun id order status => startMap (current + 1) id order (completeMap current id order status)) := by
  apply orderly.of_change
  · intro a b i j first second presentA active presentB
    exact orderly.advanced_ordered rolling presentA active presentB
  · intro old _ became
    cases became
  · intro old _ _ a i first present active
    obtain rfl := orderly.advanced_active rolling present active
    exact last a first present

theorem Orderly.of_inactive {view : RolloutView} {status : RolloutStatus} {stage : Uuid → Int → RolloutStatus → RolloutStatus}
    (orderly : Orderly view) (begun : status ≠ .pending)
    (inactive : ∀ id order old, ¬ RolloutStatus.active (stage id order old)) :
    Orderly (view.change (toStatus status) stage) := by
  apply orderly.of_change
  · intro a b i j first second _ active
    exact absurd active (inactive a i first)
  · intro old _ became
    exact absurd became begun
  · intro old _ _ id order first _
    exact inactive id order first

theorem Orderly.changed {view after : RolloutView} (orderly : Orderly view) (change : RolloutChange view after) :
    Orderly after := by
  cases change with
  | same => exact orderly
  | started allowed => exact orderly.started allowed
  | advanced rolling => exact orderly.advanced rolling
  | advancedPast rolling last => exact orderly.advancedPast rolling last
  | paused allowed =>
      refine orderly.of_tame (fun _ _ old active => ?_) (fun _ _ => rfl) (fun _ _ => rfl) (.inr fun _ => .inr rfl)
      unfold moveMap at active
      split at active
      · rename_i was
        exact .inl was
      · exact active
  | resumed allowed =>
      refine orderly.of_tame (fun _ _ old active => ?_) (fun _ _ => rfl) (fun _ _ => rfl) (.inr fun _ => .inl rfl)
      unfold moveMap at active
      split at active
      · rename_i was
        exact .inr was
      · exact active
  | completed =>
      refine orderly.of_inactive (fun same => by cases same) ?_
      rintro _ _ _ (active | active) <;> cases active
  | rolledBack =>
      refine orderly.of_inactive (fun same => by cases same) ?_
      intro _ _ old active
      cases old <;> rcases active with active | active <;> cases active
  | stagePaused target =>
      refine orderly.of_tame (fun id order old active => ?_) (fun id order => ?_) (fun id order => ?_) (.inl fun _ => rfl)
      · unfold pauseMap at active
        split at active
        · rename_i was
          exact .inl was.2
        · exact active
      · simp [pauseMap]
      · simp [pauseMap]

theorem Orderly.finished_changed {view after : RolloutView} (orderly : Orderly view) (change : RolloutChange view after)
    (ended : view.Finished) : after.Finished := by
  obtain ⟨status, was, ended⟩ := ended
  have none_active := orderly.finished ⟨status, was, ended⟩
  cases change with
  | same => exact ⟨status, was, ended⟩
  | started allowed =>
      rcases allowed with pending | ⟨unfinished, -⟩
      · rw [was] at pending
        cases pending
        rcases ended with ended | ended <;> cases ended
      · exact absurd ⟨status, was, ended⟩ unfinished
  | advanced rolling => exact absurd (.inl rfl) (none_active _ _ _ rolling)
  | advancedPast rolling last => exact absurd (.inl rfl) (none_active _ _ _ rolling)
  | paused allowed =>
      rcases allowed with ⟨id, order, rolling⟩ | unfinished
      · exact absurd (.inl rfl) (none_active _ _ _ rolling)
      · exact absurd ⟨status, was, ended⟩ unfinished
  | resumed allowed =>
      rcases allowed with ⟨id, order, rolling⟩ | unfinished
      · exact absurd (.inr rfl) (none_active _ _ _ rolling)
      · exact absurd ⟨status, was, ended⟩ unfinished
  | completed => exact ⟨.completed, by simp [RolloutView.change, was, toStatus], .inl rfl⟩
  | rolledBack => exact ⟨.rolledBack, by simp [RolloutView.change, was, toStatus], .inr rfl⟩
  | stagePaused target => exact ⟨status, by simp [RolloutView.change, was], ended⟩

theorem RolloutChange.status_isSome {view after : RolloutView} (change : RolloutChange view after)
    (present : view.status.isSome) : after.status.isSome := by
  cases change <;> simp [RolloutView.change, present]

theorem status_isSome_iff {db : Database} {rid : Uuid} : (viewOf db rid).status.isSome ↔ rid ∈ db.rollouts := by
  rw [← AList.lookup_isSome]
  simp [viewOf]

/-! ## Creation -/

/-- The stages inserted so far are pending and have the orders below the next one. -/
structure Prepared (view : RolloutView) (next : Int) : Prop where
  pending : ∀ id order status, view.stages id = some (order, status) → 0 ≤ order ∧ order < next ∧ status = .pending
  distinct : ∀ a b order first second, view.stages a = some (order, first) → view.stages b = some (order, second) → a = b

theorem Prepared.insert {db : Database} {rid id : Uuid} {order : Int} {stage : Stage}
    (prepared : Prepared (viewOf db rid) order) (nonneg : 0 ≤ order)
    (entry : stageOf rid stage = some (order, .pending)) :
    Prepared (viewOf { db with stages := db.stages.insert id stage } rid) (order + 1) := by
  have cases_ : ∀ other at_ status,
      (viewOf { db with stages := db.stages.insert id stage } rid).stages other = some (at_, status) →
        other = id ∧ at_ = order ∧ status = .pending ∨ other ≠ id ∧ (viewOf db rid).stages other = some (at_, status) := by
    intro other at_ status present
    rw [stages_viewOf, Table.lookup_insert_ite] at present
    split at present
    · rename_i same
      rw [Option.bind_some, entry] at present
      cases present
      exact .inl ⟨same, rfl, rfl⟩
    · rename_i different
      exact .inr ⟨different, present⟩
  constructor
  · intro other at_ status present
    rcases cases_ other at_ status present with ⟨-, rfl, rfl⟩ | ⟨-, old⟩
    · exact ⟨nonneg, by omega, rfl⟩
    · obtain ⟨low, high, waits⟩ := prepared.pending other at_ status old
      exact ⟨low, by omega, waits⟩
  · intro a b at_ first second presentA presentB
    rcases cases_ a at_ first presentA with ⟨sameA, orderA, -⟩ | ⟨-, oldA⟩
    · rcases cases_ b at_ second presentB with ⟨sameB, -, -⟩ | ⟨-, oldB⟩
      · rw [sameA, sameB]
      · have bound := (prepared.pending b at_ second oldB).2.1
        omega
    · rcases cases_ b at_ second presentB with ⟨-, orderB, -⟩ | ⟨-, oldB⟩
      · have bound := (prepared.pending a at_ first oldA).2.1
        omega
      · exact prepared.distinct a b at_ first second oldA oldB

theorem Prepared.insertStages {rid : Uuid} {ramp : Option Nat} {stages : List (Uuid × Uuid)} {order : Int}
    {before after : Database} (prepared : Prepared (viewOf before rid) order) (nonneg : 0 ≤ order)
    (inserted : Database.insertStages rid ramp stages order before = some after) :
    after.rollouts = before.rollouts ∧ ∃ last, Prepared (viewOf after rid) last := by
  induction stages generalizing order before with
  | nil =>
      cases inserted
      exact ⟨rfl, order, prepared⟩
  | cons stage stages ih =>
      unfold Database.insertStages at inserted
      split at inserted
      · cases inserted
      · have rest := ih (prepared.insert nonneg (by simp [stageOf])) (by omega) inserted
        exact rest

theorem orderly_created {before after : Database} {rid : Uuid} {version commit : Option String} {ramp : Option Nat}
    {stages : List (Uuid × Uuid)} (references : before.StagesReference)
    (created : before.createRollout rid version commit ramp stages = some after) :
    rid ∈ after.rollouts ∧ Orderly (viewOf after rid) := by
  unfold Database.createRollout at created
  split at created
  · cases created
  · rename_i accepted
    have fresh : rid ∉ before.rollouts := fun present => accepted (.inr (.inr present))
    have empty : ∀ id, (before.stages.lookup id).bind (stageOf rid) = none := by
      intro id
      rw [Option.bind_eq_none_iff]
      intro stage found
      have foreign : stage.rolloutId ≠ rid := fun mine => fresh (mine ▸ references id stage found)
      rw [stageOf, if_neg foreign]
    have none_ : ∀ row, Prepared (viewOf { before with rollouts := before.rollouts.insert rid row } rid) 0 := by
      intro row
      constructor
      · intro id order status present
        exact nomatch (empty id).symm.trans present
      · intro a b order first second present
        exact nomatch (empty a).symm.trans present
    obtain ⟨rollouts, last, prepared⟩ := (none_ _).insertStages le_rfl created
    have waits : (viewOf after rid).status = some .pending := by
      rw [viewOf, rollouts]
      simp
    refine ⟨status_isSome_iff.mp (by rw [waits]; rfl), ?_⟩
    constructor
    · exact fun id order status present => (prepared.pending id order status present).1
    · exact prepared.distinct
    · intro a b i j first second present active
      rw [(prepared.pending a i first present).2.2] at active
      rcases active with active | active <;> cases active
    · exact fun _ id order status present => (prepared.pending id order status present).2.2
    · rintro ⟨status, was, ended⟩
      rw [waits] at was
      cases was
      rcases ended with ended | ended <;> cases ended

/-! ## Runs -/

/-- At most one stage is under way; the stages before it are completed and those after it pending. -/
def StagesInOrder (db : Database) (rid : Uuid) : Prop :=
  ∀ a b stage other, db.stages.lookup a = some stage → stage.rolloutId = rid → RolloutStatus.active stage.status →
    db.stages.lookup b = some other → other.rolloutId = rid →
      (RolloutStatus.active other.status → a = b) ∧
      (other.stageOrder < stage.stageOrder → other.status = .completed) ∧
      (stage.stageOrder < other.stageOrder → other.status = .pending)

def HasStatus (db : Database) (rid : Uuid) (holds : RolloutStatus → Prop) : Prop :=
  ∃ rollout, db.rollouts.lookup rid = some rollout ∧ holds rollout.status

theorem Orderly.stagesInOrder {db : Database} {rid : Uuid} (orderly : Orderly (viewOf db rid)) : StagesInOrder db rid := by
  intro a b stage other foundA mineA active foundB mineB
  have presentA : (viewOf db rid).stages a = some (stage.stageOrder, stage.status) := by
    rw [stages_viewOf, foundA, Option.bind_some, stageOf, if_pos mineA]
  have presentB : (viewOf db rid).stages b = some (other.stageOrder, other.status) := by
    rw [stages_viewOf, foundB, Option.bind_some, stageOf, if_pos mineB]
  refine ⟨fun both => ?_, orderly.ordered a b _ _ _ _ presentA active presentB⟩
  by_cases same : other.stageOrder = stage.stageOrder
  · rw [same] at presentB
    exact orderly.distinct a b _ _ _ presentA presentB
  · exact absurd both (orderly.not_active_beside presentA active presentB same)

theorem finished_viewOf {db : Database} {rid : Uuid} :
    (viewOf db rid).Finished ↔ HasStatus db rid RolloutStatus.finished := by
  simp [RolloutView.Finished, HasStatus, viewOf]

theorem orderly_step {hash : Uuid → Uuid → Int} {rid : Uuid} {server after : RolloutServer} {event : RolloutEvent}
    (orderly : rid ∈ server.db.rollouts ∧ Orderly (viewOf server.db rid)) (guarded : Guarded rid server event)
    (stepped : rolloutStep hash server event = some after) :
    rid ∈ after.db.rollouts ∧ Orderly (viewOf after.db rid) := by
  have change := rolloutChange_of_step orderly.1 guarded stepped
  exact ⟨status_isSome_iff.mp (change.status_isSome (status_isSome_iff.mpr orderly.1)), orderly.2.changed change⟩

theorem finished_run {hash : Uuid → Uuid → Int} {rid : Uuid} {events : List RolloutEvent} {server final : RolloutServer}
    (orderly : rid ∈ server.db.rollouts ∧ Orderly (viewOf server.db rid)) (ended : (viewOf server.db rid).Finished)
    (guarded : Meets (rolloutStep hash) (Guarded rid) server events)
    (ran : run (rolloutStep hash) server events = some final) : (viewOf final.db rid).Finished := by
  have preserved : ∀ server event after,
      (rid ∈ server.db.rollouts ∧ Orderly (viewOf server.db rid)) ∧ (viewOf server.db rid).Finished →
      Guarded rid server event → rolloutStep hash server event = some after →
      (rid ∈ after.db.rollouts ∧ Orderly (viewOf after.db rid)) ∧ (viewOf after.db rid).Finished := by
    intro server event after holds met stepped
    exact ⟨orderly_step holds.1 met stepped,
      holds.1.2.finished_changed (rolloutChange_of_step holds.1.1 met stepped) holds.2⟩
  exact (run_invariant_of_meets preserved ⟨orderly, ended⟩ guarded ran).2

theorem stages_in_order {hash : Uuid → Uuid → Int} {db created : Database} {rid : Uuid} {version commit : Option String}
    {ramp : Option Nat} {stages : List (Uuid × Uuid)} (references : db.StagesReference)
    (made : db.createRollout rid version commit ramp stages = some created) {activeStages : List Uuid}
    {before after : List RolloutEvent} {middle final : RolloutServer}
    (guarded : Meets (rolloutStep hash) (Guarded rid) ⟨created, activeStages⟩ (before ++ after))
    (ran : run (rolloutStep hash) ⟨created, activeStages⟩ before = some middle)
    (later : run (rolloutStep hash) middle after = some final) :
    StagesInOrder final.db rid ∧
      (HasStatus middle.db rid RolloutStatus.finished → ¬ HasStatus final.db rid RolloutStatus.active) := by
  obtain ⟨guardedBefore, guardedAfter⟩ := (meets_append_iff ran).mp guarded
  have step := fun server event server' => @orderly_step hash rid server server' event
  have orderlyMiddle := run_invariant_of_meets step (orderly_created references made) guardedBefore ran
  have orderlyFinal := run_invariant_of_meets step orderlyMiddle guardedAfter later
  refine ⟨orderlyFinal.2.stagesInOrder, fun ended => ?_⟩
  obtain ⟨rollout, found, ended⟩ :=
    finished_viewOf.mp (finished_run orderlyMiddle (finished_viewOf.mpr ended) guardedAfter later)
  rintro ⟨same, again, active⟩
  rw [found] at again
  cases again
  rcases ended with ended | ended <;> rcases active with active | active <;> rw [ended] at active <;> cases active

theorem reportingDb_references : reportingDb.StagesReference :=
  (Table.forall_lookup_iff reportingDb.stages fun _ stage => stage.rolloutId ∈ reportingDb.rollouts).mpr (by decide)

def twoStages : List (Uuid × Uuid) := [(11, allClusters), (12, allClusters)]

def gatedRun : List RolloutEvent :=
  [.route .start 5, .tick, .evaluated (some false), .route .resume 5, .apply .advance 5, .apply .advance 5]

theorem stages_in_order_gated : ∃ created middle final,
    reportingDb.createRollout 5 (some "1.3.0") none none twoStages = some created ∧
      run (rolloutStep fun _ _ => 0) ⟨created, []⟩ gatedRun = some middle ∧
      run (rolloutStep fun _ _ => 0) middle [.route .rollback 5, .route .start 5] = some final ∧
      StagesInOrder final.db 5 ∧
      (HasStatus middle.db 5 RolloutStatus.finished → ¬ HasStatus final.db 5 RolloutStatus.active) :=
  ⟨_, _, _, rfl, rfl, rfl, @stages_in_order (fun _ _ => 0) reportingDb _ 5 (some "1.3.0") none none twoStages
    reportingDb_references rfl [] gatedRun [.route .rollback 5, .route .start 5] _ _
    ⟨trivial, fun _ _ => ⟨trivial, fun _ _ => ⟨trivial, fun _ _ => ⟨trivial, fun _ _ => ⟨trivial, fun _ _ =>
      ⟨trivial, fun _ _ => ⟨trivial, fun _ _ => ⟨trivial, fun _ _ => trivial⟩⟩⟩⟩⟩⟩⟩⟩ rfl rfl⟩

/-- Started again after its first stage, a rollout rolls out two stages at once. -/
theorem two_stages_rolling : ¬ ∀ (hash : Uuid → Uuid → Int) (db created : Database) rid version commit ramp stages events
    (final : RolloutServer), db.StagesReference → db.createRollout rid version commit ramp stages = some created →
      run (rolloutStep hash) ⟨created, []⟩ events = some final → StagesInOrder final.db rid := by
  intro all
  have ordered := all (fun _ _ => 0) reportingDb _ 5 (some "1.3.0") none none twoStages
    [.apply .start 5, .apply .advance 5, .apply .start 5] _ reportingDb_references rfl rfl 11 12 _ _ rfl rfl (.inl rfl)
    rfl rfl
  exact absurd (ordered.1 (.inl rfl)) (by decide)

end MacMgmt.Proof.Server

/-! ## Who a ramp has reached

A ramp starts with nobody, only ever adds clusters and ends with all of them, as long as its length in seconds is an `int`.
A longer ramp is accepted when the rollout is created, and then fails every query that evaluates it. -/

namespace MacMgmt.Proof.Server.Ramp
open MacMgmt.Server

variable {hashtextextended : Uuid → Uuid → Int} {cluster rid : Uuid}

theorem bucket_range : 0 ≤ bucket hashtextextended cluster rid ∧ bucket hashtextextended cluster rid < 100 := by
  unfold bucket
  have low : -100 < (hashtextextended rid cluster).tmod 100 := Int.lt_tmod_of_pos _ (by decide)
  constructor
  · exact Int.tmod_nonneg 100 (by omega)
  · exact Int.tmod_lt_of_pos _ (by decide)

theorem rampEligible_fits {rampMinutes : Nat} (fits : rampMinutes * 60 < 2 ^ 31) (startedAt now : DateTime) :
    rampEligible hashtextextended cluster rid rampMinutes startedAt now =
      some (decide (bucket hashtextextended cluster rid * minutes rampMinutes < 100 * (now - startedAt))) := by
  unfold rampEligible rampSeconds
  rw [if_pos fits, Option.map_some, minutes]
  push_cast
  rfl

theorem rampEligible_fails {rampMinutes : Nat} (long : ¬ rampMinutes * 60 < 2 ^ 31) (startedAt now : DateTime) :
    rampEligible hashtextextended cluster rid rampMinutes startedAt now = none := by
  unfold rampEligible rampSeconds
  rw [if_neg long, Option.map_none]

/-- Where the query succeeds it decides as `rampReached` does. -/
theorem stageEligible_eq_rampReached {db : Database} {stage : Stage}
    (fits : ∀ rampMinutes ∈ stage.rampMinutes, rampMinutes * 60 < 2 ^ 31) :
    stageEligible hashtextextended cluster rid db stage = some (rampReached hashtextextended db cluster rid stage) := by
  unfold stageEligible rampReached
  cases ramp : stage.rampMinutes with
  | none => rfl
  | some rampMinutes =>
      cases stage.startedAt with
      | none => rfl
      | some startedAt => exact rampEligible_fits (fits rampMinutes ramp) startedAt db.now

structure Ramps (hashtextextended : Uuid → Uuid → Int) (cluster rid : Uuid) (rampMinutes : Nat) (startedAt : Int) :
    Prop where
  bucket : 0 ≤ bucket hashtextextended cluster rid ∧ bucket hashtextextended cluster rid < 100
  monotone : ∀ now later : Int, now ≤ later → rampEligible hashtextextended cluster rid rampMinutes startedAt now = some true →
    rampEligible hashtextextended cluster rid rampMinutes startedAt later = some true
  start : rampEligible hashtextextended cluster rid rampMinutes startedAt startedAt = some false
  window : ∀ now : Int, startedAt + minutes rampMinutes ≤ now →
    rampEligible hashtextextended cluster rid rampMinutes startedAt now = some true

theorem ramps_iff (hashtextextended : Uuid → Uuid → Int) (cluster rid : Uuid) (rampMinutes : Nat)
    (positive : 0 < rampMinutes) (startedAt : DateTime) :
    Ramps hashtextextended cluster rid rampMinutes startedAt ↔ rampMinutes * 60 < 2 ^ 31 := by
  constructor
  · intro ramps
    by_contra long
    have start := ramps.start
    rw [rampEligible_fails long] at start
    cases start
  · intro fits
    have range : 0 ≤ bucket hashtextextended cluster rid ∧ bucket hashtextextended cluster rid < 100 := bucket_range
    have length : (0 : Int) < minutes rampMinutes := by
      unfold minutes
      omega
    refine ⟨range, fun now later le reached => ?_, ?_, fun now passed => ?_⟩
    · rw [rampEligible_fits fits, Option.some.injEq, decide_eq_true_eq] at reached ⊢
      omega
    · have from_zero : (0 : Int) ≤ bucket hashtextextended cluster rid * minutes rampMinutes := Int.mul_nonneg range.1 length.le
      rw [rampEligible_fits fits, Option.some.injEq, decide_eq_false_iff_not]
      omega
    · have below : bucket hashtextextended cluster rid * minutes rampMinutes < 100 * minutes rampMinutes :=
        Int.mul_lt_mul_of_pos_right range.2 length
      rw [rampEligible_fits fits, Option.some.injEq, decide_eq_true_eq]
      omega

theorem ramps_hour : Ramps (fun _ _ => -1) 1 2 60 0 ↔ 60 * 60 < 2 ^ 31 := ramps_iff _ 1 2 60 (by decide) 0

/-- A ramp of sixty-eight years. -/
theorem long_ramp_fails :
    ¬ ∀ (hashtextextended : Uuid → Uuid → Int) (cluster rid : Uuid) (rampMinutes : Nat) (startedAt : DateTime),
      0 < rampMinutes → rampMinutes < 2 ^ 31 → Ramps hashtextextended cluster rid rampMinutes startedAt := by
  intro all
  have start := (all (fun _ _ => 0) 1 2 35791395 0 (by decide) (by decide)).start
  rw [rampEligible_fails (by decide)] at start
  cases start

end MacMgmt.Proof.Server.Ramp
