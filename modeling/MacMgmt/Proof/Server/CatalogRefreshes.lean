import MacMgmt.Server.SkillCenters

/-!
# Refreshes of one center at the same time

What a catalog is without, the center was without when it gave it. So of the assignments that a query hits, only one that was
made since can be of an item that was there all along.
-/

namespace MacMgmt.Proof.Server
open Lib MacMgmt.Server SkillCenters

variable {state after : SkillCenters} {now : Nat}

/-- The assignments of what the catalog is without are known to lack it, as far as they were made before. -/
structure TakenFrom (now : Nat) (state : SkillCenters) (center : Uuid) (catalog : CenterCatalog) (takenAt : Nat) : Prop where
  before : takenAt < now
  lacking : ∀ key assignment, state.assignments.lookup key = some assignment → assignment.center = center →
    assignment.madeAt ≤ takenAt → assignment.remoteId ∉ catalog.items assignment.kind → assignment.lacking = true

def SoundStage (now : Nat) (state : SkillCenters) (center : Uuid) : RefreshStage → Prop
  | .fetching => True
  | .diffing catalog takenAt => TakenFrom now state center catalog takenAt
  | .deleting catalog takenAt queries => queries ≠ [] → TakenFrom now state center catalog takenAt ∧
      ∀ query ∈ queries, ∀ id ∈ query.2, id ∉ catalog.items query.1

structure SoundRefresh (now : Nat) (state : SkillCenters) (task : RefreshTask) (refresh : Refresh) : Prop where
  stage : SoundStage now state refresh.center refresh.stage
  remote : (∀ request, task ≠ .sync request) → refresh.builtinUrl = false

structure Timed (now : Nat) (state : SkillCenters) : Prop where
  lacking : ∀ key assignment, state.assignments.lookup key = some assignment →
    assignment.remoteId ∉ (state.catalogOf assignment.center).items assignment.kind → assignment.lacking = true
  refreshes : ∀ task refresh, state.refreshes.lookup task = some refresh → SoundRefresh now state task refresh

/-- An assignment is new, or it was there and lacks its item if it did. -/
def Flows (now : Nat) (state after : SkillCenters) : Prop :=
  ∀ key assignment, after.assignments.lookup key = some assignment →
    (∃ old, state.assignments.lookup key = some old ∧ old.center = assignment.center ∧ old.kind = assignment.kind ∧
      old.remoteId = assignment.remoteId ∧ old.madeAt = assignment.madeAt ∧
      (old.lacking = true → assignment.lacking = true)) ∨
    assignment.madeAt = now

theorem flows_of_sub (sub : ∀ key assignment, after.assignments.lookup key = some assignment →
    state.assignments.lookup key = some assignment) : Flows now state after :=
  fun key assignment found => .inl ⟨assignment, sub key assignment found, rfl, rfl, rfl, rfl, id⟩

theorem TakenFrom.flow {center : Uuid} {catalog : CenterCatalog} {takenAt : Nat}
    (taken : TakenFrom now state center catalog takenAt) (flows : Flows now state after) :
    TakenFrom (now + 1) after center catalog takenAt := by
  refine ⟨taken.before.trans (Nat.lt_succ_self _), fun key assignment found same made absent => ?_⟩
  rcases flows key assignment found with ⟨old, stored, center, kind, remoteId, madeAt, lacking⟩ | new
  · refine lacking (taken.lacking key old stored (center.trans same) (madeAt ▸ made) ?_)
    rw [kind, remoteId]
    exact absent
  · have before := taken.before
    omega

theorem SoundStage.flow {center : Uuid} {stage : RefreshStage} (sound : SoundStage now state center stage)
    (flows : Flows now state after) : SoundStage (now + 1) after center stage := by
  cases stage with
  | fetching => trivial
  | diffing catalog takenAt => exact TakenFrom.flow sound flows
  | deleting catalog takenAt queries => exact fun some_ => ⟨(sound some_).1.flow flows, (sound some_).2⟩

theorem SoundRefresh.flow {task : RefreshTask} {refresh : Refresh} (sound : SoundRefresh now state task refresh)
    (flows : Flows now state after) : SoundRefresh (now + 1) after task refresh :=
  ⟨sound.stage.flow flows, sound.remote⟩

structure Advances (now : Nat) (state after : SkillCenters) : Prop where
  flows : Flows now state after
  lacking : ∀ key assignment, after.assignments.lookup key = some assignment →
    assignment.remoteId ∉ (after.catalogOf assignment.center).items assignment.kind → assignment.lacking = true
  refreshes : ∀ task refresh, after.refreshes.lookup task = some refresh →
    state.refreshes.lookup task = some refresh ∨ SoundRefresh (now + 1) after task refresh

theorem Timed.advance (timed : Timed now state) (advances : Advances now state after) : Timed (now + 1) after := by
  refine ⟨advances.lacking, fun task refresh found => ?_⟩
  rcases advances.refreshes task refresh found with same | sound
  · exact (timed.refreshes task refresh same).flow advances.flows
  · exact sound

theorem Timed.fewer (timed : Timed now state) (remote : after.remote = state.remote)
    (sub : ∀ key assignment, after.assignments.lookup key = some assignment → state.assignments.lookup key = some assignment)
    (refreshes : ∀ task refresh, after.refreshes.lookup task = some refresh →
      state.refreshes.lookup task = some refresh ∨ SoundRefresh (now + 1) after task refresh) : Advances now state after := by
  refine ⟨flows_of_sub sub, fun key assignment found absent => ?_, refreshes⟩
  refine timed.lacking key assignment (sub key assignment found) ?_
  rwa [catalogOf, ← remote]

theorem lookup_insert_or {task : RefreshTask} {refresh : Refresh} {refreshes : Table RefreshTask Refresh}
    (sound : SoundRefresh (now + 1) after task refresh) (inserted : after.refreshes = refreshes.insert task refresh)
    (other : RefreshTask) (found : Refresh) (looked : after.refreshes.lookup other = some found) :
    refreshes.lookup other = some found ∨ SoundRefresh (now + 1) after other found := by
  rw [inserted, Table.lookup_insert_ite] at looked
  split at looked
  · rename_i same
    cases looked
    rw [same]
    exact .inr sound
  · exact .inl looked

theorem mem_deleted {old new : CenterCatalog} {query : ItemKind × List Uuid} (member : query ∈ old.deleted new) :
    ∀ id ∈ query.2, id ∉ new.items query.1 := by
  obtain ⟨kind, -, rfl⟩ := List.mem_map.mp (List.mem_filter.mp member).1
  intro id inside
  simpa using (List.mem_filter.mp inside).2

/-! ## One step -/

theorem advances_refresh (timed : Timed state.clock state) {task : RefreshTask} {refresh : Refresh}
    (sound : SoundRefresh (state.clock + 1) after task refresh) (assignments : after.assignments = state.assignments)
    (remote : after.remote = state.remote) (inserted : after.refreshes = state.refreshes.insert task refresh) :
    Advances state.clock state after :=
  timed.fewer remote (fun key assignment found => by rwa [assignments] at found) (lookup_insert_or sound inserted)

theorem advances_same (timed : Timed state.clock state) (assignments : after.assignments = state.assignments)
    (remote : after.remote = state.remote) (refreshes : after.refreshes = state.refreshes) :
    Advances state.clock state after :=
  timed.fewer remote (fun key assignment found => by rwa [assignments] at found)
    fun task refresh found => .inl (by rwa [refreshes] at found)

theorem lookup_of_erase {K V : Type*} [DecidableEq K] {table : Table K V} {key other : K} {value : V}
    (found : (table.erase key).lookup other = some value) : table.lookup other = some value := by
  rw [Table.lookup_erase_ite] at found
  split at found
  · cases found
  · exact found

theorem advances_publish (timed : Timed state.clock state) (id : Uuid) (catalog : CenterCatalog) :
    Advances state.clock state (state.publish id catalog) := by
  have rows : ∀ key assignment, (state.publish id catalog).assignments.lookup key = some assignment →
      ∃ old, state.assignments.lookup key = some old ∧ (if (old.center = id && old.remoteId ∉ catalog.items old.kind) = true
        then { old with lacking := true } else old) = assignment := fun key assignment found =>
    Table.lookup_update_some.mp found
  refine ⟨fun key assignment found => ?_, fun key assignment found absent => ?_, fun task refresh found => .inl found⟩
  · obtain ⟨old, stored, rfl⟩ := rows key assignment found
    refine .inl ⟨old, stored, ?_⟩
    split <;> simp
  · obtain ⟨old, stored, rfl⟩ := rows key assignment found
    split at absent
    · rw [if_pos ‹_›]
    · rename_i other
      rw [if_neg other]
      refine timed.lacking key old stored ?_
      rw [catalogOf, SkillCenters.publish, Table.lookup_insert_ite] at absent
      split at absent
      · rename_i same
        simp only [same, decide_true, Bool.true_and, decide_eq_true_eq, not_not] at other
        exact absurd other absent
      · exact absent

theorem advances_assign (timed : Timed state.clock state) {key : Nat} {center remoteId : Uuid} {kind : ItemKind}
    (taken : state.act (.assign key center kind remoteId) = some after) : Advances state.clock state after := by
  simp only [act] at taken
  split at taken
  · cases taken
  · cases taken
    refine ⟨fun other assignment found => ?_, fun other assignment found absent => ?_, fun task refresh found => .inl found⟩
    · simp only [Table.lookup_insert_ite] at found
      split at found
      · cases found
        exact .inr rfl
      · exact .inl ⟨assignment, found, rfl, rfl, rfl, rfl, id⟩
    · simp only [Table.lookup_insert_ite] at found
      split at found
      · cases found
        exact decide_eq_true absent
      · exact timed.lacking other assignment found absent

theorem advances_fetched (timed : Timed state.clock state) {task : RefreshTask}
    (taken : state.act (.fetched task) = some after) : Advances state.clock state after := by
  simp only [act] at taken
  split at taken
  · rename_i center builtinUrl found
    cases taken
    refine advances_refresh timed ?_ rfl rfl rfl
    refine ⟨?_, (timed.refreshes task _ found).remote⟩
    cases task with
    | sync request => exact fun some_ => absurd rfl some_
    | _ =>
        have remote : builtinUrl = false := (timed.refreshes _ _ found).remote (by simp)
        subst remote
        refine ⟨Nat.lt_succ_self _, fun key assignment stored same _ absent => ?_⟩
        exact timed.lacking key assignment stored (same ▸ absent)
  · cases taken

theorem advances_diff (timed : Timed state.clock state) {task : RefreshTask}
    (taken : state.act (.diff task) = some after) : Advances state.clock state after := by
  simp only [act] at taken
  split at taken
  · rename_i center builtinUrl catalog takenAt found
    cases taken
    have sound := timed.refreshes task _ found
    have same : Flows state.clock state state := flows_of_sub fun _ _ found => found
    refine advances_refresh timed ?_ rfl rfl rfl
    refine ⟨fun _ => ⟨TakenFrom.flow sound.stage same, fun query member => ?_⟩, sound.remote⟩
    cases cached : state.cache.lookup center with
    | none =>
        rw [cached] at member
        cases member
    | some old =>
        rw [cached] at member
        exact mem_deleted member
  · cases taken

theorem advances_delete (timed : Timed state.clock state) {task : RefreshTask} {queried : Bool}
    (taken : state.act (.delete task queried) = some after) : Advances state.clock state after := by
  simp only [act] at taken
  split at taken
  · rename_i center builtinUrl catalog takenAt query queries found
    cases taken
    have sound := timed.refreshes task _ found
    have sub : ∀ key assignment,
        (if queried then state.deleteRows center query else state).assignments.lookup key = some assignment →
          state.assignments.lookup key = some assignment := by
      intro key assignment kept
      split at kept
      · exact (Table.lookup_retain_some.mp kept).1
      · exact kept
    have remote : (if queried then state.deleteRows center query else state).remote = state.remote := by
      split <;> rfl
    have refreshes : (if queried then state.deleteRows center query else state).refreshes = state.refreshes := by
      split <;> rfl
    obtain ⟨from_, apart⟩ := sound.stage (List.cons_ne_nil _ _)
    have flows : Flows state.clock state
        (SkillCenters.setStage (if queried then state.deleteRows center query else state) task
          ⟨center, builtinUrl, .fetching⟩ (.deleting catalog takenAt queries)) := flows_of_sub sub
    have left : SoundRefresh (state.clock + 1)
        (SkillCenters.setStage (if queried then state.deleteRows center query else state) task
          ⟨center, builtinUrl, .fetching⟩ (.deleting catalog takenAt queries)) task
        ⟨center, builtinUrl, .deleting catalog takenAt queries⟩ :=
      ⟨fun _ => ⟨from_.flow flows, fun other member => apart other (List.mem_cons_of_mem _ member)⟩, sound.remote⟩
    exact timed.fewer remote sub (lookup_insert_or left (by rw [← refreshes]; rfl))
  · cases taken

theorem advances_act (timed : Timed state.clock state) {event : SkillCenterEvent} (taken : state.act event = some after) :
    Advances state.clock state after := by
  cases event
  case assign => exact advances_assign timed taken
  case fetched => exact advances_fetched timed taken
  case diff => exact advances_diff timed taken
  case delete => exact advances_delete timed taken
  case publish id catalog =>
    cases taken
    exact advances_publish timed id catalog
  case unassign key =>
    cases taken
    exact timed.fewer rfl (fun _ _ found => lookup_of_erase found) fun _ _ found => .inl found
  all_goals simp only [act] at taken
  case remove id =>
    split at taken
    · cases taken
    · cases taken
      exact timed.fewer rfl (fun _ _ found => (Table.lookup_retain_some.mp found).1) fun _ _ found => .inl found
  case refreshNext id =>
    split at taken
    · split at taken
      · cases taken
      · cases taken
        refine advances_refresh timed ?_ rfl rfl rfl
        exact ⟨trivial, fun _ => rfl⟩
    · cases taken
  case catalogChanged id =>
    split at taken
    · cases taken
      refine advances_refresh timed ?_ rfl rfl rfl
      exact ⟨trivial, fun _ => rfl⟩
    · cases taken
  case syncNow request id =>
    split at taken
    · split at taken
      · cases taken
      · cases taken
        refine advances_refresh timed ?_ rfl rfl rfl
        exact ⟨trivial, fun other => absurd rfl (other request)⟩
    · cases taken
  case fetchFailed task =>
    split at taken
    · cases taken
      exact timed.fewer rfl (fun _ _ found => found) fun _ _ found => .inl (lookup_of_erase found)
    · cases taken
  case store task =>
    split at taken
    · cases taken
      exact timed.fewer rfl (fun _ _ found => found) fun _ _ found => .inl (lookup_of_erase found)
    · cases taken
  all_goals
    repeat' split at taken
    all_goals cases taken
    all_goals exact advances_same timed rfl rfl rfl

theorem SoundStage.of_same {center : Uuid} {stage : RefreshStage} (sound : SoundStage now state center stage)
    (same : after.assignments = state.assignments) : SoundStage now after center stage := by
  have taken : ∀ catalog takenAt, TakenFrom now state center catalog takenAt → TakenFrom now after center catalog takenAt :=
    fun catalog takenAt taken => ⟨taken.before, by rw [same]; exact taken.lacking⟩
  cases stage with
  | fetching => trivial
  | diffing catalog takenAt => exact taken catalog takenAt sound
  | deleting catalog takenAt queries => exact fun some_ => ⟨taken catalog takenAt (sound some_).1, (sound some_).2⟩

theorem Timed.of_same (timed : Timed now state) (assignments : after.assignments = state.assignments)
    (remote : after.remote = state.remote) (refreshes : after.refreshes = state.refreshes) : Timed now after := by
  refine ⟨fun key assignment found absent => ?_, fun task refresh found => ?_⟩
  · rw [assignments] at found
    rw [catalogOf, remote] at absent
    exact timed.lacking key assignment found absent
  · rw [refreshes] at found
    have sound := timed.refreshes task refresh found
    exact ⟨sound.stage.of_same assignments, sound.remote⟩

theorem step_some {event : SkillCenterEvent} (taken : step state event = some after) :
    ∃ middle, state.goOn.act event = some middle ∧ after = middle.tick := by
  obtain ⟨middle, acted, rfl⟩ := Option.map_eq_some_iff.mp taken
  exact ⟨middle, acted, rfl⟩

theorem act_clock {event : SkillCenterEvent} (taken : state.act event = some after) : after.clock = state.clock := by
  cases event
  case delete task queried =>
    simp only [act] at taken
    split at taken
    · cases taken
      cases queried <;> rfl
    · cases taken
  all_goals simp only [act] at taken
  all_goals repeat' split at taken
  all_goals cases taken
  all_goals rfl

theorem timed_step {event : SkillCenterEvent} (timed : Timed state.clock state) (taken : step state event = some after) :
    Timed after.clock after := by
  obtain ⟨middle, acted, rfl⟩ := step_some taken
  have before : Timed state.goOn.clock state.goOn := timed.of_same rfl rfl rfl
  have advanced := before.advance (advances_act before acted)
  rw [← act_clock acted] at advanced
  exact advanced.of_same rfl rfl rfl

/-! ## Runs -/

theorem inTime_other {event : SkillCenterEvent} (taken : state.act event = some after)
    (delete : ∀ task queried, event ≠ .delete task queried) (store : ∀ task, event ≠ .store task) :
    InOrder after ↔ InOrder state := by
  cases event
  case delete task queried => exact absurd rfl (delete task queried)
  case store task => exact absurd rfl (store task)
  all_goals simp only [act] at taken
  all_goals repeat' split at taken
  all_goals cases taken
  all_goals rfl

theorem inTime_delete (timed : Timed state.clock state) (inOrder : InOrder state) {task : RefreshTask} {queried : Bool}
    (taken : state.act (.delete task queried) = some after) :
    InOrder after ↔ InTime state (.delete task queried) := by
  simp only [act] at taken
  split at taken
  · rename_i center builtinUrl catalog takenAt query queries found
    cases taken
    cases queried with
    | false => exact iff_of_true inOrder fun sent => absurd sent Bool.false_ne_true
    | true =>
        obtain ⟨from_, apart⟩ := (timed.refreshes task _ found).stage (List.cons_ne_nil _ _)
        have one : InOrder ((state.deleteRows center query).setStage task ⟨center, builtinUrl, .fetching⟩
            (.deleting catalog takenAt queries)) ↔
            ∀ key assignment, state.assignments.lookup key = some assignment → hits center query assignment = true →
              assignment.lacking = true := by
          rw [Table.forall_lookup_iff _ fun _ assignment => hits center query assignment = true → assignment.lacking = true]
          simp [InOrder, SkillCenters.setStage, deleteRows, inOrder.1, inOrder.2]
        refine Iff.trans one ⟨fun all _ => ?_, fun inTime key assignment stored hit => ?_⟩
        · intro center builtinUrl catalog takenAt query queries same key assignment stored hit _
          cases found.symm.trans same
          exact all key assignment stored hit
        · rcases Nat.lt_or_ge takenAt assignment.madeAt with late | early
          · exact inTime rfl center builtinUrl catalog takenAt query queries found key assignment stored hit late
          · simp only [hits, Bool.and_eq_true, decide_eq_true_eq] at hit
            refine from_.lacking key assignment stored hit.1.1 early ?_
            rw [hit.1.2]
            exact apart query (List.mem_cons_self ..) assignment.remoteId hit.2
  · cases taken

theorem inTime_store (inOrder : InOrder state) {task : RefreshTask} (taken : state.act (.store task) = some after) :
    InOrder after ↔ InTime state (.store task) := by
  simp only [act] at taken
  split at taken
  · rename_i center builtinUrl catalog takenAt found
    cases taken
    have one : InOrder ((state.cacheUpdate center catalog takenAt).endRefresh task) ↔
        ∀ old, state.cache.lookup center = some old → old.takenAt ≤ takenAt := by
      cases cached : state.cache.lookup center <;>
        simp [InOrder, SkillCenters.endRefresh, cacheUpdate, inOrder.1, inOrder.2, cached]
    refine one.trans ⟨fun all => ?_, fun inTime => inTime center builtinUrl catalog takenAt found⟩
    intro center builtinUrl catalog takenAt same
    cases found.symm.trans same
    exact all
  · cases taken

theorem inTime_step {event : SkillCenterEvent} (timed : Timed state.clock state) (inOrder : InOrder state)
    (taken : step state event = some after) : InOrder after ↔ InTime state event := by
  obtain ⟨middle, acted, rfl⟩ := step_some taken
  have before : Timed state.goOn.clock state.goOn := timed.of_same rfl rfl rfl
  have quiet : InOrder state.goOn := inOrder
  cases event
  case delete task queried =>
    have one := inTime_delete before quiet acted
    exact one
  case store task =>
    have one := inTime_store quiet acted
    exact one
  all_goals exact iff_of_true ((inTime_other acted (by simp) (by simp)).mpr inOrder) trivial

theorem timed_start (builtin : CenterCatalog) : Timed (start builtin).clock (start builtin) := by
  refine ⟨fun _ _ found => ?_, fun _ _ found => ?_⟩ <;> cases found

/-- A poll takes the catalog while the skill is gone. It is back and assigned again when the poll goes on. -/
def slowResponse : List SkillCenterEvent :=
  [.create 1 ⟨false, true⟩, .publish 1 ⟨[7], [], [], []⟩, .refreshAll true, .refreshNext 1, .fetched .poll, .diff .poll,
    .store .poll, .collect, .finish, .spawnListeners true, .publish 1 .empty, .refreshAll true, .refreshNext 1,
    .fetched .poll, .publish 1 ⟨[7], [], [], []⟩, .catalogChanged 1, .fetched (.listener 1), .diff (.listener 1),
    .store (.listener 1), .assign 0 1 .skillChannel 7, .diff .poll, .delete .poll true, .store .poll]

end MacMgmt.Proof.Server
