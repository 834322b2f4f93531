import MacMgmt.Proof.Runner.Kept

/-!
# Every operation keeps the state

One lemma for each function of the orchestrator: from any world in which what it was handed is as it was read, every step of
it keeps the invariant, whatever others do in between.
-/

namespace MacMgmt.Proof.Runner
open Lib Task MacMgmt.Runner Orchestrator

variable {config : RunnerConfig} {owns : String → String → Prop} {strict calm : Prop}

def turns (config : RunnerConfig) (owns : String → String → Prop) (strict calm : Prop) : Contract World Answer where
  rely := Later
  guarantee := Later
  allowed _ := True
  assumes _ := True
  keeps := Kept config owns strict calm

abbrev Safe (config : RunnerConfig) (owns : String → String → Prop) (strict calm : Prop) {A : Type}
    (task : Orchestrator A) (world : World) : Prop := Holds (turns config owns strict calm) (fun _ _ => True) task world

section Calls
variable {A : Type} {world : World}

theorem safe_pure {result : A} : Safe config owns strict calm (pure result) world := holds_pure trivial

theorem safe_ask {result : World → Answer → A} : Safe config owns strict calm (ask result) world :=
  holds_act fun now _ _ kept _ _ => ⟨.refl now, kept, trivial⟩

theorem safe_look {view : World → A} : Safe config owns strict calm (look view) world :=
  holds_look (fun now => .refl now) fun _ _ _ _ => trivial

theorem safe_seq {B : Type} {first : Orchestrator B} {rest : B → Orchestrator A}
    (one : Safe config owns strict calm first world)
    (onward : ∀ result after, Later world after → Safe config owns strict calm (rest result) after) :
    Safe config owns strict calm (first >>= rest) world := by
  apply holds_seq (one.since Later.refl (fun _ _ _ => Later.trans) fun _ _ same => same)
  intro result after ⟨later, _⟩
  exact onward result after later

theorem holds_ask {post : A → World → Prop} {result : World → Answer → A}
    (reads : ∀ now, Later world now → Kept config owns strict calm now → ∀ answer, post (result now answer) now) :
    Holds (turns config owns strict calm) post (ask result) world :=
  holds_act fun now later _ kept answer _ => ⟨.refl now, kept, reads now later kept answer⟩

theorem safe_deleteInstance {name : String} (carried : strict → config.carries name = true) :
    Safe config owns strict calm (deleteInstance name) world := by
  apply holds_act
  intro now _ _ kept answer _
  dsimp only [effect]
  split
  · exact ⟨later_deleteMachine now name, kept_deleteMachine kept carried, trivial⟩
  · exact ⟨.refl now, kept, trivial⟩

theorem safe_deleteCluster {id : Uuid} (handed : id < world.next)
    (carried : strict → ∀ name, world.clusters.lookup id = some name → config.carries name = true) :
    Safe config owns strict calm (deleteCluster id) world := by
  apply holds_act
  intro now later _ kept answer _
  dsimp only [effect]
  split
  · refine ⟨later_deleteCluster now id, kept_deleteCluster kept ?_, trivial⟩
    intro strictly name found
    exact carried strictly name (later.clusters id name found handed)
  · exact ⟨.refl now, kept, trivial⟩

theorem carries_clusterName (key : String) : config.carries (config.clusterName key) = true := by
  unfold RunnerConfig.carries RunnerConfig.clusterName
  rw [String.toList_append, List.isPrefixOf_iff_prefix]
  exact List.prefix_append _ _

theorem safe_deleteNamed {key : String} {id : Uuid} (named : world.Named config key id) :
    Safe config owns strict calm (deleteCluster id) world :=
  safe_deleteCluster named.1 fun _ name found => named.2 name found ▸ carries_clusterName key

theorem holds_createCluster {key : String} :
    Holds (turns config owns strict calm) (fun created after => ∀ id, created = some id → after.Named config key id)
      (createCluster (config.clusterName key)) world := by
  apply holds_act
  intro now _ _ kept answer _
  dsimp only [effect]
  cases free : now.nameFree (config.clusterName key) with
  | false =>
      simp only [Bool.false_eq_true, if_false, Bool.and_false, ite_self]
      exact ⟨.refl now, kept, nofun⟩
  | true =>
      simp only [if_true, Bool.and_true]
      cases ok : answer.ok with
      | false =>
          split
          · exact ⟨later_createCluster _, kept_createCluster kept _, nofun⟩
          · exact ⟨.refl now, kept, nofun⟩
      | true =>
          refine ⟨later_createCluster _, kept_createCluster kept _, ?_⟩
          intro id same
          cases same
          refine ⟨Nat.lt_succ_self _, fun name found => ?_⟩
          have there : (now.clusters.insert now.next (config.clusterName key)).lookup now.next = some name := found
          rw [AList.lookup_insert] at there
          exact (Option.some.inj there).symm

theorem holds_generateHostKey :
    Holds (turns config owns strict calm) (fun id after => id < after.next) generateHostKey world := by
  apply holds_act
  intro now _ _ kept _ _
  exact ⟨⟨Nat.le_succ _, fun _ _ found _ => found⟩, kept_handOut kept, Nat.lt_succ_self _⟩

theorem safe_createInstance {key : String} {spec : InstanceSpec} (owned : owns key spec.instanceName)
    (handed : spec.instanceId < world.next) : Safe config owns strict calm (createInstance key spec) world := by
  apply holds_act
  intro now later _ kept answer _
  dsimp only [effect]
  split
  · cases now.machines.lookup spec.instanceName with
    | some machine => exact ⟨.refl now, kept, trivial⟩
    | none =>
        exact ⟨⟨le_rfl, fun _ _ found _ => found⟩, kept_createInstance kept owned (handed.trans_le later.next), trivial⟩
  · exact ⟨.refl now, kept, trivial⟩

end Calls

/-! ## The state -/

section State
variable {world : World}

theorem safe_saveState : Safe config owns strict calm saveState world := by
  apply holds_act
  intro now _ _ kept answer _
  split
  · exact ⟨⟨le_rfl, fun _ _ found _ => found⟩, kept_save kept, trivial⟩
  · exact ⟨.refl now, kept, trivial⟩

theorem safe_alter {change : World → World}
    (changes : ∀ now, Later world now → Kept config owns strict calm now → ∃ fleet overwrote,
      change now = { now with fleet, overwrote } ∧ Listed config owns now fleet ∧ (calm → fleet.paused = false)) :
    Safe config owns strict calm (alter change) world := by
  apply holds_act
  intro now later _ kept _ _
  obtain ⟨fleet, overwrote, same, listed, unpaused⟩ := changes now later kept
  rw [same]
  exact ⟨⟨le_rfl, fun _ _ found _ => found⟩, kept_fleet kept listed unpaused, trivial⟩

theorem safe_setPaused {paused : Bool} (allowed : calm → paused = false) :
    Safe config owns strict calm (setPaused paused) world := by
  apply safe_seq
  · apply safe_alter
    intro now _ kept
    have listed : Listed config owns now { now.fleet with paused } :=
      ⟨⟨kept.fleet.keys, kept.fleet.clusters⟩, kept.fleet.names⟩
    exact ⟨_, _, rfl, listed, allowed⟩
  · intro _ after _
    exact safe_saveState

theorem safe_persistCell {expected : Option CellStage} {cell : CellState}
    (named : ∀ id, cell.stage.clusterId = some id → world.Named config cell.key id)
    (owned : ∀ name ∈ namesOf cell.stage, owns cell.key name) :
    Safe config owns strict calm (persistCell expected cell) world := by
  apply safe_seq
  · apply safe_alter
    intro now later kept
    refine ⟨_, _, rfl, ?_, fun calmly => (kept.unpaused calmly).1⟩
    exact kept.fleet.upsert (fun id found => Named.later (named id found) later) owned
  · intro _ after _
    exact safe_saveState

theorem safe_removeCell {key : String} {expected : Option CellStage} :
    Safe config owns strict calm (removeCell key expected) world := by
  apply safe_alter
  intro now _ kept
  exact ⟨_, _, rfl, kept.fleet.remove key, fun calmly => (kept.unpaused calmly).1⟩

theorem safe_persistStage {cell : MatrixCell} {expected : Option CellStage} {stage : CellStage} {now : Nat}
    {change : CellState → CellState} (keeps : ∀ state, (change state).key = state.key ∧ (change state).stage = state.stage)
    (named : ∀ id, stage.clusterId = some id → world.Named config cell.key id)
    (owned : ∀ name ∈ namesOf stage, owns cell.key name) :
    Safe config owns strict calm (persistStage cell expected stage now change) world := by
  have built : Holds (turns config owns strict calm)
      (fun state after => Later world after ∧ state.key = cell.key ∧ state.stage = stage) (cellWithStage cell stage now) world :=
    holds_look (fun now => .refl now) fun _ later _ _ => ⟨later, rfl, rfl⟩
  apply holds_seq built
  intro state after ⟨later, sameKey, sameStage⟩
  obtain ⟨keptKey, keptStage⟩ := keeps state
  apply safe_seq
  · apply safe_persistCell
    · rw [keptStage, keptKey, sameStage, sameKey]
      exact fun id found => Named.later (named id found) later
    · rw [keptStage, keptKey, sameStage, sameKey]
      exact owned
  · intro _ _ _
    exact safe_pure

end State

/-! ## Transitions -/

section Transitions
variable {world : World}

theorem safe_forEach {Item : Type} {body : Item → Orchestrator Unit} {items : List Item}
    (safe : ∀ item ∈ items, ∀ after, Later world after → Safe config owns strict calm (body item) after) :
    Safe config owns strict calm (forEach body items) world := by
  have all : Holds (turns config owns strict calm) (fun _ => Later world) (forEach body items) world := by
    apply holds_forEach _ (Later.refl world)
    intro item member state later
    apply ((safe item member state later).since Later.refl (fun _ _ _ => Later.trans) fun _ _ same => same).imp
    intro _ after ⟨onward, _⟩
    exact later.trans onward
  exact all.imp fun _ _ _ => trivial

theorem safe_deleteInstances {names : List String} (carried : strict → ∀ name ∈ names, config.carries name = true) :
    Safe config owns strict calm (deleteInstances names) world := by
  apply safe_forEach
  intro name member _ _
  apply safe_seq
  · exact safe_deleteInstance fun strictly => carried strictly name member
  · intro _ _ _
    exact safe_pure

def Rows (rows : Option (List (Uuid × String))) (world : World) : Prop :=
  ∀ list, rows = some list → ∀ row ∈ list, row.1 < world.next ∧ ∀ name, world.clusters.lookup row.1 = some name → name = row.2

theorem Rows.later {rows : Option (List (Uuid × String))} {before after : World} (read : Rows rows before)
    (later : Later before after) : Rows rows after := by
  intro list same row member
  obtain ⟨handed, named⟩ := read list same row member
  exact ⟨handed.trans_le later.next, fun name found => named name (later.clusters row.1 name found handed)⟩

theorem mem_rows {world : World} {row : Uuid × String}
    (member : row ∈ world.clusters.entries.map fun row => (row.1, row.2)) : world.clusters.lookup row.1 = some row.2 := by
  obtain ⟨entry, there, same⟩ := List.mem_map.mp member
  rw [← same]
  exact AList.mem_lookup_iff.mpr there

theorem holds_listClusters :
    Holds (turns config owns strict calm) (fun rows after => Later world after ∧ Rows rows after) listClusters world := by
  apply holds_ask
  intro now later kept answer
  refine ⟨later, fun list same row member => ?_⟩
  split at same
  · cases same
    have there := mem_rows member
    exact ⟨kept.known _ _ there, fun name found => Option.some.inj (found.symm.trans there)⟩
  · cases same

theorem safe_deleteRow {list : List (Uuid × String)} {row : Uuid × String} (read : Rows (some list) world)
    (member : row ∈ list) (carried : config.carries row.2 = true) :
    Safe config owns strict calm (deleteCluster row.1) world := by
  obtain ⟨handed, named⟩ := read list rfl row member
  exact safe_deleteCluster handed fun _ name found => named name found ▸ carried

theorem safe_deleteStray {key : String} {rows : Option (List (Uuid × String))} (read : Rows rows world) :
    Safe config owns strict calm (deleteStray (config.clusterName key) rows) world := by
  unfold deleteStray
  cases rows with
  | none => exact safe_pure
  | some list =>
      dsimp only
      split
      · exact safe_pure
      · rename_i stray found
        have chosen := List.find?_some found
        have named : stray.2 = config.clusterName key := of_decide_eq_true chosen
        have carried : config.carries (config.clusterName key) = true := carries_clusterName key
        apply safe_seq (safe_deleteInstance fun _ => carried)
        intro _ after later
        apply safe_seq
        · exact safe_deleteRow (read.later later) (List.mem_of_find?_eq_some found) (named ▸ carried)
        · intro _ _ _
          exact safe_pure

theorem safe_enterClusterCreated {cell : MatrixCell} {expected : Option CellStage} :
    Safe config owns strict calm (enterClusterCreated config cell expected) world := by
  apply holds_seq holds_listClusters
  intro rows after ⟨_, read⟩
  apply safe_seq (safe_deleteStray read)
  intro _ after _
  apply holds_seq (holds_createCluster)
  intro created after named
  cases created with
  | none => exact safe_pure
  | some id =>
      apply safe_seq safe_ask
      intro now after' later
      apply safe_persistStage (fun _ => ⟨rfl, rfl⟩)
      · intro other same
        cases same
        exact Named.later (named id rfl) later
      · nofun

theorem safe_enterConfigPushed {cell : MatrixCell} {expected : Option CellStage} {id : Uuid}
    (named : world.Named config cell.key id) : Safe config owns strict calm (enterConfigPushed cell expected id) world := by
  apply safe_seq safe_ask
  intro reached after later
  cases reached with
  | false => exact safe_pure
  | true =>
      apply safe_seq safe_ask
      intro now after' later'
      apply safe_persistStage (fun _ => ⟨rfl, rfl⟩)
      · intro other same
        cases same
        exact Named.later (Named.later named later) later'
      · nofun

theorem safe_deleteLeftover {name : String} (carried : strict → config.carries name = true) :
    Safe config owns strict calm (deleteLeftover name) world := by
  apply safe_seq safe_ask
  intro there after _
  cases there with
  | false => exact safe_pure
  | true =>
      apply safe_seq (safe_deleteInstance carried)
      intro _ _ _
      exact safe_pure

def Planned (names : List String) (planned : Option (List InstanceSpec)) (world : World) : Prop :=
  ∀ instances, planned = some instances →
    instances.map InstanceSpec.instanceName = names ∧ ∀ spec ∈ instances, spec.instanceId < world.next

theorem Planned.later {names : List String} {planned : Option (List InstanceSpec)} {before after : World}
    (holds : Planned names planned before) (later : Later before after) : Planned names planned after := by
  intro instances same
  obtain ⟨named, handed⟩ := holds instances same
  exact ⟨named, fun spec member => (handed spec member).trans_le later.next⟩

theorem holds_planInstances {id : Uuid} {names : List String} :
    Holds (turns config owns strict calm) (fun planned after => Planned names planned after) (planInstances id names) world := by
  induction names generalizing world with
  | nil =>
      intro instances same
      cases same
      exact ⟨rfl, nofun⟩
  | cons name names ih =>
      apply holds_seq holds_generateHostKey
      intro instanceId after handed
      have reached : Holds (turns config owns strict calm) (fun _ now => instanceId < now.next) (onCluster id) after :=
        holds_ask fun now later _ _ => handed.trans_le later.next
      apply holds_seq reached
      intro there after' handed'
      cases there with
      | false => exact nofun
      | true =>
          apply holds_seq (ih.since Later.refl (fun _ _ _ => Later.trans) fun _ _ same => same)
          intro planned after'' ⟨later, rest⟩
          cases planned with
          | none => exact nofun
          | some planned =>
              intro instances same
              cases same
              obtain ⟨named, below⟩ := rest planned rfl
              refine ⟨congrArg (name :: ·) named, ?_⟩
              intro spec member
              obtain same | other := List.mem_cons.mp member
              · rw [same]
                exact handed'.trans_le later.next
              · exact below spec other

theorem safe_createInstances {key : String} {planned : List InstanceSpec}
    (owned : ∀ spec ∈ planned, owns key spec.instanceName) (handed : ∀ spec ∈ planned, spec.instanceId < world.next) :
    Safe config owns strict calm (createInstances key planned) world := by
  induction planned generalizing world with
  | nil => exact safe_pure
  | cons spec planned ih =>
      apply safe_seq (safe_createInstance (owned spec List.mem_cons_self) (handed spec List.mem_cons_self))
      intro created after later
      cases created with
      | false => exact safe_pure
      | true =>
          apply ih (fun other member => owned other (List.mem_cons_of_mem _ member))
          intro other member
          exact (handed other (List.mem_cons_of_mem _ member)).trans_le later.next

def Read (config : RunnerConfig) (owns : String → String → Prop) (key : String) (stage : CellStage) (world : World) : Prop :=
  (∀ id, stage.clusterId = some id → world.Named config key id) ∧ ∀ name ∈ namesOf stage, owns key name

theorem Read.later {key : String} {stage : CellStage} {before after : World} (read : Read config owns key stage before)
    (later : Later before after) : Read config owns key stage after :=
  ⟨fun id found => Named.later (read.1 id found) later, read.2⟩

theorem Kept.read {key : String} {stage : CellStage} (kept : Kept config owns strict calm world)
    (found : world.stageOf key = some stage) : Read config owns key stage world := by
  obtain ⟨cell, member, sameKey, sameStage⟩ := stageOf_some found
  subst sameKey sameStage
  exact ⟨kept.fleet.clusters cell member, kept.fleet.names cell member⟩

theorem safe_deleteOwn {key : String} {cluster : Option Uuid}
    (named : ∀ id, cluster = some id → world.Named config key id) :
    Safe config owns strict calm (deleteOwn cluster) world := by
  cases cluster with
  | none => exact safe_pure
  | some id =>
      apply safe_seq (safe_deleteNamed (named id rfl))
      intro _ _ _
      exact safe_pure

variable (carried : strict → ∀ key name, owns key name → config.carries name = true)
include carried

theorem safe_enterLaunching {cell : MatrixCell} {expected : Option CellStage} {id : Uuid}
    (owned : ∀ name ∈ instanceNames config cell, owns cell.key name) (named : world.Named config cell.key id) :
    Safe config owns strict calm (enterLaunching config cell expected id) world := by
  apply safe_seq
  · apply safe_forEach
    intro name member after _
    exact safe_deleteLeftover fun strictly => carried strictly _ _ (owned name member)
  · intro _ after later
    apply holds_seq (holds_planInstances.since Later.refl (fun _ _ _ => Later.trans) fun _ _ same => same)
    intro planned after' ⟨later', plan⟩
    cases planned with
    | none => exact safe_pure
    | some instances =>
        have ownedNames : ∀ spec ∈ instances, owns cell.key spec.instanceName := by
          intro spec member
          have listed := List.mem_map_of_mem (f := InstanceSpec.instanceName) member
          rw [(plan instances rfl).1] at listed
          exact owned _ listed
        apply safe_seq safe_ask
        intro now after'' later''
        apply safe_seq
        · apply safe_persistStage (fun _ => ⟨rfl, rfl⟩)
          · intro other same
            cases same
            exact Named.later (Named.later (Named.later named later) later') later''
          · intro name member
            obtain ⟨spec, listed, same⟩ := List.mem_map.mp member
            exact same ▸ ownedNames spec listed
        · intro persisted last later'''
          cases persisted with
          | none => exact safe_pure
          | some stage =>
              apply safe_seq
              · apply safe_createInstances ownedNames
                exact ((plan.later later'').later later''' instances rfl).2
              · intro _ _ _
                exact safe_pure

theorem safe_onLaunchTimeout {cell : MatrixCell} {current : CellStage} {expected : Option CellStage} {id : Uuid}
    (read : Read config owns cell.key current world) (same : current.clusterId = some id) :
    Safe config owns strict calm (onLaunchTimeout cell current expected id) world := by
  apply safe_seq safe_look
  intro failures after later
  apply safe_seq (safe_deleteInstances fun strictly name member => carried strictly _ _ (read.2 name member))
  intro _ after' later'
  apply safe_seq safe_ask
  intro now after'' later''
  refine safe_persistStage (fun _ => ⟨rfl, rfl⟩) ?_ ?_
  · intro other found
    cases found
    exact (((read.later later).later later').later later'').1 id same
  · nofun

theorem safe_pollLaunching {cell : MatrixCell} {expected : Option CellStage} {id since : Nat} {instances : List InstanceSpec}
    (read : Read config owns cell.key (.launching id instances since) world) :
    Safe config owns strict calm (pollLaunching config cell expected id instances since) world := by
  apply safe_seq safe_ask
  intro rows after later
  split
  · apply safe_seq safe_ask
    intro now after' later'
    refine safe_persistStage (fun _ => ⟨rfl, rfl⟩) ?_ ?_
    · exact ((read.later later).later later').1
    · exact read.2
  · apply safe_seq safe_ask
    intro now after' later'
    split
    · exact safe_onLaunchTimeout carried ((read.later later).later later') rfl
    · exact safe_pure

theorem safe_driveCell {cell : MatrixCell} (owned : ∀ name ∈ instanceNames config cell, owns cell.key name) :
    Safe config owns strict calm (driveCell config cell) world := by
  have looked : Holds (turns config owns strict calm)
      (fun found after => ∀ stage, found = some stage → Read config owns cell.key stage after)
      (look fun world => world.stageOf cell.key) world :=
    holds_look (fun now => .refl now) fun now _ _ kept stage found => kept.read found
  apply holds_seq looked
  intro found after read
  have current : Read config owns cell.key (found.getD .pending) after := by
    cases found with
    | none => exact ⟨nofun, nofun⟩
    | some stage => exact read stage rfl
  cases stage : found.getD .pending with
  | pending => exact safe_enterClusterCreated
  | clusterCreated id time => exact safe_enterConfigPushed (current.1 id (by rw [stage]; rfl))
  | configPushed id time =>
      apply safe_seq safe_look
      intro launching after' later
      split
      · exact safe_pure
      · exact safe_enterLaunching carried owned ((current.later later).1 id (by rw [stage]; rfl))
  | launching id instances since => exact safe_pollLaunching carried (stage ▸ current)
  | running id instances since =>
      apply safe_seq safe_ask
      intro _ _ _
      exact safe_pure

theorem safe_reconcileCell {cell : MatrixCell} {steps : Nat}
    (owned : ∀ name ∈ instanceNames config cell, owns cell.key name) :
    Safe config owns strict calm (reconcileCell config cell steps) world := by
  induction steps generalizing world with
  | zero => exact safe_pure
  | succ steps ih =>
      apply safe_seq (safe_driveCell carried owned)
      intro last after _
      cases last with
      | none => exact safe_pure
      | some last =>
          dsimp only
          split
          · exact safe_pure
          · exact ih

/-! ## Reconcile and teardown -/

theorem safe_destroyCell {key : String} : Safe config owns strict calm (destroyCell key) world := by
  have looked : Holds (turns config owns strict calm)
      (fun found after => ∀ stage, found = some stage → Read config owns key stage after)
      (look fun world => world.stageOf key) world :=
    holds_look (fun now => .refl now) fun now _ _ kept stage found => kept.read found
  apply holds_seq looked
  intro found after read
  cases found with
  | none => exact safe_pure
  | some stage =>
      have current := read stage rfl
      apply safe_seq (safe_deleteInstances fun strictly name member => carried strictly _ _ (current.2 name member))
      intro _ after' later
      apply safe_seq (safe_deleteOwn (current.later later).1)
      intro _ _ _
      apply safe_seq safe_removeCell
      intro _ _ _
      exact safe_saveState

theorem safe_dropStale {key : String} : Safe config owns strict calm (dropStale key) world := by
  have looked : Holds (turns config owns strict calm)
      (fun found after => ∀ stage, found = some stage → Read config owns key stage after)
      (look fun world => world.stageOf key) world :=
    holds_look (fun now => .refl now) fun now _ _ kept stage found => kept.read found
  apply holds_seq looked
  intro found after read
  apply safe_seq
  · apply safe_deleteInstances
    intro strictly name member
    cases found with
    | none => cases member
    | some stage => exact carried strictly _ _ ((read stage rfl).2 name member)
  · intro _ _ _
    exact safe_removeCell

omit carried in
theorem safe_sweepClusters {list rows : List (Uuid × String)} (read : Rows (some list) world)
    (listed : ∀ row ∈ rows, row ∈ list ∧ config.carries row.2 = true) :
    Safe config owns strict calm (sweepClusters rows) world := by
  apply safe_forEach
  intro row member after later
  obtain ⟨known, prefixed⟩ := listed row member
  apply safe_seq (safe_deleteRow (read.later later) known prefixed)
  intro _ _ _
  exact safe_pure

theorem safe_gcInner : Safe config owns strict calm (gcInner config) world := by
  apply safe_seq safe_look
  intro paused after _
  split
  · exact safe_pure
  · apply safe_seq safe_look
    intro tracked after _
    apply safe_seq safe_ask
    intro names after _
    cases names with
    | none => exact safe_pure
    | some names =>
        apply holds_seq holds_listClusters
        intro rows after ⟨_, read⟩
        cases rows with
        | none => exact safe_pure
        | some rows =>
            apply safe_seq
            · apply safe_deleteInstances
              intro _ name member
              have kept := (List.mem_filter.mp member).2
              exact (Bool.and_eq_true _ _ ▸ kept).1
            · intro _ after' later
              apply safe_seq
              · apply safe_sweepClusters (read.later later)
                intro row member
                obtain ⟨known, kept⟩ := List.mem_filter.mp member
                exact ⟨known, (Bool.and_eq_true _ _ ▸ kept).1⟩
              · intro _ _ _
                apply safe_seq safe_look
                intro stale _ _
                apply safe_seq (safe_forEach fun key _ _ _ => safe_dropStale carried)
                intro _ _ _
                exact safe_saveState

theorem safe_destroyCells {keys : List String} :
    Safe config owns strict calm (forEach (fun key => do let _ ← destroyCell key) keys) world := by
  apply safe_forEach
  intro key _ _ _
  apply safe_seq (safe_destroyCell carried)
  intro _ _ _
  exact safe_pure

variable (matrix : ∀ cell ∈ config.matrix, ∀ name ∈ instanceNames config cell, owns cell.key name)
include matrix

theorem safe_reconcileCells :
    Safe config owns strict calm
      (forEach (fun cell => do let _ ← reconcileCell config cell maxSteps) config.matrix) world := by
  apply safe_forEach
  intro cell member _ _
  apply safe_seq (safe_reconcileCell carried (matrix cell member))
  intro _ _ _
  exact safe_pure

theorem safe_reconcileInner : Safe config owns strict calm (reconcileInner config) world := by
  apply safe_seq safe_look
  intro paused after _
  split
  · exact safe_pure
  · apply safe_seq (safe_reconcileCells carried matrix)
    intro _ _ _
    apply safe_seq safe_look
    intro stale _ _
    apply safe_seq (safe_destroyCells carried)
    intro _ _ _
    apply safe_seq (safe_gcInner carried)
    intro _ _ _
    exact safe_pure

theorem safe_reprovisionCellInner {key : String} :
    Safe config owns strict calm (reprovisionCellInner config key) world := by
  unfold reprovisionCellInner
  split
  · exact safe_pure
  · rename_i cell found
    have member := List.mem_of_find?_eq_some found
    apply safe_seq (safe_setPaused fun _ => rfl)
    intro unpaused after _
    split
    · apply safe_seq (safe_destroyCell carried)
      intro destroyed after _
      split
      · apply safe_seq safe_ask
        intro now after _
        apply safe_seq
        · apply safe_persistCell
          · nofun
          · nofun
        · intro persisted after _
          split
          · apply safe_seq (safe_reconcileCell carried (matrix cell member))
            intro _ _ _
            exact safe_pure
          · exact safe_pure
      · exact safe_pure
    · exact safe_pure

theorem safe_reprovisionRandomInner : Safe config owns strict calm (reprovisionRandomInner config) world := by
  apply safe_seq (safe_setPaused fun _ => rfl)
  intro unpaused after _
  split
  · apply safe_seq safe_look
    intro keys after _
    apply safe_seq safe_ask
    intro key after _
    cases key with
    | none => exact safe_pure
    | some key => exact safe_reprovisionCellInner carried matrix
  · exact safe_pure

omit carried matrix in
theorem safe_sweepPrefix {rows : Option (List (Uuid × String))} (read : Rows rows world) :
    Safe config owns strict calm (sweepPrefix config rows) world := by
  cases rows with
  | none => exact safe_pure
  | some rows =>
      apply safe_forEach
      intro row member after later
      obtain ⟨known, prefixed⟩ := List.mem_filter.mp member
      apply safe_seq (safe_deleteInstance fun _ => prefixed)
      intro _ after' later'
      apply safe_seq (safe_deleteRow ((read.later later).later later') known prefixed)
      intro _ _ _
      exact safe_pure

omit matrix in
theorem safe_teardownInner (parks : ¬ calm) : Safe config owns strict calm (teardownInner config) world := by
  apply safe_seq safe_look
  intro keys after _
  apply safe_seq (safe_destroyCells carried)
  intro _ after _
  apply safe_seq (safe_setPaused fun calmly => (parks calmly).elim)
  intro paused after _
  split
  · apply holds_seq holds_listClusters
    intro rows after ⟨_, read⟩
    apply safe_seq (safe_sweepPrefix read)
    intro _ _ _
    exact safe_pure
  · exact safe_pure

theorem safe_redeployInner (parks : ¬ calm) : Safe config owns strict calm (redeployInner config) world := by
  apply safe_seq (safe_teardownInner carried parks)
  intro torn after _
  split
  · apply safe_seq (safe_setPaused fun _ => rfl)
    intro unpaused after _
    split
    · apply holds_seq holds_listClusters
      intro rows after ⟨_, read⟩
      apply safe_seq (safe_sweepPrefix read)
      intro _ after _
      apply safe_seq
      · apply safe_alter
        intro now _ kept
        exact ⟨_, now.overwrote, rfl, ⟨⟨List.nodup_nil, nofun⟩, nofun⟩, fun calmly => (kept.unpaused calmly).1⟩
      · intro _ after _
        apply safe_seq safe_saveState
        intro saved after _
        split
        · exact safe_reconcileInner carried matrix
        · exact safe_pure
    · exact safe_pure
  · exact safe_pure

/-! ## The chaos loop -/

omit carried matrix in
theorem safe_markStopped {key name : String} {stopped : Option Nat} :
    Safe config owns strict calm (markStopped key name stopped) world := by
  apply safe_seq
  · apply safe_alter
    intro now _ kept
    refine ⟨_, now.overwrote, rfl, kept.fleet.markStopped key name stopped, fun calmly => ?_⟩
    rw [paused_markStopped]
    exact (kept.unpaused calmly).1
  · intro _ _ _
    apply safe_seq safe_saveState
    intro _ _ _
    exact safe_pure

omit carried matrix in
theorem safe_restartOverdueStops : Safe config owns strict calm restartOverdueStops world := by
  apply safe_seq safe_ask
  intro now after _
  apply safe_seq safe_look
  intro found after _
  split
  · exact safe_pure
  · apply safe_seq safe_look
    intro still after _
    split
    · apply safe_seq safe_ask
      intro started after _
      split
      · apply safe_seq safe_markStopped
        intro _ _ _
        exact safe_pure
      · exact safe_pure
    · exact safe_pure

omit carried matrix in
theorem safe_toggle {key name : String} : Safe config owns strict calm (toggle key name) world := by
  apply safe_seq safe_ask
  intro power after _
  split
  · exact safe_pure
  · exact safe_pure
  · apply safe_seq safe_look
    intro still after _
    split
    · apply safe_seq safe_ask
      intro toggled after _
      split
      · apply safe_seq safe_ask
        intro now after _
        exact safe_markStopped
      · exact safe_pure
    · exact safe_pure

theorem safe_chaosVmTick : Safe config owns strict calm (chaosVmTick config) world := by
  apply safe_seq safe_look
  intro paused after _
  split
  · exact safe_pure
  · apply safe_seq safe_restartOverdueStops
    intro ended after _
    split
    · exact safe_pure
    · apply safe_seq safe_look
      intro candidates after _
      apply safe_seq safe_ask
      intro chosen after _
      split
      · exact safe_pure
      · apply safe_seq safe_ask
        intro rolled after _
        split
        · exact safe_reprovisionCellInner carried matrix
        · apply safe_seq safe_ask
          intro name after _
          split
          · exact safe_pure
          · exact safe_toggle

theorem safe_program (call : Call) (parks : ¬ calm) : Safe config owns strict calm (program config call) world := by
  cases call with
  | resume =>
      apply safe_seq (safe_setPaused fun _ => rfl)
      intro _ _ _
      exact safe_pure
  | reconcile => exact safe_reconcileInner carried matrix
  | gc =>
      apply safe_seq (safe_gcInner carried)
      intro _ _ _
      exact safe_pure
  | teardown =>
      apply safe_seq (safe_teardownInner carried parks)
      intro _ _ _
      exact safe_pure
  | redeploy => exact safe_redeployInner carried matrix parks
  | reprovision key => exact safe_reprovisionCellInner carried matrix
  | reprovisionRandom => exact safe_reprovisionRandomInner carried matrix

end Transitions

/-! ## Whole runs -/

section Runs
variable (carried : strict → ∀ key name, owns key name → config.carries name = true)
variable (matrix : ∀ cell ∈ config.matrix, ∀ name ∈ instanceNames config cell, owns cell.key name)

/-- An operation goes on from a world that others may have changed since. -/
def Goes (config : RunnerConfig) (owns : String → String → Prop) (strict calm : Prop) (world : World) (job : Job) : Prop :=
  ∃ before, Later before world ∧ Safe config owns strict calm job.program before

theorem Goes.later {before after : World} {job : Job} (goes : Goes config owns strict calm before job)
    (later : Later before after) : Goes config owns strict calm after job := by
  obtain ⟨origin, since, safe⟩ := goes
  exact ⟨origin, since.trans later, safe⟩

theorem kept_destroyed {world : World} (kept : Kept config owns strict calm world) (destroyed : List Resource) :
    Kept config owns strict calm { world with destroyed } where
  fleet := kept.fleet.later ⟨le_rfl, fun _ _ found _ => found⟩
  saved := kept.saved.later ⟨le_rfl, fun _ _ found _ => found⟩
  known := kept.known
  keyed := kept.keyed
  made := kept.made
  deleted := kept.deleted
  unpaused := kept.unpaused

theorem turn_keeps {world after : World} {job onward : Job} {answer : Answer} (kept : Kept config owns strict calm world)
    (goes : Goes config owns strict calm world job) (turned : job.turn world answer = some (after, onward)) :
    Later world after ∧ Kept config owns strict calm after ∧ Goes config owns strict calm after onward := by
  obtain ⟨before, since, safe⟩ := goes
  unfold Job.turn at turned
  cases program : job.program with
  | done result => simp [program] at turned
  | step change next =>
      simp only [program, Option.some.injEq, Prod.mk.injEq] at turned
      obtain ⟨rfl, rfl⟩ := turned
      rw [program] at safe
      have still : Later before { world with destroyed := job.destroyed } :=
        since.trans ⟨le_rfl, fun _ _ found _ => found⟩
      obtain ⟨later, keeps, rest⟩ := safe _ still trivial (kept_destroyed kept _) answer trivial
      have begun : Later world { world with destroyed := job.destroyed } := ⟨le_rfl, fun _ _ found _ => found⟩
      exact ⟨begun.trans later, keeps, _, .refl _, rest⟩

structure Keeps (config : RunnerConfig) (owns : String → String → Prop) (strict : Prop) (state : Daemon) : Prop where
  world : Kept config owns strict False state.world
  op : ∀ job, state.op = some job → Goes config owns strict False state.world job
  tick : ∀ job, state.tick = some job → Goes config owns strict False state.world job

theorem keeps_restart {world : World} {gone : List Resource} (kept : Kept config owns strict False world) :
    Keeps config owns strict (.restart world gone) where
  world := {
    fleet := kept.saved.later ⟨le_rfl, fun _ _ found _ => found⟩
    saved := kept.saved.later ⟨le_rfl, fun _ _ found _ => found⟩
    known := kept.known
    keyed := kept.keyed
    made := kept.made
    deleted := kept.deleted
    unpaused := False.elim }
  op := nofun
  tick := nofun

include carried matrix in
theorem keeps_step {state after : Daemon} {event : DaemonEvent} (keeps : Keeps config owns strict state)
    (taken : state.step config event = some after) : Keeps config owns strict after := by
  cases event with
  | call call =>
      simp only [Daemon.step] at taken
      split at taken
      · cases taken
      · cases taken
        exact {
          world := keeps.world
          op := by
            intro job same
            cases same
            exact ⟨_, .refl _, safe_program carried matrix call id⟩
          tick := keeps.tick }
  | turn answer =>
      simp only [Daemon.step] at taken
      split at taken
      · cases taken
      · rename_i job working
        split at taken
        · cases taken
          exact ⟨keeps.world, nofun, keeps.tick⟩
        · rename_i world onward turned
          cases taken
          obtain ⟨later, kept, goes⟩ := turn_keeps keeps.world (keeps.op job working) turned
          exact {
            world := kept
            op := by
              intro other same
              cases same
              exact goes
            tick := fun other same => (keeps.tick other same).later later }
  | tick =>
      simp only [Daemon.step] at taken
      split at taken
      · cases taken
      · cases taken
        exact {
          world := keeps.world
          op := keeps.op
          tick := by
            intro job same
            cases same
            exact ⟨_, .refl _, safe_chaosVmTick carried matrix⟩ }
  | tickTurn answer =>
      simp only [Daemon.step] at taken
      split at taken
      · cases taken
      · rename_i job working
        split at taken
        · cases taken
          exact ⟨keeps.world, keeps.op, nofun⟩
        · rename_i world onward turned
          cases taken
          obtain ⟨later, kept, goes⟩ := turn_keeps keeps.world (keeps.tick job working) turned
          exact {
            world := kept
            op := fun other same => (keeps.op other same).later later
            tick := by
              intro other same
              cases same
              exact goes }
  | crash =>
      cases taken
      exact keeps_restart keeps.world

end Runs

end MacMgmt.Proof.Runner
