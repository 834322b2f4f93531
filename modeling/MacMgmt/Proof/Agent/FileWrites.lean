import MacMgmt.Agent.FileWrites
import MacMgmt.Proof.Agent.FileListing
import MacMgmt.Proof.Agent.FileValidation
import MacMgmt.Lib.Run

/-!
# What a write leaves behind, and two writers at once

A write alone owns the temporary files it made. Of two writers the one that checks while the other is between its own check and its
rename is the one to fear.
-/

namespace MacMgmt.Proof.Agent
open MacMgmt.Agent Lib

/-! ## Nodes -/

section Nodes
variable {tree before : FileTree} {path other tmp backup : FilePath} {node : Node}

theorem node_set : (tree.set path node).node other = if other = path then some node else tree.node other := Table.lookup_insert_ite _ _ _ _

theorem node_erase : (tree.erase path).node other = if other = path then none else tree.node other := Table.lookup_erase_ite _ _ _

theorem node_removeIf {removes : Bool} :
    (removeIf removes tree path).node other = if removes = true ∧ other = path then none else tree.node other := by
  unfold removeIf
  cases removes with
  | false => simp
  | true => simp [node_erase]

def Unchanged (before tree : FileTree) : Prop := ∀ path, tree.node path = before.node path

structure Added (before tree : FileTree) (added : List FilePath) : Prop where
  same : ∀ path, path ∉ added → tree.node path = before.node path
  fresh : ∀ path ∈ added, before.node path = none
  there : ∀ path ∈ added, (tree.node path).isSome = true

/-- The target is replaced, and a copy of what it was lies beside it. -/
structure Replaced (before tree : FileTree) (path backup : FilePath) : Prop where
  same : ∀ other, other ≠ path → other ≠ backup → tree.node other = before.node other
  fresh : before.node backup = none
  there : tree.node backup ≠ none
  stood : before.node path ≠ none

theorem Unchanged.add (same : Unchanged before tree) (free : tree.node tmp = none) : Added before (tree.set tmp node) [tmp] where
  same path away := by
    rw [node_set, if_neg (mt List.mem_singleton.mpr away)]
    exact same path
  fresh path member := by
    rw [List.mem_singleton.mp member, ← same]
    exact free
  there path member := by
    rw [List.mem_singleton.mp member, node_set, if_pos rfl]
    rfl

theorem Added.add {added : List FilePath} (own : Added before tree added) (free : tree.node tmp = none) :
    Added before (tree.set tmp node) (tmp :: added) ∧ tmp ∉ added := by
  have other : tmp ∉ added := fun member => by
    have there := own.there tmp member
    rw [free] at there
    cases there
  refine ⟨⟨fun path away => ?_, ?_, ?_⟩, other⟩
  · obtain ⟨apart, away⟩ := not_or.mp (mt List.mem_cons.mpr away)
    rw [node_set, if_neg apart, own.same path away]
  · intro path member
    obtain rfl | member := List.mem_cons.mp member
    · rw [← own.same path other, free]
    · exact own.fresh path member
  · intro path member
    rw [node_set]
    split
    · rfl
    · rename_i apart
      exact own.there path ((List.mem_cons.mp member).resolve_left apart)

theorem Added.fill {added : List FilePath} (own : Added before tree added) (member : tmp ∈ added) : Added before (tree.set tmp node) added where
  same path away := by
    rw [node_set, if_neg (fun here => away (by rw [here]; exact member)), own.same path away]
  fresh := own.fresh
  there path within := by
    rw [node_set]
    split
    · rfl
    · exact own.there path within

theorem not_unchanged (fresh : before.node tmp = none) (left : tree.node tmp ≠ none) : ¬ Unchanged before tree :=
  fun same => left ((same tmp).trans fresh)

theorem Added.ne_none {added : List FilePath} (own : Added before tree added) (member : tmp ∈ added) : tree.node tmp ≠ none :=
  Option.isSome_iff_ne_none.mp (own.there tmp member)

theorem Added.not_unchanged {added : List FilePath} (own : Added before tree added) (member : tmp ∈ added) : ¬ Unchanged before tree :=
  Agent.not_unchanged (own.fresh tmp member) (own.ne_none member)

theorem Added.removeIf_iff {removes : Bool} (own : Added before tree [tmp]) :
    Unchanged before (removeIf removes tree tmp) ↔ removes = true := by
  cases removes with
  | false => exact ⟨fun same => absurd same (own.not_unchanged List.mem_cons_self), nofun⟩
  | true =>
      refine ⟨fun _ => rfl, fun _ path => ?_⟩
      rw [node_removeIf]
      split
      · rename_i here
        rw [here.2, own.fresh tmp List.mem_cons_self]
      · rename_i away
        exact own.same path (mt List.mem_singleton.mp fun here => away ⟨rfl, here⟩)

end Nodes

/-! ## A write alone -/

section Alone
variable (glob : Glob) (validate : Validator → List UInt8 → Except String Unit) (request : WriteRequest) (before : FileTree)

def Owns (state : FileTree × WritePhase) : Prop :=
  match state.2 with
  | .resolving | .checking _ | .creating _ => Unchanged before state.1
  | .writing path tmp | .backingUp path tmp => Added before state.1 [tmp] ∧ path ≠ tmp
  | .copying path tmp backup => Added before state.1 [backup, tmp] ∧ backup ≠ tmp ∧ before.node path ≠ none
  | .replacing path tmp none => Added before state.1 [tmp] ∧ before.node path = none
  | .replacing path tmp (some backup) => Added before state.1 [backup, tmp] ∧ backup ≠ tmp ∧ before.node path ≠ none
  | .validating path none _ | .restoring path none _ | .finishing path none => Added before state.1 [path]
  | .validating path (some backup) _ | .restoring path (some backup) _ | .finishing path (some backup) =>
      Replaced before state.1 path backup
  | .done _ => True

def FailsClean (state : FileTree × WritePhase) : Prop :=
  match state.2 with
  | .done (.error _) => Unchanged before state.1
  | _ => True

/-- No operation fails after which a temporary file is forgotten, and a copy that is put back is what it was made of. -/
def CleanStep (state : FileTree × WritePhase) (event : WriteEvent) : Prop :=
  match state.2 with
  | .writing _ _ => event.works = true
  | .backingUp path _ => state.1.node path ≠ none → event.works = true ∨ event.removes = true
  | .copying path _ _ => (state.1.node path).bind (readNode event) ≠ none ∨ (event.removesBackup = true ∧ event.removes = true)
  | .replacing _ _ none => event.works = true ∨ event.removes = true
  | .replacing _ _ (some _) => event.works = true
  | .restoring _ none _ => event.removes = true
  | .restoring path (some backup) _ => event.works = true ∧ state.1.node backup = before.node path
  | .resolving | .checking _ | .creating _ | .validating .. | .finishing .. | .done _ => True

variable {glob validate request before}

def StepsCleanly (before : FileTree) (state : FileTree × WritePhase) (event : WriteEvent) (after : FileTree × WritePhase) : Prop :=
  Owns before after ∧ (FailsClean before after ↔ CleanStep before state event)

section Phases
variable {tree : FileTree} {path tmp backup : FilePath} {event : WriteEvent} {after : FileTree × WritePhase}

theorem stepsCleanly_early {phase : WritePhase} (same : Unchanged before tree) (clean : CleanStep before (tree, phase) event)
    (early : after.1 = tree ∧ Owns before (tree, after.2)) : StepsCleanly before (tree, phase) event after := by
  obtain ⟨after, next⟩ := after
  obtain ⟨rfl, owns⟩ := early
  refine ⟨owns, fun _ => clean, fun _ => ?_⟩
  cases next with
  | done result =>
      cases result with
      | error refusal => exact same
      | ok time => trivial
  | _ => trivial

theorem step_resolving (same : Unchanged before tree)
    (taken : writeStep glob validate request (tree, .resolving) event = some after) :
    StepsCleanly before (tree, .resolving) event after := by
  unfold writeStep at taken
  dsimp only at taken
  split at taken <;> cases taken
  · exact stepsCleanly_early same trivial ⟨rfl, trivial⟩
  · exact stepsCleanly_early same trivial ⟨rfl, same⟩

theorem step_checking (same : Unchanged before tree)
    (taken : writeStep glob validate request (tree, .checking path) event = some after) :
    StepsCleanly before (tree, .checking path) event after := by
  unfold writeStep at taken
  dsimp only at taken
  split at taken
  · split at taken <;> cases taken
    · exact stepsCleanly_early same trivial ⟨rfl, trivial⟩
    · exact stepsCleanly_early same trivial ⟨rfl, same⟩
  · cases taken
    exact stepsCleanly_early same trivial ⟨rfl, same⟩

theorem step_creating (same : Unchanged before tree)
    (taken : writeStep glob validate request (tree, .creating path) event = some after) :
    StepsCleanly before (tree, .creating path) event after := by
  unfold writeStep at taken
  dsimp only at taken
  split at taken
  · cases taken
    exact stepsCleanly_early same trivial ⟨rfl, trivial⟩
  · split at taken
    · cases taken
      exact stepsCleanly_early same trivial ⟨rfl, same⟩
    · rename_i free
      obtain ⟨away, free⟩ := not_or.mp free
      cases taken
      exact ⟨⟨same.add (Option.not_isSome_iff_eq_none.mp free), Ne.symm away⟩, iff_of_true trivial trivial⟩

theorem step_writing (own : Added before tree [tmp]) (away : path ≠ tmp)
    (taken : writeStep glob validate request (tree, .writing path tmp) event = some after) :
    StepsCleanly before (tree, .writing path tmp) event after := by
  obtain ⟨node, there⟩ := Option.isSome_iff_exists.mp (own.there tmp List.mem_cons_self)
  unfold writeStep at taken
  simp only [there] at taken
  split at taken <;> cases taken
  · rename_i works
    exact ⟨⟨own.fill List.mem_cons_self, away⟩, iff_of_true trivial works⟩
  · rename_i fails
    exact ⟨trivial, iff_of_false (own.not_unchanged List.mem_cons_self) fails⟩

theorem step_backingUp (own : Added before tree [tmp]) (away : path ≠ tmp)
    (taken : writeStep glob validate request (tree, .backingUp path tmp) event = some after) :
    StepsCleanly before (tree, .backingUp path tmp) event after := by
  have stood : tree.node path = before.node path := own.same path (mt List.mem_singleton.mp away)
  unfold writeStep at taken
  dsimp only at taken
  by_cases absent : tree.node path = none
  · rw [if_pos (Option.isNone_iff_eq_none.mpr absent)] at taken
    cases taken
    exact ⟨⟨own, stood ▸ absent⟩, iff_of_true trivial fun present => absurd absent present⟩
  · rw [if_neg (mt Option.isNone_iff_eq_none.mp absent)] at taken
    split at taken
    · rename_i fails
      cases taken
      refine ⟨trivial, own.removeIf_iff.trans ⟨fun removes _ => .inr removes, fun clean => ?_⟩⟩
      exact (clean absent).resolve_left (by simpa using fails)
    · rename_i works
      have works : event.works = true := by simpa using works
      split at taken
      · cases taken
        exact ⟨⟨own, away⟩, iff_of_true trivial fun _ => .inl works⟩
      · rename_i free
        cases taken
        obtain ⟨added, fresh⟩ := own.add (Option.not_isSome_iff_eq_none.mp free)
        exact ⟨⟨added, mt List.mem_singleton.mpr fresh, stood ▸ absent⟩, iff_of_true trivial fun _ => .inl works⟩

theorem removeBoth_iff {removes removesBackup : Bool} (own : Added before tree [backup, tmp]) (apart : backup ≠ tmp) :
    Unchanged before (removeIf removes (removeIf removesBackup tree backup) tmp) ↔ removesBackup = true ∧ removes = true := by
  constructor
  · intro same
    constructor
    · by_contra kept
      refine not_unchanged (own.fresh backup (by simp)) ?_ same
      rw [node_removeIf, node_removeIf, if_neg (fun here => apart here.2), if_neg (fun here => kept here.1)]
      exact own.ne_none (by simp)
    · by_contra kept
      refine not_unchanged (own.fresh tmp (by simp)) ?_ same
      rw [node_removeIf, node_removeIf, if_neg (fun here => kept here.1), if_neg (fun here => apart here.2.symm)]
      exact own.ne_none (by simp)
  · rintro ⟨rfl, rfl⟩ path
    rw [node_removeIf, node_removeIf]
    split
    · rename_i here
      rw [here.2, own.fresh tmp (by simp)]
    · rename_i other
      split
      · rename_i here
        rw [here.2, own.fresh backup (by simp)]
      · rename_i another
        exact own.same path (by simp_all)

theorem step_copying (own : Added before tree [backup, tmp]) (apart : backup ≠ tmp) (stood : before.node path ≠ none)
    (taken : writeStep glob validate request (tree, .copying path tmp backup) event = some after) :
    StepsCleanly before (tree, .copying path tmp backup) event after := by
  obtain ⟨node, there⟩ := Option.isSome_iff_exists.mp (own.there backup List.mem_cons_self)
  unfold writeStep at taken
  simp only [there] at taken
  cases reads : (tree.node path).bind (readNode event) with
  | some bytes =>
      simp only [reads] at taken
      cases taken
      exact ⟨⟨own.fill List.mem_cons_self, apart, stood⟩, iff_of_true trivial (.inl (by simp [reads]))⟩
  | none =>
      simp only [reads] at taken
      cases taken
      exact ⟨trivial, (removeBoth_iff own apart).trans ⟨.inr, fun clean => clean.resolve_left fun some => some reads⟩⟩

theorem afterRename_cases (glob : Glob) (request : WriteRequest) (path : FilePath) (backup : Option FilePath) :
    afterRename glob request path backup = .finishing path backup ∨
      ∃ validator, afterRename glob request path backup = .validating path backup validator := by
  unfold afterRename
  cases findValidator glob request.tunnel path with
  | none => exact .inl rfl
  | some validator => exact .inr ⟨validator, rfl⟩

theorem step_replacing_none (own : Added before tree [tmp]) (absent : before.node path = none)
    (taken : writeStep glob validate request (tree, .replacing path tmp none) event = some after) :
    StepsCleanly before (tree, .replacing path tmp none) event after := by
  obtain ⟨node, there⟩ := Option.isSome_iff_exists.mp (own.there tmp List.mem_cons_self)
  unfold writeStep at taken
  simp only [there] at taken
  split at taken
  · rename_i works
    have added : Added before ((tree.erase tmp).set path node) [path] := by
      refine ⟨fun other apart => ?_, fun other member => ?_, fun other member => ?_⟩
      · rw [node_set, if_neg (mt List.mem_singleton.mpr apart), node_erase]
        split
        · rename_i here
          rw [here, own.fresh tmp List.mem_cons_self]
        · rename_i here
          exact own.same other (mt List.mem_singleton.mp here)
      · rw [List.mem_singleton.mp member, absent]
      · rw [List.mem_singleton.mp member, node_set, if_pos rfl]
        rfl
    cases taken
    obtain next | ⟨validator, next⟩ := afterRename_cases glob request path none
    all_goals
      rw [next]
      exact ⟨added, iff_of_true trivial (.inl works)⟩
  · rename_i fails
    cases taken
    exact ⟨trivial, own.removeIf_iff.trans ⟨.inr, fun clean => clean.resolve_left fails⟩⟩

theorem step_replacing_some (own : Added before tree [backup, tmp]) (apart : backup ≠ tmp) (stood : before.node path ≠ none)
    (taken : writeStep glob validate request (tree, .replacing path tmp (some backup)) event = some after) :
    StepsCleanly before (tree, .replacing path tmp (some backup)) event after := by
  obtain ⟨node, there⟩ := Option.isSome_iff_exists.mp (own.there tmp (by simp))
  have fresh := own.fresh backup (by simp)
  unfold writeStep at taken
  simp only [there] at taken
  split at taken
  · rename_i works
    have replaced : Replaced before ((tree.erase tmp).set path node) path backup := by
      refine ⟨fun other off away => ?_, fresh, ?_, stood⟩
      · rw [node_set, if_neg off, node_erase]
        split
        · rename_i here
          rw [here, own.fresh tmp (by simp)]
        · rename_i here
          exact own.same other (by simp [here, away])
      · rw [node_set, if_neg (fun same => stood (by rw [← same]; exact fresh)), node_erase, if_neg apart]
        exact own.ne_none (by simp)
    cases taken
    obtain next | ⟨validator, next⟩ := afterRename_cases glob request path (some backup)
    all_goals
      rw [next]
      exact ⟨replaced, iff_of_true trivial works⟩
  · rename_i fails
    cases taken
    refine ⟨trivial, iff_of_false (not_unchanged fresh ?_) fails⟩
    rw [node_removeIf, if_neg (fun here => apart here.2)]
    exact own.ne_none (by simp)

theorem step_validating {backup : Option FilePath} {validator : Validator}
    (owns : Owns before (tree, .validating path backup validator))
    (taken : writeStep glob validate request (tree, .validating path backup validator) event = some after) :
    StepsCleanly before (tree, .validating path backup validator) event after := by
  have kept (message : String) : Owns before (tree, .restoring path backup message) ∧ Owns before (tree, .finishing path backup) := by
    cases backup with
    | none => exact ⟨owns, owns⟩
    | some backup => exact ⟨owns, owns⟩
  unfold writeStep at taken
  dsimp only at taken
  split at taken
  · cases taken
    exact ⟨(kept _).1, iff_of_true trivial trivial⟩
  · split at taken <;> cases taken
    · exact ⟨(kept "").2, iff_of_true trivial trivial⟩
    · exact ⟨(kept _).1, iff_of_true trivial trivial⟩

theorem step_restoring_none (own : Added before tree [path]) {message : String}
    (taken : writeStep glob validate request (tree, .restoring path none message) event = some after) :
    StepsCleanly before (tree, .restoring path none message) event after := by
  unfold writeStep at taken
  cases taken
  exact ⟨trivial, own.removeIf_iff⟩

theorem step_restoring_some (replaced : Replaced before tree path backup) {message : String}
    (taken : writeStep glob validate request (tree, .restoring path (some backup) message) event = some after) :
    StepsCleanly before (tree, .restoring path (some backup) message) event after := by
  obtain ⟨node, there⟩ := Option.ne_none_iff_exists'.mp replaced.there
  unfold writeStep at taken
  simp only [there] at taken
  cases taken
  refine ⟨trivial, ?_⟩
  by_cases works : event.works = true
  · rw [if_pos works]
    constructor
    · intro same
      have put := same path
      rw [node_set, if_pos rfl] at put
      exact ⟨works, there.trans put⟩
    · rintro ⟨-, whole⟩ other
      rw [node_set]
      split
      · rename_i here
        rw [here, ← whole, there]
      · rename_i off
        rw [node_erase]
        split
        · rename_i here
          rw [here, replaced.fresh]
        · rename_i away
          exact replaced.same other off away
  · rw [if_neg works]
    exact iff_of_false (not_unchanged replaced.fresh replaced.there) fun clean => works clean.1

end Phases

theorem writeStep_clean {state after : FileTree × WritePhase} {event : WriteEvent} (owns : Owns before state)
    (taken : writeStep glob validate request state event = some after) : StepsCleanly before state event after := by
  obtain ⟨tree, phase⟩ := state
  cases phase with
  | resolving => exact step_resolving owns taken
  | checking path => exact step_checking owns taken
  | creating path => exact step_creating owns taken
  | writing path tmp => exact step_writing owns.1 owns.2 taken
  | backingUp path tmp => exact step_backingUp owns.1 owns.2 taken
  | copying path tmp backup => exact step_copying owns.1 owns.2.1 owns.2.2 taken
  | replacing path tmp backup =>
      cases backup with
      | none => exact step_replacing_none owns.1 owns.2 taken
      | some backup => exact step_replacing_some owns.1 owns.2.1 owns.2.2 taken
  | validating path backup validator => exact step_validating owns taken
  | restoring path backup message =>
      cases backup with
      | none => exact step_restoring_none owns taken
      | some backup => exact step_restoring_some owns taken
  | finishing path backup =>
      cases taken
      exact ⟨trivial, iff_of_true trivial trivial⟩
  | done result => cases taken

theorem fails_clean_iff {events : List WriteEvent} {final : FileTree × WritePhase}
    (ran : run (writeStep glob validate request) (before, .resolving) events = some final) :
    Always (writeStep glob validate request) (FailsClean before) (before, .resolving) events ↔
      Meets (writeStep glob validate request) (CleanStep before) (before, .resolving) events :=
  always_iff_meets (fun _ _ _ owns taken => (writeStep_clean owns taken).1)
    (fun _ _ _ owns _ taken => (writeStep_clean owns taken).2) (fun _ => rfl) trivial ran

end Alone

/-! ## The tree under two writers -/

section Writers
variable {glob : Glob} {validate : Validator → List UInt8 → Except String Unit} {request : WriteRequest} {before tree : FileTree}
  {target : FilePath}

/-- Besides the file that is written, nothing that stood before is touched, and only files are added. -/
structure Shared (before tree : FileTree) (target : FilePath) : Prop where
  cwd : tree.cwd = before.cwd
  limit : tree.linkLimit = before.linkLimit
  kept : ∀ path node, path ≠ target → before.node path = some node → tree.node path = some node
  extra : ∀ path node, before.node path = none → tree.node path = some node → node.isFile = true
  target : ∃ node, tree.node target = some node ∧ node.isFile = true

theorem Shared.covers (shared : Shared before tree target) (isFile : (before.node target).any Node.isFile = true) :
    FileTree.Covers before tree := by
  intro path content found
  obtain ⟨node, there, rfl⟩ := Option.map_eq_some_iff.mp found
  by_cases here : path = target
  · right
    obtain ⟨other, stands, otherFile⟩ := shared.target
    have leaf {node : Node} (isFile : node.isFile = true) : node.content.isLeaf = true := by
      obtain ⟨content, _, _, _⟩ := node
      cases content with
      | file bytes => rfl
      | _ => cases isFile
    rw [here] at there ⊢
    rw [there] at isFile
    refine ⟨leaf isFile, other.content, ?_, leaf otherFile⟩
    rw [FileTree.contentAt, stands, Option.map_some]
  · left
    rw [FileTree.contentAt, shared.kept path node here there, Option.map_some]

theorem resolvePath_covers (more : FileTree.Covers before tree) (cwd : tree.cwd = before.cwd) (limit : tree.linkLimit = before.linkLimit)
    {tunnel : FileTunnel} {relPath : Option String} {path : FilePath} (resolved : resolvePath before tunnel relPath = .ok path) :
    resolvePath tree tunnel relPath = .ok path := by
  have upward {text : String} {found : FilePath} (known : before.canonicalize text = some found) : tree.canonicalize text = some found :=
    FileTree.canonicalize_covers more cwd limit.ge known
  unfold resolvePath at resolved ⊢
  cases named : tunnel.target relPath with
  | error error => rw [named] at resolved; cases resolved
  | ok text =>
      simp only [named] at resolved ⊢
      cases found : before.canonicalize text with
      | none => simp only [found] at resolved; cases resolved
      | some canonical =>
          simp only [found] at resolved
          cases top : before.canonicalize tunnel.path with
          | none => simp only [top] at resolved; cases resolved
          | some root =>
              simp only [top] at resolved
              simp only [upward found, upward top]
              exact resolved

theorem Shared.fresh (shared : Shared before tree target) {path : FilePath} (free : tree.node path = none) :
    path ≠ target ∧ before.node path = none := by
  obtain ⟨node, stands, -⟩ := shared.target
  have away : path ≠ target := by
    rintro rfl
    rw [free] at stands
    cases stands
  refine ⟨away, Option.eq_none_iff_forall_ne_some.mpr fun other stood => ?_⟩
  have kept := shared.kept path other away stood
  rw [free] at kept
  cases kept

theorem Shared.set (shared : Shared before tree target) {path : FilePath} {node : Node} (new : before.node path = none ∨ path = target)
    (isFile : node.isFile = true) : Shared before (tree.set path node) target where
  cwd := shared.cwd
  limit := shared.limit
  kept other stood away found := by
    rw [node_set]
    split
    · rename_i here
      obtain new | new := new
      · rw [here, new] at found
        cases found
      · exact absurd (here.trans new) away
    · exact shared.kept other stood away found
  extra other put absent found := by
    rw [node_set] at found
    split at found
    · cases found
      exact isFile
    · exact shared.extra other put absent found
  target := by
    rw [node_set]
    split
    · exact ⟨node, rfl, isFile⟩
    · exact shared.target

theorem Shared.erase (shared : Shared before tree target) {path : FilePath} (away : path ≠ target) (new : before.node path = none) :
    Shared before (tree.erase path) target where
  cwd := shared.cwd
  limit := shared.limit
  kept other stood apart found := by
    rw [node_erase, if_neg (fun here => by rw [here, new] at found; cases found)]
    exact shared.kept other stood apart found
  extra other put absent found := by
    rw [node_erase] at found
    split at found
    · cases found
    · exact shared.extra other put absent found
  target := by
    obtain ⟨node, stands, isFile⟩ := shared.target
    exact ⟨node, by rw [node_erase, if_neg (Ne.symm away)]; exact stands, isFile⟩

/-! ## The steps of one of them -/

def Between : WritePhase → Prop
  | .creating _ | .writing .. | .backingUp .. | .copying .. | .replacing .. => True
  | .resolving | .checking _ | .validating .. | .restoring .. | .finishing .. | .done _ => False

def Committed : WritePhase → Prop
  | .validating .. | .restoring .. | .finishing .. | .done (.ok _) => True
  | .resolving | .checking _ | .creating _ | .writing .. | .backingUp .. | .copying .. | .replacing .. | .done (.error _) => False

def WritesTo (before : FileTree) (target : FilePath) : WritePhase → Prop
  | .resolving | .done _ => True
  | .checking path | .creating path => path = target
  | .writing path tmp | .backingUp path tmp => path = target ∧ before.node tmp = none
  | .copying path tmp backup => path = target ∧ before.node tmp = none ∧ before.node backup = none
  | .replacing path tmp backup => path = target ∧ before.node tmp = none ∧ ∃ copy, backup = some copy ∧ before.node copy = none
  | .validating path backup _ | .restoring path backup _ | .finishing path backup =>
      path = target ∧ ∃ copy, backup = some copy ∧ before.node copy = none

theorem emptyBeside_isFile {path : FilePath} {now : Nat} : (emptyBeside tree path now).isFile = true := rfl

theorem filled_isFile {node : Node} {bytes : List UInt8} {now : Nat} : (filled node bytes now).isFile = true := rfl

theorem Shared.removeIf (shared : Shared before tree target) {removes : Bool} {path : FilePath} (away : path ≠ target)
    (new : before.node path = none) : Shared before (removeIf removes tree path) target := by
  unfold Agent.removeIf
  split
  · exact shared.erase away new
  · exact shared

/-- What one step does: to the tree, to its own way, and to the target. -/
structure TakesStep (request : WriteRequest) (before : FileTree) (target : FilePath) (state after : FileTree × WritePhase) : Prop where
  shared : Shared before after.1 target
  writes : WritesTo before target after.2
  between : Between after.2 → Between state.2 ∨
    state.2 = .checking target ∧ ∀ expected actual, request.expectedMtime = some expected →
      (state.1.node target).bind Node.mtime = some actual → (actual : Int) = expected
  committed : Committed after.2 → Committed state.2 ∨
    ∃ tmp backup node, state.2 = .replacing target tmp backup ∧ state.1.node tmp = some node ∧ after.1.node target = some node
  target : after.1.node target = state.1.node target ∨ Between state.2 ∨ Committed state.2 ∧ ¬ Committed after.2

section Steps
variable {state after : FileTree × WritePhase} {event : WriteEvent} {path tmp backup : FilePath}
  (stood : (before.node target).any Node.isFile = true) (named : resolvePath before request.tunnel request.relPath = .ok target)

include stood named in
theorem takes_resolving (shared : Shared before tree target)
    (taken : writeStep glob validate request (tree, .resolving) event = some after) :
    TakesStep request before target (tree, .resolving) after := by
  unfold writeStep at taken
  dsimp only at taken
  split at taken
  · cases taken
    exact ⟨shared, trivial, nofun, nofun, .inl rfl⟩
  · rename_i path checked
    cases taken
    have same := writeTarget_ok checked
    rw [resolvePath_covers (shared.covers stood) shared.cwd shared.limit named] at same
    exact ⟨shared, (Except.ok.inj same).symm, nofun, nofun, .inl rfl⟩

theorem takes_checking (shared : Shared before tree target) (writes : path = target)
    (taken : writeStep glob validate request (tree, .checking path) event = some after) :
    TakesStep request before target (tree, .checking path) after := by
  subst writes
  unfold writeStep at taken
  dsimp only at taken
  split at taken
  · rename_i expected actual wanted known
    split at taken
    · cases taken
      exact ⟨shared, trivial, nofun, nofun, .inl rfl⟩
    · rename_i same
      cases taken
      refine ⟨shared, rfl, fun _ => .inr ⟨rfl, fun other now given found => ?_⟩, nofun, .inl rfl⟩
      rw [wanted] at given
      rw [known] at found
      cases given
      cases found
      exact not_not.mp same
  · rename_i unknown
    cases taken
    exact ⟨shared, rfl, fun _ => .inr ⟨rfl, fun expected actual given found => (unknown expected actual given found).elim⟩, nofun, .inl rfl⟩

theorem takes_creating (shared : Shared before tree target) (writes : path = target)
    (taken : writeStep glob validate request (tree, .creating path) event = some after) :
    TakesStep request before target (tree, .creating path) after := by
  unfold writeStep at taken
  dsimp only at taken
  split at taken
  · cases taken
    exact ⟨shared, trivial, nofun, nofun, .inl rfl⟩
  · split at taken
    · cases taken
      exact ⟨shared, writes, fun _ => .inl trivial, nofun, .inl rfl⟩
    · rename_i free
      cases taken
      obtain ⟨-, new⟩ := shared.fresh (Option.not_isSome_iff_eq_none.mp (not_or.mp free).2)
      exact ⟨shared.set (.inl new) emptyBeside_isFile, ⟨writes, new⟩, fun _ => .inl trivial, nofun, .inr (.inl trivial)⟩

theorem takes_writing (shared : Shared before tree target) (writes : path = target ∧ before.node tmp = none)
    (taken : writeStep glob validate request (tree, .writing path tmp) event = some after) :
    TakesStep request before target (tree, .writing path tmp) after := by
  unfold writeStep at taken
  dsimp only at taken
  split at taken
  · split at taken <;> cases taken
    · exact ⟨shared.set (.inl writes.2) filled_isFile, writes, fun _ => .inl trivial, nofun, .inr (.inl trivial)⟩
    · exact ⟨shared, trivial, nofun, nofun, .inl rfl⟩
  · cases taken
    exact ⟨shared, trivial, nofun, nofun, .inl rfl⟩

include stood in
theorem ne_target (new : before.node tmp = none) : tmp ≠ target := by
  rintro rfl
  rw [new] at stood
  cases stood

include stood in
theorem takes_backingUp (shared : Shared before tree target) (writes : path = target ∧ before.node tmp = none)
    (taken : writeStep glob validate request (tree, .backingUp path tmp) event = some after) :
    TakesStep request before target (tree, .backingUp path tmp) after := by
  unfold writeStep at taken
  dsimp only at taken
  split at taken
  · rename_i absent
    obtain ⟨node, stands, -⟩ := shared.target
    rw [writes.1, stands] at absent
    cases absent
  · split at taken
    · cases taken
      exact ⟨shared.removeIf (ne_target stood writes.2) writes.2, trivial, nofun, nofun, .inr (.inl trivial)⟩
    · split at taken
      · cases taken
        exact ⟨shared, writes, fun _ => .inl trivial, nofun, .inl rfl⟩
      · rename_i free
        cases taken
        obtain ⟨-, new⟩ := shared.fresh (Option.not_isSome_iff_eq_none.mp free)
        exact ⟨shared.set (.inl new) emptyBeside_isFile, ⟨writes.1, writes.2, new⟩, fun _ => .inl trivial, nofun, .inr (.inl trivial)⟩

include stood in
theorem takes_copying (shared : Shared before tree target)
    (writes : path = target ∧ before.node tmp = none ∧ before.node backup = none)
    (taken : writeStep glob validate request (tree, .copying path tmp backup) event = some after) :
    TakesStep request before target (tree, .copying path tmp backup) after := by
  obtain ⟨here, new, newBackup⟩ := writes
  unfold writeStep at taken
  dsimp only at taken
  split at taken <;> cases taken
  · exact ⟨shared.set (.inl newBackup) filled_isFile, ⟨here, new, backup, rfl, newBackup⟩, fun _ => .inl trivial, nofun, .inr (.inl trivial)⟩
  · have first : Shared before (removeIf event.removesBackup tree backup) target := shared.removeIf (ne_target stood newBackup) newBackup
    exact ⟨first.removeIf (ne_target stood new) new, trivial, nofun, nofun, .inr (.inl trivial)⟩

include stood in
theorem takes_replacing {backup : Option FilePath} (shared : Shared before tree target)
    (writes : path = target ∧ before.node tmp = none ∧ ∃ copy, backup = some copy ∧ before.node copy = none)
    (taken : writeStep glob validate request (tree, .replacing path tmp backup) event = some after) :
    TakesStep request before target (tree, .replacing path tmp backup) after := by
  obtain ⟨rfl, new, copied⟩ := writes
  have away := ne_target stood new
  unfold writeStep at taken
  dsimp only at taken
  split at taken
  · rename_i node there
    split at taken
    · have put : Shared before ((tree.erase tmp).set path node) path :=
        (shared.erase away new).set (.inr rfl) (shared.extra tmp node new there)
      have replaced : ((tree.erase tmp).set path node).node path = some node := by rw [node_set, if_pos rfl]
      cases taken
      obtain next | ⟨validator, next⟩ := afterRename_cases glob request path backup
      all_goals
        rw [next]
        exact ⟨put, ⟨rfl, copied⟩, nofun, fun _ => .inr ⟨tmp, backup, node, rfl, there, replaced⟩, .inr (.inl trivial)⟩
    · cases taken
      exact ⟨shared.removeIf away new, trivial, nofun, nofun, .inr (.inl trivial)⟩
  · cases taken
    exact ⟨shared, trivial, nofun, nofun, .inl rfl⟩

theorem takes_validating {backup : Option FilePath} {validator : Validator} (shared : Shared before tree target)
    (writes : path = target ∧ ∃ copy, backup = some copy ∧ before.node copy = none)
    (taken : writeStep glob validate request (tree, .validating path backup validator) event = some after) :
    TakesStep request before target (tree, .validating path backup validator) after := by
  unfold writeStep at taken
  dsimp only at taken
  split at taken
  · cases taken
    exact ⟨shared, writes, nofun, fun _ => .inl trivial, .inl rfl⟩
  · split at taken <;> cases taken
    all_goals exact ⟨shared, writes, nofun, fun _ => .inl trivial, .inl rfl⟩

include stood in
theorem takes_restoring {backup : Option FilePath} {message : String} (shared : Shared before tree target)
    (writes : path = target ∧ ∃ copy, backup = some copy ∧ before.node copy = none)
    (taken : writeStep glob validate request (tree, .restoring path backup message) event = some after) :
    TakesStep request before target (tree, .restoring path backup message) after := by
  obtain ⟨rfl, copy, rfl, new⟩ := writes
  unfold writeStep at taken
  dsimp only at taken
  split at taken
  · rename_i node there
    cases taken
    refine ⟨?_, trivial, nofun, nofun, .inr (.inr ⟨trivial, not_false⟩)⟩
    dsimp only
    split
    · exact (shared.erase (ne_target stood new) new).set (.inr rfl) (shared.extra copy node new there)
    · exact shared
  · cases taken
    exact ⟨shared, trivial, nofun, nofun, .inl rfl⟩

include stood in
theorem takes_finishing {backup : Option FilePath} (shared : Shared before tree target)
    (writes : path = target ∧ ∃ copy, backup = some copy ∧ before.node copy = none)
    (taken : writeStep glob validate request (tree, .finishing path backup) event = some after) :
    TakesStep request before target (tree, .finishing path backup) after := by
  obtain ⟨rfl, copy, rfl, new⟩ := writes
  have away := ne_target stood new
  cases taken
  refine ⟨shared.removeIf away new, trivial, nofun, fun _ => .inl trivial, .inl ?_⟩
  dsimp only
  rw [node_removeIf, if_neg (fun here => away here.2.symm)]

include stood named in
theorem takesStep {phase : WritePhase} (shared : Shared before tree target) (writes : WritesTo before target phase)
    (taken : writeStep glob validate request (tree, phase) event = some after) :
    TakesStep request before target (tree, phase) after := by
  cases phase with
  | resolving => exact takes_resolving stood named shared taken
  | checking path => exact takes_checking shared writes taken
  | creating path => exact takes_creating shared writes taken
  | writing path tmp => exact takes_writing shared writes taken
  | backingUp path tmp => exact takes_backingUp stood shared writes taken
  | copying path tmp backup => exact takes_copying stood shared writes taken
  | replacing path tmp backup => exact takes_replacing stood shared writes taken
  | validating path backup validator => exact takes_validating shared writes taken
  | restoring path backup message => exact takes_restoring stood shared writes taken
  | finishing path backup => exact takes_finishing stood shared writes taken
  | done result => cases taken

end Steps
end Writers

/-! ## At most one of two -/

section Two
variable {glob : Glob} {validate : Validator → List UInt8 → Except String Unit} {requests : Bool → WriteRequest}
  {before : FileTree} {target : FilePath} {mtime : Option Nat}

/-- A writer checks only while the other is not between its own check and its rename, and where the modification time is known; it
renames only what was written in another second than the one that the other expects. -/
def ApartStep (requests : Bool → WriteRequest) (state : Writers) (event : Bool × WriteEvent) : Prop :=
  match state.phases event.1 with
  | .checking path => ¬ Between (state.phases !event.1) ∧ (requests event.1).expectedMtime ≠ none ∧
      (state.tree.node path).bind Node.mtime ≠ none
  | .replacing _ tmp _ => ((state.tree.node tmp).bind Node.mtime).map Int.ofNat ≠ (requests !event.1).expectedMtime
  | _ => True

theorem not_between_of_committed {phase : WritePhase} (committed : Committed phase) : ¬ Between phase := by
  cases phase <;> first | exact not_false | cases committed

structure Exclusive (before : FileTree) (target : FilePath) (mtime : Option Nat) (state : Writers) : Prop where
  shared : Shared before state.tree target
  writes : ∀ who, WritesTo before target (state.phases who)
  oneBetween : ∀ who, Between (state.phases who) → ¬ Between (state.phases !who)
  oneCommitted : ∀ who, Committed (state.phases who) → ¬ Committed (state.phases !who)
  apart : ∀ who, Committed (state.phases who) → ¬ Between (state.phases !who)
  stale : ∀ who, Committed (state.phases who) → (state.tree.node target).bind Node.mtime ≠ mtime

theorem exclusive_step (stood : (before.node target).any Node.isFile = true)
    (named : ∀ who, resolvePath before (requests who).tunnel (requests who).relPath = .ok target)
    (expected : ∀ who, (requests who).expectedMtime = mtime.map Int.ofNat) {state after : Writers} {event : Bool × WriteEvent}
    (holds : Exclusive before target mtime state) (condition : ApartStep requests state event)
    (taken : writersStep glob validate requests state event = some after) : Exclusive before target mtime after := by
  obtain ⟨who, event⟩ := event
  obtain ⟨⟨tree, phase⟩, stepped, rfl⟩ := Option.map_eq_some_iff.mp taken
  have takes := takesStep stood (named who) holds.shared (holds.writes who) stepped
  have same : Function.update state.phases who phase who = phase := Function.update_self ..
  have other : Function.update state.phases who phase (!who) = state.phases !who := Function.update_of_ne (by simp) ..
  -- what is passed from a check holds against a writer that has renamed
  have between : Between phase → ¬ Between (state.phases !who) ∧ ¬ Committed (state.phases !who) := by
    intro now
    obtain earlier | ⟨checks, passed⟩ := takes.between now
    · exact ⟨holds.oneBetween who earlier, fun committed => holds.apart _ committed (by rwa [Bool.not_not])⟩
    · dsimp only at checks
      unfold ApartStep at condition
      simp only [checks] at condition
      obtain ⟨alone, given, known⟩ := condition
      refine ⟨alone, fun committed => holds.stale _ committed ?_⟩
      obtain ⟨actual, found⟩ := Option.ne_none_iff_exists'.mp known
      rw [expected who] at given
      obtain ⟨read, rfl⟩ : ∃ read, mtime = some read := Option.ne_none_iff_exists'.mp fun none => given (by rw [none]; rfl)
      rw [found, Int.ofNat.inj (passed read actual (expected who) found)]
  have committed : Committed phase → ¬ Committed (state.phases !who) ∧ ¬ Between (state.phases !who) ∧
      (tree.node target).bind Node.mtime ≠ mtime := by
    intro now
    obtain earlier | ⟨tmp, backup, node, replaces, there, put⟩ := takes.committed now
    · refine ⟨holds.oneCommitted who earlier, holds.apart who earlier, ?_⟩
      obtain kept | between | ⟨-, undone⟩ := takes.target
      · rw [show tree.node target = state.tree.node target from kept]
        exact holds.stale who earlier
      · exact absurd between (not_between_of_committed earlier)
      · exact absurd now undone
    · dsimp only at replaces there put
      have inside : Between (state.phases who) := by
        rw [replaces]
        trivial
      refine ⟨fun committed => holds.apart _ committed (by rwa [Bool.not_not]), holds.oneBetween who inside, ?_⟩
      unfold ApartStep at condition
      simp only [replaces] at condition
      rw [there, expected] at condition
      rw [put]
      exact fun same => condition (by rw [same])
  have otherStale (now : Committed (state.phases !who)) : (tree.node target).bind Node.mtime ≠ mtime := by
    obtain kept | between | ⟨earlier, -⟩ := takes.target
    · rw [show tree.node target = state.tree.node target from kept]
      exact holds.stale _ now
    · exact absurd (by rwa [Bool.not_not]) (holds.apart _ now)
    · exact absurd now (holds.oneCommitted who earlier)
  have both (property : WritePhase → WritePhase → Prop) (here : property phase (state.phases !who))
      (there : property (state.phases !who) phase) (one : Bool) :
      property (Function.update state.phases who phase one) (Function.update state.phases who phase !one) := by
    obtain rfl | rfl : one = who ∨ one = !who := by cases one <;> cases who <;> simp
    · rw [same, other]
      exact here
    · rw [other, Bool.not_not, same]
      exact there
  refine ⟨takes.shared, ?_, ?_, ?_, ?_, ?_⟩
  · exact both (fun mine _ => WritesTo before target mine) takes.writes (holds.writes _)
  · refine both (fun mine yours => Between mine → ¬ Between yours) (fun now => (between now).1) ?_
    exact fun there now => (between now).1 there
  · refine both (fun mine yours => Committed mine → ¬ Committed yours) (fun now => (committed now).1) ?_
    exact fun there now => (committed now).1 there
  · refine both (fun mine yours => Committed mine → ¬ Between yours) (fun now => (committed now).2.1) ?_
    exact fun there now => (between now).2 there
  · exact both (fun mine _ => Committed mine → (tree.node target).bind Node.mtime ≠ mtime) (fun now => (committed now).2.2) otherStale

theorem one_succeeds {events : List (Bool × WriteEvent)} {final : Writers} {bytes : List UInt8}
    (reads : ∀ who, readFile glob before (requests who).tunnel (requests who).relPath = .ok (bytes, mtime))
    (named : ∀ who, resolvePath before (requests who).tunnel (requests who).relPath = .ok target)
    (expected : ∀ who, (requests who).expectedMtime = mtime.map Int.ofNat)
    (ran : run (writersStep glob validate requests) ⟨before, fun _ => .resolving⟩ events = some final)
    (meets : Meets (writersStep glob validate requests) (ApartStep requests) ⟨before, fun _ => .resolving⟩ events) :
    ¬ ∀ who, ∃ time, final.phases who = .done (.ok time) := by
  obtain ⟨canonical, node, resolved, there, isFile, -⟩ := readSucceeds_iff.mp ⟨_, reads true⟩
  rw [named true] at resolved
  cases resolved
  have stood : (before.node target).any Node.isFile = true := by rw [there]; exact isFile
  have start : Exclusive before target mtime ⟨before, fun _ => .resolving⟩ := by
    refine ⟨⟨rfl, rfl, fun _ _ _ found => found, fun _ _ absent found => ?_, node, there, isFile⟩, fun _ => trivial, nofun, nofun, nofun, nofun⟩
    rw [absent] at found
    cases found
  have ends := run_invariant_of_meets (fun _ _ _ => exclusive_step stood named expected) start meets ran
  intro both
  obtain ⟨first, done⟩ := both true
  obtain ⟨second, alsoDone⟩ := both false
  refine ends.oneCommitted true (by rw [done]; trivial) ?_
  rw [Bool.not_true, alsoDone]
  trivial

end Two

/-! ## Writes of one file -/

def oneFileTree : FileTree where
  nodes := ((∅ : Table FilePath Node).insert [] (plainNode .directory)).insert ["f"] ⟨.file [1], true, some 5, 0⟩
  cwd := []
  linkLimit := 40

def writeBytes (bytes : List UInt8) : WriteRequest := ⟨⟨"/f", true, .file⟩, none, bytes, some 5⟩

def acceptAll : Validator → List UInt8 → Except String Unit := fun _ _ => .ok ()

def working (name : String) : WriteEvent := ⟨5, name, true, true, true, []⟩

def failing : WriteEvent := ⟨5, "", false, true, true, []⟩

def wholeWrite (tmp backup : String) : List WriteEvent :=
  [working "", working "", working tmp, working "", working backup, working "", working "", working ""]

def succeeded : WritePhase → Bool
  | .done (.ok _) => true
  | _ => false

def failed : WritePhase → Bool
  | .done (.error _) => true
  | _ => false

theorem eq_ok_of_succeeded {phase : WritePhase} (holds : succeeded phase = true) : ∃ time, phase = .done (.ok time) := by
  cases phase with
  | done result =>
      cases result with
      | ok time => exact ⟨time, rfl⟩
      | error refusal => cases holds
  | _ => cases holds

end MacMgmt.Proof.Agent
