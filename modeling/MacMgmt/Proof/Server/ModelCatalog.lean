import MacMgmt.Lib.Grouping
import MacMgmt.Server.ModelCatalog

/-!
# Groups of models

A level of the tree is a list of models and a node for each key, in some order.
-/

namespace MacMgmt.Proof.ModelCatalog
open Lib MacMgmt.Server

variable {Entry : Type} {lettering : Lettering} {modelId : Entry → String}

/-! ## A level -/

section Level
variable (lettering) (modelId) (items : List (CatalogItem Entry)) (left : Nat)

def levelKey : CatalogItem Entry → Option String := segmentKey lettering (5 - left)

def levelKeys : List String := orderBy id (items.filterMap (levelKey lettering left)).dedup

def bucket (name : String) : List (CatalogItem Entry) := items.filter fun item => levelKey lettering left item = some name

def models : List (ModelNode Entry) := items.map fun item => .model item.entry

def levelNode (name : String) : ModelNode Entry :=
  bucketNode lettering name (bucket lettering items left name)
    (buildGroupsRecursive lettering modelId (bucket lettering items left name) left)

def level : List (ModelNode Entry) :=
  models (items.filter fun item => levelKey lettering left item = none) ++
    (levelKeys lettering items left).map (levelNode lettering modelId items left)

end Level

variable {items others : List (CatalogItem Entry)} {left : Nat}

theorem build_few (few : items.length ≤ 1) : buildGroupsRecursive lettering modelId items left = models items := by
  cases left with
  | zero => rfl
  | succ left => rw [buildGroupsRecursive, if_pos few, models]

theorem build_perm_level (lettering : Lettering) (modelId : Entry → String) (left : Nat) (several : 1 < items.length) :
    (buildGroupsRecursive lettering modelId items (left + 1)).Perm (level lettering modelId items left) := by
  rw [buildGroupsRecursive, if_neg (not_le.mpr several)]
  exact orderBy_perm _ _

theorem mem_levelKeys {name : String} :
    name ∈ levelKeys lettering items left ↔ ∃ item ∈ items, levelKey lettering left item = some name := by
  rw [levelKeys, mem_orderBy, List.mem_dedup, List.mem_filterMap]

theorem nodup_levelKeys : (levelKeys lettering items left).Nodup :=
  (orderBy_perm id _).nodup_iff.mpr (List.nodup_dedup _)

/-! ## The entries -/

theorem leaves_append (forest forest' : List (ModelNode Entry)) : leaves (forest ++ forest') = leaves forest ++ leaves forest' := by
  induction forest with
  | nil => rfl
  | cons node forest ih => rw [List.cons_append, leaves, leaves, ih, List.append_assoc]

theorem leaves_eq_flatMap (forest : List (ModelNode Entry)) : leaves forest = forest.flatMap ModelNode.leaves := by
  induction forest with
  | nil => rfl
  | cons node forest ih => rw [leaves, ih, List.flatMap_cons]

theorem leaves_models (items : List (CatalogItem Entry)) : leaves (models items) = items.map CatalogItem.entry := by
  induction items with
  | nil => rfl
  | cons item items ih => exact congrArg (item.entry :: ·) ih

theorem leaves_groupNode (key : String) (children : List (ModelNode Entry)) :
    (groupNode lettering key children).leaves = leaves children := by
  unfold groupNode
  split
  · simp [ModelNode.leaves, leaves]
  · rw [ModelNode.leaves]

theorem leaves_bucketNode {key : String} {children : List (ModelNode Entry)}
    (all : (leaves children).Perm (items.map CatalogItem.entry)) :
    (bucketNode lettering key items children).leaves.Perm (items.map CatalogItem.entry) := by
  unfold bucketNode
  split
  · split
    · rw [ModelNode.leaves]
      rfl
    · rwa [leaves_groupNode]
  · rwa [leaves_groupNode]

theorem leaves_build (lettering : Lettering) (modelId : Entry → String) (items : List (CatalogItem Entry)) (left : Nat) :
    (leaves (buildGroupsRecursive lettering modelId items left)).Perm (items.map CatalogItem.entry) := by
  induction left generalizing items with
  | zero => exact .of_eq (leaves_models items)
  | succ left ih =>
      by_cases several : 1 < items.length
      · let keys := none :: (levelKeys lettering items left).map some
        have distinct : keys.Nodup :=
          List.nodup_cons.mpr ⟨by simp, nodup_levelKeys.map (Option.some_injective _)⟩
        have every : ∀ item ∈ items, levelKey lettering left item ∈ keys := by
          intro item member
          cases key : levelKey lettering left item with
          | none => exact List.mem_cons_self
          | some name =>
              exact List.mem_cons_of_mem _ (List.mem_map_of_mem (mem_levelKeys.mpr ⟨item, member, key⟩))
        have split := (Table.flatMap_filter_perm distinct every).map CatalogItem.entry
        refine ((leaves_eq_flatMap _ ▸ (build_perm_level _ _ _ several).flatMap_right _).trans ?_).trans split
        rw [← leaves_eq_flatMap, level, leaves_append, leaves_models, List.flatMap_cons, List.map_append]
        refine List.Perm.append_left _ ?_
        rw [leaves_eq_flatMap, List.flatMap_map, List.flatMap_map, List.map_flatMap]
        exact List.Perm.flatMap_left _ fun name _ => leaves_bucketNode (ih _)
      · rw [build_few (not_lt.mp several), leaves_models]

/-! ## The order of the entries -/

theorem same_refl_models (items : List (CatalogItem Entry)) : List.Forall₂ SameNode (models items) (models items) :=
  List.forall₂_same.mpr fun node member => by
    obtain ⟨item, -, rfl⟩ := List.mem_map.mp member
    exact .model item.entry

theorem sameForest_singleton {node : ModelNode Entry} {forest : List (ModelNode Entry)} (same : SameForest [node] forest) :
    ∃ node', forest = [node'] ∧ SameNode node node' := by
  obtain ⟨middle, perm, each⟩ := same
  obtain rfl := List.singleton_perm.mp perm
  obtain ⟨node', rest, first, none_, rfl⟩ := List.forall₂_cons_left_iff.mp each
  obtain rfl := List.forall₂_nil_left_iff.mp none_
  exact ⟨node', rfl, first⟩

theorem SameForest.length_eq {forest forest' : List (ModelNode Entry)} (same : SameForest forest forest') :
    forest.length = forest'.length := by
  obtain ⟨middle, perm, each⟩ := same
  exact perm.length_eq.trans each.length_eq

theorem groupNode_of_length {key : String} {children : List (ModelNode Entry)} (length : children.length ≠ 1) :
    groupNode lettering key children = .group key (titlecase lettering key) children := by
  unfold groupNode
  split
  · exact absurd rfl length
  · rfl

theorem same_groupNode {key : String} {children children' : List (ModelNode Entry)} (same : SameForest children children') :
    SameNode (groupNode lettering key children) (groupNode lettering key children') := by
  have lengths := SameForest.length_eq same
  by_cases single : children.length = 1
  · obtain ⟨node, rfl⟩ := List.length_eq_one_iff.mp single
    obtain ⟨node', rfl, only⟩ := sameForest_singleton same
    cases only with
    | model entry => exact .group _ _ (.refl _) (.cons (.model entry) .nil)
    | group _ _ perm each => exact .group _ _ perm each
  · rw [groupNode_of_length single, groupNode_of_length (lengths ▸ single)]
    obtain ⟨middle, perm, each⟩ := same
    exact .group _ _ perm each

theorem bucketNode_of_length {key : String} (several : items.length ≠ 1) (children : List (ModelNode Entry)) :
    bucketNode lettering key items children = groupNode lettering key children := by
  unfold bucketNode
  split
  · exact absurd rfl several
  · rfl

theorem same_bucketNode {key : String} {children children' : List (ModelNode Entry)} (perm : items.Perm others)
    (same : SameForest children children') :
    SameNode (bucketNode lettering key items children) (bucketNode lettering key others children') := by
  have inner : SameNode (groupNode lettering key children) (groupNode lettering key children') := same_groupNode same
  by_cases single : items.length = 1
  · obtain ⟨item, rfl⟩ := List.length_eq_one_iff.mp single
    obtain rfl := List.singleton_perm.mp perm
    by_cases tag : key.startsWith ":" = true
    · simp only [bucketNode, if_pos tag]
      exact .model item.entry
    · simpa only [bucketNode, if_neg tag] using inner
  · rw [bucketNode_of_length single, bucketNode_of_length (perm.length_eq ▸ single)]
    exact inner

theorem same_models (perm : items.Perm others) : SameForest (models items) (models others) :=
  ⟨models others, perm.map _, same_refl_models others⟩

theorem SameForest.perm_right {forest forest' forest'' : List (ModelNode Entry)} (perm : forest.Perm forest')
    (each : List.Forall₂ SameNode forest' forest'') {sorted : List (ModelNode Entry)} (order : forest''.Perm sorted) :
    SameForest forest sorted := by
  have swapped : Relation.Comp (List.Forall₂ SameNode) List.Perm forest' sorted := ⟨forest'', each, order⟩
  rw [List.forall₂_comp_perm_eq_perm_comp_forall₂] at swapped
  obtain ⟨middle, moved, eachMiddle⟩ := swapped
  exact ⟨middle, perm.trans moved, eachMiddle⟩

theorem same_build (perm : items.Perm others) (left : Nat) :
    SameForest (buildGroupsRecursive lettering modelId items left) (buildGroupsRecursive lettering modelId others left) := by
  induction left generalizing items others with
  | zero => exact same_models perm
  | succ left ih =>
      by_cases several : 1 < items.length
      · have keys : (levelKeys lettering items left).Perm (levelKeys lettering others left) := by
          refine (List.perm_ext_iff_of_nodup nodup_levelKeys nodup_levelKeys).mpr fun name => ?_
          simp only [mem_levelKeys, perm.mem_iff]
        let middle := models (others.filter fun item => levelKey lettering left item = none) ++
          (levelKeys lettering others left).map (levelNode lettering modelId items left)
        have before : (level lettering modelId items left).Perm middle :=
          ((perm.filter _).map _).append (keys.map _)
        have each : List.Forall₂ SameNode middle (level lettering modelId others left) := by
          refine List.rel_append (same_refl_models _) (List.forall₂_map_left_iff.mpr (List.forall₂_map_right_iff.mpr ?_))
          exact List.forall₂_same.mpr fun name _ => same_bucketNode (perm.filter _) (ih (perm.filter _))
        exact SameForest.perm_right ((build_perm_level _ _ _ several).trans before) each
          (build_perm_level _ _ _ (perm.length_eq ▸ several)).symm
      · rw [build_few (not_lt.mp several), build_few (perm.length_eq ▸ not_lt.mp several)]
        exact same_models perm

/-! ## Paths -/

def path (lettering : Lettering) (depth : Nat) (item : CatalogItem Entry) : List String :=
  (item.segments.drop depth).map lettering.lowercase

def paths (lettering : Lettering) (depth : Nat) (items : List (CatalogItem Entry)) : List (List String) :=
  items.map (path lettering depth)

theorem head?_path (depth : Nat) (item : CatalogItem Entry) : (path lettering depth item).head? = segmentKey lettering depth item := by
  rw [path, List.head?_map, List.head?_drop, segmentKey]

theorem tail_path (depth : Nat) (item : CatalogItem Entry) : (path lettering depth item).tail = path lettering (depth + 1) item := by
  rw [path, ← List.map_tail, List.tail_drop, path]

theorem following_eq (ways : List (List String)) (key : String) :
    following ways key = (ways.filter fun way => way.head? = some key).map List.tail := by
  induction ways with
  | nil => rfl
  | cons way ways ih =>
      cases way with
      | nil => simpa [following] using ih
      | cons first rest =>
          by_cases same : first = key
          · simpa [following, same] using ih
          · simpa [following, same] using ih

theorem following_paths (items : List (CatalogItem Entry)) (left : Nat) (name : String) :
    following (paths lettering (5 - left) items) name = paths lettering (5 - left + 1) (bucket lettering items left name) := by
  rw [following_eq, paths, List.filter_map, List.map_map, paths, bucket]
  have tails : List.tail ∘ path lettering (5 - left) = (path lettering (5 - left + 1) : CatalogItem Entry → List String) :=
    funext fun item => tail_path _ item
  rw [tails]
  refine congrArg _ (List.filter_congr fun item _ => decide_eq_decide.mpr ?_)
  rw [head?_path, levelKey]

theorem length_following (items : List (CatalogItem Entry)) (left : Nat) (name : String) :
    (following (paths lettering (5 - left) items) name).length = (bucket lettering items left name).length := by
  rw [following_paths, paths, List.length_map]

theorem following_ne_nil {name : String} :
    following (paths lettering (5 - left) items) name ≠ [] ↔ name ∈ levelKeys lettering items left := by
  rw [← List.length_pos_iff, length_following, List.length_pos_iff, mem_levelKeys, bucket]
  simp

theorem commonKey_eq_some {ways : List (List String)} {key : String} :
    commonKey ways = some key ↔ ways ≠ [] ∧ ∀ way ∈ ways, way.head? = some key := by
  unfold commonKey
  split
  · rename_i first rest more
    constructor
    · intro found
      split at found
      · rename_i all
        obtain rfl := Option.some.inj found
        exact ⟨List.cons_ne_nil _ _, by simpa using all⟩
      · cases found
    · rintro ⟨-, all⟩
      obtain rfl : first = key := by simpa using all _ List.mem_cons_self
      rw [if_pos (by simpa using all)]
  · rename_i other
    constructor
    · intro found
      cases found
    · rintro ⟨nonempty, all⟩
      obtain ⟨way, ways, rfl⟩ := List.exists_cons_of_ne_nil nonempty
      cases way with
      | nil => exact absurd (all [] List.mem_cons_self) (by simp)
      | cons first rest => exact absurd rfl (other first rest ways)

/-! ## Names -/

theorem level_of_commonKey (modelId : Entry → String) {key : String} (several : 1 < items.length)
    (common : commonKey (paths lettering (5 - left) items) = some key) :
    bucket lettering items left key = items ∧
      buildGroupsRecursive lettering modelId items (left + 1) = [levelNode lettering modelId items left key] := by
  obtain ⟨-, all⟩ := commonKey_eq_some.mp common
  have keyed : ∀ item ∈ items, levelKey lettering left item = some key := by
    intro item member
    rw [levelKey, ← head?_path]
    exact all _ (List.mem_map_of_mem member)
  have whole : bucket lettering items left key = items := List.filter_eq_self.mpr fun item member => by simp [keyed item member]
  have none_ : items.filter (fun item => levelKey lettering left item = none) = [] :=
    List.filter_eq_nil_iff.mpr fun item member => by simp [keyed item member]
  have keys : levelKeys lettering items left = [key] := by
    refine List.perm_singleton.mp ((List.perm_ext_iff_of_nodup nodup_levelKeys (List.nodup_singleton key)).mpr fun name => ?_)
    rw [mem_levelKeys, List.mem_singleton]
    constructor
    · rintro ⟨item, member, same⟩
      exact Option.some.inj (same.symm.trans (keyed item member))
    · rintro rfl
      obtain ⟨item, member⟩ := List.exists_mem_of_length_pos (by omega : 0 < items.length)
      exact ⟨item, member, keyed item member⟩
  have order := build_perm_level lettering modelId left several
  rw [level, none_, keys] at order
  exact ⟨whole, List.perm_singleton.mp order⟩

theorem build_ne_group (several : 1 < items.length) (differ : commonKey (paths lettering (5 - left) items) = none)
    (name displayName : String) (children : List (ModelNode Entry)) :
    buildGroupsRecursive lettering modelId items (left + 1) ≠ [.group name displayName children] := by
  intro alone
  have order := build_perm_level lettering modelId left several
  rw [alone] at order
  have level_eq := List.singleton_perm.mp order
  rcases List.append_eq_singleton_iff.mp level_eq.symm with ⟨none_, keys⟩ | ⟨model, -⟩
  · obtain ⟨key, keys, -⟩ := List.map_eq_singleton_iff.mp keys
    have all : ∀ item ∈ items, levelKey lettering left item = some key := by
      intro item member
      cases keyed : levelKey lettering left item with
      | none =>
          have listed : item ∈ items.filter fun item => levelKey lettering left item = none :=
            List.mem_filter.mpr ⟨member, decide_eq_true keyed⟩
          rw [List.map_eq_nil_iff.mp none_] at listed
          cases listed
      | some other =>
          have listed : other ∈ levelKeys lettering items left := mem_levelKeys.mpr ⟨item, member, keyed⟩
          rw [keys, List.mem_singleton] at listed
          rw [listed]
    have common : commonKey (paths lettering (5 - left) items) = some key := by
      refine commonKey_eq_some.mpr ⟨?_, ?_⟩
      · rw [← List.length_pos_iff, paths, List.length_map]
        omega
      · intro way member
        obtain ⟨item, within, rfl⟩ := List.mem_map.mp member
        rw [head?_path]
        exact all item within
    rw [differ] at common
    cases common
  · obtain ⟨item, -, same⟩ := List.map_eq_singleton_iff.mp model
    cases same

theorem groupNode_of_ne {key : String} {children : List (ModelNode Entry)}
    (alone : ∀ name displayName inner, children ≠ [.group name displayName inner]) :
    groupNode lettering key children = .group key (titlecase lettering key) children := by
  unfold groupNode
  split
  · rename_i name displayName inner
    exact absurd rfl (alone name displayName inner)
  · rfl

theorem distinctSiblings_singleton {name displayName : String} {children : List (ModelNode Entry)} :
    DistinctSiblings [.group name displayName children] ↔ DistinctSiblings children := by
  constructor
  · rintro ⟨-, inner⟩
    exact inner name displayName children List.mem_cons_self
  · intro distinct
    refine ⟨List.nodup_singleton _, fun name displayName children member => ?_⟩
    cases List.mem_singleton.mp member
    exact distinct

theorem groupNode_build (several : 1 < items.length) (bound : left ≤ 6) (key : String) :
    ∃ displayName children,
      groupNode lettering key (buildGroupsRecursive lettering modelId items left) =
        .group ("-".intercalate (key :: commonRun left (paths lettering (6 - left) items))) displayName children ∧
      (DistinctSiblings children ↔ DistinctSiblings (buildGroupsRecursive lettering modelId items left)) := by
  induction left generalizing items key with
  | zero =>
      refine ⟨_, _, groupNode_of_ne fun name displayName inner alone => ?_, Iff.rfl⟩
      have length := congrArg List.length alone
      simp only [buildGroupsRecursive, List.length_map, List.length_singleton] at length
      omega
  | succ left ih =>
      have depth : 6 - (left + 1) = 5 - left := by omega
      rw [depth]
      cases common : commonKey (paths lettering (5 - left) items) with
      | none =>
          have run : commonRun (left + 1) (paths lettering (5 - left) items) = [] := by rw [commonRun, common]
          rw [run]
          exact ⟨_, _, groupNode_of_ne fun name displayName inner => build_ne_group several common name displayName inner, Iff.rfl⟩
      | some next =>
          obtain ⟨whole, single⟩ := level_of_commonKey modelId several common
          have run : commonRun (left + 1) (paths lettering (5 - left) items) =
              next :: commonRun left (following (paths lettering (5 - left) items) next) := by rw [commonRun, common]
          obtain ⟨displayName, children, named, inner⟩ := ih several (by omega) next
          have node : levelNode lettering modelId items left next =
              .group ("-".intercalate (next :: commonRun left (paths lettering (6 - left) items))) displayName children := by
            rw [levelNode, whole, bucketNode_of_length several.ne', named]
          have deeper : 5 - left + 1 = 6 - left := by omega
          rw [run, following_paths, whole, deeper, single, node, distinctSiblings_singleton]
          have joined (names : List String) : "-".intercalate (key :: next :: names) = key ++ "-" ++ "-".intercalate (next :: names) :=
            String.intercalate_cons_of_ne_nil (List.cons_ne_nil _ _)
          rw [joined]
          exact ⟨_, children, rfl, Iff.rfl⟩

theorem node_of_makesGroup (modelId : Entry → String) {key : String} (bound : left ≤ 5) (makes : MakesGroup (paths lettering (5 - left) items) key) :
    ∃ displayName children,
      levelNode lettering modelId items left key =
        .group (readAs left key (following (paths lettering (5 - left) items) key)) displayName children ∧
      (DistinctSiblings children ↔
        DistinctSiblings (buildGroupsRecursive lettering modelId (bucket lettering items left key) left)) := by
  obtain ⟨nonempty, unlike⟩ := makes
  rw [← List.length_pos_iff, length_following] at nonempty
  rw [length_following] at unlike
  have grouped : levelNode lettering modelId items left key =
      groupNode lettering key (buildGroupsRecursive lettering modelId (bucket lettering items left key) left) := by
    by_cases single : (bucket lettering items left key).length = 1
    · have untagged : ¬ key.startsWith ":" = true := fun tag => unlike ⟨single, tag⟩
      obtain ⟨item, only⟩ := List.length_eq_one_iff.mp single
      rw [levelNode, only]
      simp only [bucketNode, if_neg untagged]
    · exact bucketNode_of_length single _
  rw [grouped, readAs, length_following]
  by_cases single : (bucket lettering items left key).length = 1
  · rw [if_pos single, build_few single.le]
    obtain ⟨item, only⟩ := List.length_eq_one_iff.mp single
    rw [only]
    exact ⟨_, _, rfl, Iff.rfl⟩
  · rw [if_neg single, following_paths]
    have deeper : 5 - left + 1 = 6 - left := by omega
    rw [deeper]
    exact groupNode_build (by omega) (by omega) key

theorem groupName?_levelNode {key : String} (bound : left ≤ 5) (member : key ∈ levelKeys lettering items left) (name : String) :
    groupName? (levelNode lettering modelId items left key) = some name ↔
      MakesGroup (paths lettering (5 - left) items) key ∧
        readAs left key (following (paths lettering (5 - left) items) key) = name := by
  by_cases makes : MakesGroup (paths lettering (5 - left) items) key
  · obtain ⟨displayName, children, node, -⟩ := node_of_makesGroup modelId bound makes
    rw [node, groupName?, Option.some.injEq]
    exact ⟨fun same => ⟨makes, same⟩, And.right⟩
  · have tagged : (bucket lettering items left key).length = 1 ∧ key.startsWith ":" = true := by
      rw [← length_following]
      by_contra unlike
      exact makes ⟨following_ne_nil.mpr member, unlike⟩
    obtain ⟨item, only⟩ := List.length_eq_one_iff.mp tagged.1
    have node : levelNode lettering modelId items left key = .model item.entry := by
      rw [levelNode, only]
      simp only [bucketNode, if_pos tagged.2]
    rw [node]
    constructor
    · intro found
      cases found
    · exact fun both => absurd both.1 makes

/-! ## Siblings -/

theorem distinctSiblings_iff {forest : List (ModelNode Entry)} :
    DistinctSiblings forest ↔ (forest.filterMap groupName?).Nodup ∧
      ∀ name displayName children, .group name displayName children ∈ forest → DistinctSiblings children :=
  ⟨fun ⟨names, inner⟩ => ⟨names, inner⟩, fun both => ⟨both.1, both.2⟩⟩

theorem distinctSiblings_perm {forest forest' : List (ModelNode Entry)} (perm : forest.Perm forest') :
    DistinctSiblings forest ↔ DistinctSiblings forest' := by
  rw [distinctSiblings_iff, distinctSiblings_iff, (perm.filterMap groupName?).nodup_iff]
  simp only [perm.mem_iff]

theorem distinctSiblings_models (items : List (CatalogItem Entry)) : DistinctSiblings (models items) := by
  refine distinctSiblings_iff.mpr ⟨?_, fun name displayName children member => ?_⟩
  · have none_ : (models items).filterMap groupName? = [] := by
      refine List.filterMap_eq_nil_iff.mpr fun node member => ?_
      obtain ⟨item, -, rfl⟩ := List.mem_map.mp member
      rfl
    rw [none_]
    exact List.nodup_nil
  · obtain ⟨item, -, same⟩ := List.mem_map.mp member
    cases same

def ApartAt (left : Nat) (ways : List (List String)) : Prop :=
  ∀ key, MakesGroup ways key → ∀ other, MakesGroup ways other → key ≠ other →
    readAs left key (following ways key) ≠ readAs left other (following ways other)

theorem names_level_iff (bound : left ≤ 5) :
    ((level lettering modelId items left).filterMap groupName?).Nodup ↔ ApartAt left (paths lettering (5 - left) items) := by
  have flat : (models (items.filter fun item => levelKey lettering left item = none)).filterMap groupName? = [] := by
    refine List.filterMap_eq_nil_iff.mpr fun node member => ?_
    obtain ⟨item, -, rfl⟩ := List.mem_map.mp member
    rfl
  rw [level, List.filterMap_append, flat, List.nil_append, List.filterMap_map, List.Nodup, List.pairwise_filterMap]
  have listed {key : String} (makes : MakesGroup (paths lettering (5 - left) items) key) :
      key ∈ levelKeys lettering items left := following_ne_nil.mp makes.1
  constructor
  · intro pairwise key makes other makesOther unequal same
    have symmetric : Std.Symm fun first second =>
        ∀ name ∈ (groupName? ∘ levelNode lettering modelId items left) first,
          ∀ name' ∈ (groupName? ∘ levelNode lettering modelId items left) second, name ≠ name' :=
      ⟨fun _ _ apart name found name' found' equal => apart name' found' name found equal.symm⟩
    exact pairwise.forall (listed makes) (listed makesOther) unequal _
      ((groupName?_levelNode bound (listed makes) _).mpr ⟨makes, rfl⟩) _
      ((groupName?_levelNode bound (listed makesOther) _).mpr ⟨makesOther, rfl⟩) same
  · intro apart
    refine nodup_levelKeys.pairwise_of_forall_ne fun key member other memberOther unequal name found name' found' => ?_
    obtain ⟨makes, rfl⟩ := (groupName?_levelNode bound member name).mp found
    obtain ⟨makesOther, rfl⟩ := (groupName?_levelNode bound memberOther name').mp found'
    exact apart key makes other makesOther unequal

theorem apartAt_of_few {ways : List (List String)} (few : ways.length ≤ 1) : ApartAt left ways := by
  have begins {key : String} (makes : MakesGroup ways key) : ∃ way ∈ ways, way.head? = some key := by
    have nonempty := makes.1
    rw [following_eq, Ne, List.map_eq_nil_iff] at nonempty
    obtain ⟨way, member⟩ := List.exists_mem_of_ne_nil _ nonempty
    obtain ⟨listed, first⟩ := List.mem_filter.mp member
    exact ⟨way, listed, of_decide_eq_true first⟩
  intro key makes other makesOther unequal
  obtain ⟨way, listed, first⟩ := begins makes
  obtain ⟨way', listed', first'⟩ := begins makesOther
  obtain ⟨only, rfl⟩ := List.length_eq_one_iff.mp (le_antisymm few (List.length_pos_of_mem listed))
  obtain rfl := List.mem_singleton.mp listed
  obtain rfl := List.mem_singleton.mp listed'
  exact absurd (Option.some.inj (first.symm.trans first')) unequal

theorem length_foldl_following (ways : List (List String)) (beginning : List String) :
    (beginning.foldl following ways).length ≤ ways.length := by
  induction beginning generalizing ways with
  | nil => exact le_rfl
  | cons key beginning ih => exact (ih _).trans (List.length_filterMap_le _ _)

theorem distinct_level_iff (bound : left ≤ 5) :
    DistinctSiblings (level lettering modelId items left) ↔ ApartAt left (paths lettering (5 - left) items) ∧
      ∀ key, DistinctSiblings (buildGroupsRecursive lettering modelId (bucket lettering items left key) left) := by
  rw [distinctSiblings_iff, names_level_iff bound]
  refine and_congr_right fun _ => ?_
  constructor
  · intro inner key
    by_cases makes : MakesGroup (paths lettering (5 - left) items) key
    · obtain ⟨displayName, children, node, same⟩ := node_of_makesGroup modelId bound makes
      have listed : levelNode lettering modelId items left key ∈ level lettering modelId items left :=
        List.mem_append_right _ (List.mem_map_of_mem (following_ne_nil.mp makes.1))
      rw [node] at listed
      exact same.mp (inner _ displayName children listed)
    · have few : (bucket lettering items left key).length ≤ 1 := by
        by_contra several
        refine makes ⟨?_, fun single => ?_⟩
        · rw [← List.length_pos_iff, length_following]
          omega
        · rw [length_following] at single
          omega
      rw [build_few few]
      exact distinctSiblings_models _
  · intro inner name displayName children member
    rcases List.mem_append.mp member with model | node
    · obtain ⟨item, -, same⟩ := List.mem_map.mp model
      cases same
    · obtain ⟨key, listed, node⟩ := List.mem_map.mp node
      have named : groupName? (levelNode lettering modelId items left key) = some name := by
        rw [node]
        rfl
      obtain ⟨makes, -⟩ := (groupName?_levelNode bound listed name).mp named
      obtain ⟨displayName', children', node', same⟩ := node_of_makesGroup modelId bound makes
      cases node.symm.trans node'
      exact same.mpr (inner key)

theorem distinct_build_iff (bound : left ≤ 6) :
    DistinctSiblings (buildGroupsRecursive lettering modelId items left) ↔
      ∀ beginning : List String, beginning.length < left →
        ApartAt (left - 1 - beginning.length) (beginning.foldl following (paths lettering (6 - left) items)) := by
  induction left generalizing items with
  | zero => exact ⟨fun _ _ below => absurd below (Nat.not_lt_zero _), fun _ => distinctSiblings_models items⟩
  | succ left ih =>
      have depth : 6 - (left + 1) = 5 - left := by omega
      rw [depth]
      by_cases several : 1 < items.length
      · rw [distinctSiblings_perm (build_perm_level _ _ _ several), distinct_level_iff (by omega)]
        have deeper (key : String) : following (paths lettering (5 - left) items) key =
            paths lettering (6 - left) (bucket lettering items left key) := by
          rw [following_paths]
          congr 1
          omega
        constructor
        · rintro ⟨here, below⟩ beginning short
          cases beginning with
          | nil => exact here
          | cons key beginning =>
              have later := (ih (by omega)).mp (below key) beginning (Nat.lt_of_succ_lt_succ short)
              rw [List.foldl_cons, deeper, List.length_cons]
              convert later using 1
              omega
        · intro apart
          refine ⟨apart [] (Nat.succ_pos left), fun key => (ih (by omega)).mpr fun beginning short => ?_⟩
          have later := apart (key :: beginning) (Nat.succ_lt_succ short)
          rw [List.foldl_cons, deeper, List.length_cons] at later
          convert later using 1
          omega
      · rw [build_few (not_lt.mp several)]
        refine iff_of_true (distinctSiblings_models items) fun beginning _ => apartAt_of_few ?_
        refine (length_foldl_following _ _).trans ?_
        rw [paths, List.length_map]
        exact not_lt.mp several

theorem paths_catalogItem (extraPrefix : Entry → List String) (entries : List Entry) :
    paths lettering 0 (entries.map (catalogItem modelId extraPrefix)) =
      entries.map (keyPath lettering modelId extraPrefix) := by
  rw [paths, List.map_map]
  rfl

/-- The entries are kept and their order does not matter; siblings are apart exactly if the keys are read apart. -/
theorem auto_group_iff (lettering : Lettering) (modelId : Entry → String) (extraPrefix : Entry → List String)
    (entries : List Entry) :
    (leaves (autoGroup lettering modelId extraPrefix entries)).Perm entries ∧
      (∀ others : List Entry, others.Perm entries →
        SameForest (autoGroup lettering modelId extraPrefix others) (autoGroup lettering modelId extraPrefix entries)) ∧
      (DistinctSiblings (autoGroup lettering modelId extraPrefix entries) ↔
        ReadApart (entries.map (keyPath lettering modelId extraPrefix))) := by
  refine ⟨?_, fun others perm => same_build (perm.map _) 6, ?_⟩
  · have all := leaves_build lettering modelId (entries.map (catalogItem modelId extraPrefix)) 6
    rw [List.map_map] at all
    exact all.trans (.of_eq (List.map_id entries))
  · rw [autoGroup, distinct_build_iff le_rfl, ← paths_catalogItem]
    exact ⟨fun apart beginning short => apart beginning (Nat.lt_succ_of_le short),
      fun apart beginning short => apart beginning (Nat.le_of_lt_succ short)⟩

/-- Two models are grouped in either order. -/
theorem two_models_swapped :
    SameForest (autoGroup ⟨String.toLower, fun c => c.toUpper.toString⟩ id (fun _ => []) ["gpt-5", "o3-mini"])
      (autoGroup ⟨String.toLower, fun c => c.toUpper.toString⟩ id (fun _ => []) ["o3-mini", "gpt-5"]) :=
  (auto_group_iff _ id (fun _ => []) ["o3-mini", "gpt-5"]).2.1 ["gpt-5", "o3-mini"] (.swap _ _ _)

/-- Two models of `amazon` whose ids begin with `bedrock` make a group named like the provider `amazon-bedrock`. -/
theorem provider_read_twice :
    ¬ ∀ (lettering : Lettering) (extraPrefix : String × String → List String) (entries : List (String × String)),
      DistinctSiblings (autoGroup lettering Prod.snd extraPrefix entries) := by
  intro distinct
  let lettering : Lettering := ⟨String.toLower, fun c => c.toUpper.toString⟩
  let entries := [("amazon", "bedrock-titan"), ("amazon", "bedrock-nova"), ("amazon-bedrock", "claude")]
  have names : (autoGroup lettering Prod.snd (fun entry => [entry.1]) entries).filterMap groupName? =
      ["amazon-bedrock", "amazon-bedrock"] := by
    decide +kernel
  obtain ⟨apart, -⟩ := distinct lettering (fun entry => [entry.1]) entries
  rw [names] at apart
  exact (List.nodup_cons.mp apart).1 (List.mem_singleton_self _)

end MacMgmt.Proof.ModelCatalog
