import MacMgmt.Lib.Cover
import MacMgmt.Proof.Cleaner.Placeholders

/-!
# Redacting and restoring a document

The originals are replaced in the text that the replacements before have left, and so are the placeholders afterwards. When
none of them meets what another has put in, the two sequences undo each other.
-/

namespace MacMgmt.Proof.Cleaner
open Lib MacMgmt.Cleaner

/-! ## Brackets -/

structure Bracketed (placeholder : Text) : Prop where
  shape : ∃ id, placeholder = placeholderOf id ∧ '[' ∉ id ∧ ']' ∉ id

theorem Bracketed.ne_nil {placeholder : Text} (bracketed : Bracketed placeholder) : placeholder ≠ [] := by
  obtain ⟨id, rfl, -, -⟩ := bracketed.shape
  exact List.cons_ne_nil _ _

theorem Bracketed.opening_notMem_tail {placeholder rest : Text} {c : Char} (bracketed : Bracketed placeholder)
    (whole : placeholder = c :: rest) : c = '[' ∧ '[' ∉ rest := by
  obtain ⟨id, rfl, opening, -⟩ := bracketed.shape
  cases whole
  refine ⟨rfl, fun member => ?_⟩
  rcases List.mem_append.mp member with inside | last
  · exact opening inside
  · exact absurd (List.mem_singleton.mp last) (by decide)

theorem Bracketed.eq_of_prefix {first second rest : Text} (one : Bracketed first) (two : Bracketed second)
    (leads : first <+: second ++ rest) : first = second := by
  obtain ⟨id, rfl, -, closing⟩ := one.shape
  obtain ⟨other, rfl, -, apart⟩ := two.shape
  obtain ⟨after, whole⟩ := leads
  have tails : id ++ ']' :: after = other ++ ']' :: rest := by
    simpa [placeholderOf] using whole
  have read (id after : Text) (closing : ']' ∉ id) : (id ++ ']' :: after).takeWhile (· ≠ ']') = id := by
    rw [List.takeWhile_append_of_pos fun c member => by
      simp only [ne_eq, decide_not, Bool.not_eq_true', decide_eq_false_iff_not]
      rintro rfl
      exact closing member]
    simp
  rw [← read id after closing, tails, read other rest apart]

theorem bracket_notMem_categoryPrefix (category : EntityCategory) :
    '[' ∉ category.categoryPrefix ∧ ']' ∉ category.categoryPrefix := by
  cases category <;> decide

theorem bracketed_of_labelled {entity : RedactionEntity} (labelled : Labelled entity) : Bracketed entity.placeholder := by
  obtain ⟨count, named⟩ := labelled.id
  have absent : ∀ c ∈ entity.id, c ≠ '[' ∧ c ≠ ']' := by
    intro c member
    rw [named] at member
    rcases List.mem_append.mp member with inside | after
    · obtain ⟨opening, closing⟩ := bracket_notMem_categoryPrefix entity.category
      exact ⟨fun same => opening (same ▸ inside), fun same => closing (same ▸ inside)⟩
    · rcases List.mem_cons.mp after with rfl | digit
      · decide
      · have isDigit := isDigit_of_mem_toDigits digit
        constructor <;> rintro rfl <;> exact absurd isDigit (by decide)
  exact ⟨entity.id, labelled.placeholder, fun member => (absent _ member).1 rfl, fun member => (absent _ member).2 rfl⟩

/-! ## Restoring -/

section Restoring
variable {shown : RedactionEntity → Bool} {entities : List RedactionEntity} {document : Text} {start : Nat}

/-- The document with its holes, of which those that are shown are as they were. -/
abbrev partlyRestored (shown : RedactionEntity → Bool) (entities : List RedactionEntity) (document : Text) (start : Nat) :
    List (Cell Char) :=
  cellsOf RedactionEntity.placeholder shown (cover RedactionEntity.original entities document start)

theorem opening_of_unnumbered (some_ : ∀ entity ∈ entities, entity.original ≠ [])
    (bracketed : ∀ entity ∈ entities, Bracketed entity.placeholder) {before after : List (Cell Char)} {cell : Cell Char}
    (whole : partlyRestored shown entities document start = before ++ cell :: after)
    (numbered : ∀ other ∈ before, other.2.isSome = true) (put : cell.2 = none) : cell.1 = '[' := by
  induction start using cover_induction document some_ generalizing before with
  | ended start out =>
      rw [partlyRestored, cover_end out] at whole
      cases before <;> cases whole
  | hole start entity found ih =>
      have member := (firstAt_some found).1
      rw [partlyRestored, cover_hole (some_ entity member) found, cellsOf_cons] at whole
      rcases List.append_eq_append_iff.mp whole with ⟨more, rfl, rest⟩ | ⟨more, piece, rest⟩
      · exact ih rest fun other inside => numbered other (List.mem_append_right _ inside)
      · cases more with
        | nil => exact @ih [] rest.symm fun _ none_ => absurd none_ List.not_mem_nil
        | cons first more =>
            obtain ⟨rfl, -⟩ := List.cons.inj rest
            change (if shown entity = true then _ else unnumbered entity.placeholder) = _ at piece
            split at piece
            · have inside : cell ∈ ((number document).drop start).take entity.original.length := by
                rw [piece]
                exact List.mem_append_right before (List.mem_cons_self ..)
              have isSome := isSome_of_mem_number (List.mem_of_mem_drop (List.mem_of_mem_take inside))
              rw [put] at isSome
              cases isSome
            · cases before with
              | nil =>
                  obtain ⟨c, rest, placed⟩ := List.exists_cons_of_ne_nil (bracketed entity member).ne_nil
                  rw [placed, unnumbered, List.map_cons] at piece
                  rw [← (List.cons.inj piece).1]
                  exact ((bracketed entity member).opening_notMem_tail placed).1
              | cons other before =>
                  have inside : other ∈ unnumbered entity.placeholder := by
                    rw [piece]
                    exact List.mem_cons_self ..
                  have isSome := numbered other (List.mem_cons_self ..)
                  rw [snd_of_mem_unnumbered inside] at isSome
                  cases isSome
  | kept start inside absent ih =>
      rw [partlyRestored, cover_kept inside absent, cellsOf_cons] at whole
      cases before with
      | nil =>
          cases whole
          cases put
      | cons first before =>
          obtain ⟨-, rest⟩ := List.cons.inj whole
          exact ih rest fun other member => numbered other (List.mem_cons_of_mem _ member)

theorem not_prefix_of_numbered (some_ : ∀ entity ∈ entities, entity.original ≠ [])
    (bracketed : ∀ entity ∈ entities, Bracketed entity.placeholder) {placeholder : Text} (own : Bracketed placeholder)
    {front : List (Cell Char)} (present : front ≠ []) (numbered : ∀ cell ∈ front, cell.2.isSome = true)
    (unforged : Unforged (front ++ partlyRestored shown entities document start) placeholder) :
    ¬ placeholder <+: (front ++ partlyRestored shown entities document start).map Prod.fst := by
  intro leads
  obtain ⟨found, ⟨later, whole⟩, same, meets⟩ := unforged.of_prefix own.ne_nil leads
  obtain ⟨cell, first⟩ : ∃ cell, found.find? (fun cell => cell.2 = none) = some cell :=
    Option.isSome_iff_exists.mp (List.find?_isSome.mpr (by simpa using meets))
  obtain ⟨none_, before, after, rfl, earlier⟩ := List.find?_eq_some_iff_append.mp first
  have put : cell.2 = none := by simpa using none_
  have earlier : ∀ other ∈ before, other.2.isSome = true := fun other member => by
    simpa [Option.isSome_iff_ne_none] using earlier other member
  have outside : cell ∉ front := fun member => by
    have isSome := numbered cell member
    rw [put] at isSome
    cases isSome
  rw [List.append_assoc, List.cons_append] at whole
  have opens : cell.1 = '[' := by
    rcases List.append_eq_append_iff.mp whole with ⟨more, rfl, rest⟩ | ⟨more, rfl, rest⟩
    · cases more with
      | nil =>
          have alone : partlyRestored shown entities document start = [] ++ cell :: (after ++ later) := rest.symm
          exact opening_of_unnumbered some_ bracketed alone (fun _ none_ => absurd none_ List.not_mem_nil) put
      | cons other more =>
          obtain ⟨rfl, -⟩ := List.cons.inj rest
          exact absurd (List.mem_append_right _ (List.mem_cons_self ..)) outside
    · exact opening_of_unnumbered some_ bracketed rest
        (fun other member => earlier other (List.mem_append_right _ member)) put
  cases before with
  | nil =>
      obtain ⟨other, front, rfl⟩ := List.exists_cons_of_ne_nil present
      obtain ⟨rfl, -⟩ := List.cons.inj whole
      exact outside (List.mem_cons_self ..)
  | cons other before =>
      rw [List.cons_append, List.map_cons] at same
      refine (own.opening_notMem_tail same.symm).2 ?_
      rw [List.map_append, List.map_cons, opens]
      exact List.mem_append_right _ (List.mem_cons_self ..)

theorem scan_restore (some_ : ∀ entity ∈ entities, entity.original ≠ [])
    (bracketed : ∀ entity ∈ entities, Bracketed entity.placeholder) {entity : RedactionEntity}
    (own : Bracketed entity.placeholder) (hidden : shown entity = false)
    (distinct : ∀ other ∈ entities, other.placeholder = entity.placeholder → other = entity)
    (unforged : Unforged (partlyRestored shown entities document start) entity.placeholder) :
    Scan id entity.placeholder entity.original
      ((partlyRestored shown entities document start).map Prod.fst)
      ((partlyRestored (fun other => shown other || other = entity) entities document start).map Prod.fst) := by
  induction start using cover_induction document some_ with
  | ended start out =>
      rw [partlyRestored, partlyRestored, cover_end out]
      exact .done
  | hole start other found ih =>
      obtain ⟨member, occurs⟩ := firstAt_some found
      rw [partlyRestored, cover_hole (some_ other member) found, cellsOf_cons] at unforged ⊢
      rw [partlyRestored, cover_hole (some_ other member) found, cellsOf_cons, List.map_append, List.map_append]
      have later := ih unforged.of_append
      unfold Piece.cells at unforged ⊢
      by_cases visible : shown other = true
      · simp only [visible, Bool.true_or, if_true] at unforged ⊢
        refine .pass (fun front after whole present leads => ?_) later
        obtain ⟨earlier, rest, split, rfl, rfl⟩ := List.map_eq_append_iff.mp whole
        rw [split, List.append_assoc] at unforged
        have numbered : ∀ cell ∈ rest, cell.2.isSome = true := fun cell inside =>
          isSome_of_mem_number (List.mem_of_mem_drop (List.mem_of_mem_take
            (split ▸ List.mem_append_right earlier inside)))
        refine not_prefix_of_numbered some_ bracketed own (by rintro rfl; exact present rfl) numbered unforged.of_append ?_
        rwa [List.map_id, ← List.map_append] at leads
      · simp only [visible, Bool.false_or, decide_eq_true_eq, if_false, Bool.false_eq_true] at unforged ⊢
        by_cases same : other = entity
        · subst same
          rw [if_pos rfl, map_fst_unnumbered, occurs.map_take]
          exact .hit (List.map_id _) later
        · rw [if_neg same, map_fst_unnumbered]
          refine .pass (fun front after whole present leads => ?_) later
          rw [List.map_id] at leads
          cases front with
          | nil =>
              rw [List.nil_append] at whole
              rw [← whole] at leads
              exact same (distinct other member (own.eq_of_prefix (bracketed other member) leads).symm)
          | cons c front =>
              obtain ⟨opening, after, rfl⟩ := List.exists_cons_of_ne_nil present
              obtain ⟨first, rest, placed⟩ := List.exists_cons_of_ne_nil own.ne_nil
              have opens : first = '[' := (own.opening_notMem_tail placed).1
              rw [placed, opens, List.cons_append] at leads
              obtain ⟨rfl, -⟩ := List.cons_prefix_cons.mp leads
              exact ((bracketed other member).opening_notMem_tail whole).2
                (List.mem_append_right _ (List.mem_cons_self ..))
  | kept start inside absent ih =>
      rw [partlyRestored, cover_kept inside absent, cellsOf_cons] at unforged ⊢
      rw [partlyRestored, cover_kept inside absent, cellsOf_cons, List.map_append, List.map_append]
      refine .miss (fun leads => ?_) (ih unforged.of_append)
      refine not_prefix_of_numbered some_ bracketed own (List.cons_ne_nil (document[start], some start) []) ?_ unforged ?_
      · intro cell member
        rw [List.mem_singleton.mp member]
        rfl
      · rwa [List.map_id] at leads

theorem restore_eq (some_ : ∀ entity ∈ entities, entity.original ≠ []) {stored : List RedactionEntity}
    (bracketed : ∀ entity ∈ stored, Bracketed entity.placeholder) (same : ∀ entity, entity ∈ entities ↔ entity ∈ stored)
    (distinct : (stored.map (·.placeholder)).Nodup)
    (unforged : ∀ before entity after, stored = before ++ entity :: after →
      Unforged (partlyRestored (fun other => other ∈ before) entities document 0) entity.placeholder) :
    stored.foldl (fun text entity => replace id entity.placeholder entity.original text)
      ((partlyRestored (fun _ => false) entities document 0).map Prod.fst) = document := by
  have steps : ∀ before after, stored = before ++ after →
      after.foldl (fun text entity => replace id entity.placeholder entity.original text)
        ((partlyRestored (fun other => other ∈ before) entities document 0).map Prod.fst) = document := by
    intro before after split
    induction after generalizing before with
    | nil =>
        have all : ∀ entity ∈ entities, decide (entity ∈ before) = true := fun entity member => by
          rw [split, List.append_nil] at same
          exact decide_eq_true ((same entity).mp member)
        rw [List.foldl_nil, partlyRestored, cellsOf_shown some_ all, List.drop_zero, map_fst_number]
    | cons entity after ih =>
        have member : entity ∈ stored := split ▸ List.mem_append_right before (List.mem_cons_self ..)
        have hidden : decide (entity ∈ before) = false := by
          rw [split, List.map_append, List.map_cons, List.nodup_append] at distinct
          refine decide_eq_false fun early => ?_
          exact distinct.2.2 _ (List.mem_map_of_mem early) _ (List.mem_cons_self ..) rfl
        have grown : (fun other => decide (other ∈ before) || decide (other = entity)) =
            fun other => decide (other ∈ before ++ [entity]) := by
          funext other
          simp
        have shows := scan_restore some_ (fun other inside => bracketed other ((same other).mp inside))
          (bracketed entity member) hidden
          (fun other inside twin => List.inj_on_of_nodup_map distinct ((same other).mp inside) member twin)
          (unforged before entity after split)
        rw [grown] at shows
        rw [List.foldl_cons, replace_of_scan (bracketed entity member).ne_nil shows]
        exact ih (before ++ [entity]) (by rw [split, List.append_assoc, List.singleton_append])
  have start := steps [] stored rfl
  simpa using start

end Restoring

/-! ## The condition -/

/-- The text that redaction gives, with the positions of what is left of the document. -/
def tracked (entities : List RedactionEntity) (document : Text) : List (Cell Char) :=
  (longestFirst (approvedEntities entities)).foldl
    (fun cells entity => replace Prod.fst entity.original (unnumbered entity.placeholder) cells) (number document)

/-- Overlapping occurrences of originals lie in one. Where an original is looked for, or a placeholder afterwards, it does not
meet what stands in for another. -/
structure Separable (document : Text) (entities : List RedactionEntity) : Prop where
  nested : Nested RedactionEntity.original document (longestFirst (approvedEntities entities))
  undisturbed : ∀ index, (inside : index < (longestFirst (approvedEntities entities)).length) →
    Undisturbed
      (partlyRestored (fun _ => false) ((longestFirst (approvedEntities entities)).take index) document 0)
      (longestFirst (approvedEntities entities))[index].original
  unforged : ∀ index, (inside : index < (approvedEntities entities).length) →
    Unforged
      (partlyRestored (fun entity => entity ∈ (approvedEntities entities).take index)
        (longestFirst (approvedEntities entities)) document 0)
      (approvedEntities entities)[index].placeholder

instance (document : Text) (entities : List RedactionEntity) : Decidable (Separable document entities) :=
  decidable_of_iff (_ ∧ _ ∧ _) ⟨fun ⟨nested, undisturbed, unforged⟩ => ⟨nested, undisturbed, unforged⟩,
    fun ⟨nested, undisturbed, unforged⟩ => ⟨nested, undisturbed, unforged⟩⟩

theorem map_fst_tracked (entities : List RedactionEntity) (document : Text) :
    (tracked entities document).map Prod.fst = redact entities document := by
  have keys : id ∘ Prod.fst = (Prod.fst : Cell Char → Char) := rfl
  have steps : ∀ (rest : List RedactionEntity) (cells : List (Cell Char)),
      (rest.foldl (fun cells entity => replace Prod.fst entity.original (unnumbered entity.placeholder) cells) cells).map
        Prod.fst = rest.foldl (fun text entity => replace id entity.original entity.placeholder text)
          (cells.map Prod.fst) := by
    intro rest
    induction rest with
    | nil => exact fun _ => rfl
    | cons entity rest ih =>
        intro cells
        have one : (replace Prod.fst entity.original (unnumbered entity.placeholder) cells).map Prod.fst =
            replace id entity.original ((unnumbered entity.placeholder).map Prod.fst) (cells.map Prod.fst) :=
          map_replace keys entity.original (unnumbered entity.placeholder) cells
        rw [List.foldl_cons, List.foldl_cons, ih, one, map_fst_unnumbered]
  rw [tracked, steps, map_fst_number]
  rfl

theorem mem_longestFirst {entities : List RedactionEntity} {entity : RedactionEntity} :
    entity ∈ longestFirst entities ↔ entity ∈ entities :=
  (List.perm_insertionSort _ _).mem_iff

theorem pairwise_longestFirst (entities : List RedactionEntity) :
    (longestFirst entities).Pairwise fun first second => byteLength second.original ≤ byteLength first.original := by
  have : Std.Total fun first second : RedactionEntity => byteLength second.original ≤ byteLength first.original :=
    ⟨fun _ _ => Nat.le_total _ _⟩
  have : IsTrans RedactionEntity fun first second => byteLength second.original ≤ byteLength first.original :=
    ⟨fun _ _ _ one two => Nat.le_trans two one⟩
  exact List.pairwise_insertionSort _ _

theorem rehydrateText_eq (entities : List RedactionEntity) (text : Text) :
    rehydrateText entities text =
      (approvedEntities entities).foldl (fun text entity => replace id entity.placeholder entity.original text) text := by
  rw [approvedEntities, List.foldl_filter]
  rfl


theorem separable_spec {document : Text} {entities : List RedactionEntity} (some_ : ∀ entity ∈ entities, entity.original ≠ [])
    (labelled : ∀ entity ∈ entities, Labelled entity) (distinct : (entities.map (·.id)).Nodup)
    (separable : Separable document entities) :
    (∀ cell ∈ tracked entities document, ∀ position, cell.2 = some position →
      ¬ CoveredAt RedactionEntity.original document (approvedEntities entities) position) ∧
    rehydrateText entities (redact entities document) = document := by
  have among : ∀ entity ∈ approvedEntities entities, entity ∈ entities := fun entity member =>
    (List.mem_filter.mp member).1
  have present : ∀ entity ∈ longestFirst (approvedEntities entities), entity.original ≠ [] := fun entity member =>
    some_ entity (among entity (mem_longestFirst.mp member))
  have coverable : Coverable Char.utf8Size RedactionEntity.original document (longestFirst (approvedEntities entities)) :=
    ⟨Char.utf8Size_pos, present, pairwise_longestFirst _, separable.nested⟩
  have covered : tracked entities document =
      partlyRestored (fun _ => false) (longestFirst (approvedEntities entities)) document 0 := by
    refine foldl_replace_eq_cover coverable (fun entity member => ?_) fun before entity after split => ?_
    · exact (bracketed_of_labelled (labelled entity (among entity (mem_longestFirst.mp member)))).ne_nil
    · have undisturbed := separable.undisturbed before.length (by rw [split]; simp)
      simpa [split] using undisturbed
  have ids : ((approvedEntities entities).map (·.id)).Nodup :=
    distinct.sublist (List.filter_sublist.map _)
  have placeholders : (approvedEntities entities).map (·.placeholder) =
      ((approvedEntities entities).map (·.id)).map placeholderOf := by
    rw [List.map_map]
    exact List.map_congr_left fun entity member => (labelled entity (among entity member)).placeholder
  constructor
  · intro cell member position numbered reached
    rw [covered] at member
    obtain ⟨entity, approved, occurrence⟩ := reached
    exact not_coveredAt coverable (.begin _ document) member numbered ⟨entity, mem_longestFirst.mpr approved, occurrence⟩
  · rw [rehydrateText_eq, ← map_fst_tracked, covered]
    refine restore_eq present (fun entity member => bracketed_of_labelled (labelled entity (among entity member)))
      (fun entity => mem_longestFirst) ?_ fun before entity after split => ?_
    · rw [placeholders]
      exact ids.map fun _ _ => placeholderOf_injective
    · have unforged := separable.unforged before.length (by rw [split]; simp)
      simpa [split] using unforged

/-! ## A new session -/

section Session
variable {state : CleanerState} {params : ApproveParams} {document : Text} {detections : List Detection}

def sessionEntities (state : CleanerState) (params : ApproveParams) (detections : List Detection) : List RedactionEntity :=
  let built := buildEntities params.sessionId state.counters [] detections
  built.2.map (CleanerState.mark params.removeIds) ++
    (addRedactions params.sessionId built.1 params.addRedactions).2

theorem exists_of_mem_label {counters : Counters} {sessionId : Text}
    {items : List (Text × EntityCategory × DetectionSource)} {entity : RedactionEntity}
    (member : entity ∈ (label sessionId counters items).2) : ∃ item ∈ items, entity.original = item.1 := by
  induction items generalizing counters with
  | nil => cases member
  | cons item rest ih =>
      rcases List.mem_cons.mp member with rfl | later
      · exact ⟨item, List.mem_cons_self .., rfl⟩
      · obtain ⟨other, inside, same⟩ := ih later
        exact ⟨other, List.mem_cons_of_mem _ inside, same⟩

theorem mem_sessionEntities {entity : RedactionEntity} (member : entity ∈ sessionEntities state params detections) :
    Labelled entity ∧ entity.original ≠ [] := by
  rcases List.mem_append.mp member with marked | added
  · obtain ⟨old, stored, rfl⟩ := List.mem_map.mp marked
    rw [buildEntities_eq] at stored
    obtain ⟨item, inside, same⟩ := exists_of_mem_label stored
    obtain ⟨detection, -, rfl⟩ := List.mem_map.mp inside
    refine ⟨(labelled_of_mem_label stored).mark _, ?_⟩
    rw [show (CleanerState.mark params.removeIds old).original = old.original by unfold CleanerState.mark; split <;> rfl, same]
    exact detection.present
  · rw [addRedactions_eq] at added
    obtain ⟨item, inside, same⟩ := exists_of_mem_label added
    obtain ⟨text, kept, rfl⟩ := List.mem_map.mp inside
    exact ⟨labelled_of_mem_label added, by rw [same]; simpa using (List.mem_filter.mp kept).2⟩

theorem nodup_sessionEntities (state : CleanerState) (params : ApproveParams) (detections : List Detection) :
    ((sessionEntities state params detections).map (·.id)).Nodup := by
  rw [sessionEntities, List.map_append, map_mark_ids, buildEntities_eq, addRedactions_eq, List.nodup_append']
  refine ⟨nodup_label _, nodup_label _, fun id old new => ?_⟩
  obtain ⟨first, early, rfl⟩ := List.mem_map.mp old
  obtain ⟨second, late, same⟩ := List.mem_map.mp new
  obtain ⟨count, above, -, named⟩ := mem_label late
  obtain ⟨number, -, below, numbered⟩ := mem_label early
  obtain ⟨category, equal⟩ := placeholderId_inj.mp ((numbered.symm.trans same.symm).trans named)
  rw [category, equal] at below
  omega

theorem load_eq {sessionId : Text} {manifest : SessionManifest} {now : Int} {disk : Disk}
    (valid : validateId sessionId = true) (reads : disk.reads = true)
    (stored : state.sessions.lookup sessionId = some manifest) (alive : now - manifest.createdAt ≤ state.ttlSeconds) :
    state.load sessionId now disk = (state, some manifest) := by
  have fresh : state.expired manifest now = false := decide_eq_false (by omega)
  rw [CleanerState.load, valid, reads, Bool.and_self, if_pos rfl, stored]
  dsimp only
  rw [fresh, if_neg Bool.false_ne_true]

theorem save_ttl (state : CleanerState) (manifest : SessionManifest) (disk : Disk) : (state.save manifest disk).1.ttlSeconds = state.ttlSeconds := by
  unfold CleanerState.save
  split
  · split <;> rfl
  · rfl

theorem scan_ttl (sessionId : Text) (now : Int) (disk : Disk) :
    (state.scan sessionId document detections now disk).1.ttlSeconds = state.ttlSeconds := by
  unfold CleanerState.scan
  dsimp only
  split
  · rfl
  · exact save_ttl _ _ disk

theorem approve_ok {now : Int} {disk : Disk} {redacted : Text} (done : (state.approve params now disk).2 = .ok redacted) :
    ∃ manifest, state.sessions.lookup params.sessionId = some manifest ∧
      redacted = redact (approved state params manifest).entities manifest.originalText ∧
      (state.approve params now disk).1.sessions =
        state.sessions.insert manifest.id (approved state params manifest) ∧
      (state.approve params now disk).1.ttlSeconds = state.ttlSeconds := by
  cases found : (state.load params.sessionId now disk).2 with
  | none =>
      rw [CleanerState.approve, ← Prod.eta (state.load params.sessionId now disk), found] at done
      cases done
  | some manifest =>
      obtain ⟨loaded, -, stored⟩ := load_some found
      obtain ⟨-, saved⟩ := save_cases
        { state with counters := (addRedactions params.sessionId state.counters params.addRedactions).1 }
        (approved state params manifest) disk
      have ttl := save_ttl
        { state with counters := (addRedactions params.sessionId state.counters params.addRedactions).1 }
        (approved state params manifest) disk
      rw [CleanerState.approve, loaded] at done ⊢
      rcases saved with ⟨succeeded, -, written⟩ | ⟨failed, -, -⟩
      · refine ⟨manifest, stored, ?_, written, ttl⟩
        change (if (CleanerState.save _ (approved state params manifest) disk).2 then _ else _) = _ at done
        rw [succeeded, if_pos rfl] at done
        cases done
        rfl
      · change (if (CleanerState.save _ (approved state params manifest) disk).2 then _ else _) = _ at done
        rw [failed] at done
        cases done

def redactAndRestore (document : Text) (detections : List Detection) (manual : List Text) :
    Except CleanerError Text × Except CleanerError Text :=
  let disk : Disk := ⟨true, .written, true⟩
  let scan := (CleanerState.start 86400).scan ['s'] document detections 0 disk
  let approve := scan.1.approve ⟨['s'], [], manual⟩ 0 disk
  (approve.2, match approve.2 with
    | .ok redacted => (approve.1.rehydrate ['s'] redacted 0 disk).2
    | .error failure => .error failure)

end Session

end MacMgmt.Proof.Cleaner
