import MacMgmt.Cleaner.Chunker

/-!
# Nothing is lost between chunks

The loop groups the paragraphs; a group is closed before it gets too long, but a paragraph is never split.
-/

namespace MacMgmt.Proof.Chunker
open Cleaner

/-! ## Slices -/

@[simp] theorem byteLength_nil : byteLength [] = 0 := rfl

@[simp] theorem byteLength_cons (c : Char) (text : Text) : byteLength (c :: text) = c.utf8Size + byteLength text := rfl

@[simp] theorem byteLength_append (first second : Text) : byteLength (first ++ second) = byteLength first + byteLength second := by
  simp [byteLength]

theorem byteLength_pos {text : Text} (nonempty : text ≠ []) : 0 < byteLength text := by
  cases text with
  | nil => exact absurd rfl nonempty
  | cons c rest =>
      have size := c.utf8Size_pos
      rw [byteLength_cons]
      omega

theorem dropBytes_append (first second : Text) : dropBytes (first ++ second) (byteLength first) = some second := by
  induction first with
  | nil => cases second <;> rfl
  | cons c rest ih =>
      obtain ⟨count, length⟩ := Nat.exists_eq_succ_of_ne_zero (byteLength_pos (List.cons_ne_nil c rest)).ne'
      have size : count + 1 = c.utf8Size + byteLength rest := length.symm
      rw [length, List.cons_append, Nat.succ_eq_add_one, dropBytes, if_pos (by omega), size, Nat.add_sub_cancel_left, ih]

theorem takeBytes_append (first second : Text) : takeBytes (first ++ second) (byteLength first) = some first := by
  induction first with
  | nil => cases second <;> rfl
  | cons c rest ih =>
      obtain ⟨count, length⟩ := Nat.exists_eq_succ_of_ne_zero (byteLength_pos (List.cons_ne_nil c rest)).ne'
      have size : count + 1 = c.utf8Size + byteLength rest := length.symm
      rw [length, List.cons_append, Nat.succ_eq_add_one, takeBytes, if_pos (by omega), size, Nat.add_sub_cancel_left, ih]
      rfl

theorem slice_middle (before middle after : Text) :
    slice (before ++ (middle ++ after)) (byteLength before) (byteLength before + byteLength middle) = some middle := by
  rw [slice, if_pos (Nat.le_add_right _ _), dropBytes_append, Option.bind_some, Nat.add_sub_cancel_left, takeBytes_append]

/-! ## Paragraphs -/

theorem intercalate_cons (first : Text) (rest : List Text) :
    separator.intercalate (first :: rest) = first ++ (rest.map (separator ++ ·)).flatten := by
  induction rest generalizing first with
  | nil => simp
  | cons second rest ih =>
      rw [List.intercalate_cons_cons, ih]
      simp

theorem paragraphs_ne_nil (text : Text) : paragraphs text ≠ [] := by
  induction text using paragraphs.induct with
  | case1 => simp [paragraphs]
  | case2 rest ih => simp [paragraphs]
  | case3 c rest different ih =>
      rw [paragraphs]
      · simpa using ih
      · exact different

theorem intercalate_paragraphs (text : Text) : separator.intercalate (paragraphs text) = text := by
  induction text using paragraphs.induct with
  | case1 => rfl
  | case2 rest ih =>
      obtain ⟨first, more, found⟩ := List.exists_cons_of_ne_nil (paragraphs_ne_nil rest)
      rw [paragraphs, found, List.intercalate_cons_cons, ← found, ih]
      rfl
  | case3 c rest different ih =>
      obtain ⟨first, more, found⟩ := List.exists_cons_of_ne_nil (paragraphs_ne_nil rest)
      rw [paragraphs]
      · rw [found, List.modifyHead_cons, intercalate_cons, List.cons_append, ← intercalate_cons, ← found, ih]
      · exact different

/-! ## Groups -/

/-- The paragraphs that are still to come, each with the separator before it. -/
def coming (rest : List Text) : Text := (rest.map (separator ++ ·)).flatten

/-- What the loop makes of the current chunk and the paragraphs to come; `extra` is the separator that it counts although the
chunk does not have it. -/
def group (current : Text) (extra : Nat) : List Text → List Text
  | [] => [current]
  | para :: rest =>
      if byteLength current + extra + 2 + byteLength para > targetChunkChars ∧ byteLength current + extra > 0 then
        current :: group para 2 rest
      else group (current ++ (separator ++ para)) extra rest

theorem group_ne_nil (current : Text) (extra : Nat) (rest : List Text) : group current extra rest ≠ [] := by
  induction rest generalizing current with
  | nil => simp [group]
  | cons para rest ih =>
      rw [group]
      split
      · simp
      · exact ih _

theorem intercalate_group (current : Text) (extra : Nat) (rest : List Text) :
    separator.intercalate (group current extra rest) = current ++ coming rest := by
  induction rest generalizing current extra with
  | nil => simp [group, coming]
  | cons para rest ih =>
      rw [group]
      split
      · obtain ⟨first, more, found⟩ := List.exists_cons_of_ne_nil (group_ne_nil para 2 rest)
        rw [found, List.intercalate_cons_cons, ← found, ih]
        simp [coming]
      · rw [ih]
        simp [coming]

/-- The state of the loop after a paragraph: what comes before the current chunk, and the chunk. -/
structure At (text : Text) (state : ChunkState) (before current : Text) (extra : Nat) (rest : List Text) : Prop where
  text : text = before ++ (current ++ coming rest)
  start : state.currentStart = byteLength before
  length : state.currentLen = byteLength current + extra
  offset : state.offset = byteLength before + byteLength current

theorem addParagraphs_at {text before current : Text} {state : ChunkState} {extra : Nat} {rest : List Text}
    (here : At text state before current extra rest) (i : Nat) :
    ∃ final done last, addParagraphs text state (i + 1) rest = some final ∧ group current extra rest = done ++ [last] ∧
      final.chunks = state.chunks ++ done ∧ final.currentStart + byteLength last = byteLength text ∧
      slice text final.currentStart (byteLength text) = some last := by
  induction rest generalizing state before current extra i with
  | nil =>
      have length : byteLength text = byteLength before + byteLength current := by simp [here.text, coming]
      refine ⟨state, [], current, rfl, rfl, (List.append_nil _).symm, ?_, ?_⟩
      · rw [here.start, length]
      · have middle := slice_middle before current []
        rw [length, here.start]
        rw [here.text]
        exact middle
  | cons para rest ih =>
      have sepLen : byteLength separator = 2 := rfl
      rw [addParagraphs, ChunkState.add, group]
      simp only [Nat.succ_pos, gt_iff_lt, if_true, here.length]
      by_cases full : targetChunkChars < byteLength current + extra + 2 + byteLength para ∧ 0 < byteLength current + extra
      · have found : slice text state.currentStart state.offset = some current := by
          rw [here.start, here.offset, here.text]
          exact slice_middle before current _
        rw [if_pos full, if_pos full, ChunkState.emit, found]
        simp only [Option.map_some, Option.bind_some]
        have next : At text
            ⟨state.chunks ++ [current], state.offset + 2, 0 + (2 + byteLength para), state.offset + 2 + byteLength para⟩
            (before ++ (current ++ separator)) para 2 rest := by
          refine ⟨?_, ?_, ?_, ?_⟩
          · simp [here.text, coming]
          · simp [here.offset, sepLen, Nat.add_assoc]
          · simp [Nat.add_comm]
          · simp [here.offset, sepLen, Nat.add_assoc]
        obtain ⟨final, done, last, run, groups, chunks, start, slices⟩ := ih next (i + 1)
        refine ⟨final, current :: done, last, run, by rw [groups, List.cons_append], ?_, start, slices⟩
        rw [chunks, List.append_assoc, List.singleton_append]
      · rw [if_neg full, if_neg full]
        simp only [Option.map_some, Option.bind_some]
        have next : At text
            ⟨state.chunks, state.currentStart, state.currentLen + (2 + byteLength para), state.offset + 2 + byteLength para⟩
            before (current ++ (separator ++ para)) extra rest := by
          refine ⟨?_, here.start, ?_, ?_⟩
          · simp [here.text, coming]
          · simp [here.length, sepLen]
            omega
          · simp [here.offset, sepLen, Nat.add_assoc]
        exact ih next (i + 1)

/-! ## Sizes -/

theorem group_small_iff (current : Text) (extra : Nat) (rest : List Text) :
    (∀ chunk ∈ group current extra rest, byteLength chunk ≤ targetChunkChars) ↔
      byteLength current ≤ targetChunkChars ∧ (∀ para ∈ rest, byteLength para ≤ targetChunkChars) ∧
        (current = [] → extra = 0 → ∀ para ∈ rest.head?, byteLength para + 2 ≤ targetChunkChars) := by
  have sepLen : byteLength separator = 2 := rfl
  induction rest generalizing current extra with
  | nil => simp [group]
  | cons para rest ih =>
      rw [group]
      by_cases full : byteLength current + extra + 2 + byteLength para > targetChunkChars ∧ byteLength current + extra > 0
      · rw [if_pos full, List.forall_mem_cons, propext (ih para 2), List.forall_mem_cons]
        have started : current = [] → extra = 0 → False := by
          rintro rfl rfl
          exact absurd full.2 (by simp)
        constructor
        · rintro ⟨small, smallPara, smallRest, -⟩
          exact ⟨small, ⟨smallPara, smallRest⟩, fun empty none => (started empty none).elim⟩
        · rintro ⟨small, ⟨smallPara, smallRest⟩, -⟩
          exact ⟨small, smallPara, smallRest, fun _ two => absurd two (by decide)⟩
      · rw [if_neg full, propext (ih (current ++ (separator ++ para)) extra), List.forall_mem_cons]
        simp only [byteLength_append, sepLen, List.head?_cons, Option.mem_some_iff, forall_eq', List.append_eq_nil_iff]
        constructor
        · rintro ⟨small, smallRest, -⟩
          refine ⟨by omega, ⟨by omega, smallRest⟩, fun _ _ => by omega⟩
        · rintro ⟨small, ⟨smallPara, smallRest⟩, first⟩
          refine ⟨?_, smallRest, fun empty => absurd empty.2.1 (by simp [separator])⟩
          by_cases empty : current = [] ∧ extra = 0
          · have second := first empty.1 empty.2
            rw [empty.1, byteLength_nil]
            omega
          · have started : byteLength current + extra > 0 := by
              by_contra none
              have lengths : byteLength current = 0 ∧ extra = 0 := by omega
              refine empty ⟨?_, lengths.2⟩
              by_contra nonempty
              exact absurd lengths.1 (byteLength_pos nonempty).ne'
            omega

theorem chunkDocument_long {text first : Text} {rest : List Text} (split : paragraphs text = first :: rest)
    (long : ¬ byteLength text ≤ targetChunkChars) :
    ∃ chunks, chunkDocument text = some chunks ∧
      (group first 0 rest = chunks ∨ group first 0 rest = chunks ++ [[]]) := by
  have whole := intercalate_paragraphs text
  rw [split, intercalate_cons] at whole
  have here : At text ⟨[], 0, 0 + (0 + byteLength first), 0 + 0 + byteLength first⟩ [] first 0 rest :=
    ⟨whole.symm, rfl, by simp, by simp⟩
  obtain ⟨final, done, last, run, groups, chunks, start, slices⟩ := addParagraphs_at here 0
  rw [List.nil_append] at chunks
  have firstTurn : addParagraphs text ⟨[], 0, 0, 0⟩ 0 (first :: rest) = some final := by
    rw [← run, addParagraphs, ChunkState.add]
    simp
  rw [chunkDocument, if_neg long, split, firstTurn, Option.bind_some]
  by_cases ends : last = []
  · have stop : ¬ final.currentStart < byteLength text := by
      rw [ends, byteLength_nil] at start
      omega
    exact ⟨_, if_neg stop, .inr (by rw [groups, chunks, ends])⟩
  · have more : final.currentStart < byteLength text := by
      have positive := byteLength_pos ends
      omega
    refine ⟨done ++ [last], ?_, .inl groups⟩
    rw [if_pos more, slices, chunks]
    rfl

theorem forall_paragraphs_iff {text first : Text} {rest : List Text} (split : paragraphs text = first :: rest) :
    ParagraphsFit text ↔ ∀ chunk ∈ group first 0 rest, byteLength chunk ≤ targetChunkChars := by
  rw [group_small_iff, ParagraphsFit, split, List.forall_mem_cons, and_assoc]
  refine and_congr_right fun _ => and_congr_right fun _ => ?_
  constructor
  · rintro fits rfl - para member
    cases rest with
    | nil => cases member
    | cons second more => exact (Option.mem_some_iff.mp member) ▸ fits second more rfl
  · intro fits para more same
    obtain ⟨rfl, rfl⟩ := List.cons.inj same
    exact fits rfl rfl para rfl

theorem byteLength_le_coming {para : Text} {rest : List Text} (member : para ∈ rest) :
    byteLength para + 2 ≤ byteLength (coming rest) := by
  have sepLen : byteLength separator = 2 := rfl
  induction rest with
  | nil => cases member
  | cons first rest ih =>
      have length : byteLength (coming (first :: rest)) = 2 + byteLength first + byteLength (coming rest) := by
        simp [coming, sepLen, Nat.add_assoc]
      rcases List.mem_cons.mp member with rfl | later
      · omega
      · have bound := ih later
        omega

theorem paragraphsFit_of_short {text : Text} (short : byteLength text ≤ targetChunkChars) : ParagraphsFit text := by
  obtain ⟨first, rest, split⟩ := List.exists_cons_of_ne_nil (paragraphs_ne_nil text)
  have whole := intercalate_paragraphs text
  rw [split, intercalate_cons] at whole
  have length : byteLength first + byteLength (coming rest) ≤ targetChunkChars := by
    rw [← byteLength_append, coming, whole]
    exact short
  refine ⟨?_, fun para more same => ?_⟩
  · rw [split, List.forall_mem_cons]
    refine ⟨by omega, fun para member => ?_⟩
    have bound := byteLength_le_coming member
    omega
  · obtain ⟨-, rfl⟩ := List.cons.inj (split.symm.trans same)
    have bound := byteLength_le_coming (List.mem_cons_self (a := para) (l := more))
    omega

theorem intercalate_concat {chunks : List Text} (nonempty : chunks ≠ []) :
    separator.intercalate (chunks ++ [[]]) = separator.intercalate chunks ++ separator := by
  obtain ⟨first, rest, rfl⟩ := List.exists_cons_of_ne_nil nonempty
  rw [List.cons_append, intercalate_cons, intercalate_cons]
  simp

/-- The text comes out in order; the pieces are small if the paragraphs are. -/
theorem chunk_document_iff (text : Text) :
    ∃ chunks, chunkDocument text = some chunks ∧ Consecutive text chunks ∧
      ((∀ chunk ∈ chunks, byteLength chunk ≤ targetChunkChars) ↔ ParagraphsFit text) := by
  by_cases short : byteLength text ≤ targetChunkChars
  · refine ⟨[text], if_pos short, .inl (by simp), ?_⟩
    simp [short, paragraphsFit_of_short short]
  obtain ⟨first, rest, split⟩ := List.exists_cons_of_ne_nil (paragraphs_ne_nil text)
  obtain ⟨chunks, found, groups⟩ := chunkDocument_long split short
  have whole : separator.intercalate (group first 0 rest) = text := by
    rw [intercalate_group, coming, ← intercalate_cons, ← split, intercalate_paragraphs]
  refine ⟨chunks, found, ?_, ?_⟩
  · rcases groups with same | same
    · exact .inl (same ▸ whole.symm)
    · rw [same] at whole
      have nonempty : chunks ≠ [] := by
        rintro rfl
        rw [← whole] at short
        exact short (by decide)
      exact .inr (whole.symm.trans (intercalate_concat nonempty))
  · rw [forall_paragraphs_iff split]
    rcases groups with same | same
    · rw [same]
    · rw [same, List.forall_mem_append]
      simp

theorem paragraphs_replicate (n : Nat) : paragraphs (List.replicate n 'a') = [List.replicate n 'a'] := by
  induction n with
  | zero => rfl
  | succ n ih =>
      rw [List.replicate_succ, paragraphs, ih]
      · rfl
      · rintro rest same
        cases same

/-- A line of 8001 characters stays one chunk. -/
theorem long_paragraph_kept :
    ¬ ∀ text : Text, ∃ chunks, chunkDocument text = some chunks ∧ Consecutive text chunks ∧
      ∀ chunk ∈ chunks, byteLength chunk ≤ targetChunkChars := by
  intro small
  let line : Text := List.replicate (targetChunkChars + 1) 'a'
  have size : Char.utf8Size 'a' = 1 := by decide
  have length : byteLength line = targetChunkChars + 1 := by simp [line, byteLength, size]
  obtain ⟨chunks, found, -, bound⟩ := small line
  have long : ¬ byteLength line ≤ targetChunkChars := by omega
  obtain ⟨others, same, groups⟩ := chunkDocument_long (paragraphs_replicate _) long
  obtain rfl := Option.some.inj (found.symm.trans same)
  have fits : ∀ chunk ∈ group line 0 [], byteLength chunk ≤ targetChunkChars := by
    rcases groups with whole | whole <;> rw [whole]
    · exact bound
    · simpa [or_imp, forall_and] using bound
  have lineFits := fits line (List.mem_singleton_self line)
  omega

end MacMgmt.Proof.Chunker
