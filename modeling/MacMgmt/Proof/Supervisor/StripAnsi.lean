import MacMgmt.Supervisor.Server
import Mathlib.Data.List.Nodup
import Mathlib.Data.List.TakeWhile

/-!
# What is stripped

The input is read by the grammar of the escapes. The scanner removes what the grammar gives to an escape, except that an OSC string
cut short by another escape leaves that one's bytes, and that an escape of two bytes can take a part of a character.
-/

namespace MacMgmt.Proof.StripAnsi
open Lib MacMgmt.Supervisor

/-! ## The grammar -/

inductive Segment (T : Type*) where
  | text (x : T)
  | csi
  | osc
  | aborted
  | escape (second : T)

section Grammar
variable {T : Type*} {byte : T → UInt8}

variable (byte) in
/-- `Sequence byte tail segment rest` says that what follows an ESC, `tail`, completes the segment and goes on with `rest`. An ESC
that ends no OSC string starts the next sequence, and the end of the input ends what is open. -/
inductive Sequence : List T → Segment T → List T → Prop
  | csi {next final : T} {params rest : List T} (kind : byte next = 0x5b) (inside : ∀ x ∈ params, isFinal (byte x) = false)
      (ends : isFinal (byte final) = true) : Sequence (next :: (params ++ final :: rest)) .csi rest
  | csiCut {next : T} {params : List T} (kind : byte next = 0x5b) (inside : ∀ x ∈ params, isFinal (byte x) = false) :
      Sequence (next :: params) .csi []
  | bel {next bel : T} {body rest : List T} (kind : byte next = 0x5d) (inside : ∀ x ∈ body, isInOsc (byte x) = true)
      (ends : byte bel = 0x07) : Sequence (next :: (body ++ bel :: rest)) .osc rest
  | st {next stop slash : T} {body rest : List T} (kind : byte next = 0x5d) (inside : ∀ x ∈ body, isInOsc (byte x) = true)
      (stops : byte stop = 0x1b) (ends : byte slash = 0x5c) : Sequence (next :: (body ++ stop :: slash :: rest)) .osc rest
  | oscCut {next : T} {body : List T} (kind : byte next = 0x5d) (inside : ∀ x ∈ body, isInOsc (byte x) = true) :
      Sequence (next :: body) .osc []
  | stCut {next stop : T} {body : List T} (kind : byte next = 0x5d) (inside : ∀ x ∈ body, isInOsc (byte x) = true)
      (stops : byte stop = 0x1b) : Sequence (next :: (body ++ [stop])) .osc []
  | aborted {next stop other : T} {body rest : List T} (kind : byte next = 0x5d)
      (inside : ∀ x ∈ body, isInOsc (byte x) = true) (stops : byte stop = 0x1b) (goesOn : byte other ≠ 0x5c) :
      Sequence (next :: (body ++ stop :: other :: rest)) .aborted (stop :: other :: rest)
  | escape {second : T} {rest : List T} (notCsi : byte second ≠ 0x5b) (notOsc : byte second ≠ 0x5d) :
      Sequence (second :: rest) (.escape second) rest

variable (byte) in
inductive Reading : List T → List (Segment T) → Prop
  | done : Reading [] []
  | text {x : T} {rest : List T} {segments : List (Segment T)} (plain : byte x ≠ 0x1b) (reading : Reading rest segments) :
      Reading (x :: rest) (.text x :: segments)
  | last {x : T} (escape : byte x = 0x1b) : Reading [x] [.text x]
  | sequence {x : T} {tail rest : List T} {segment : Segment T} {segments : List (Segment T)} (escape : byte x = 0x1b)
      (sequence : Sequence byte tail segment rest) (reading : Reading rest segments) :
      Reading (x :: tail) (segment :: segments)

def Segment.textOf : Segment T → Option T
  | .text x => some x
  | _ => none

def texts (segments : List (Segment T)) : List T := segments.filterMap Segment.textOf

variable (byte) in
/-- No OSC string is cut short by another escape, and no escape of two bytes takes a byte from 0x80 on. -/
def Segment.Clean : Segment T → Prop
  | .aborted => False
  | .escape second => (byte second).toNat < 0x80
  | _ => True

variable {input tail rest : List T} {segment : Segment T} {segments : List (Segment T)}

theorem Sequence.textOf (sequence : Sequence byte tail segment rest) : segment.textOf = none := by
  cases sequence <;> rfl

theorem Sequence.suffix (sequence : Sequence byte tail segment rest) : rest <:+ tail.tail := by
  cases sequence with
  | csi kind inside ends => exact ⟨_, List.append_assoc _ [_] _⟩
  | bel kind inside ends => exact ⟨_, List.append_assoc _ [_] _⟩
  | st kind inside stops ends => exact ⟨_, List.append_assoc _ [_, _] _⟩
  | csiCut | oscCut | stCut => exact List.nil_suffix
  | aborted kind inside stops goesOn => exact List.suffix_append _ _
  | escape notCsi notOsc => exact List.suffix_rfl

theorem texts_sublist (reading : Reading byte input segments) : (texts segments).Sublist input := by
  induction reading with
  | done => exact List.Sublist.slnil
  | text plain reading ih => exact ih.cons_cons _
  | last escape => exact List.Sublist.refl _
  | sequence escape sequence reading ih =>
      rw [texts, List.filterMap_cons_none sequence.textOf]
      exact (ih.trans (sequence.suffix.sublist.trans (List.tail_sublist _))).cons _

variable (byte) in
theorem exists_sequence (next : T) (rest : List T) : ∃ segment after, Sequence byte (next :: rest) segment after := by
  by_cases csi : byte next = 0x5b
  · cases ends : rest.find? fun x => isFinal (byte x) with
    | none => exact ⟨_, _, .csiCut csi fun x member => by simpa using List.find?_eq_none.mp ends x member⟩
    | some final =>
        obtain ⟨final_, params, after, rfl, inside⟩ := List.find?_eq_some_iff_append.mp ends
        exact ⟨_, _, .csi csi (fun x member => by simpa using inside x member) final_⟩
  by_cases osc : byte next = 0x5d
  · cases ends : rest.find? fun x => !isInOsc (byte x) with
    | none => exact ⟨_, _, .oscCut osc fun x member => by simpa using List.find?_eq_none.mp ends x member⟩
    | some stop =>
        obtain ⟨outside, body, after, rfl, inside⟩ := List.find?_eq_some_iff_append.mp ends
        have inside : ∀ x ∈ body, isInOsc (byte x) = true := fun x member => by simpa using inside x member
        by_cases bel : byte stop = 0x07
        · exact ⟨_, _, .bel osc inside bel⟩
        have stops : byte stop = 0x1b := by simpa [isInOsc, bel] using outside
        cases after with
        | nil => exact ⟨_, _, .stCut osc inside stops⟩
        | cons other after =>
            by_cases slash : byte other = 0x5c
            · exact ⟨_, _, .st osc inside stops slash⟩
            · exact ⟨_, _, .aborted osc inside stops slash⟩
  · exact ⟨_, _, .escape csi osc⟩

variable (byte) in
theorem exists_reading (input : List T) : ∃ segments, Reading byte input segments := by
  induction size : input.length using Nat.strongRecOn generalizing input with
  | ind size ih =>
      cases input with
      | nil => exact ⟨[], .done⟩
      | cons x tail =>
          rw [List.length_cons] at size
          by_cases escape : byte x = 0x1b
          · cases tail with
            | nil => exact ⟨_, .last escape⟩
            | cons next tail =>
                obtain ⟨segment, rest, sequence⟩ := exists_sequence byte next tail
                have shorter := sequence.suffix.length_le
                rw [List.tail_cons] at shorter
                rw [List.length_cons] at size
                obtain ⟨segments, reading⟩ := ih rest.length (by omega) rest rfl
                exact ⟨_, .sequence escape sequence reading⟩
          · obtain ⟨segments, reading⟩ := ih tail.length (by omega) tail rfl
            exact ⟨_, .text escape reading⟩

/-! ## The scanner follows the grammar -/

theorem stripBytes_text {x : T} (plain : byte x ≠ 0x1b) (rest : List T) :
    stripBytes byte (x :: rest) = x :: stripBytes byte rest := by
  cases rest with
  | nil => simp [stripBytes]
  | cons next rest => rw [stripBytes, if_neg plain]

theorem stripBytes_csi {x next : T} (escape : byte x = 0x1b) (kind : byte next = 0x5b) (rest : List T) :
    stripBytes byte (x :: next :: rest) = stripBytes byte (afterCsi byte rest) := by
  rw [stripBytes, if_pos escape, if_pos kind]

theorem stripBytes_osc {x next : T} (escape : byte x = 0x1b) (kind : byte next = 0x5d) (rest : List T) :
    stripBytes byte (x :: next :: rest) = stripBytes byte (afterOsc byte rest) := by
  rw [stripBytes, if_pos escape, if_neg (by simp [kind]), if_pos kind]

theorem afterCsi_final {params : List T} (inside : ∀ x ∈ params, isFinal (byte x) = false) {final : T}
    (ends : isFinal (byte final) = true) (rest : List T) : afterCsi byte (params ++ final :: rest) = rest := by
  rw [afterCsi, List.dropWhile_append_of_pos (by simpa using inside), List.dropWhile_cons_of_neg (by simp [ends])]
  rfl

theorem afterCsi_cut {params : List T} (inside : ∀ x ∈ params, isFinal (byte x) = false) : afterCsi byte params = [] := by
  rw [afterCsi, List.dropWhile_eq_nil_iff.mpr (by simpa using inside)]
  rfl

theorem afterOsc_stop {body : List T} (inside : ∀ x ∈ body, isInOsc (byte x) = true) {stop : T}
    (stops : isInOsc (byte stop) = false) (next : T) (rest : List T) :
    afterOsc byte (body ++ stop :: next :: rest) =
      if byte stop = 0x1b ∧ byte next = 0x5c then rest else next :: rest := by
  rw [afterOsc, List.dropWhile_append_of_pos inside, List.dropWhile_cons_of_neg (by simp [stops])]

theorem afterOsc_last {body : List T} (inside : ∀ x ∈ body, isInOsc (byte x) = true) {stop : T}
    (stops : isInOsc (byte stop) = false) : afterOsc byte (body ++ [stop]) = [] := by
  rw [afterOsc, List.dropWhile_append_of_pos inside, List.dropWhile_cons_of_neg (by simp [stops])]

theorem afterOsc_cut {body : List T} (inside : ∀ x ∈ body, isInOsc (byte x) = true) : afterOsc byte body = [] := by
  rw [afterOsc, List.dropWhile_eq_nil_iff.mpr inside]

theorem Sequence.strip {x : T} (escape : byte x = 0x1b) (sequence : Sequence byte tail segment rest)
    (finished : segment ≠ .aborted) : stripBytes byte (x :: tail) = stripBytes byte rest := by
  cases sequence with
  | csi kind inside ends => rw [stripBytes_csi escape kind, afterCsi_final inside ends]
  | csiCut kind inside => rw [stripBytes_csi escape kind, afterCsi_cut inside]
  | @bel next bel body rest kind inside ends =>
      rw [stripBytes_osc escape kind]
      cases rest with
      | nil => rw [afterOsc_last inside (by simp [isInOsc, ends])]
      | cons other rest => rw [afterOsc_stop inside (by simp [isInOsc, ends]), if_neg (by simp [ends])]
  | st kind inside stops ends =>
      rw [stripBytes_osc escape kind, afterOsc_stop inside (by simp [isInOsc, stops]), if_pos ⟨stops, ends⟩]
  | oscCut kind inside => rw [stripBytes_osc escape kind, afterOsc_cut inside]
  | stCut kind inside stops => rw [stripBytes_osc escape kind, afterOsc_last inside (by simp [isInOsc, stops])]
  | aborted kind inside stops goesOn => exact absurd rfl finished
  | escape notCsi notOsc => rw [stripBytes, if_pos escape, if_neg notCsi, if_neg notOsc]

theorem Sequence.strip_aborted {x : T} (escape : byte x = 0x1b) (sequence : Sequence byte tail .aborted rest) :
    ∃ stop other more, rest = stop :: other :: more ∧ byte stop = 0x1b ∧
      stripBytes byte (x :: tail) = stripBytes byte (other :: more) := by
  cases sequence with
  | aborted kind inside stops goesOn =>
      refine ⟨_, _, _, rfl, stops, ?_⟩
      rw [stripBytes_osc escape kind, afterOsc_stop inside (by simp [isInOsc, stops]), if_neg fun both => goesOn both.2]

theorem reading_strip (reading : Reading byte input segments) (finished : .aborted ∉ segments) :
    stripBytes byte input = texts segments := by
  induction reading with
  | done => rw [stripBytes]; rfl
  | text plain reading ih =>
      rw [stripBytes_text plain, ih fun later => finished (List.mem_cons_of_mem _ later)]
      rfl
  | last escape => rw [stripBytes]; rfl
  | sequence escape sequence reading ih =>
      rw [sequence.strip escape (fun same => finished (same ▸ List.mem_cons_self)),
        ih fun later => finished (List.mem_cons_of_mem _ later), texts, texts, List.filterMap_cons_none sequence.textOf]

theorem stripBytes_sublist (input : List T) : (stripBytes byte input).Sublist input := by
  fun_induction stripBytes byte input with
  | case1 => exact List.Sublist.slnil
  | case2 b => exact List.Sublist.refl _
  | case3 b next rest escape csi ih => exact ((ih.trans (afterCsi_sublist byte rest)).cons _).cons _
  | case4 b next rest escape csi osc ih => exact ((ih.trans (afterOsc_sublist byte rest)).cons _).cons _
  | case5 b next rest escape csi osc ih => exact (ih.cons _).cons _
  | case6 b next rest plain ih => exact ih.cons_cons _

theorem stripBytes_escape_sublist {x : T} (escape : byte x = 0x1b) (next : T) (rest : List T) :
    (stripBytes byte (x :: next :: rest)).Sublist rest := by
  rw [stripBytes, if_pos escape]
  split_ifs
  · exact (stripBytes_sublist _).trans (afterCsi_sublist byte rest)
  · exact (stripBytes_sublist _).trans (afterOsc_sublist byte rest)
  · exact stripBytes_sublist rest

theorem strip_ne_texts {stop other : T} {more : List T} (stops : byte stop = 0x1b) (distinct : (other :: more).Nodup)
    (reading : Reading byte (stop :: other :: more) segments) : stripBytes byte (other :: more) ≠ texts segments := by
  induction size : more.length using Nat.strongRecOn generalizing stop other more segments with
  | ind size ih =>
      cases reading with
      | text plain _ => exact absurd stops plain
      | @sequence _ _ rest segment segments _ sequence reading =>
          rw [texts, List.filterMap_cons_none sequence.textOf, ← texts]
          have within : (texts segments).Sublist more := (texts_sublist reading).trans sequence.suffix.sublist
          by_cases escape : byte other = 0x1b
          · have paired : rest = more := by
              cases sequence with
              | escape => rfl
              | _ => simp_all
            subst paired
            cases rest with
            | nil =>
                rw [List.sublist_nil.mp within, stripBytes]
                exact List.cons_ne_nil _ _
            | cons d more =>
                by_cases again : byte d = 0x1b
                · have skipped : stripBytes byte (other :: d :: more) = stripBytes byte more := by
                    rw [stripBytes, if_pos escape, if_neg (by simp [again]), if_neg (by simp [again])]
                  rw [skipped]
                  cases more with
                  | nil =>
                      cases reading with
                      | text plain _ => exact absurd again plain
                      | last _ =>
                          rw [stripBytes]
                          exact (List.cons_ne_nil _ _).symm
                      | sequence _ sequence _ => cases sequence
                  | cons e more =>
                      refine ih more.length ?_ again distinct.of_cons.of_cons reading rfl
                      rw [← size, List.length_cons, List.length_cons]
                      omega
                · cases reading with
                  | last escape => exact absurd escape again
                  | sequence escape _ _ => exact absurd escape again
                  | text plain reading =>
                      intro same
                      have kept : d ∈ stripBytes byte (other :: d :: more) := by
                        rw [same]
                        exact List.mem_cons_self
                      exact distinct.of_cons.notMem ((stripBytes_escape_sublist escape d more).subset kept)
          · intro same
            have kept : other ∈ texts segments := by
              rw [← same, stripBytes_text escape]
              exact List.mem_cons_self
            exact distinct.notMem (within.subset kept)

theorem not_aborted (distinct : input.Nodup) (reading : Reading byte input segments)
    (same : stripBytes byte input = texts segments) : .aborted ∉ segments := by
  induction reading with
  | done => exact List.not_mem_nil
  | @text x rest segments plain reading ih =>
      rw [stripBytes_text plain] at same
      rw [List.mem_cons, not_or]
      exact ⟨nofun, ih distinct.of_cons (List.cons.inj same).2⟩
  | last escape => simp
  | @sequence x tail rest segment segments escape sequence reading ih =>
      rw [texts, List.filterMap_cons_none sequence.textOf, ← texts] at same
      have suffix : rest <:+ x :: tail := (sequence.suffix.trans (List.tail_suffix _)).trans (List.suffix_cons _ _)
      have distinctRest : rest.Nodup := distinct.sublist suffix.sublist
      rw [List.mem_cons, not_or]
      by_cases aborted : segment = .aborted
      · subst aborted
        obtain ⟨stop, other, more, rfl, stops, goesOn⟩ := sequence.strip_aborted escape
        rw [goesOn] at same
        exact absurd same (strip_ne_texts stops distinctRest.of_cons reading)
      · rw [sequence.strip escape aborted] at same
        exact ⟨Ne.symm aborted, ih distinctRest same⟩

/-! ## Whole characters -/

theorem Sequence.isUtf8 (sequence : Sequence byte tail segment rest) (clean : segment.Clean byte)
    (whole : IsUtf8 (tail.map byte)) : IsUtf8 (rest.map byte) := by
  cases sequence with
  | @csi next final params rest kind inside ends =>
      have ascii : (byte final).toNat < 0x80 := by
        simp only [isFinal, Bool.and_eq_true, decide_eq_true_eq, UInt8.le_iff_toNat_le] at ends
        exact Nat.lt_of_le_of_lt ends.2 (by decide)
      rw [List.map_cons, List.map_append, List.map_cons, ← List.cons_append] at whole
      exact (whole.split ascii).2
  | csiCut | oscCut | stCut => exact .nil
  | @bel next bel body rest kind inside ends =>
      rw [List.map_cons, List.map_append, List.map_cons, ← List.cons_append] at whole
      exact (whole.split (by simp [ends])).2
  | @st next stop slash body rest kind inside stops ends =>
      have split : (next :: (body ++ stop :: slash :: rest)).map byte =
          (next :: (body ++ [stop])).map byte ++ byte slash :: rest.map byte := by simp
      rw [split] at whole
      exact (whole.split (by simp [ends])).2
  | aborted => exact clean.elim
  | @escape second rest notCsi notOsc =>
      have opened : IsUtf8 ([] ++ byte second :: rest.map byte) := whole
      exact (opened.split clean).2

theorem texts_isUtf8_iff (reading : Reading byte input segments) (finished : .aborted ∉ segments) {before : List UInt8}
    (whole : IsUtf8 (before ++ input.map byte)) :
    IsUtf8 (before ++ (texts segments).map byte) ↔ ∀ segment ∈ segments, segment.Clean byte := by
  induction reading generalizing before with
  | done => exact iff_of_true whole (by simp)
  | @text x rest segments plain reading ih =>
      rw [List.mem_cons, not_or] at finished
      have moved := ih finished.2 (show IsUtf8 (before ++ [byte x] ++ rest.map byte) by simpa using whole)
      rw [List.forall_mem_cons, ← moved]
      simp [texts, Segment.textOf, Segment.Clean]
  | last escape => exact iff_of_true whole (by simp [Segment.Clean])
  | @sequence x tail rest segment segments escape sequence reading ih =>
      rw [List.mem_cons, not_or] at finished
      rw [List.map_cons] at whole
      obtain ⟨first, second⟩ := whole.split (by simp [escape])
      rw [texts, List.filterMap_cons_none sequence.textOf, ← texts, List.forall_mem_cons]
      have shown : IsUtf8 (before ++ (texts segments).map byte) ↔ IsUtf8 ((texts segments).map byte) :=
        ⟨first.cancel, first.append⟩
      rw [shown]
      by_cases clean : segment.Clean byte
      · have later : IsUtf8 ([] ++ rest.map byte) := sequence.isUtf8 clean second
        exact (ih finished.2 later).trans (and_iff_right clean).symm
      · refine iff_of_false ?_ fun both => clean both.1
        cases sequence with
        | csi | csiCut | bel | st | oscCut | stCut => exact absurd trivial clean
        | aborted => exact absurd rfl finished.1
        | @escape second' rest notCsi notOsc =>
            -- What the escape left of its character starts the text that follows.
            obtain ⟨b, more, left, continuation⟩ := IsUtf8.exists_continuation (Nat.le_of_not_lt clean) second
            cases reading with
            | done => cases left
            | @text y rest segments plain reading =>
                rw [← (List.cons.inj left).1] at continuation
                exact IsUtf8.not_continuation continuation
            | last escape | sequence escape _ _ =>
                obtain ⟨wide, -⟩ := continuation
                rw [← (List.cons.inj left).1, escape] at wide
                exact absurd wide (by decide)

theorem texts_eq_self (reading : Reading byte input segments) (same : texts segments = input) :
    ∀ segment ∈ segments, segment.Clean byte := by
  induction reading with
  | done => nofun
  | text plain reading ih => exact List.forall_mem_cons.mpr ⟨trivial, ih (List.cons.inj same).2⟩
  | last escape => exact List.forall_mem_cons.mpr ⟨trivial, nofun⟩
  | @sequence x tail rest segment segments escape sequence reading ih =>
      have short := ((texts_sublist reading).trans (sequence.suffix.sublist.trans (List.tail_sublist _))).length_le
      rw [texts, List.filterMap_cons_none sequence.textOf, ← texts] at same
      rw [same, List.length_cons] at short
      omega

theorem not_escape (reading : Reading byte input segments) {before after : List T} {x next : T}
    (same : texts segments = before ++ x :: next :: after) : byte x ≠ 0x1b := by
  induction reading generalizing before with
  | done => exact absurd same (by simp [texts])
  | text plain reading ih =>
      cases before with
      | nil => exact (List.cons.inj same).1 ▸ plain
      | cons first before => exact ih (List.cons.inj same).2
  | last escape =>
      have lengths := congrArg List.length same
      simp [texts, Segment.textOf] at lengths
      omega
  | sequence escape sequence reading ih =>
      rw [texts, List.filterMap_cons_none sequence.textOf] at same
      exact ih same

theorem stripBytes_idem (input : List T) : stripBytes byte (stripBytes byte input) = stripBytes byte input := by
  fun_induction stripBytes byte input with
  | case1 => rw [stripBytes]
  | case2 b => rw [stripBytes]
  | case3 b next rest escape csi ih => exact ih
  | case4 b next rest escape csi osc ih => exact ih
  | case5 b next rest escape csi osc ih => exact ih
  | case6 b next rest plain ih => rw [stripBytes_text plain, ih]

theorem afterCsi_map {S : Type*} (f : S → T) (rest : List S) :
    (afterCsi (fun x => byte (f x)) rest).map f = afterCsi byte (rest.map f) := by
  rw [afterCsi, afterCsi, List.map_drop, List.dropWhile_map]
  rfl

theorem afterOsc_map {S : Type*} (f : S → T) (rest : List S) :
    (afterOsc (fun x => byte (f x)) rest).map f = afterOsc byte (rest.map f) := by
  rw [afterOsc, afterOsc, List.dropWhile_map,
    show (fun x => isInOsc (byte x)) ∘ f = fun x => isInOsc (byte (f x)) from rfl]
  cases rest.dropWhile fun x => isInOsc (byte (f x)) with
  | nil => rfl
  | cons stop more =>
      cases more with
      | nil => rfl
      | cons next more => exact apply_ite (List.map f) _ _ _

theorem stripBytes_map {S : Type*} (f : S → T) (input : List S) :
    (stripBytes (fun x => byte (f x)) input).map f = stripBytes byte (input.map f) := by
  fun_induction stripBytes (fun x => byte (f x)) input with
  | case1 => rw [List.map_nil, stripBytes]
  | case2 b => rw [List.map_singleton, stripBytes]
  | case3 b next rest escape csi ih =>
      rw [ih, afterCsi_map, List.map_cons, List.map_cons, stripBytes_csi escape csi]
  | case4 b next rest escape csi osc ih =>
      rw [ih, afterOsc_map, List.map_cons, List.map_cons, stripBytes_osc escape osc]
  | case5 b next rest escape csi osc ih =>
      rw [ih, List.map_cons, List.map_cons, stripBytes, if_pos escape, if_neg csi, if_neg osc]
  | case6 b next rest plain ih =>
      rw [List.map_cons, ih, List.map_cons (f := f) (a := b), stripBytes_text plain]

end Grammar

/-! ## The whole function -/

/-- The bytes of the input that make up the output, with their places. -/
def kept (input : List Char) : List (UInt8 × Nat) :=
  if (fromUtf8 (stripBytes id (utf8Encode input))).isSome then stripBytes Prod.fst (utf8Encode input).zipIdx
  else (utf8Encode input).zipIdx

theorem bytes_entries (input : List Char) :
    (stripBytes Prod.fst (utf8Encode input).zipIdx).map Prod.fst = stripBytes id (utf8Encode input) := by
  have mapped : (stripBytes (fun entry : UInt8 × Nat => id entry.1) (utf8Encode input).zipIdx).map Prod.fst =
      stripBytes id ((utf8Encode input).zipIdx.map Prod.fst) := stripBytes_map Prod.fst _
  rw [List.zipIdx_map_fst] at mapped
  exact mapped

theorem isSome_iff (bytes : List UInt8) : (fromUtf8 bytes).isSome = true ↔ IsUtf8 bytes := by
  simp only [Option.isSome_iff_exists, fromUtf8_eq_some_iff, IsUtf8]

theorem kept_bytes (input : List Char) : (kept input).map Prod.fst = utf8Encode (stripAnsi input) := by
  rw [kept, stripAnsi]
  cases read : fromUtf8 (stripBytes id (utf8Encode input)) with
  | none => exact List.zipIdx_map_fst 0 _
  | some text => exact (bytes_entries input).trans (fromUtf8_eq_some_iff.mp read).symm

theorem kept_sublist (input : List Char) : (kept input).Sublist (utf8Encode input).zipIdx := by
  rw [kept]
  split_ifs
  · exact stripBytes_sublist _
  · exact List.Sublist.refl _

theorem stripAnsi_idem (input : List Char) : stripAnsi (stripAnsi input) = stripAnsi input := by
  cases read : fromUtf8 (stripBytes id (utf8Encode input)) with
  | none =>
      have whole : stripAnsi input = input := by rw [stripAnsi, read, Option.getD_none]
      rw [whole, whole]
  | some text =>
      have stripped : stripAnsi input = text := by rw [stripAnsi, read, Option.getD_some]
      rw [stripped, stripAnsi, fromUtf8_eq_some_iff.mp read, stripBytes_idem, read, Option.getD_some]

/-- The output is what the grammar leaves outside of the escapes, byte by byte. -/
structure Stripped (input : List Char) : Prop where
  idempotent : stripAnsi (stripAnsi input) = stripAnsi input
  escapes : ∀ before next after, utf8Encode (stripAnsi input) ≠ before ++ 0x1b :: next :: after
  subsequence : (kept input).Sublist (utf8Encode input).zipIdx ∧ (kept input).map Prod.fst = utf8Encode (stripAnsi input)
  outside : ∀ segments, Reading Prod.fst (utf8Encode input).zipIdx segments → kept input = texts segments

theorem kept_iff {input : List Char} {segments : List (Segment (UInt8 × Nat))}
    (reading : Reading Prod.fst (utf8Encode input).zipIdx segments) :
    kept input = texts segments ↔ ∀ segment ∈ segments, segment.Clean Prod.fst := by
  have whole : IsUtf8 ([] ++ (utf8Encode input).zipIdx.map Prod.fst) := ⟨input, (List.zipIdx_map_fst 0 _).symm⟩
  have valid (finished : .aborted ∉ segments) :
      (fromUtf8 (stripBytes id (utf8Encode input))).isSome ↔ ∀ segment ∈ segments, segment.Clean Prod.fst := by
    rw [isSome_iff, ← bytes_entries, reading_strip reading finished, ← texts_isUtf8_iff reading finished whole]
    rfl
  constructor
  · intro same
    rw [kept] at same
    split_ifs at same with read
    · have distinct : ((utf8Encode input).zipIdx.map Prod.snd).Nodup := by
        rw [List.zipIdx_map_snd]
        exact List.nodup_range'
      exact (valid (not_aborted (.of_map _ distinct) reading same)).mp read
    · exact texts_eq_self reading same.symm
  · intro clean
    have finished : .aborted ∉ segments := fun member => clean _ member
    rw [kept, if_pos ((valid finished).mpr clean), reading_strip reading finished]

theorem stripped_iff (input : List Char) :
    Stripped input ↔
      ∀ segments, Reading Prod.fst (utf8Encode input).zipIdx segments → ∀ segment ∈ segments, segment.Clean Prod.fst := by
  constructor
  · intro stripped segments reading
    exact (kept_iff reading).mp (stripped.outside segments reading)
  · intro clean
    have outside : ∀ segments, Reading Prod.fst (utf8Encode input).zipIdx segments → kept input = texts segments :=
      fun segments reading => (kept_iff reading).mpr (clean segments reading)
    refine ⟨stripAnsi_idem input, fun before next after same => ?_, ⟨kept_sublist input, kept_bytes input⟩, outside⟩
    obtain ⟨segments, reading⟩ := exists_reading Prod.fst (utf8Encode input).zipIdx
    rw [← kept_bytes, outside segments reading] at same
    obtain ⟨first, rest, split, -, tail⟩ := List.map_eq_append_iff.mp same
    obtain ⟨x, rest, rfl, escape, tail⟩ := List.map_eq_cons_iff.mp tail
    obtain ⟨y, rest, rfl, -, -⟩ := List.map_eq_cons_iff.mp tail
    exact not_escape reading split escape

/-- An escape that takes a part of a character gives back the whole input, and an OSC string cut short leaves a part of the next
escape. -/
theorem split_character_kept :
    (utf8Encode (stripAnsi ['\x1b', 'é']) = [0x1b, 0xc3, 0xa9] ∧ ¬Stripped ['\x1b', 'é']) ∧
      stripAnsi ['\x1b', ']', '\x1b', '[', 'm'] = ['[', 'm'] ∧ ¬Stripped ['\x1b', ']', '\x1b', '[', 'm'] := by
  have unchanged : utf8Encode (stripAnsi ['\x1b', 'é']) = [0x1b, 0xc3, 0xa9] := by
    have removed : stripBytes id (utf8Encode ['\x1b', 'é']) = [0xa9] := by
      rw [show utf8Encode ['\x1b', 'é'] = [0x1b, 0xc3, 0xa9] by decide]
      simp [stripBytes]
    rw [stripAnsi, removed]
    decide
  have bytes : utf8Encode ['\x1b', ']', '\x1b', '[', 'm'] = [0x1b, 0x5d, 0x1b, 0x5b, 0x6d] := by decide
  have reading : Reading Prod.fst (utf8Encode ['\x1b', ']', '\x1b', '[', 'm']).zipIdx [.aborted, .csi] := by
    rw [bytes]
    have osc : Sequence Prod.fst [((0x5d : UInt8), 1), (0x1b, 2), (0x5b, 3), (0x6d, 4)] .aborted
        [(0x1b, 2), (0x5b, 3), (0x6d, 4)] := @Sequence.aborted _ _ _ _ _ [] _ rfl (fun _ within => absurd within List.not_mem_nil) rfl (by decide)
    have csi : Sequence Prod.fst [((0x5b : UInt8), 3), (0x6d, 4)] .csi [] := @Sequence.csi _ _ _ _ [] _ rfl (fun _ within => absurd within List.not_mem_nil) rfl
    exact .sequence rfl osc (.sequence rfl csi .done)
  refine ⟨⟨unchanged, fun stripped => stripped.escapes [] 0xc3 [0xa9] unchanged⟩, ?_, fun stripped => ?_⟩
  · rw [stripAnsi, bytes]
    have removed : stripBytes id [0x1b, 0x5d, 0x1b, 0x5b, 0x6d] = [0x5b, 0x6d] := by
      simp [stripBytes, afterOsc, isInOsc]
    rw [removed]
    decide
  · exact (kept_iff reading).mp (stripped.outside _ reading) .aborted List.mem_cons_self

end MacMgmt.Proof.StripAnsi
