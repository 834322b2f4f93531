import MacMgmt.Agent.EnvFiles
import Mathlib.Data.List.DropRight

/-!
# Env files keep their values up to white space at the end

A serialized object is read back with each value cut at its end, so the round trip is exact where no value ends in white
space. What is read from a file never does, and a patch keeps the other keys.
-/

namespace MacMgmt.Proof.Agent
open MacMgmt.Agent Lib

/-! ## White space -/

def trimEnd (text : List Char) : List Char := text.rdropWhile isWhitespace

def Bare (text : List Char) : Prop := ∀ last ∈ text.getLast?, isWhitespace last = false

theorem bare_iff {text : List Char} : (text.getLast?.all fun last => !isWhitespace last) = true ↔ Bare text := by
  rw [Bare]
  cases text.getLast? <;> simp

instance (text : List Char) : Decidable (Bare text) := decidable_of_iff _ bare_iff

theorem trimEnd_eq_self {text : List Char} : trimEnd text = text ↔ Bare text := by
  rw [trimEnd, List.rdropWhile_eq_self_iff, Bare]
  cases text with
  | nil => simp
  | cons c rest => simp [List.getLast?_eq_some_getLast]

theorem bare_trimEnd (text : List Char) : Bare (trimEnd text) := trimEnd_eq_self.mp (List.rdropWhile_idempotent _ _)

theorem trimEnd_append {c : Char} (kept : isWhitespace c = false) (before after : List Char) :
    trimEnd (before ++ c :: after) = before ++ c :: trimEnd after := by
  simp only [trimEnd, List.rdropWhile, List.reverse_append, List.reverse_cons, List.append_assoc, List.dropWhile_append]
  by_cases blank : (after.reverse.dropWhile isWhitespace).isEmpty
  · rw [if_pos blank, List.isEmpty_iff.mp blank]
    simp [kept]
  · rw [if_neg blank]
    simp

theorem trimWhitespace_eq {text : List Char} (start : ∀ c ∈ text.head?, isWhitespace c = false) :
    trimWhitespace text = trimEnd text := by
  cases text with
  | nil => rfl
  | cons c rest =>
      have kept : (c :: rest).dropWhile isWhitespace = c :: rest := by simp [start c rfl]
      rw [trimWhitespace, kept]
      rfl

theorem trimEnd_stripCarriageReturn (text : List Char) : trimEnd (stripCarriageReturn text) = trimEnd text := by
  rw [stripCarriageReturn]
  split
  · rename_i ends
    obtain ⟨front, rfl⟩ := List.getLast?_eq_some_iff.mp ends
    rw [List.dropLast_concat, trimEnd, trimEnd, List.rdropWhile_concat_pos _ _ _ (by decide)]
  · rfl

/-! ## Keys and values -/

theorem isWhitespace_eq_false {c : Char} (above : 32 < c.toNat) (below : c.toNat < 127) : isWhitespace c = false := by
  simp only [isWhitespace, Bool.or_eq_false_iff, Bool.and_eq_false_iff, decide_eq_false_iff_not]
  omega

theorem isWhitespace_of_alphanum {c : Char} (letter : c.isAlphanum = true) : isWhitespace c = false := by
  change ((decide (65 ≤ c.val ∧ c.val ≤ 90) || (decide (97 ≤ c.val) && decide (c.val ≤ 122))) ||
    (decide (48 ≤ c.val) && decide (c.val ≤ 57))) = true at letter
  simp only [Bool.or_eq_true, Bool.and_eq_true, decide_eq_true_eq, UInt32.le_iff_toNat_le] at letter
  change ((65 ≤ c.toNat ∧ c.toNat ≤ 90) ∨ (97 ≤ c.toNat ∧ c.toNat ≤ 122)) ∨ (48 ≤ c.toNat ∧ c.toNat ≤ 57) at letter
  exact isWhitespace_eq_false (by omega) (by omega)

theorem isWhitespace_of_key {key : List Char} (valid : isValidEnvKey key = true) : ∀ c ∈ key, isWhitespace c = false := by
  rw [isValidEnvKey, Bool.and_eq_true, List.all_eq_true] at valid
  intro c member
  rcases (Bool.or_eq_true _ _).mp (valid.2 c member) with letter | underscore
  · exact isWhitespace_of_alphanum letter
  · rw [of_decide_eq_true underscore]
    decide

theorem not_mem_key {key : List Char} {c : Char} (valid : isValidEnvKey key = true) (other : c.isAlphanum = false)
    (noUnderscore : c ≠ '_') : c ∉ key := by
  rw [isValidEnvKey, Bool.and_eq_true, List.all_eq_true] at valid
  intro member
  have both := valid.2 c member
  simp [other, noUnderscore] at both

theorem bare_number (number : NumberText) : Bare number.text.toList := by
  intro last ends
  rcases number.shape last (List.mem_of_mem_getLast? ends) with digit | sign
  · exact isWhitespace_of_alphanum (by simp [Char.isAlphanum, digit])
  · simp only [List.mem_cons, List.not_mem_nil, or_false] at sign
    rcases sign with rfl | rfl | rfl | rfl | rfl <;> decide

def scalarText : JsonValue → Option String
  | .string text => some text
  | .bool flag => some (if flag then "true" else "false")
  | .number number => some number.text
  | .null | .array _ | .object _ => none

theorem newline_not_mem_number (number : NumberText) : '\n' ∉ number.text.toList := by
  intro member
  have shape := number.shape '\n' member
  revert shape
  decide

/-! ## A line -/

def Accepted (entry : String × JsonValue) : Prop :=
  isValidEnvKey entry.1.toList = true ∧
    match entry.2 with
    | .null | .bool _ | .number _ => True
    | .string text => '\n' ∉ text.toList
    | .array _ | .object _ => False

theorem validateEnvEntry_ok {entry : String × JsonValue} : validateEnvEntry entry = .ok () ↔ Accepted entry := by
  obtain ⟨key, value⟩ := entry
  cases valid : isValidEnvKey key.toList <;> cases value <;> simp [validateEnvEntry, Accepted, valid]

theorem validateEnvObject_ok {fields : List (String × JsonValue)} :
    validateEnvObject (.object fields) = .ok () ↔ ∀ entry ∈ fields, Accepted entry := by
  rw [validateEnvObject]
  induction fields with
  | nil => simp [pure, Except.pure]
  | cons entry rest ih =>
      have step : (entry :: rest).forM validateEnvEntry = (validateEnvEntry entry >>= fun _ => rest.forM validateEnvEntry) :=
        rfl
      rw [step, List.forall_mem_cons, ← ih, ← validateEnvEntry_ok]
      cases validateEnvEntry entry with
      | error message => simp [bind, Except.bind]
      | ok => simp [bind, Except.bind]

theorem scalarText_line {entry : String × JsonValue} (accepted : Accepted entry) {text : String}
    (scalar : scalarText entry.2 = some text) : '\n' ∉ text.toList := by
  obtain ⟨key, value⟩ := entry
  cases value <;> simp only [scalarText, Option.some.injEq, reduceCtorEq] at scalar
  case bool flag =>
    subst scalar
    cases flag <;> decide
  case number number => exact scalar ▸ newline_not_mem_number number
  case string => exact scalar ▸ accepted.2

def entryLine (entry : String × String) : String := entry.1 ++ "=" ++ entry.2 ++ "\n"

theorem serializeEnvEntry_eq {entry : String × JsonValue} (accepted : Accepted entry) :
    serializeEnvEntry entry = .ok (((scalarText entry.2).map fun text => entryLine (entry.1, text)).getD "") := by
  have line (text : String) (scalar : scalarText entry.2 = some text) : envLine entry.1 text = .ok (entryLine (entry.1, text)) := by
    rw [envLine, accepted.1, if_neg (by simp), if_neg (scalarText_line accepted scalar), entryLine]
  obtain ⟨key, value⟩ := entry
  cases value with
  | null => rfl
  | bool flag => exact line _ rfl
  | number number => exact line _ rfl
  | string text => exact line _ rfl
  | array items => exact accepted.2.elim
  | object fields => exact accepted.2.elim

theorem stripCarriageReturn_append {c : Char} (other : c ≠ '\r') (before after : List Char) :
    stripCarriageReturn (before ++ c :: after) = before ++ c :: stripCarriageReturn after := by
  cases after with
  | nil => simp [stripCarriageReturn, other]
  | cons d rest =>
      have last : (before ++ c :: d :: rest).getLast? = (d :: rest).getLast? := by simp [List.getLast?_cons]
      rw [stripCarriageReturn, last, stripCarriageReturn]
      split
      · rw [List.dropLast_append_cons, List.dropLast_cons_cons]
      · rfl

theorem trimWhitespace_line {key : List Char} (valid : isValidEnvKey key = true) (value : List Char) :
    trimWhitespace (stripCarriageReturn (key ++ '=' :: value)) = key ++ '=' :: trimEnd value := by
  have start : ∀ c ∈ (key ++ '=' :: stripCarriageReturn value).head?, isWhitespace c = false := by
    intro c head
    rcases List.mem_append.mp (List.mem_of_mem_head? head) with inKey | later
    · exact isWhitespace_of_key valid c inKey
    · cases key with
      | nil => exact absurd valid (by decide)
      | cons first rest => exact isWhitespace_of_key valid c (by simp_all)
  rw [stripCarriageReturn_append (by decide), trimWhitespace_eq start, trimEnd_append (by decide), trimEnd_stripCarriageReturn]

theorem span_line {key : List Char} (valid : isValidEnvKey key = true) (value : List Char) :
    (key ++ '=' :: value).span (· ≠ '=') = (key, '=' :: value) := by
  have inKey : ∀ c ∈ key, decide (c ≠ '=') = true := by
    intro c member
    exact decide_eq_true fun same => not_mem_key valid (by decide) (by decide) (same ▸ member)
  rw [List.span_eq_takeWhile_dropWhile, List.takeWhile_append_of_pos inKey, List.dropWhile_append_of_pos inKey]
  simp

theorem dropPrefix_line {key : List Char} (valid : isValidEnvKey key = true) (value : List Char) :
    (key ++ '=' :: value).dropPrefix? "export ".toList = none := by
  cases found : (key ++ '=' :: value).dropPrefix? "export ".toList with
  | none => rfl
  | some rest =>
      obtain ⟨start, split, same⟩ := List.dropPrefix?_eq_some_iff.mp found
      have taken := congrArg (List.takeWhile (· ≠ '=')) split
      have whole : (key ++ '=' :: value).takeWhile (· ≠ '=') = key :=
        (congrArg Prod.fst (List.span_eq_takeWhile_dropWhile _ _)).symm.trans (congrArg Prod.fst (span_line valid value))
      have export_ : start = "export ".toList := eq_of_beq same
      rw [whole, export_, List.takeWhile_append_of_pos (by simp)] at taken
      have blank : ' ' ∈ "export ".toList := by simp
      have inKey : ' ' ∈ key := taken ▸ List.mem_append_left _ blank
      exact (not_mem_key valid (by decide) (by decide) inKey).elim

theorem parseEnvLine_line {key : List Char} (valid : isValidEnvKey key = true) (value : List Char) (number : Nat) :
    parseEnvLine number (stripCarriageReturn (key ++ '=' :: value)) =
      .ok (some (String.ofList key, String.ofList (trimEnd value))) := by
  have nonempty : key ≠ [] := by
    rintro rfl
    exact absurd valid (by decide)
  have noComment : (key ++ '=' :: trimEnd value).head? ≠ some '#' := by
    rw [List.head?_append_of_ne_nil _ nonempty]
    exact fun head => not_mem_key valid (by decide) (by decide) (List.mem_of_mem_head? head)
  have trimmed : trimWhitespace key = key := by
    rw [trimWhitespace_eq fun c head => isWhitespace_of_key valid c (List.mem_of_mem_head? head), trimEnd_eq_self]
    exact fun c last => isWhitespace_of_key valid c (List.mem_of_mem_getLast? last)
  simp only [parseEnvLine, trimWhitespace_line valid]
  rw [if_neg (not_or.mpr ⟨by simp, noComment⟩), dropPrefix_line valid, Option.getD_none, span_line valid]
  simp only [trimmed, valid, if_true]

/-! ## A file -/

def OneLine (entry : String × String) : Prop := isValidEnvKey entry.1.toList = true ∧ '\n' ∉ entry.2.toList

theorem splitOn_lines (entries : List (String × String)) (oneLine : ∀ entry ∈ entries, OneLine entry) :
    (String.join (entries.map entryLine)).toList.splitOn '\n' =
      entries.map (fun entry => entry.1.toList ++ '=' :: entry.2.toList) ++ [[]] := by
  induction entries with
  | nil => rfl
  | cons entry rest ih =>
      obtain ⟨⟨valid, plain⟩, oneLineRest⟩ := List.forall_mem_cons.mp oneLine
      have text : (String.join ((entry :: rest).map entryLine)).toList =
          (entry.1.toList ++ '=' :: entry.2.toList) ++ '\n' :: (String.join (rest.map entryLine)).toList := by
        simp [entryLine]
      have noFeed : '\n' ∉ entry.1.toList ++ '=' :: entry.2.toList := by
        have inKey := not_mem_key valid (c := '\n') (by decide) (by decide)
        simp [inKey, plain]
      rw [text, List.splitOn_append_cons_self, List.splitOn_eq_singleton noFeed, ih oneLineRest]
      rfl

theorem lines_join (entries : List (String × String)) (oneLine : ∀ entry ∈ entries, OneLine entry) :
    lines (String.join (entries.map entryLine)).toList =
      entries.map fun entry => stripCarriageReturn (entry.1.toList ++ '=' :: entry.2.toList) := by
  rw [lines, splitOn_lines entries oneLine]
  simp

def trimmedEntry (entry : String × String) : String × JsonValue :=
  (entry.1, .string (String.ofList (trimEnd entry.2.toList)))

theorem parseEnvLines_join (entries : List (String × String)) (oneLine : ∀ entry ∈ entries, OneLine entry)
    (map : List (String × JsonValue)) (number : Nat) (sorted : KeySorted (map ++ entries.map trimmedEntry)) :
    parseEnvLines map number (entries.map fun entry => stripCarriageReturn (entry.1.toList ++ '=' :: entry.2.toList)) =
      .ok (map ++ entries.map trimmedEntry) := by
  induction entries generalizing map number with
  | nil => simp [parseEnvLines]
  | cons entry rest ih =>
      obtain ⟨⟨valid, _⟩, oneLineRest⟩ := List.forall_mem_cons.mp oneLine
      have last : ∀ earlier ∈ map, earlier.1 < entry.1 := by
        intro earlier member
        exact (List.pairwise_append.mp sorted).2.2 earlier member (trimmedEntry entry) List.mem_cons_self
      rw [List.map_cons, parseEnvLines, parseEnvLine_line valid]
      simp only [String.ofList_toList, insertSorted_append last]
      rw [List.map_cons, List.append_cons map (trimmedEntry entry)] at sorted ⊢
      exact ih oneLineRest _ _ sorted

theorem mapM_serializeEnvEntry {fields : List (String × JsonValue)} (accepted : ∀ entry ∈ fields, Accepted entry) :
    (fields.mapM serializeEnvEntry).map String.join = .ok (String.join ((mapValues scalarText fields).map entryLine)) := by
  induction fields with
  | nil => rfl
  | cons entry rest ih =>
      obtain ⟨acceptedEntry, acceptedRest⟩ := List.forall_mem_cons.mp accepted
      have tail := ih acceptedRest
      rw [List.mapM_cons, serializeEnvEntry_eq acceptedEntry]
      cases written : rest.mapM serializeEnvEntry with
      | error message => simp [written, Except.map] at tail
      | ok texts =>
          simp only [written, Except.map, Except.ok.injEq] at tail
          cases scalar : scalarText entry.2 <;>
            simp [bind, Except.bind, pure, Except.pure, Except.map, mapValues, scalar, tail]

def readBack (fields : List (String × JsonValue)) : List (String × JsonValue) :=
  mapValues (fun value => (scalarText value).map fun text => .string (String.ofList (trimEnd text.toList))) fields

theorem parseEnv_serializeEnv {fields : List (String × JsonValue)} (sorted : KeySorted fields)
    (accepted : validateEnvObject (.object fields) = .ok ()) :
    ∃ text, serializeEnv (.object fields) = .ok text ∧ parseEnv text = .ok (.object (readBack fields)) := by
  have acceptedAll := validateEnvObject_ok.mp accepted
  have oneLine : ∀ entry ∈ mapValues scalarText fields, OneLine entry := by
    intro entry member
    obtain ⟨source, within, found⟩ := List.mem_filterMap.mp member
    obtain ⟨text, scalar, rfl⟩ := Option.map_eq_some_iff.mp found
    exact ⟨(acceptedAll source within).1, scalarText_line (acceptedAll source within) scalar⟩
  have back : (mapValues scalarText fields).map trimmedEntry = readBack fields := 
    map_mapValues scalarText (fun text => JsonValue.string (String.ofList (trimEnd text.toList))) fields
  have sortedBack : KeySorted ([] ++ (mapValues scalarText fields).map trimmedEntry) := by
    rw [back, List.nil_append]
    exact sorted.mapValues _
  refine ⟨_, mapM_serializeEnvEntry acceptedAll, ?_⟩
  rw [parseEnv, lines_join _ oneLine, parseEnvLines_join _ oneLine [] 1 sortedBack, back]
  rfl

/-! ## A patch -/

theorem lookup_mergeFields (fields source : List (String × JsonValue)) {key : String} (other : key ∉ source.map Prod.fst) :
    (mergeFields fields source).lookup key = fields.lookup key := by
  induction source generalizing fields with
  | nil => rfl
  | cons entry rest ih =>
      obtain ⟨patched, value⟩ := entry
      rw [List.map_cons, List.mem_cons, not_or] at other
      rw [mergeFields, ih _ other.2, lookup_insertSorted, if_neg other.1]

theorem keySorted_mergeFields {fields : List (String × JsonValue)} (sorted : KeySorted fields)
    (source : List (String × JsonValue)) : KeySorted (mergeFields fields source) := by
  induction source generalizing fields with
  | nil => exact sorted
  | cons entry rest ih => exact ih (sorted.insertSorted _ _)

theorem Bare.suffix {text rest : List Char} (bare : Bare text) (ending : rest <:+ text) : Bare rest := by
  obtain ⟨front, rfl⟩ := ending
  intro last ends
  exact bare last (List.mem_getLast?_append_of_mem_getLast? ends)

theorem parseEnvLine_bare {number : Nat} {raw : List Char} {key value : String}
    (parsed : parseEnvLine number raw = .ok (some (key, value))) : Bare value.toList := by
  have bare : Bare (trimWhitespace raw) := bare_trimEnd _
  have bareRest : Bare (((trimWhitespace raw).dropPrefix? "export ".toList).getD (trimWhitespace raw)) := by
    cases found : (trimWhitespace raw).dropPrefix? "export ".toList with
    | none => exact bare
    | some rest =>
        obtain ⟨start, split, _⟩ := List.dropPrefix?_eq_some_iff.mp found
        exact bare.suffix ⟨start, split.symm⟩
  simp only [parseEnvLine] at parsed
  split at parsed
  · cases parsed
  · rw [List.span_eq_takeWhile_dropWhile] at parsed
    split at parsed
    · cases parsed
    · rename_i name separator text split
      split at parsed
      · simp only [Except.ok.injEq, Option.some.injEq, Prod.mk.injEq] at parsed
        rw [← parsed.2, String.toList_ofList]
        have ending := List.dropWhile_suffix (fun c => decide (c ≠ '='))
          (l := ((trimWhitespace raw).dropPrefix? "export ".toList).getD (trimWhitespace raw))
        have rest : List.dropWhile _ _ = separator :: text := congrArg Prod.snd split
        exact bareRest.suffix ((List.suffix_cons separator text).trans (rest ▸ ending))
      · cases parsed

/-- What a file says: sorted keys, and values that do not end in white space. -/
def FileEntries (map : List (String × JsonValue)) : Prop :=
  KeySorted map ∧ ∀ entry ∈ map, ∃ text : String, entry.2 = .string text ∧ Bare text.toList

theorem parseEnvLines_entries {map : List (String × JsonValue)} {number : Nat} {raws : List (List Char)}
    {result : List (String × JsonValue)} (before : FileEntries map) (parsed : parseEnvLines map number raws = .ok result) :
    FileEntries result := by
  induction raws generalizing map number with
  | nil => exact Except.ok.inj parsed ▸ before
  | cons raw rest ih =>
      rw [parseEnvLines] at parsed
      split at parsed
      · cases parsed
      · exact ih before parsed
      · rename_i key value line
        refine ih ⟨before.1.insertSorted _ _, fun entry member => ?_⟩ parsed
        rcases mem_insertSorted member with rfl | earlier
        · exact ⟨value, rfl, parseEnvLine_bare line⟩
        · exact before.2 entry earlier

theorem parseEnv_entries {content : String} {value : JsonValue} (parsed : parseEnv content = .ok value) :
    ∃ fields, value = .object fields ∧ FileEntries fields := by
  rw [parseEnv] at parsed
  cases read : parseEnvLines [] 1 (lines content.toList) with
  | error message => simp [read, Except.map] at parsed
  | ok fields =>
      rw [read] at parsed
      exact ⟨fields, (Except.ok.inj parsed).symm, parseEnvLines_entries ⟨List.Pairwise.nil, by simp⟩ read⟩

theorem lookup_readBack {fields : List (String × JsonValue)} (sorted : KeySorted fields) {key : String}
    (bare : ∀ value, fields.lookup key = some value → ∃ text : String, value = .string text ∧ Bare text.toList) :
    (readBack fields).lookup key = fields.lookup key := by
  rw [readBack, lookup_mapValues sorted]
  cases found : fields.lookup key with
  | none => rfl
  | some value =>
      obtain ⟨text, rfl, ends⟩ := bare value found
      simp [scalarText, trimEnd_eq_self.mpr ends]

theorem patch_keeps_others {content : String} {before : JsonValue} {patch : List (String × JsonValue)}
    (parsed : parseEnv content = .ok before) (accepted : validateEnvObject (mergeJson before (.object patch)) = .ok ()) :
    ∃ text after, serializeEnv (mergeJson before (.object patch)) = .ok text ∧ parseEnv text = .ok after ∧
      ∀ key ∉ patch.map Prod.fst, after.field key = before.field key := by
  obtain ⟨fields, rfl, sorted, bare⟩ := parseEnv_entries parsed
  have sortedMerged := keySorted_mergeFields sorted patch
  rw [mergeJson] at accepted ⊢
  obtain ⟨text, written, read⟩ := parseEnv_serializeEnv sortedMerged accepted
  refine ⟨text, _, written, read, fun key other => ?_⟩
  have kept := lookup_mergeFields fields patch other
  refine (lookup_readBack sortedMerged fun value found => ?_).trans kept
  exact bare (key, value) ((lookup_eq_some_iff sorted key value).mp (kept ▸ found))

/-! ## The round trip -/

/-- The entries that are not null, with their values as strings. -/
def nonNull (fields : List (String × JsonValue)) : List (String × JsonValue) :=
  mapValues (fun value => (scalarText value).map .string) fields

def RoundTrips (fields : List (String × JsonValue)) : Prop :=
  ∃ text, serializeEnv (.object fields) = .ok text ∧ parseEnv text = .ok (.object (nonNull fields))

theorem bare_scalarText {value : JsonValue} {text : String} (scalar : scalarText value = some text)
    (bare : ∀ string, value = .string string → Bare string.toList) : Bare text.toList := by
  cases value <;> simp only [scalarText, Option.some.injEq, reduceCtorEq] at scalar
  case bool flag =>
    subst scalar
    cases flag <;> decide +kernel
  case number number => exact scalar ▸ bare_number number
  case string string => exact scalar ▸ bare string rfl

theorem readBack_eq_nonNull {fields : List (String × JsonValue)} (sorted : KeySorted fields) :
    readBack fields = nonNull fields ↔ ∀ key text, (key, JsonValue.string text) ∈ fields → Bare text.toList := by
  constructor
  · intro same key text member
    have found := (lookup_eq_some_iff sorted key _).mpr member
    have lookups := congrArg (List.lookup key) same
    rw [readBack, nonNull, lookup_mapValues sorted, lookup_mapValues sorted, found] at lookups
    simp only [Option.bind_some, scalarText, Option.map_some, Option.some.injEq, JsonValue.string.injEq] at lookups
    rw [← trimEnd_eq_self, ← String.toList_ofList (l := trimEnd text.toList), lookups]
  · intro bare
    refine List.filterMap_congr fun entry member => ?_
    cases scalar : scalarText entry.2 with
    | none => simp only [scalar, Option.map_none]
    | some text =>
        have ends := bare_scalarText scalar fun string same => bare entry.1 string (same ▸ member)
        simp only [scalar, Option.map_some, trimEnd_eq_self.mpr ends, String.ofList_toList]

theorem roundTrips_iff {fields : List (String × JsonValue)} (sorted : KeySorted fields)
    (accepted : validateEnvObject (.object fields) = .ok ()) :
    RoundTrips fields ↔ ∀ key text, (key, JsonValue.string text) ∈ fields → Bare text.toList := by
  obtain ⟨text, written, read⟩ := parseEnv_serializeEnv sorted accepted
  rw [← readBack_eq_nonNull sorted]
  constructor
  · rintro ⟨other, writtenOther, readOther⟩
    obtain rfl := Except.ok.inj (written.symm.trans writtenOther)
    exact JsonValue.object.inj (Except.ok.inj (read.symm.trans readOther))
  · intro same
    exact ⟨text, written, same ▸ read⟩

/-- The patch of the file `content` is written, or refused by the validator; what is read afterwards has the other keys as before. -/
def PatchKeepsOthers (content : String) (patch : List (String × JsonValue)) : Prop :=
  ∀ before, parseEnv content = .ok before → validateEnvObject (mergeJson before (.object patch)) = .ok () →
    ∃ text after, serializeEnv (mergeJson before (.object patch)) = .ok text ∧ parseEnv text = .ok after ∧
      ∀ key ∉ patch.map Prod.fst, after.field key = before.field key

theorem env_round_trips_iff (fields : List (String × JsonValue)) (content : String) (patch : List (String × JsonValue)) :
    (KeySorted fields → validateEnvObject (.object fields) = .ok () →
      (RoundTrips fields ↔ ∀ key text, (key, JsonValue.string text) ∈ fields → Bare text.toList)) ∧
      PatchKeepsOthers content patch :=
  ⟨fun sorted accepted => roundTrips_iff sorted accepted, fun _ parsed accepted => patch_keeps_others parsed accepted⟩

theorem env_round_trips_key : RoundTrips [("K", .string " a=#")] ∧
    ∃ text after, serializeEnv (mergeJson (.object [("A", .string "1")]) (.object [("B", .null)])) = .ok text ∧
      parseEnv text = .ok after ∧ ∀ key ∉ ["B"], after.field key = JsonValue.field (.object [("A", .string "1")]) key := by
  have both := env_round_trips_iff [("K", .string " a=#")] "A=1" [("B", .null)]
  refine ⟨(both.1 (List.pairwise_singleton _ _) (by decide)).mpr ?_, both.2 _ rfl (by decide)⟩
  intro key text member
  obtain ⟨rfl, same⟩ := Prod.mk.inj (List.mem_singleton.mp member)
  obtain rfl := JsonValue.string.inj same
  decide +kernel

theorem trailing_blank_lost :
    ¬ ∀ fields : List (String × JsonValue), KeySorted fields → validateEnvObject (.object fields) = .ok () → RoundTrips fields := by
  intro roundTrips
  have sorted : KeySorted [("K", JsonValue.string "a ")] := List.pairwise_singleton _ _
  have accepted : validateEnvObject (.object [("K", .string "a ")]) = .ok () := by decide
  have bare := (roundTrips_iff sorted accepted).mp (roundTrips _ sorted accepted) "K" "a " List.mem_cons_self
  exact absurd bare (by decide +kernel)

end MacMgmt.Proof.Agent
