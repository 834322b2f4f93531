import MacMgmt.Trainer.Tokenizer
import Mathlib.Data.List.Dedup

/-!
# One vocabulary for one corpus

Words of one frequency come in the order of the map. The vocabulary does not depend on it when only words that are left out have
the frequency of another.
-/

namespace MacMgmt.Proof.Tokenizer
open Lib MacMgmt.Trainer Vocabulary

variable {unicode : Unicode} {sessions : List ExportedSession} {reading : Reading (String × Nat)} {vocabulary : Vocabulary}

/-! ## Ids -/

structure Indexed (vocabulary : Vocabulary) : Prop where
  nodup : vocabulary.idToToken.Nodup
  inverse : ∀ token id, vocabulary.tokenToId.lookup token = some id ↔ vocabulary.idToToken[id]? = some token

theorem Indexed.mem_iff (indexed : Indexed vocabulary) (token : String) :
    token ∈ vocabulary.tokenToId ↔ token ∈ vocabulary.idToToken := by
  rw [← AList.lookup_isSome, Option.isSome_iff_exists, List.mem_iff_getElem?]
  simp only [indexed.inverse]

theorem getElem?_concat_iff {tokens : List String} {tok token : String} {id : Nat} :
    (tokens ++ [tok])[id]? = some token ↔ tokens[id]? = some token ∨ (id = tokens.length ∧ tok = token) := by
  rcases lt_trichotomy id tokens.length with before | rfl | beyond
  · simp [List.getElem?_append_left before, before.ne]
  · simp
  · simp [List.getElem?_append_right beyond.le, beyond.ne', List.getElem?_eq_none beyond.le, Nat.sub_eq_zero_iff_le, beyond]

theorem Indexed.push (indexed : Indexed vocabulary) {tok : String} (new : tok ∉ vocabulary.idToToken)
    (small : vocabulary.idToToken.length < 2 ^ 32) : Indexed (vocabulary.push tok) := by
  constructor
  · rw [Vocabulary.push, List.nodup_append]
    refine ⟨indexed.nodup, List.nodup_singleton _, fun other old token last => ?_⟩
    rintro rfl
    exact new (List.mem_singleton.mp last ▸ old)
  · intro token id
    rw [Vocabulary.push, Table.lookup_insert_ite, Nat.mod_eq_of_lt small, getElem?_concat_iff]
    split_ifs with same
    · subst same
      have absent : vocabulary.idToToken[id]? ≠ some token := fun found => new (List.mem_of_getElem? found)
      simp [absent, eq_comm]
    · simp [indexed.inverse, Ne.symm same]

theorem push_run {tokens : List String} (indexed : Indexed vocabulary) (distinct : (vocabulary.idToToken ++ tokens).Nodup)
    (small : (vocabulary.idToToken ++ tokens).length ≤ 2 ^ 32) :
    Indexed (tokens.foldl Vocabulary.push vocabulary) ∧
      (tokens.foldl Vocabulary.push vocabulary).idToToken = vocabulary.idToToken ++ tokens := by
  induction tokens generalizing vocabulary with
  | nil => exact ⟨indexed, (List.append_nil _).symm⟩
  | cons tok tokens ih =>
      have new : tok ∉ vocabulary.idToToken := fun member =>
        (List.nodup_append.mp distinct).2.2 tok member tok List.mem_cons_self rfl
      have fits : vocabulary.idToToken.length < 2 ^ 32 := by
        rw [List.length_append, List.length_cons] at small
        omega
      have joined : (vocabulary.push tok).idToToken ++ tokens = vocabulary.idToToken ++ tok :: tokens := by
        simp [Vocabulary.push]
      have rest := ih (indexed.push new fits) (joined ▸ distinct) (joined ▸ small)
      exact ⟨rest.1, rest.2.trans joined⟩

theorem foldl_pushNew {tokens : List String} (indexed : Indexed vocabulary) (distinct : (vocabulary.idToToken ++ tokens).Nodup)
    (small : (vocabulary.idToToken ++ tokens).length ≤ 2 ^ 32) :
    tokens.foldl pushNew vocabulary = tokens.foldl Vocabulary.push vocabulary := by
  induction tokens generalizing vocabulary with
  | nil => rfl
  | cons tok tokens ih =>
      have new : tok ∉ vocabulary.idToToken := fun member =>
        (List.nodup_append.mp distinct).2.2 tok member tok List.mem_cons_self rfl
      have fits : vocabulary.idToToken.length < 2 ^ 32 := by
        rw [List.length_append, List.length_cons] at small
        omega
      have joined : (vocabulary.push tok).idToToken ++ tokens = vocabulary.idToToken ++ tok :: tokens := by
        simp [Vocabulary.push]
      rw [List.foldl_cons, pushNew, if_neg fun old => new ((indexed.mem_iff tok).mp old), List.foldl_cons]
      exact ih (indexed.push new fits) (joined ▸ distinct) (joined ▸ small)

theorem toolToken_toList (name : String) : (s!"<tool:{name}>").toList = "<tool:".toList ++ (name.toList ++ ['>']) := by
  simp [toString]

theorem shape_specials {tok : String} (special : tok ∈ specials) : tok.toList.head? = some '<' ∧ tok.toList[5]? ≠ some ':' := by
  revert tok
  simp [specials]

theorem nodup_fixedTokens : fixedTokens.Nodup := by
  have tools : (toolNames.map fun name => s!"<tool:{name}>").Nodup := by
    have distinct : toolNames.Nodup := by simp [toolNames]
    refine distinct.map fun name name' same => ?_
    have texts := congrArg String.toList same
    rw [toolToken_toList, toolToken_toList] at texts
    exact String.toList_injective (List.append_cancel_right (List.append_cancel_left texts))
  refine List.nodup_append.mpr ⟨by simp [specials], tools, fun tok special tok' tool same => (shape_specials special).2 ?_⟩
  obtain ⟨name, -, rfl⟩ := List.mem_map.mp tool
  rw [same, toolToken_toList]
  simp

theorem head_fixedTokens {tok : String} (listed : tok ∈ fixedTokens) : tok.toList.head? = some '<' := by
  rcases List.mem_append.mp listed with special | tool
  · exact (shape_specials special).1
  · obtain ⟨name, -, rfl⟩ := List.mem_map.mp tool
    rw [toolToken_toList]
    simp

theorem fixed : Indexed (fixedTokens.foldl Vocabulary.push empty) ∧
    (fixedTokens.foldl Vocabulary.push empty).idToToken = fixedTokens :=
  push_run ⟨List.nodup_nil, fun _ _ => by simp [empty]⟩ nodup_fixedTokens (by decide)

/-! ## Words -/

theorem lookup_frequencies (words : List String) (word : String) :
    (frequencies words).lookup word = if word ∈ words then some (words.count word) else none := by
  induction words using List.reverseRecOn with
  | nil => rfl
  | append_singleton words last ih =>
      rw [frequencies, List.foldl_append, ← frequencies, List.foldl_cons, List.foldl_nil, Table.lookup_insert_ite]
      by_cases same : word = last
      · subst same
        rw [if_pos rfl, ih]
        by_cases earlier : word ∈ words
        · simp [earlier]
        · simp [earlier, List.count_eq_zero_of_not_mem earlier]
      · rw [if_neg same, ih]
        simp [same, Ne.symm same]

/-- What the map of frequencies holds, in the order of its entries. -/
def counted (words : List String) : List (String × Nat) := (frequencies words).entries.map fun entry => (entry.1, entry.2)

theorem mem_counted {words : List String} {entry : String × Nat} :
    entry ∈ counted words ↔ entry.1 ∈ words ∧ entry.2 = words.count entry.1 := by
  obtain ⟨word, count⟩ := entry
  have listed : (word, count) ∈ counted words ↔ (frequencies words).lookup word = some count := by
    rw [← Option.mem_def, AList.mem_lookup_iff]
    simp [counted]
  rw [listed, lookup_frequencies]
  split_ifs with member <;> simp [member, eq_comm]

theorem nodup_counted (words : List String) : ((counted words).map Prod.fst).Nodup := by
  rw [counted, List.map_map]
  exact (frequencies words).nodupKeys

theorem word_not_fixed {text word : String} (member : word ∈ tokenizeText unicode text) : word ∉ fixedTokens := by
  have edge : isEdge unicode '<' = true := by simp [isEdge, unicode.ascii '<' (by decide)]
  obtain ⟨letters, trimmed, rfl⟩ := List.mem_map.mp member
  obtain ⟨trimmed, filled⟩ := List.mem_filter.mp trimmed
  obtain ⟨piece, -, rfl⟩ := List.mem_map.mp trimmed
  intro listed
  have head := head_fixedTokens listed
  rw [String.toList_ofList, trimEdges] at head
  obtain ⟨rest, split⟩ := List.rdropWhile_prefix (isEdge unicode) (piece.dropWhile (isEdge unicode))
  have inner := List.head?_dropWhile_not (isEdge unicode) piece
  rw [← split, List.head?_append, head] at inner
  simp [edge] at inner

theorem encode_spec (indexed : Indexed vocabulary) (token : String) :
    (token ∈ vocabulary.idToToken ∧ vocabulary.idToToken[vocabulary.encode token]? = some token) ∨
      (token ∉ vocabulary.idToToken ∧ vocabulary.encode token = unk) := by
  rw [← indexed.mem_iff, ← AList.lookup_isSome, encode]
  cases found : vocabulary.tokenToId.lookup token with
  | none => exact .inr ⟨by simp, rfl⟩
  | some id => exact .inl ⟨rfl, (indexed.inverse token id).mp found⟩

/-! ## The words that are kept -/

def room : Nat := maxVocab - fixedTokens.length

def keptEntries (unicode : Unicode) (reading : Reading (String × Nat)) (sessions : List ExportedSession) : List (String × Nat) :=
  (ranked reading (frequencies (wordsOf unicode sessions))).take room

theorem mem_ranked {words : List String} {entry : String × Nat} :
    entry ∈ ranked reading (frequencies words) ↔ entry.1 ∈ words ∧ entry.2 = words.count entry.1 :=
  mem_orderBy.trans (reading.mem_read.trans mem_counted)

theorem nodup_kept : ((keptEntries unicode reading sessions).map Prod.fst).Nodup := by
  have perm : (ranked reading (frequencies (wordsOf unicode sessions))).Perm (counted (wordsOf unicode sessions)) :=
    (orderBy_perm _ _).trans (reading.perm _)
  exact (((perm.map Prod.fst).nodup_iff).mpr (nodup_counted _)).sublist ((List.take_sublist _ _).map Prod.fst)

theorem mem_of_mem_kept {entry : String × Nat} (member : entry ∈ keptEntries unicode reading sessions) :
    entry.1 ∈ wordsOf unicode sessions ∧ entry.2 = (wordsOf unicode sessions).count entry.1 :=
  mem_ranked.mp (List.mem_of_mem_take member)

theorem not_fixed_of_mem {word : String} (member : word ∈ wordsOf unicode sessions) : word ∉ fixedTokens := by
  obtain ⟨session, -, member⟩ := List.mem_flatMap.mp member
  obtain ⟨msg, -, member⟩ := List.mem_flatMap.mp member
  exact word_not_fixed member

theorem build_spec (unicode : Unicode) (reading : Reading (String × Nat)) (sessions : List ExportedSession) :
    Indexed (buildFromSessions unicode reading sessions) ∧
      (buildFromSessions unicode reading sessions).idToToken =
        fixedTokens ++ (keptEntries unicode reading sessions).map Prod.fst := by
  obtain ⟨indexed, tokens⟩ := fixed
  have distinct : (fixedTokens ++ (keptEntries unicode reading sessions).map Prod.fst).Nodup := by
    rw [List.nodup_append]
    refine ⟨tokens ▸ indexed.nodup, nodup_kept, fun tok listed word kept => ?_⟩
    rintro rfl
    obtain ⟨entry, member, rfl⟩ := List.mem_map.mp kept
    exact not_fixed_of_mem (mem_of_mem_kept member).1 listed
  have small : (fixedTokens ++ (keptEntries unicode reading sessions).map Prod.fst).length ≤ 2 ^ 32 := by
    have taken : (keptEntries unicode reading sessions).length ≤ room := List.length_take_le _ _
    have few : fixedTokens.length + room ≤ 2 ^ 32 := by decide
    rw [List.length_append, List.length_map]
    omega
  rw [← tokens] at distinct small
  have built := push_run indexed distinct small
  rw [← foldl_pushNew indexed distinct small, tokens] at built
  rw [buildFromSessions, tokens]
  exact built

theorem keptEntries_eq (unicode : Unicode) (reading : Reading (String × Nat)) (sessions : List ExportedSession) :
    keptEntries unicode reading sessions =
      ((keptEntries unicode reading sessions).map Prod.fst).map fun word => (word, (wordsOf unicode sessions).count word) := by
  rw [List.map_map]
  symm
  refine (List.map_congr_left fun entry member => ?_).trans (List.map_id _)
  exact Prod.ext rfl (mem_of_mem_kept member).2.symm

theorem below_counted (words : List String) (word : String) :
    below (fun entry : String × Nat => OrderDual.toDual entry.2) (counted words) (OrderDual.toDual (words.count word)) =
      (words.dedup.filter fun other => words.count word < words.count other).length := by
  have perm : (counted words).Perm (words.dedup.map fun other => (other, words.count other)) := by
    refine (List.perm_ext_iff_of_nodup ((nodup_counted words).of_map _) ?_).mpr fun entry => ?_
    · exact (List.nodup_dedup words).map fun _ _ same => congrArg Prod.fst same
    · rw [mem_counted, List.mem_map]
      constructor
      · rintro ⟨member, count⟩
        exact ⟨entry.1, List.mem_dedup.mpr member, Prod.ext rfl count.symm⟩
      · rintro ⟨other, member, rfl⟩
        exact ⟨List.mem_dedup.mp member, rfl⟩
  rw [below_perm perm, below, List.filter_map, List.length_map]
  rfl

/-! ## One vocabulary -/

structure SameVocabulary (first second : Vocabulary) : Prop where
  tokens : first.idToToken = second.idToToken
  ids : ∀ token, first.tokenToId.lookup token = second.tokenToId.lookup token

theorem sameVocabulary_iff (first second : Reading (String × Nat)) :
    SameVocabulary (buildFromSessions unicode first sessions) (buildFromSessions unicode second sessions) ↔
      keptEntries unicode first sessions = keptEntries unicode second sessions := by
  obtain ⟨indexed, tokens⟩ := build_spec unicode first sessions
  obtain ⟨indexed', tokens'⟩ := build_spec unicode second sessions
  constructor
  · intro same
    have kept := same.tokens
    rw [tokens, tokens', List.append_cancel_left_eq] at kept
    rw [keptEntries_eq, kept, ← keptEntries_eq]
  · intro kept
    have sameTokens : (buildFromSessions unicode first sessions).idToToken = (buildFromSessions unicode second sessions).idToToken := by
      rw [tokens, tokens', kept]
    refine ⟨sameTokens, fun token => Option.ext fun id => ?_⟩
    rw [indexed.inverse, indexed'.inverse, sameTokens]

/-- What is asked of the vocabulary of a corpus, in every order of the map. -/
structure Reproducible (unicode : Unicode) (sessions : List ExportedSession) : Prop where
  same : ∀ first second : Reading (String × Nat),
    SameVocabulary (buildFromSessions unicode first sessions) (buildFromSessions unicode second sessions)
  inverse : ∀ (reading : Reading (String × Nat)) (token : String) (id : Nat),
    (buildFromSessions unicode reading sessions).tokenToId.lookup token = some id ↔
      (buildFromSessions unicode reading sessions).idToToken[id]? = some token
  small : ∀ reading : Reading (String × Nat), (buildFromSessions unicode reading sessions).size ≤ 8192
  frequent : ∀ reading : Reading (String × Nat), ∀ kept ∈ wordsOf unicode sessions, ∀ left ∈ wordsOf unicode sessions,
    kept ∈ (buildFromSessions unicode reading sessions).idToToken → left ∉ (buildFromSessions unicode reading sessions).idToToken →
      (wordsOf unicode sessions).count left ≤ (wordsOf unicode sessions).count kept

theorem kept_frequent {kept left : String} (among : kept ∈ wordsOf unicode sessions) (among' : left ∈ wordsOf unicode sessions)
    (member : kept ∈ (buildFromSessions unicode reading sessions).idToToken)
    (absent : left ∉ (buildFromSessions unicode reading sessions).idToToken) :
    (wordsOf unicode sessions).count left ≤ (wordsOf unicode sessions).count kept := by
  rw [(build_spec unicode reading sessions).2, List.mem_append, List.mem_map] at member absent
  rcases member with fixedToken | ⟨entry, taken, rfl⟩
  · exact absurd fixedToken (not_fixed_of_mem among)
  · have listed : (left, (wordsOf unicode sessions).count left) ∈ ranked reading (frequencies (wordsOf unicode sessions)) :=
      mem_ranked.mpr ⟨among', rfl⟩
    rw [← List.take_append_drop room (ranked reading _), List.mem_append] at listed
    rcases listed with taken' | dropped
    · exact absurd (.inr ⟨_, taken', rfl⟩) absent
    · have sorted := orderBy_pairwise (fun word : String × Nat => OrderDual.toDual word.2)
        (reading.read (counted (wordsOf unicode sessions)))
      rw [← List.take_append_drop room (orderBy _ _), List.pairwise_append] at sorted
      have before := sorted.2.2 entry taken _ dropped
      rw [OrderDual.toDual_le_toDual, (mem_of_mem_kept taken).2] at before
      exact before

/-- Words of one frequency are left out: those that are more frequent fill the vocabulary. -/
def Untied (unicode : Unicode) (sessions : List ExportedSession) : Prop :=
  let words := wordsOf unicode sessions
  ∀ first ∈ words, ∀ second ∈ words, first ≠ second → words.count first = words.count second →
    8192 - fixedTokens.length ≤ (words.dedup.filter fun other => words.count first < words.count other).length

theorem reproducible_iff (unicode : Unicode) (sessions : List ExportedSession) :
    Reproducible unicode sessions ↔ Untied unicode sessions := by
  have same : (∀ first second : Reading (String × Nat),
      SameVocabulary (buildFromSessions unicode first sessions) (buildFromSessions unicode second sessions)) ↔
      Untied unicode sessions := by
    simp only [sameVocabulary_iff]
    refine (take_orderBy_eq_iff room).trans ?_
    constructor
    · intro apart first member second member' unequal tie
      have late := apart (first, (wordsOf unicode sessions).count first) (mem_counted.mpr ⟨member, rfl⟩)
        (second, (wordsOf unicode sessions).count second) (mem_counted.mpr ⟨member', rfl⟩) (congrArg _ tie)
        fun equal => unequal (congrArg Prod.fst equal)
      exact below_counted _ first ▸ late
    · intro untied entry member other member' tie unequal
      obtain ⟨among, count⟩ := mem_counted.mp member
      obtain ⟨among', count'⟩ := mem_counted.mp member'
      have apart : entry.1 ≠ other.1 := fun equal => unequal (Prod.ext equal (OrderDual.toDual.injective tie))
      have late := untied entry.1 among other.1 among' apart (count.symm.trans ((OrderDual.toDual.injective tie).trans count'))
      rw [← below_counted, ← count] at late
      exact late
  rw [← same]
  refine ⟨Reproducible.same, fun one => ⟨one, fun reading => (build_spec unicode reading sessions).1.inverse, fun reading => ?_,
    fun reading kept among left among' => kept_frequent among among'⟩⟩
  have taken : (keptEntries unicode reading sessions).length ≤ room := List.length_take_le _ _
  have whole : fixedTokens.length + room = 8192 := by decide
  rw [size, (build_spec unicode reading sessions).2, List.length_append, List.length_map]
  omega

def asciiTables : Unicode := ⟨List.map Char.toLower, Char.isAlphanum, fun _ _ => rfl⟩

/-- Two words that occur once each, read in one order and in the other. -/
theorem tied_words_permuted : ¬Reproducible asciiTables [⟨[⟨"restart ollama"⟩]⟩] := by
  intro reproducible
  have same := (sameVocabulary_iff _ _).mp (reproducible.same Reading.stored ⟨List.reverse, List.reverse_perm⟩)
  exact absurd same (by decide +kernel)

end MacMgmt.Proof.Tokenizer
