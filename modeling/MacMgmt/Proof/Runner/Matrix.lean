import MacMgmt.Runner.Matrix
import Mathlib.Data.List.Nodup

/-!
# Keys and instance names

A name ends with the words for the LLM and, in a cluster, two numbers. The words for the LLM are no numbers, so they are found
again from the end.
-/

namespace MacMgmt.Proof.Matrix
open Lib MacMgmt.Runner

variable {config : RunnerConfig} {matrix : MatrixConfig} {cell other : Planned}

/-! ## The cells -/

theorem cells_generate (matrix : MatrixConfig) :
    (generate matrix).map ConfiguredCell.toMatrixCell = matrix.plan.map fun cell => ⟨cell.key, cell.size⟩ := by
  simp only [generate, MatrixConfig.plan, List.map_flatMap]
  refine List.flatMap_congr fun agent _ => List.flatMap_congr fun llm _ => List.flatMap_congr fun size _ => ?_
  unfold MatrixConfig.choices
  split
  · simp only [List.map_filterMap, List.map_map, MatrixConfig.usableProviders]
    rw [← List.filterMap_eq_map, List.filterMap_filter]
    refine List.filterMap_congr fun cp _ => ?_
    cases known : isKnownCloudProvider cp <;> cases key : matrix.cloudApiKeys.lookup cp <;> rfl
  · rfl
  · rfl
  · split <;> rfl
  · rfl

def Usable : Llm → Prop
  | .cloud provider => provider ∈ knownCloudProviders
  | _ => True

theorem usable_of_mem_choices {agent llm : String} {choice : Llm} (member : choice ∈ matrix.choices agent llm) :
    Usable choice := by
  unfold MatrixConfig.choices at member
  split at member
  · obtain ⟨cp, usable, rfl⟩ := List.mem_map.mp member
    have known := (Bool.and_eq_true_iff.mp (List.mem_filter.mp usable).2).1
    exact List.contains_iff_mem.mp known
  · rw [List.mem_singleton.mp member]
    trivial
  · rw [List.mem_singleton.mp member]
    trivial
  · split at member
    · rw [List.mem_singleton.mp member]
      trivial
    · cases member
  · cases member

theorem sizes_pos {size : Nat} (member : size ∈ matrix.sizes) : 1 ≤ size := by
  unfold MatrixConfig.sizes at member
  simp only at member
  split at member
  · rw [List.mem_singleton.mp member]
  · exact of_decide_eq_true (List.mem_filter.mp member).2

theorem mem_plan (member : cell ∈ matrix.plan) : Usable cell.llm ∧ 1 ≤ cell.size := by
  simp only [MatrixConfig.plan, List.mem_flatMap, List.mem_map] at member
  obtain ⟨agent, -, llm, -, size, listed, choice, chosen, rfl⟩ := member
  exact ⟨usable_of_mem_choices chosen, sizes_pos listed⟩

/-! ## Words -/

def firstWords : Llm → List (List Char)
  | .cloud _ => ["cloud".toList]
  | _ => []

def lastWord : Llm → List Char
  | .cloud provider => provider.toList
  | .ollama => "ollama".toList
  | .lms => "lms".toList
  | .none => "nollm".toList

def llmWords (llm : Llm) : List (List Char) := firstWords llm ++ [lastWord llm]

def lastWords : List (List Char) := knownCloudProviders.map String.toList ++ ["ollama".toList, "lms".toList, "nollm".toList]

def dashed (words : List (List Char)) : List Char := words.flatMap fun word => '-' :: word

theorem lastWord_mem {llm : Llm} (usable : Usable llm) : lastWord llm ∈ lastWords := by
  cases llm with
  | cloud provider => exact List.mem_append_left _ (List.mem_map_of_mem usable)
  | ollama | lms | none => decide

theorem lastWord_injective {llm llm' : Llm} (usable : Usable llm) (usable' : Usable llm') (same : lastWord llm = lastWord llm') :
    llm = llm' := by
  have apart : ∀ provider ∈ knownCloudProviders,
      provider.toList ≠ "ollama".toList ∧ provider.toList ≠ "lms".toList ∧ provider.toList ≠ "nollm".toList := by
    decide
  cases llm with
  | cloud provider =>
      obtain ⟨ollama, lms, none_⟩ := apart provider usable
      cases llm' with
      | cloud provider' => rw [String.toList_injective same]
      | ollama => exact absurd same ollama
      | lms => exact absurd same lms
      | none => exact absurd same none_
  | ollama | lms | none =>
      cases llm' with
      | cloud provider' =>
          obtain ⟨ollama, lms, none_⟩ := apart provider' usable'
          first | exact absurd same.symm ollama | exact absurd same.symm lms | exact absurd same.symm none_
      | ollama | lms | none => first | rfl | exact absurd same (by decide)

theorem bare_lastWords : ∀ word ∈ lastWords, '-' ∉ word ∧ word.map sanitizeChar = word ∧ ∀ c ∈ word, c.isDigit = false := by
  have checked : (lastWords.all fun word =>
      !word.contains '-' && word.map sanitizeChar = word && word.all fun c => !c.isDigit) = true := by
    decide
  intro word member
  simpa [and_assoc] using List.all_eq_true.mp checked word member

theorem bare_llmWords {llm : Llm} (usable : Usable llm) : ∀ word ∈ llmWords llm, '-' ∉ word ∧ word.map sanitizeChar = word := by
  intro word member
  rcases List.mem_append.mp member with first | last
  · cases llm with
    | cloud provider =>
        rw [List.mem_singleton.mp first]
        decide
    | ollama | lms | none => cases first
  · rw [List.mem_singleton.mp last]
    have bare := bare_lastWords _ (lastWord_mem usable)
    exact ⟨bare.1, bare.2.1⟩

theorem splitOn_dashed (head : List Char) {words : List (List Char)} (bare : ∀ word ∈ words, '-' ∉ word) :
    (head ++ dashed words).splitOn '-' = head.splitOn '-' ++ words := by
  induction words generalizing head with
  | nil => simp [dashed]
  | cons word words ih =>
      obtain ⟨bareWord, bareWords⟩ := List.forall_mem_cons.mp bare
      have split : head ++ dashed (word :: words) = (head ++ '-' :: word) ++ dashed words := by simp [dashed]
      rw [split, ih _ bareWords, List.splitOn_append_cons_self, List.splitOn_eq_singleton bareWord]
      simp

theorem last_split_unique {α : Type*} {P : α → Prop} {front front' back back' : List α} {a a' : α} (holds : P a) (holds' : P a')
    (fails : ∀ b ∈ back, ¬ P b) (fails' : ∀ b ∈ back', ¬ P b) (same : front ++ a :: back = front' ++ a' :: back') :
    front = front' ∧ a = a' ∧ back = back' := by
  rcases List.append_eq_append_iff.mp same with ⟨middle, rfl, tail⟩ | ⟨middle, rfl, tail⟩
  · cases middle with
    | nil => simpa using tail
    | cons b middle =>
        obtain ⟨rfl, rfl⟩ := List.cons.inj tail
        exact absurd holds' (fails a' (by simp))
  · cases middle with
    | nil => simpa [eq_comm] using tail
    | cons b middle =>
        obtain ⟨rfl, rfl⟩ := List.cons.inj tail
        exact absurd holds (fails' a (by simp))

def digits (n : Nat) : List Char := Nat.toDigits 10 n

theorem isDigit_digits {n : Nat} {c : Char} (member : c ∈ digits n) : c.isDigit = true :=
  Nat.isDigit_of_mem_toDigits (by decide) (by decide) member

theorem digits_injective {n m : Nat} (same : digits n = digits m) : n = m := by
  rw [← @Nat.ofDigitChars_ten_toDigits n, ← @Nat.ofDigitChars_ten_toDigits m]
  exact congrArg (fun text => Nat.ofDigitChars 10 text 0) same

/-- A word in which there is a digit is none that ends the words for an LLM. -/
structure Numeric (word : List Char) : Prop where
  bare : '-' ∉ word
  same : word.map sanitizeChar = word
  digit : ∃ c ∈ word, c.isDigit = true

theorem Numeric.notMem {word : List Char} (numeric : Numeric word) : word ∉ lastWords := by
  intro member
  obtain ⟨c, within, digit⟩ := numeric.digit
  rw [(bare_lastWords word member).2.2 c within] at digit
  cases digit

theorem sanitizeChar_digit {c : Char} (digit : c.isDigit = true) : sanitizeChar c = c := by
  have below : c.toNat ≤ 57 := (Char.isDigit_iff_toNat.mp digit).2
  have small : ¬ (c.val ≥ 'A'.val ∧ c.val ≤ 'Z'.val) := by
    rintro ⟨above, -⟩
    exact absurd (le_trans (UInt32.le_iff_toNat_le.mp above) below) (by decide)
  have kept : c.toLower = c := dif_neg small
  simp [sanitizeChar, Char.isAlphanum, digit, kept]

theorem numeric_digits (n : Nat) : Numeric (digits n) where
  bare := fun member => absurd (isDigit_digits member) (by decide)
  same := (List.map_congr_left fun c member => sanitizeChar_digit (isDigit_digits member)).trans (List.map_id _)
  digit := by
    obtain ⟨c, member⟩ := List.exists_mem_of_ne_nil _ (Nat.toDigits_ne_nil (n := n) (b := 10))
    exact ⟨c, member, isDigit_digits member⟩

theorem numeric_size (size : Nat) : Numeric ('n' :: digits size) where
  bare := by simpa using (numeric_digits size).bare
  same := by
    rw [List.map_cons, (numeric_digits size).same]
    rfl
  digit := by
    obtain ⟨c, member, digit⟩ := (numeric_digits size).digit
    exact ⟨c, List.mem_cons_of_mem _ member, digit⟩

theorem words_unique {head head' : List Char} {llm llm' : Llm} {numbers numbers' : List (List Char)} (usable : Usable llm)
    (usable' : Usable llm') (numeric : ∀ word ∈ numbers, Numeric word) (numeric' : ∀ word ∈ numbers', Numeric word)
    (same : head ++ dashed (llmWords llm ++ numbers) = head' ++ dashed (llmWords llm' ++ numbers')) :
    head = head' ∧ llm = llm' ∧ numbers = numbers' := by
  have bare {llm : Llm} (usable : Usable llm) {numbers : List (List Char)} (numeric : ∀ word ∈ numbers, Numeric word) :
      ∀ word ∈ llmWords llm ++ numbers, '-' ∉ word := by
    intro word member
    rcases List.mem_append.mp member with within | within
    · exact (bare_llmWords usable word within).1
    · exact (numeric word within).bare
  have words := congrArg (List.splitOn '-') same
  rw [splitOn_dashed _ (bare usable numeric), splitOn_dashed _ (bare usable' numeric'), llmWords, llmWords] at words
  have regroup (front first back : List (List Char)) (word : List Char) :
      front ++ (first ++ [word] ++ back) = (front ++ first) ++ word :: back := by simp
  rw [regroup, regroup] at words
  obtain ⟨-, last, rfl⟩ := last_split_unique (P := (· ∈ lastWords)) (lastWord_mem usable) (lastWord_mem usable')
    (fun word member => (numeric word member).notMem) (fun word member => (numeric' word member).notMem) words
  obtain rfl := lastWord_injective usable usable' last
  exact ⟨List.append_cancel_right same, rfl, rfl⟩

/-! ## Names -/

def numbers (size index : Nat) : List (List Char) := if size ≤ 1 then [] else ['n' :: digits size, digits index]

theorem numeric_numbers {size index : Nat} : ∀ word ∈ numbers size index, Numeric word := by
  intro word member
  rw [numbers] at member
  split at member
  · cases member
  · simp only [List.mem_cons, List.not_mem_nil, or_false] at member
    rcases member with rfl | rfl
    · exact numeric_size size
    · exact numeric_digits index

def longName (config : RunnerConfig) (cell : Planned) (index : Nat) : List Char :=
  sanitized (config.namePrefix ++ cell.key ++ if cell.size ≤ 1 then "" else "-" ++ toString index)

theorem suffix_toList (llm : Llm) : llm.suffix.toList = dashed (llmWords llm) := by
  cases llm with
  | cloud provider =>
      show ("-cloud-" ++ provider).toList = dashed ["cloud".toList, provider.toList]
      simp [dashed]
  | ollama | lms | none => rfl

theorem key_toList (cell : Planned) :
    cell.key.toList = cell.agent.toList ++
      dashed (llmWords cell.llm ++ if cell.size ≤ 1 then [] else ['n' :: digits cell.size]) := by
  rw [Planned.key, withSize]
  split
  · simp [suffix_toList]
  · have text : (s!"{cell.agent ++ cell.llm.suffix}-n{cell.size}").toList =
        (cell.agent ++ cell.llm.suffix ++ "-n" ++ toString cell.size).toList := rfl
    rw [text]
    simp [suffix_toList, dashed, digits]

theorem map_sanitizeChar_dashed {words : List (List Char)} (same : ∀ word ∈ words, word.map sanitizeChar = word) :
    (dashed words).map sanitizeChar = dashed words := by
  rw [dashed, List.map_flatMap]
  refine List.flatMap_congr fun word member => ?_
  rw [List.map_cons, same word member]
  rfl

theorem longName_eq (usable : Usable cell.llm) (index : Nat) :
    longName config cell index =
      sanitized (config.namePrefix ++ cell.agent) ++ dashed (llmWords cell.llm ++ numbers cell.size index) := by
  have text : (config.namePrefix ++ cell.key ++ if cell.size ≤ 1 then "" else "-" ++ toString index).toList =
      (config.namePrefix ++ cell.agent).toList ++ dashed (llmWords cell.llm ++ numbers cell.size index) := by
    rw [String.toList_append, String.toList_append, key_toList, numbers]
    split <;> simp [dashed, digits]
  have same : ∀ word ∈ llmWords cell.llm ++ numbers cell.size index, word.map sanitizeChar = word := by
    intro word member
    rcases List.mem_append.mp member with within | within
    · exact (bare_llmWords usable word within).2
    · exact (numeric_numbers word within).same
  rw [longName, sanitized, text, List.map_append, map_sanitizeChar_dashed same]
  rfl

theorem sanitized_append (first second : String) : sanitized (first ++ second) = sanitized first ++ sanitized second := by
  simp [sanitized]

def shape (cell : Planned) : List Char × Llm × Nat := (sanitized cell.agent, cell.llm, cell.size)

theorem numbers_inj {size size' index index' : Nat} (positive : 1 ≤ size) (positive' : 1 ≤ size')
    (same : numbers size index = numbers size' index') : size = size' ∧ (1 < size → index = index') := by
  unfold numbers at same
  split at same <;> split at same
  · omega
  · cases same
  · cases same
  · simp only [List.cons.injEq, true_and, and_true] at same
    exact ⟨digits_injective same.1, fun _ => digits_injective same.2⟩

theorem longName_inj (usable : Usable cell.llm ∧ 1 ≤ cell.size) (usable' : Usable other.llm ∧ 1 ≤ other.size) {index index' : Nat}
    (same : longName config cell index = longName config other index') :
    shape cell = shape other ∧ (1 < cell.size → index = index') := by
  rw [longName_eq usable.1, longName_eq usable'.1] at same
  obtain ⟨head, llm, counted⟩ := words_unique usable.1 usable'.1 numeric_numbers numeric_numbers same
  rw [sanitized_append, sanitized_append] at head
  obtain ⟨size, index⟩ := numbers_inj usable.2 usable'.2 counted
  exact ⟨by rw [shape, shape, List.append_cancel_left head, llm, size], index⟩

theorem longName_congr (usable : Usable cell.llm) (usable' : Usable other.llm) (same : shape cell = shape other) (index : Nat) :
    longName config cell index = longName config other index := by
  obtain ⟨agent, rest⟩ := Prod.mk.inj same
  obtain ⟨llm, size⟩ := Prod.mk.inj rest
  rw [longName_eq usable, longName_eq usable', sanitized_append, sanitized_append, agent, llm, size]

theorem key_inj (usable : Usable cell.llm ∧ 1 ≤ cell.size) (usable' : Usable other.llm ∧ 1 ≤ other.size)
    (same : cell.key = other.key) : shape cell = shape other := by
  have numeric (size : Nat) : ∀ word ∈ if size ≤ 1 then [] else ['n' :: digits size], Numeric word := by
    intro word member
    split at member
    · cases member
    · rw [List.mem_singleton.mp member]
      exact numeric_size size
  have text := congrArg String.toList same
  rw [key_toList, key_toList] at text
  obtain ⟨agent, llm, counted⟩ := words_unique usable.1 usable'.1 (numeric _) (numeric _) text
  have size : cell.size = other.size := by
    split at counted <;> split at counted
    · omega
    · cases counted
    · cases counted
    · simp only [List.cons.injEq, true_and, and_true] at counted
      exact digits_injective counted
  rw [shape, shape, llm, size, sanitized, agent]
  rfl

/-! ## Cutting -/

theorem length_digits_le {n m : Nat} (below : n ≤ m) : (digits n).length ≤ (digits m).length := by
  have positive : 0 < (digits m).length := List.length_pos_iff.mpr Nat.toDigits_ne_nil
  refine (Nat.length_toDigits_le_iff (by decide) positive).mpr (below.trans_lt ?_)
  exact (Nat.length_toDigits_le_iff (by decide) positive).mp le_rfl

theorem digits_tens {n : Nat} (tens : 10 ≤ n) : digits n = digits (n / 10) ++ [(n % 10).digitChar] :=
  Nat.toDigits_of_base_le (by decide) tens

theorem length_digits_small {n : Nat} (small : n < 10) : (digits n).length = 1 := by
  rw [digits, Nat.toDigits_of_lt_base small, List.length_singleton]

theorem room_of_nodup {base : List Char} {size : Nat} (several : 1 < size)
    (apart : ((List.range' 1 size).map fun index => (base ++ '-' :: digits index).take 63).Nodup) :
    base.length + 1 + (digits size).length ≤ 63 := by
  by_contra long
  have injective {n m : Nat} (least : 1 ≤ n ∧ n ≤ size) (least' : 1 ≤ m ∧ m ≤ size)
      (same : (base ++ '-' :: digits n).take 63 = (base ++ '-' :: digits m).take 63) : n = m :=
    List.inj_on_of_nodup_map apart (List.mem_range'_1.mpr (by omega)) (List.mem_range'_1.mpr (by omega)) same
  have exists_ : ∃ n, 1 ≤ n ∧ n ≤ size ∧ 63 < base.length + 1 + (digits n).length := ⟨size, by omega, le_rfl, by omega⟩
  have minimal := fun m => Nat.find_min exists_ (m := m)
  obtain ⟨positive, within, tooLong⟩ := Nat.find_spec exists_
  generalize Nat.find exists_ = n at minimal positive within tooLong
  by_cases tens : 10 ≤ n
  · have before := minimal (n / 10) (by omega)
    have fits : base.length + 1 + (digits (n / 10)).length ≤ 63 := by
      by_contra over_
      exact before ⟨by omega, by omega, by omega⟩
    have shorter := digits_tens tens
    have exact63 : (base ++ '-' :: digits (n / 10)).length = 63 := by
      rw [shorter, List.length_append, List.length_singleton] at tooLong
      simp only [List.length_append, List.length_cons]
      omega
    have same : (base ++ '-' :: digits n).take 63 = (base ++ '-' :: digits (n / 10)).take 63 := by
      rw [shorter, ← List.cons_append, ← List.append_assoc, List.take_append_of_le_length exact63.ge]
    have := injective ⟨positive, within⟩ ⟨by omega, by omega⟩ same
    omega
  · have single (m : Nat) (small : m < 10) : (base ++ '-' :: digits m).take 63 = (base ++ ['-']).take 63 := by
      rw [length_digits_small (by omega)] at tooLong
      rw [← List.singleton_append, ← List.append_assoc, List.take_append_of_le_length]
      simp only [List.length_append, List.length_singleton]
      omega
    have := injective (n := 1) (m := 2) ⟨le_rfl, by omega⟩ ⟨by omega, by omega⟩
      ((single 1 (by decide)).trans (single 2 (by decide)).symm)
    omega

/-! ## The fleet -/

def cutNames (config : RunnerConfig) (cell : Planned) : List (List Char) :=
  (List.range' 1 cell.size).map fun index => (longName config cell index).take 63

theorem instanceNames_eq (config : RunnerConfig) (positive : 1 ≤ cell.size) :
    Orchestrator.instanceNames config ⟨cell.key, cell.size⟩ = (cutNames config cell).map String.ofList := by
  rw [Orchestrator.instanceNames, max_eq_left positive, cutNames, List.map_map]
  refine List.map_congr_left fun index _ => ?_
  have text : (if cell.size ≤ 1 then config.namePrefix ++ cell.key else config.namePrefix ++ cell.key ++ "-" ++ toString index) =
      config.namePrefix ++ cell.key ++ if cell.size ≤ 1 then "" else "-" ++ toString index := by
    split <;> simp [String.append_assoc]
  exact congrArg sanitize text

theorem fleetNames_eq (config : RunnerConfig) (matrix : MatrixConfig) :
    fleetNames config matrix = (matrix.plan.flatMap (cutNames config)).map String.ofList := by
  have cells : fleetNames config matrix =
      ((generate matrix).map ConfiguredCell.toMatrixCell).flatMap (Orchestrator.instanceNames config) := by
    rw [List.flatMap_map]
    rfl
  rw [cells, cells_generate, List.flatMap_map, List.map_flatMap]
  exact List.flatMap_congr fun cell member => instanceNames_eq config (mem_plan member).2

theorem mem_cutNames {text : List Char} :
    text ∈ cutNames config cell ↔ ∃ index, (1 ≤ index ∧ index ≤ cell.size) ∧ (longName config cell index).take 63 = text := by
  have bounds (index : Nat) : index ∈ List.range' 1 cell.size ↔ 1 ≤ index ∧ index ≤ cell.size := by
    rw [List.mem_range'_1]
    omega
  simp only [cutNames, List.mem_map, bounds]

theorem alphanumeric_toLower {c : Char} (alphanumeric : c.isAlphanum = true) : c.toLower.isAlphanum = true := by
  by_cases upper : c.val ≥ 'A'.val ∧ c.val ≤ 'Z'.val
  · have lowered : c.toLower.val = c.val + 32 := by
      exact congrArg Char.val (dif_pos upper)
    have low : 65 ≤ c.val.toNat := UInt32.le_iff_toNat_le.mp upper.1
    have high : c.val.toNat ≤ 90 := UInt32.le_iff_toNat_le.mp upper.2
    have value : (c.val + 32).toNat = c.val.toNat + 32 := by
      rw [UInt32.toNat_add]
      exact Nat.mod_eq_of_lt (show c.val.toNat + 32 < 2 ^ 32 by omega)
    have lower : c.toLower.isLower = true := by
      change (decide ('a'.val ≤ c.toLower.val) && decide (c.toLower.val ≤ 'z'.val)) = true
      simp only [lowered, UInt32.le_iff_toNat_le, value, Bool.and_eq_true, decide_eq_true_eq]
      constructor
      · exact le_trans (by decide) (Nat.add_le_add_right low 32)
      · exact (Nat.add_le_add_right high 32).trans (by decide)
    change ((c.toLower.isUpper || c.toLower.isLower) || c.toLower.isDigit) = true
    rw [lower, Bool.or_true, Bool.true_or]
  · rwa [show c.toLower = c from dif_neg upper]

theorem sanitizeChar_allowed (c : Char) : (sanitizeChar c).isAlphanum = true ∨ sanitizeChar c = '-' := by
  rw [sanitizeChar]
  split
  · rename_i kept
    rcases Bool.or_eq_true_iff.mp kept with alphanumeric | dash
    · exact .inl (alphanumeric_toLower alphanumeric)
    · exact .inr (by rw [of_decide_eq_true dash]; rfl)
  · exact .inr rfl

theorem valid_iff {text : List Char} (allowed : ∀ c ∈ text, c.isAlphanum = true ∨ c = '-') :
    ValidInstanceName (String.ofList (text.take 63)) ↔
      (∃ first ∈ text.head?, first.isAlpha = true) ∧ (text.take 63).getLast? ≠ some '-' := by
  have alphabetic {c : Char} (member : c ∈ text) : c.isAlpha = true ↔ c ≠ '-' ∧ c.isDigit = false := by
    constructor
    · intro alphabetic
      have dash : c ≠ '-' := by
        rintro rfl
        cases alphabetic
      refine ⟨dash, Bool.eq_false_iff.mpr fun digit => ?_⟩
      have below := (Char.isDigit_iff_toNat.mp digit).2
      change (decide ('A'.val ≤ c.val ∧ c.val ≤ 'Z'.val) ||
        (decide ('a'.val ≤ c.val) && decide (c.val ≤ 'z'.val))) = true at alphabetic
      simp only [Bool.or_eq_true, Bool.and_eq_true, decide_eq_true_eq, UInt32.le_iff_toNat_le] at alphabetic
      have above : 65 ≤ c.val.toNat := alphabetic.elim And.left fun lower => le_trans (by decide) lower.1
      exact absurd (above.trans below) (by decide)
    · rintro ⟨dash, digit⟩
      have kept := (allowed c member).resolve_right dash
      simpa [Char.isAlphanum, digit] using kept
  have head : (text.take 63).head? = text.head? := by cases text <;> rfl
  constructor
  · intro valid
    refine ⟨?_, by simpa using valid.last⟩
    have nonempty := valid.nonempty
    cases text with
    | nil => exact absurd rfl nonempty
    | cons c rest => exact ⟨c, rfl, (alphabetic (by simp)).mpr (valid.first c (by simp))⟩
  · rintro ⟨⟨first, begins, letter⟩, last⟩
    have within : first ∈ text := List.mem_of_mem_head? begins
    refine ⟨?_, ?_, ?_, ?_, by simpa using last⟩
    · intro empty
      have none_ : text.take 63 = [] := by simpa using congrArg String.toList empty
      rw [← head, none_] at begins
      cases begins
    · rw [← String.length_toList, String.toList_ofList, List.length_take]
      exact min_le_left _ _
    · intro c member
      rw [String.toList_ofList] at member
      exact allowed c (List.mem_of_mem_take member)
    · intro c member
      rw [String.toList_ofList, head] at member
      obtain rfl := Option.some.inj (begins.symm.trans member)
      exact (alphabetic within).mp letter

theorem apart_of_nodup (apart : (matrix.plan.flatMap (cutNames config)).Nodup) : (matrix.plan.map shape).Nodup := by
  have disjoint := (List.nodup_flatMap.mp apart).2
  refine List.pairwise_map.mpr (disjoint.imp_of_mem fun {cell other} member member' disjoint same => ?_)
  have usable := mem_plan member
  have usable' := mem_plan member'
  refine disjoint (mem_cutNames.mpr ⟨1, ⟨le_rfl, usable.2⟩, rfl⟩) (mem_cutNames.mpr ⟨1, ⟨le_rfl, usable'.2⟩, ?_⟩)
  rw [longName_congr usable.1 usable'.1 same]

theorem length_toString (n : Nat) : (toString n).length = (digits n).length := by
  rw [Nat.toString_eq_ofList_toDigits, ← String.length_toList, String.toList_ofList, digits]

theorem sanitized_toString (n : Nat) : sanitized (toString n) = digits n := by
  rw [sanitized, Nat.toString_eq_ofList_toDigits, String.toList_ofList]
  exact (numeric_digits n).same

theorem longName_several (several : 1 < cell.size) (index : Nat) :
    longName config cell index = sanitized (config.namePrefix ++ cell.key) ++ '-' :: digits index := by
  rw [longName, if_neg (not_le.mpr several), sanitized_append _ ("-" ++ _), sanitized_append "-", sanitized_toString]
  rfl

theorem length_sanitized (raw : String) : (sanitized raw).length = raw.length := by
  rw [sanitized, List.length_map, String.length_toList]

theorem room_of_names (several : 1 < cell.size) (apart : (cutNames config cell).Nodup) :
    (config.namePrefix ++ cell.key).length + 1 + (toString cell.size).length ≤ 63 := by
  simp only [cutNames, longName_several several] at apart
  have room := room_of_nodup several apart
  rwa [length_sanitized, ← length_toString] at room

theorem single_of_long (fit : NamesFit config matrix) (member : cell ∈ matrix.plan) {index : Nat} (within : index ≤ cell.size)
    (long : 63 < (longName config cell index).length) : cell.size = 1 ∧ 63 < (config.namePrefix ++ cell.key).length := by
  have positive := (mem_plan member).2
  by_cases several : 1 < cell.size
  · have room := fit.room cell member several
    have digits_le := length_digits_le within
    rw [longName_several several, List.length_append, List.length_cons, length_sanitized] at long
    rw [length_toString] at room
    omega
  · rw [longName, if_pos (not_lt.mp several), length_sanitized, String.append_empty] at long
    exact ⟨by omega, long⟩

theorem longName_single (single : cell.size = 1) (index : Nat) :
    longName config cell index = sanitized (config.namePrefix ++ cell.key) := by
  rw [longName, if_pos single.le, String.append_empty]

theorem names_disjoint (fit : NamesFit config matrix) (member : cell ∈ matrix.plan) (member' : other ∈ matrix.plan)
    (unlike : shape cell ≠ shape other) : (cutNames config cell).Disjoint (cutNames config other) := by
  -- A long name is the beginning of no other one.
  have long_apart {cell other : Planned} (member : cell ∈ matrix.plan) (member' : other ∈ matrix.plan) (unequal : other ≠ cell)
      {index index' : Nat} (within : 1 ≤ index ∧ index ≤ cell.size) (within' : 1 ≤ index' ∧ index' ≤ other.size)
      (long : 63 < (longName config cell index).length) :
      (longName config cell index).take 63 ≠ (longName config other index').take 63 := by
    intro same
    obtain ⟨single, longKey⟩ := single_of_long fit member within.2 long
    have listed : longName config other index' ∈ longNames config other :=
      List.mem_map_of_mem (List.mem_range'_1.mpr (by omega))
    rw [longName_single single] at same
    exact (fit.cut cell member single longKey).2 other member' unequal _ listed (same ▸ List.take_prefix 63 _)
  intro text one two
  obtain ⟨index, within, rfl⟩ := mem_cutNames.mp one
  obtain ⟨index', within', same⟩ := mem_cutNames.mp two
  have unequal : other ≠ cell := fun equal => unlike (congrArg shape equal.symm)
  by_cases long : 63 < (longName config cell index).length
  · exact long_apart member member' unequal within within' long same.symm
  by_cases long' : 63 < (longName config other index').length
  · exact long_apart member' member unequal.symm within' within long' same
  rw [List.take_of_length_le (not_lt.mp long), List.take_of_length_le (not_lt.mp long')] at same
  exact unlike (longName_inj (mem_plan member) (mem_plan member') same.symm).1

theorem cutNames_nodup (fit : NamesFit config matrix) (member : cell ∈ matrix.plan) : (cutNames config cell).Nodup := by
  have usable := mem_plan member
  by_cases several : 1 < cell.size
  · refine List.Nodup.map_on ?_ List.nodup_range'
    intro index within index' within' same
    rw [List.mem_range'_1] at within within'
    have short {index : Nat} (within : index ≤ cell.size) : (longName config cell index).length ≤ 63 := by
      by_contra long
      have := (single_of_long fit member within (not_le.mp long)).1
      omega
    rw [List.take_of_length_le (short (by omega)), List.take_of_length_le (short (by omega))] at same
    exact (longName_inj usable usable same).2 several
  · have single : cell.size = 1 := by omega
    rw [cutNames, single]
    exact List.nodup_singleton _

theorem getLast_longName (usable : Usable cell.llm) (index : Nat) : (longName config cell index).getLast? ≠ some '-' := by
  have ends (front : List Char) (words : List (List Char)) {word : List Char} (nonempty : word ≠ []) (bare : '-' ∉ word) :
      (front ++ dashed (words ++ [word])).getLast? ≠ some '-' := by
    have shape : front ++ dashed (words ++ [word]) = (front ++ dashed words ++ ['-']) ++ word := by simp [dashed]
    rw [shape, List.getLast?_append_of_ne_nil _ nonempty]
    exact fun last => bare (List.mem_of_getLast? last)
  have nonempty : ∀ word ∈ lastWords, word ≠ [] := by decide
  rw [longName_eq usable, numbers]
  split
  · rw [List.append_nil, llmWords]
    exact ends _ _ (nonempty _ (lastWord_mem usable)) (bare_lastWords _ (lastWord_mem usable)).1
  · have regroup : llmWords cell.llm ++ ['n' :: digits cell.size, digits index] =
        (llmWords cell.llm ++ ['n' :: digits cell.size]) ++ [digits index] := by simp
    rw [regroup]
    exact ends _ _ Nat.toDigits_ne_nil (numeric_digits index).bare

theorem valid_name_iff (usable : Usable cell.llm) (index : Nat) :
    ValidInstanceName (String.ofList ((longName config cell index).take 63)) ↔
      (∃ first ∈ (sanitized (config.namePrefix ++ cell.agent)).head?, first.isAlpha = true) ∧
        ((longName config cell index).take 63).getLast? ≠ some '-' := by
  have allowed : ∀ c ∈ longName config cell index, c.isAlphanum = true ∨ c = '-' := by
    intro c member
    obtain ⟨raw, -, rfl⟩ := List.mem_map.mp member
    exact sanitizeChar_allowed raw
  rw [valid_iff allowed, longName_eq usable]
  cases begins : sanitized (config.namePrefix ++ cell.agent) with
  | nil =>
      have dash : (dashed (llmWords cell.llm ++ numbers cell.size index)).head? = some '-' := by
        cases cell.llm <;> rfl
      simp [dash]
  | cons first rest => simp

theorem valid_of_fit (fit : NamesFit config matrix) (member : cell ∈ matrix.plan) {index : Nat} (within : index ≤ cell.size) :
    ValidInstanceName (String.ofList ((longName config cell index).take 63)) := by
  have usable := (mem_plan member).1
  refine (valid_name_iff usable index).mpr ⟨fit.letter cell member, ?_⟩
  by_cases long : 63 < (longName config cell index).length
  · obtain ⟨single, longKey⟩ := single_of_long fit member within long
    rw [longName_single single]
    exact (fit.cut cell member single longKey).1
  · rw [List.take_of_length_le (not_lt.mp long)]
    exact getLast_longName usable index

/-- The keys and the names are right exactly if the names fit. -/
theorem names_right_iff (config : RunnerConfig) (matrix : MatrixConfig) :
    (((generate matrix).map fun cell => cell.key).Nodup ∧ (fleetNames config matrix).Nodup ∧
      ∀ name ∈ fleetNames config matrix, ValidInstanceName name) ↔ NamesFit config matrix := by
  have keys : (generate matrix).map (fun cell => cell.key) = matrix.plan.map Planned.key := by
    have cells := congrArg (List.map MatrixCell.key) (cells_generate matrix)
    rw [List.map_map, List.map_map] at cells
    exact cells
  have injective : Function.Injective String.ofList := fun _ _ => String.ofList_injective
  rw [keys, fleetNames_eq, List.nodup_map_iff injective, List.forall_mem_map]
  constructor
  · rintro ⟨-, apart, valid⟩
    have validName {cell : Planned} (member : cell ∈ matrix.plan) {index : Nat} (within : 1 ≤ index ∧ index ≤ cell.size) :=
      (valid_name_iff (mem_plan member).1 index).mp
        (valid _ (List.mem_flatMap.mpr ⟨cell, member, mem_cutNames.mpr ⟨index, within, rfl⟩⟩))
    obtain ⟨within, disjoint⟩ := List.nodup_flatMap.mp apart
    constructor
    · exact apart_of_nodup apart
    · exact fun cell member => (validName member ⟨le_rfl, (mem_plan member).2⟩).1
    · exact fun cell member several => room_of_names several (within cell member)
    · intro cell member single long
      have first : longName config cell 1 = _ := longName_single single 1
      refine ⟨first ▸ (validName member ⟨le_rfl, (mem_plan member).2⟩).2, ?_⟩
      intro other member' unequal name listed begins
      obtain ⟨index, bounds, rfl⟩ := List.mem_map.mp listed
      rw [List.mem_range'_1] at bounds
      have symmetric : Std.Symm (Function.onFun List.Disjoint (cutNames config)) := 
        ⟨fun _ _ apart _ one two => apart two one⟩
      have length : ((sanitized (config.namePrefix ++ cell.key)).take 63).length = 63 := by
        rw [List.length_take, length_sanitized]
        exact min_eq_left long.le
      have same := List.prefix_iff_eq_take.mp begins
      rw [length] at same
      refine disjoint.forall member member' unequal.symm (mem_cutNames.mpr ⟨1, ⟨le_rfl, (mem_plan member).2⟩, rfl⟩)
        (mem_cutNames.mpr ⟨index, by omega, ?_⟩)
      rw [first, same]
      rfl
  · intro fit
    refine ⟨?_, ?_, ?_⟩
    · refine List.pairwise_map.mpr ((List.pairwise_map.mp fit.apart).imp_of_mem fun member member' unlike same => ?_)
      exact unlike (key_inj (mem_plan member) (mem_plan member') same)
    · refine List.nodup_flatMap.mpr ⟨fun cell member => cutNames_nodup fit member, ?_⟩
      exact (List.pairwise_map.mp fit.apart).imp_of_mem fun member member' unlike => names_disjoint fit member member' unlike
    · intro text listed
      obtain ⟨cell, member, named⟩ := List.mem_flatMap.mp listed
      obtain ⟨index, within, rfl⟩ := mem_cutNames.mp named
      exact valid_of_fit fit member within.2

/-- With a prefix of 45 characters, the names of the two instances of a cluster are cut before the index. -/
theorem index_cut_off :
    ¬ ∀ (config : RunnerConfig) (matrix : MatrixConfig), ((generate matrix).map fun cell => cell.key).Nodup ∧
      (fleetNames config matrix).Nodup ∧ ∀ name ∈ fleetNames config matrix, ValidInstanceName name := by
  intro right
  let config : RunnerConfig := ⟨"mac-mgmt-runner-integration-tests-staging-eu-", [], 3, 15⟩
  let matrix : MatrixConfig :=
    { MatrixConfig.default with agents := some ["openclaw"], llms := some ["ollama"], clusterSizes := [2] }
  have twice : fleetNames config matrix =
      ["mac-mgmt-runner-integration-tests-staging-eu-openclaw-ollama-n2",
        "mac-mgmt-runner-integration-tests-staging-eu-openclaw-ollama-n2"] := by
    decide +kernel
  have apart := (right config matrix).2.1
  rw [twice] at apart
  exact (List.nodup_cons.mp apart).1 (List.mem_singleton_self _)

end MacMgmt.Proof.Matrix
