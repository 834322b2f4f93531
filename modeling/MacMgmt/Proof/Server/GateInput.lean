import MacMgmt.Lib.Replace
import MacMgmt.Server.StageHealth

/-!
# The stored gate and the one that is shown

The evaluator refuses a gate as a whole, the editor takes what it can from it; what the editor writes is read as it was meant.
-/

namespace MacMgmt.Proof.GateInput
open Lib MacMgmt.Server

variable {v value : JsonValue} {gate : HealthGate}

/-! ## Reading members -/

theorem deserializeU8_iff {pct : Nat} : deserializeU8 value = some pct ↔ value.asU64 = some pct ∧ pct < 2 ^ 8 := by
  simp [deserializeU8, Option.filter_eq_some_iff]

theorem deserializeU32_iff {secs : BitVec 32} : deserializeU32 value = some secs ↔ value.asU64 = some secs.toNat := by
  rw [deserializeU32, Option.map_eq_some_iff]
  constructor
  · rintro ⟨n, found, rfl⟩
    obtain ⟨found, small⟩ := Option.filter_eq_some_iff.mp found
    rw [BitVec.toNat_ofNat, Nat.mod_eq_of_lt (by simpa using small)]
    exact found
  · intro found
    exact ⟨secs.toNat, Option.filter_eq_some_iff.mpr ⟨found, by simpa using secs.isLt⟩, by simp⟩

theorem deserializeOr_iff {T : Type} {deserialize : JsonValue → Option T} {missing read : T} {member : Option JsonValue} :
    deserializeOr deserialize missing member = some read ↔
      (member = none ∧ read = missing) ∨ ∃ value, member = some value ∧ deserialize value = some read := by
  cases member <;> simp [deserializeOr, eq_comm]

theorem lookup_foldlM_u8 {fields : List (String × JsonValue)} (sorted : KeySorted fields) {map after : Table String Nat}
    (read : fields.foldlM (fun map entry => (deserializeU8 entry.2).map fun pct => map.insert entry.1 pct) map = some after)
    (name : String) :
    after.lookup name = match fields.lookup name with
      | none => map.lookup name
      | some value => deserializeU8 value := by
  induction fields generalizing map with
  | nil =>
      obtain rfl := Option.some.inj read
      rfl
  | cons entry rest ih =>
      obtain ⟨head, value⟩ := entry
      obtain ⟨above, sortedRest⟩ := List.pairwise_cons.mp sorted
      rw [List.foldlM_cons, Option.bind_eq_bind, Option.bind_eq_some_iff] at read
      obtain ⟨inserted, first, read⟩ := read
      obtain ⟨pct, given, rfl⟩ := Option.map_eq_some_iff.mp first
      rw [ih sortedRest read, lookup_cons_ite, Table.lookup_insert_ite]
      split_ifs with same
      · subst same
        have absent : rest.lookup name = none :=
          List.lookup_eq_none_iff.mpr fun entry member => by simpa using (above entry member).ne
        rw [absent]
        exact given.symm
      · rfl

theorem foldlM_u8_isSome {fields : List (String × JsonValue)} {map : Table String Nat} :
    (fields.foldlM (fun map entry => (deserializeU8 entry.2).map fun pct => map.insert entry.1 pct) map).isSome = true ↔
      ∀ entry ∈ fields, (deserializeU8 entry.2).isSome = true := by
  induction fields generalizing map with
  | nil => simp
  | cons entry rest ih =>
      rw [List.foldlM_cons, List.forall_mem_cons]
      cases deserializeU8 entry.2 <;> simp [ih]

theorem lookup_deserializeMap (sorted : value.Sorted) {map : Table String Nat} (read : deserializeMap value = some map)
    (name : String) : map.lookup name = (value.field name).bind deserializeU8 := by
  obtain ⟨fields, object, read⟩ := Option.bind_eq_some_iff.mp read
  cases sorted with
  | null | bool | number | string | array => cases object
  | @object members sorted _ =>
      obtain rfl := Option.some.inj object
      rw [lookup_foldlM_u8 sorted read, JsonValue.field]
      cases members.lookup name <;> rfl

theorem deserializeMap_isSome (sorted : value.Sorted) :
    (deserializeMap value).isSome = true ↔
      value.isObject = true ∧ ∀ name member, value.field name = some member → (deserializeU8 member).isSome = true := by
  cases sorted with
  | null | bool | number | string | array => simp [deserializeMap, JsonValue.asObject, JsonValue.isObject]
  | @object fields sorted _ =>
      simp only [deserializeMap, JsonValue.asObject, Option.bind_eq_bind, Option.bind_some, foldlM_u8_isSome,
        JsonValue.isObject, true_and, JsonValue.field, lookup_eq_some_iff sorted, Prod.forall]

theorem ofMembers_iff {pct freshness probes grace : Option JsonValue} :
    HealthGate.ofMembers pct freshness probes grace = some gate ↔
      deserializeOr deserializeU8 95 pct = some gate.minHeartbeatFreshPct ∧
      deserializeOr deserializeU32 180 freshness = some gate.heartbeatFreshnessSecs ∧
      deserializeOr deserializeMap ∅ probes = some gate.minProbeOkPct ∧
      deserializeOr deserializeU32 600 grace = some gate.gracePeriodSecs := by
  obtain ⟨pct', freshness', probes', grace'⟩ := gate
  simp only [HealthGate.ofMembers, Option.bind_eq_bind, Option.bind_eq_some_iff, Option.pure_def, Option.some.injEq,
    HealthGate.mk.injEq]
  constructor
  · rintro ⟨_, first, _, second, _, third, _, fourth, rfl, rfl, rfl, rfl⟩
    exact ⟨first, second, third, fourth⟩
  · rintro ⟨first, second, third, fourth⟩
    exact ⟨_, first, _, second, _, third, _, fourth, rfl, rfl, rfl, rfl⟩

/-! ## What the editor shows -/

def probe (v : JsonValue) (name : String) : Option JsonValue := (v.field "min_probe_ok_pct").bind fun probes => probes.field name

theorem sorted_thresholds (sorted : v.Sorted) : KeySorted (HealthGateInput.fromJson v).probeThresholds ∧
    ∀ name, (HealthGateInput.fromJson v).probeThresholds.lookup name = ((probe v name).bind JsonValue.asU64).map fun n => min n 100 := by
  have alone : ∀ {thresholds : List (String × Nat)}, KeySorted thresholds →
      thresholds.mergeSort (fun a b => a.1 ≤ b.1) = thresholds := fun sorted =>
    List.mergeSort_of_pairwise (List.Pairwise.imp (fun below => decide_eq_true below.le) sorted)
  simp only [HealthGateInput.fromJson, probe]
  cases found : v.field "min_probe_ok_pct" with
  | none => simp [KeySorted]
  | some probes =>
      cases sorted.field found with
      | null | bool | number | string | array => simp [KeySorted, JsonValue.asObject, JsonValue.field]
      | @object fields sortedFields _ =>
          have sortedValues := sortedFields.mapValues fun value : JsonValue => value.asU64.map fun n => min n 100
          simp only [Option.bind_some, JsonValue.asObject, Option.map_some, Option.getD_some, alone sortedValues]
          refine ⟨sortedValues, fun name => ?_⟩
          rw [lookup_mapValues sortedFields, JsonValue.field, Option.map_bind]
          rfl

theorem fromJson_pct (v : JsonValue) :
    (HealthGateInput.fromJson v).minHeartbeatFreshPct =
      (((v.field "min_heartbeat_fresh_pct").bind JsonValue.asU64).map fun n => min n 100).getD 95 := rfl

theorem pct_le (v : JsonValue) : (HealthGateInput.fromJson v).minHeartbeatFreshPct ≤ 100 := by
  rw [fromJson_pct]
  cases (v.field "min_heartbeat_fresh_pct").bind JsonValue.asU64 <;> simp

/-! ## What the editor writes -/

structure SameThresholds (gate : HealthGate) (input : HealthGateInput) : Prop where
  pct : gate.minHeartbeatFreshPct = input.minHeartbeatFreshPct
  freshness : gate.heartbeatFreshnessSecs = input.heartbeatFreshnessSecs
  grace : gate.gracePeriodSecs = input.gracePeriodSecs
  probes : ∀ service, gate.minProbeOkPct.lookup service = input.probeThresholds.lookup service

structure SameGate (first second : HealthGate) : Prop where
  pct : first.minHeartbeatFreshPct = second.minHeartbeatFreshPct
  freshness : first.heartbeatFreshnessSecs = second.heartbeatFreshnessSecs
  grace : first.gracePeriodSecs = second.gracePeriodSecs
  probes : ∀ service, first.minProbeOkPct.lookup service = second.minProbeOkPct.lookup service

def Plain (name : String) : Prop := trim name = name ∧ name ≠ ""

theorem trim_trim (name : String) : trim (trim name) = trim name := by
  have trimmed : ∀ text : List Char, ((text.dropWhile isWhitespace).reverse.dropWhile isWhitespace).reverse =
      (text.dropWhile isWhitespace).rdropWhile isWhitespace := fun _ => rfl
  rw [trim, trim, String.toList_ofList, trimmed, trimmed, trim_idem]

theorem probeMap_entries {thresholds : List (String × Nat)} :
    KeySorted (HealthGateInput.probeMap thresholds) ∧
      ∀ entry ∈ HealthGateInput.probeMap thresholds, Plain entry.1 ∧ ∃ pct ≤ 100, entry.2 = .ofNat pct := by
  induction thresholds using List.reverseRecOn with
  | nil => exact ⟨List.Pairwise.nil, by simp [HealthGateInput.probeMap]⟩
  | append_singleton thresholds entry ih =>
      rw [HealthGateInput.probeMap, List.foldl_append, List.foldl_cons, List.foldl_nil, ← HealthGateInput.probeMap]
      split_ifs with blank
      · exact ih
      · refine ⟨ih.1.insertSorted _ _, fun written member => ?_⟩
        rcases mem_insertSorted member with rfl | old
        · exact ⟨⟨trim_trim entry.1, blank⟩, _, min_le_right _ _, rfl⟩
        · exact ih.2 written old

theorem lookup_probeMap {thresholds : List (String × Nat)} (sorted : KeySorted thresholds)
    (plain : ∀ entry ∈ thresholds, Plain entry.1) (name : String) :
    (HealthGateInput.probeMap thresholds).lookup name = (thresholds.lookup name).map fun pct => .ofNat (min pct 100) := by
  have merged : HealthGateInput.probeMap thresholds =
      mergeEntries (fun _ pct => some (.ofNat (min pct 100))) [] thresholds := by
    rw [HealthGateInput.probeMap]
    generalize ([] : List (String × JsonValue)) = map
    induction thresholds generalizing map with
    | nil => rfl
    | cons entry rest ih =>
        obtain ⟨plainEntry, plainRest⟩ := List.forall_mem_cons.mp plain
        rw [List.foldl_cons, plainEntry.1, if_neg plainEntry.2, ih (List.pairwise_cons.mp sorted).2 plainRest]
        rfl
  rw [merged, lookup_mergeEntries [] sorted]
  cases thresholds.lookup name <;> rfl

theorem saved_same_iff {gate : HealthGate} {input : HealthGateInput} (enabled : input.enabled = true)
    (pct : input.minHeartbeatFreshPct ≤ 100) (sorted : KeySorted input.probeThresholds)
    (within : ∀ entry ∈ input.probeThresholds, entry.2 ≤ 100) (same : SameThresholds gate input) :
    (∃ saved, input.toJson = some saved ∧ SameGate (HealthGate.evaluated saved) gate) ↔
      10 ≤ input.heartbeatFreshnessSecs.toNat ∧ ∀ entry ∈ input.probeThresholds, Plain entry.1 := by
  obtain ⟨sortedMap, entries⟩ := @probeMap_entries input.probeThresholds
  have sortedProbes : (JsonValue.object (HealthGateInput.probeMap input.probeThresholds)).Sorted := by
    refine .object sortedMap fun entry member => ?_
    obtain ⟨-, pct, -, written⟩ := entries entry member
    exact written ▸ .number _
  have fresh : max input.heartbeatFreshnessSecs.toNat 10 < 2 ^ 32 := max_lt input.heartbeatFreshnessSecs.isLt (by decide)
  have readable : (deserializeMap (.object (HealthGateInput.probeMap input.probeThresholds))).isSome = true := by
    refine (deserializeMap_isSome sortedProbes).mpr ⟨rfl, fun name member found => ?_⟩
    obtain ⟨-, pct, small, written⟩ := entries (name, member) ((lookup_eq_some_iff sortedMap name member).mp found)
    obtain rfl : member = _ := written
    exact Option.isSome_iff_exists.mpr ⟨pct, deserializeU8_iff.mpr ⟨JsonValue.asU64_ofNat (by omega), by omega⟩⟩
  obtain ⟨map, read⟩ := Option.isSome_iff_exists.mp readable
  have lookups := lookup_deserializeMap sortedProbes read
  have decoded : HealthGate.fromValue (.object [
      ("grace_period_secs", .ofNat input.gracePeriodSecs.toNat),
      ("heartbeat_freshness_secs", .ofNat (max input.heartbeatFreshnessSecs.toNat 10)),
      ("min_heartbeat_fresh_pct", .ofNat (min input.minHeartbeatFreshPct 100)),
      ("min_probe_ok_pct", .object (HealthGateInput.probeMap input.probeThresholds))]) =
      some ⟨input.minHeartbeatFreshPct, BitVec.ofNat 32 (max input.heartbeatFreshnessSecs.toNat 10), map, input.gracePeriodSecs⟩ := by
    have inRange := input.gracePeriodSecs.isLt
    refine ofMembers_iff.mpr ⟨?_, ?_, read, ?_⟩
    · show deserializeU8 (.ofNat (min input.minHeartbeatFreshPct 100)) = _
      rw [min_eq_left pct]
      exact deserializeU8_iff.mpr ⟨JsonValue.asU64_ofNat (by omega), pct.trans_lt (by decide)⟩
    · show deserializeU32 (.ofNat (max input.heartbeatFreshnessSecs.toNat 10)) = _
      rw [deserializeU32_iff, BitVec.toNat_ofNat, Nat.mod_eq_of_lt fresh]
      exact JsonValue.asU64_ofNat (by omega)
    · show deserializeU32 (.ofNat input.gracePeriodSecs.toNat) = _
      exact deserializeU32_iff.mpr (JsonValue.asU64_ofNat (by omega))
  have evaluated (saved : JsonValue) (written : input.toJson = some saved) :
      HealthGate.evaluated saved =
        ⟨input.minHeartbeatFreshPct, BitVec.ofNat 32 (max input.heartbeatFreshnessSecs.toNat 10), map, input.gracePeriodSecs⟩ := by
    rw [HealthGateInput.toJson, if_pos enabled, Option.some.injEq] at written
    rw [HealthGate.evaluated, ← written, decoded, Option.getD_some]
  constructor
  · rintro ⟨saved, written, again⟩
    rw [evaluated saved written] at again
    constructor
    · have kept := congrArg BitVec.toNat (again.freshness.trans same.freshness)
      rw [BitVec.toNat_ofNat, Nat.mod_eq_of_lt fresh] at kept
      omega
    · intro entry member
      have shown := (lookup_eq_some_iff sorted entry.1 entry.2).mpr member
      have found := lookups entry.1
      rw [again.probes, same.probes, shown] at found
      obtain ⟨value, among, -⟩ := Option.bind_eq_some_iff.mp found.symm
      exact (entries (entry.1, value) ((lookup_eq_some_iff sortedMap entry.1 value).mp among)).1
  · rintro ⟨slow, plain⟩
    refine ⟨_, if_pos enabled, ?_⟩
    rw [evaluated _ (if_pos enabled)]
    refine ⟨same.pct.symm, ?_, same.grace.symm, fun service => ?_⟩
    · rw [same.freshness, max_eq_left slow]
      simp
    · rw [same.probes, lookups, JsonValue.field, lookup_probeMap sorted plain]
      cases found : input.probeThresholds.lookup service with
      | none => rfl
      | some pct =>
          have small := within (service, pct) ((lookup_eq_some_iff sorted service pct).mp found)
          rw [Option.map_some, Option.bind_some, min_eq_left small]
          exact deserializeU8_iff.mpr ⟨JsonValue.asU64_ofNat (by omega), by omega⟩

/-! ## When both agree -/

/-- The evaluator and the editor have the same thresholds, and what the editor saves is evaluated as before. -/
def Agrees (v : JsonValue) : Prop :=
  SameThresholds (HealthGate.evaluated v) (HealthGateInput.fromJson v) ∧
    ∃ saved, (HealthGateInput.fromJson v).toJson = some saved ∧
      SameGate (HealthGate.evaluated saved) (HealthGate.evaluated v)

theorem agrees_iff (sorted : v.Sorted) :
    Agrees v ↔ SameThresholds (HealthGate.evaluated v) (HealthGateInput.fromJson v) ∧
      10 ≤ (HealthGateInput.fromJson v).heartbeatFreshnessSecs.toNat ∧
      ∀ entry ∈ (HealthGateInput.fromJson v).probeThresholds, Plain entry.1 := by
  obtain ⟨sortedShown, shown⟩ := sorted_thresholds sorted
  refine and_congr_right fun same => saved_same_iff rfl (pct_le v) sortedShown ?_ same
  intro entry member
  have found := shown entry.1
  rw [(lookup_eq_some_iff sortedShown entry.1 entry.2).mpr member] at found
  obtain ⟨n, -, least⟩ := Option.map_eq_some_iff.mp found.symm
  exact least ▸ min_le_right n 100

def shownAt (v : JsonValue) (name : String) : Option Nat := (v.field name).bind JsonValue.asU64

structure WellTyped (v : JsonValue) : Prop where
  pct : ∀ member, v.field "min_heartbeat_fresh_pct" = some member → ∃ n < 2 ^ 8, member.asU64 = some n
  freshness : ∀ member, v.field "heartbeat_freshness_secs" = some member → ∃ n < 2 ^ 32, member.asU64 = some n
  grace : ∀ member, v.field "grace_period_secs" = some member → ∃ n < 2 ^ 32, member.asU64 = some n
  probes : ∀ member, v.field "min_probe_ok_pct" = some member → member.isObject = true ∧
    ∀ name value, member.field name = some value → ∃ n < 2 ^ 8, value.asU64 = some n

/-- Percentages up to 100, a freshness of 10 seconds or more, and names that the editor writes as they are. -/
structure Editable (v : JsonValue) : Prop where
  pct : ∀ n, shownAt v "min_heartbeat_fresh_pct" = some n → n ≤ 100
  freshness : ∀ n, shownAt v "heartbeat_freshness_secs" = some n → 10 ≤ n
  probes : ∀ name n, (probe v name).bind JsonValue.asU64 = some n → n ≤ 100 ∧ Plain name

/-- What the editor can read of the value is what the default gate has. -/
structure LikeDefault (v : JsonValue) : Prop where
  pct : ∀ n, shownAt v "min_heartbeat_fresh_pct" = some n → n = 95
  freshness : ∀ n, shownAt v "heartbeat_freshness_secs" = some n → n % 2 ^ 32 = 180
  grace : ∀ n, shownAt v "grace_period_secs" = some n → n % 2 ^ 32 = 600
  probes : ∀ name n, (probe v name).bind JsonValue.asU64 = some n ↔ (name = "openclaw" ∨ name = "ollama") ∧ n = 90

/-- The members in their order, each with its default and without probes. -/
structure DefaultArray (items : List JsonValue) : Prop where
  length : items.length ≤ 4
  pct : ∀ member, items[0]? = some member → member.asU64 = some 95
  freshness : ∀ member, items[1]? = some member → member.asU64 = some 180
  probes : ∀ member, items[2]? = some member → member = .object []
  grace : ∀ member, items[3]? = some member → member.asU64 = some 600

theorem ofMembers_isSome {pct freshness probes grace : Option JsonValue} :
    (HealthGate.ofMembers pct freshness probes grace).isSome = true ↔
      (deserializeOr deserializeU8 95 pct).isSome = true ∧ (deserializeOr deserializeU32 180 freshness).isSome = true ∧
      (deserializeOr deserializeMap ∅ probes).isSome = true ∧ (deserializeOr deserializeU32 600 grace).isSome = true := by
  simp only [Option.isSome_iff_exists, ofMembers_iff]
  constructor
  · rintro ⟨gate, first, second, third, fourth⟩
    exact ⟨⟨_, first⟩, ⟨_, second⟩, ⟨_, third⟩, ⟨_, fourth⟩⟩
  · rintro ⟨⟨pct, first⟩, ⟨freshness, second⟩, ⟨probes, third⟩, ⟨grace, fourth⟩⟩
    exact ⟨⟨pct, freshness, probes, grace⟩, first, second, third, fourth⟩

theorem deserializeOr_isSome {T : Type} {deserialize : JsonValue → Option T} {missing : T} {member : Option JsonValue} :
    (deserializeOr deserialize missing member).isSome = true ↔ ∀ value, member = some value → (deserialize value).isSome = true := by
  cases member <;> simp [deserializeOr]

theorem deserializeU8_isSome : (deserializeU8 value).isSome = true ↔ ∃ n < 2 ^ 8, value.asU64 = some n := by
  simp only [Option.isSome_iff_exists, deserializeU8_iff, and_comm]

theorem deserializeU32_isSome : (deserializeU32 value).isSome = true ↔ ∃ n < 2 ^ 32, value.asU64 = some n := by
  simp only [Option.isSome_iff_exists, deserializeU32_iff]
  constructor
  · rintro ⟨secs, found⟩
    exact ⟨secs.toNat, secs.isLt, found⟩
  · rintro ⟨n, small, found⟩
    exact ⟨BitVec.ofNat 32 n, by rw [BitVec.toNat_ofNat, Nat.mod_eq_of_lt small, found]⟩

theorem fromValue_isSome (sorted : v.Sorted) (object : v.isObject = true) :
    (HealthGate.fromValue v).isSome = true ↔ WellTyped v := by
  cases v with
  | null | bool | number | string | array => simp [JsonValue.isObject] at object
  | object fields =>
      rw [HealthGate.fromValue, ofMembers_isSome]
      simp only [deserializeOr_isSome, deserializeU8_isSome, deserializeU32_isSome]
      constructor
      · rintro ⟨pct, freshness, probes, grace⟩
        refine ⟨pct, freshness, grace, fun member found => ?_⟩
        simpa only [deserializeMap_isSome (sorted.field found), deserializeU8_isSome] using probes member found
      · rintro ⟨pct, freshness, grace, probes⟩
        refine ⟨pct, freshness, fun member found => ?_, grace⟩
        simpa only [deserializeMap_isSome (sorted.field found), deserializeU8_isSome] using probes member found

/-! ## One threshold -/

theorem shown_u8 {name : String} {missing pct : Nat} (read : deserializeOr deserializeU8 missing (v.field name) = some pct) :
    pct = (shownAt v name).getD missing := by
  rcases deserializeOr_iff.mp read with ⟨absent, rfl⟩ | ⟨member, found, given⟩
  · rw [shownAt, absent]
    rfl
  · rw [shownAt, found, Option.bind_some, (deserializeU8_iff.mp given).1, Option.getD_some]

theorem shown_u32 {name : String} {missing secs : BitVec 32}
    (read : deserializeOr deserializeU32 missing (v.field name) = some secs) :
    secs = ((shownAt v name).map (BitVec.ofNat 32)).getD missing := by
  rcases deserializeOr_iff.mp read with ⟨absent, rfl⟩ | ⟨member, found, given⟩
  · rw [shownAt, absent]
    rfl
  · rw [shownAt, found, Option.bind_some, deserializeU32_iff.mp given]
    simp

theorem lookup_probes (sorted : v.Sorted) {map : Table String Nat}
    (read : deserializeOr deserializeMap ∅ (v.field "min_probe_ok_pct") = some map) (service : String) :
    map.lookup service = (probe v service).bind deserializeU8 := by
  rcases deserializeOr_iff.mp read with ⟨absent, rfl⟩ | ⟨member, found, given⟩
  · rw [probe, absent]
    rfl
  · rw [probe, found, Option.bind_some, lookup_deserializeMap (sorted.field found) given]

theorem clamped_iff (shown : Option Nat) (missing : Nat) :
    shown.getD missing = (shown.map fun n => min n 100).getD missing ↔ ∀ n, shown = some n → n ≤ 100 := by
  cases shown <;> simp

theorem plain_iff (sorted : v.Sorted) :
    (∀ entry ∈ (HealthGateInput.fromJson v).probeThresholds, Plain entry.1) ↔
      ∀ name n, (probe v name).bind JsonValue.asU64 = some n → Plain name := by
  obtain ⟨sortedShown, shown⟩ := sorted_thresholds sorted
  constructor
  · intro plain name n given
    refine plain (name, min n 100) ((lookup_eq_some_iff sortedShown name _).mp ?_)
    rw [shown, given, Option.map_some]
  · intro plain entry member
    have found := shown entry.1
    rw [(lookup_eq_some_iff sortedShown entry.1 entry.2).mpr member] at found
    obtain ⟨n, given, -⟩ := Option.map_eq_some_iff.mp found.symm
    exact plain entry.1 n given

/-! ## Objects -/

theorem agrees_of_wellTyped (sorted : v.Sorted) (object : v.isObject = true) (wellTyped : WellTyped v) :
    Agrees v ↔ Editable v := by
  obtain ⟨gate, read⟩ := Option.isSome_iff_exists.mp ((fromValue_isSome sorted object).mpr wellTyped)
  have evaluated : HealthGate.evaluated v = gate := by rw [HealthGate.evaluated, read, Option.getD_some]
  have members : HealthGate.fromValue v = HealthGate.ofMembers (v.field "min_heartbeat_fresh_pct")
      (v.field "heartbeat_freshness_secs") (v.field "min_probe_ok_pct") (v.field "grace_period_secs") := by
    cases v with
    | object fields => rfl
    | null | bool | number | string | array => simp [JsonValue.isObject] at object
  obtain ⟨pct, freshness, probes, grace⟩ := ofMembers_iff.mp (members ▸ read)
  obtain ⟨-, shown⟩ := sorted_thresholds sorted
  have samePct : gate.minHeartbeatFreshPct = (HealthGateInput.fromJson v).minHeartbeatFreshPct ↔
      ∀ n, shownAt v "min_heartbeat_fresh_pct" = some n → n ≤ 100 := by
    rw [shown_u8 pct]
    exact clamped_iff _ 95
  have sameFreshness : gate.heartbeatFreshnessSecs = (HealthGateInput.fromJson v).heartbeatFreshnessSecs := shown_u32 freshness
  have slow : 10 ≤ (HealthGateInput.fromJson v).heartbeatFreshnessSecs.toNat ↔
      ∀ n, shownAt v "heartbeat_freshness_secs" = some n → 10 ≤ n := by
    show 10 ≤ (((shownAt v "heartbeat_freshness_secs").map (BitVec.ofNat 32)).getD 180).toNat ↔ _
    cases shown : shownAt v "heartbeat_freshness_secs" with
    | none => simp
    | some n =>
        obtain ⟨member, found, given⟩ := Option.bind_eq_some_iff.mp shown
        obtain ⟨m, small, same⟩ := wellTyped.freshness member found
        obtain rfl := Option.some.inj (given.symm.trans same)
        rw [Option.map_some, Option.getD_some, BitVec.toNat_ofNat, Nat.mod_eq_of_lt small]
        simp
  have sameProbes : (∀ service, gate.minProbeOkPct.lookup service = (HealthGateInput.fromJson v).probeThresholds.lookup service) ↔
      ∀ name n, (probe v name).bind JsonValue.asU64 = some n → n ≤ 100 := by
    refine forall_congr' fun service => ?_
    rw [lookup_probes sorted probes, shown]
    cases found : probe v service with
    | none => simp
    | some member =>
        obtain ⟨object, listed, among⟩ := Option.bind_eq_some_iff.mp found
        obtain ⟨n, small, given⟩ := (wellTyped.probes object listed).2 service member among
        rw [Option.bind_some, Option.bind_some, given, deserializeU8_iff.mpr ⟨given, small⟩]
        simp
  rw [agrees_iff sorted, evaluated, plain_iff sorted, slow]
  constructor
  · rintro ⟨same, slow, plain⟩
    exact ⟨samePct.mp same.pct, slow, fun name n given => ⟨sameProbes.mp same.probes name n given, plain name n given⟩⟩
  · rintro ⟨within, slow, plain⟩
    exact ⟨⟨samePct.mpr within, sameFreshness, shown_u32 grace, sameProbes.mpr fun name n given => (plain name n given).1⟩, slow,
      fun name n given => (plain name n given).2⟩

theorem lookup_default (service : String) :
    HealthGate.default.minProbeOkPct.lookup service = if service = "openclaw" ∨ service = "ollama" then some 90 else none := by
  rw [HealthGate.default, ← AList.insert_empty, Table.lookup_insert_ite, Table.lookup_insert_ite]
  by_cases openclaw : service = "openclaw" <;> by_cases ollama : service = "ollama" <;> simp [openclaw, ollama]

theorem same_default_iff (sorted : v.Sorted) :
    SameThresholds .default (HealthGateInput.fromJson v) ↔ LikeDefault v := by
  obtain ⟨-, shown⟩ := sorted_thresholds sorted
  have pct : 95 = ((shownAt v "min_heartbeat_fresh_pct").map fun n => min n 100).getD 95 ↔
      ∀ n, shownAt v "min_heartbeat_fresh_pct" = some n → n = 95 := by
    cases shownAt v "min_heartbeat_fresh_pct" with
    | none => simp
    | some n => 
        simp only [Option.map_some, Option.getD_some, Option.some.injEq, forall_eq']
        omega
  have secs (name : String) (missing : BitVec 32) :
      missing = ((shownAt v name).map (BitVec.ofNat 32)).getD missing ↔
        ∀ n, shownAt v name = some n → n % 2 ^ 32 = missing.toNat := by
    cases shownAt v name with
    | none => simp
    | some n => simp [← BitVec.toNat_inj, eq_comm]
  have probes (service : String) :
      HealthGate.default.minProbeOkPct.lookup service = (HealthGateInput.fromJson v).probeThresholds.lookup service ↔
        ∀ n, (probe v service).bind JsonValue.asU64 = some n ↔ (service = "openclaw" ∨ service = "ollama") ∧ n = 90 := by
    rw [shown, lookup_default]
    cases (probe v service).bind JsonValue.asU64 with
    | none => split_ifs with named <;> simp [named]
    | some n =>
        split_ifs with named
        · simp only [Option.map_some, Option.some.injEq, named, true_and]
          constructor
          · intro ninety m
            omega
          · intro only
            have ninety := (only n).mp rfl
            omega
        · simp only [Option.map_some, reduceCtorEq, named, false_and, iff_false, Option.some.injEq, false_iff, not_forall, not_not]
          exact ⟨n, rfl⟩
  constructor
  · rintro ⟨samePct, sameFreshness, sameGrace, sameProbes⟩
    exact ⟨pct.mp samePct, (secs _ 180).mp sameFreshness, (secs _ 600).mp sameGrace, fun name => (probes name).mp (sameProbes name)⟩
  · rintro ⟨likePct, likeFreshness, likeGrace, likeProbes⟩
    exact ⟨pct.mpr likePct, (secs _ 180).mpr likeFreshness, (secs _ 600).mpr likeGrace, fun name => (probes name).mpr (likeProbes name)⟩

theorem agrees_of_not_wellTyped (sorted : v.Sorted) (object : v.isObject = true) (illTyped : ¬WellTyped v) :
    Agrees v ↔ LikeDefault v := by
  have refused : HealthGate.fromValue v = none := by
    rw [← Option.not_isSome_iff_eq_none, fromValue_isSome sorted object]
    exact illTyped
  have evaluated : HealthGate.evaluated v = .default := by rw [HealthGate.evaluated, refused, Option.getD_none]
  rw [agrees_iff sorted, evaluated, ← same_default_iff sorted]
  refine and_iff_left_of_imp fun same => ⟨?_, ?_⟩
  · rw [← same.freshness]
    decide
  · obtain ⟨sortedShown, -⟩ := sorted_thresholds sorted
    intro entry member
    have found := same.probes entry.1
    rw [lookup_default, (lookup_eq_some_iff sortedShown entry.1 entry.2).mpr member] at found
    split_ifs at found with named
    rcases named with openclaw | ollama
    · rw [openclaw]
      exact ⟨by decide, by decide⟩
    · rw [ollama]
      exact ⟨by decide, by decide⟩

/-! ## Arrays and scalars -/

theorem agrees_of_not_object (sorted : v.Sorted) (nonObject : v.isObject = false) :
    Agrees v ↔ ∃ map : Table String Nat, HealthGate.fromValue v = some ⟨95, 180, map, 600⟩ ∧ ∀ service, map.lookup service = none := by
  have shown : HealthGateInput.fromJson v = ⟨true, 95, 180, 600, []⟩ := by
    simp [HealthGateInput.fromJson, JsonValue.field_of_not_object nonObject, HealthGateInput.default]
  rw [agrees_iff sorted, shown]
  constructor
  · rintro ⟨⟨pct, freshness, grace, probes⟩, -, -⟩
    cases read : HealthGate.fromValue v with
    | none =>
        have ollama := probes "ollama"
        rw [HealthGate.evaluated, read, Option.getD_none, lookup_default] at ollama
        cases ollama
    | some gate =>
        have evaluated : HealthGate.evaluated v = gate := by rw [HealthGate.evaluated, read, Option.getD_some]
        rw [evaluated] at pct freshness grace probes
        obtain ⟨pct', freshness', map, grace'⟩ := gate
        obtain rfl : pct' = 95 := pct
        obtain rfl : freshness' = 180 := freshness
        obtain rfl : grace' = 600 := grace
        exact ⟨map, rfl, probes⟩
  · rintro ⟨map, read, empty⟩
    have evaluated : HealthGate.evaluated v = ⟨95, 180, map, 600⟩ := by rw [HealthGate.evaluated, read, Option.getD_some]
    rw [evaluated]
    exact ⟨⟨rfl, rfl, rfl, empty⟩, by decide, by simp⟩

theorem deserializeMap_empty_iff (sorted : value.Sorted) :
    (∃ map : Table String Nat, deserializeMap value = some map ∧ ∀ service, map.lookup service = none) ↔ value = .object [] := by
  constructor
  · rintro ⟨map, read, empty⟩
    obtain ⟨object, readable⟩ := (deserializeMap_isSome sorted).mp (Option.isSome_iff_exists.mpr ⟨map, read⟩)
    have lookups := lookup_deserializeMap sorted read
    refine JsonValue.ext_fields sorted (.object List.Pairwise.nil (by simp)) object rfl fun name => ?_
    cases found : value.field name with
    | none => rfl
    | some member =>
        obtain ⟨pct, given⟩ := Option.isSome_iff_exists.mp (readable name member found)
        have absent := (lookups name).symm.trans (empty name)
        rw [found, Option.bind_some, given] at absent
        cases absent
  · rintro rfl
    exact ⟨∅, rfl, fun _ => rfl⟩

theorem agrees_array {items : List JsonValue} (sorted : (JsonValue.array items).Sorted) :
    Agrees (.array items) ↔ DefaultArray items := by
  have sortedItem {i : Nat} {member : JsonValue} (found : items[i]? = some member) : member.Sorted := by
    cases sorted with
    | array each => exact each member (List.mem_of_getElem? found)
  have number {T : Type} {deserialize : JsonValue → Option T} {missing : T} {n : Nat} {member : Option JsonValue}
      (reads : ∀ value, deserialize value = some missing ↔ value.asU64 = some n) :
      deserializeOr deserialize missing member = some missing ↔ ∀ value, member = some value → value.asU64 = some n := by
    cases member <;> simp [deserializeOr, reads]
  have u8 : ∀ value, deserializeU8 value = some 95 ↔ value.asU64 = some 95 := fun value => by
    rw [deserializeU8_iff]
    exact and_iff_left (by decide)
  rw [agrees_of_not_object sorted rfl, HealthGate.fromValue]
  constructor
  · rintro ⟨map, read, empty⟩
    split_ifs at read with length
    obtain ⟨pct, freshness, probes, grace⟩ := ofMembers_iff.mp read
    refine ⟨length, (number u8).mp pct, (number fun _ => deserializeU32_iff).mp freshness, fun member found => ?_,
      (number fun _ => deserializeU32_iff).mp grace⟩
    rw [found] at probes
    exact (deserializeMap_empty_iff (sortedItem found)).mp ⟨map, probes, empty⟩
  · rintro ⟨length, pct, freshness, probes, grace⟩
    have read : ∃ map : Table String Nat, deserializeOr deserializeMap ∅ items[2]? = some map ∧ ∀ service, map.lookup service = none := by
      cases found : items[2]? with
      | none => exact ⟨∅, rfl, fun _ => rfl⟩
      | some member => exact (deserializeMap_empty_iff (sortedItem found)).mpr (probes member found)
    obtain ⟨map, read, empty⟩ := read
    refine ⟨map, ?_, empty⟩
    rw [if_pos length]
    exact ofMembers_iff.mpr ⟨(number u8).mpr pct, (number fun _ => deserializeU32_iff).mpr freshness, read,
      (number fun _ => deserializeU32_iff).mpr grace⟩

end MacMgmt.Proof.GateInput
