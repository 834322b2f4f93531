import MacMgmt.Lib.Table
import Mathlib.Data.List.Induction
import Mathlib.Data.List.Perm.Basic

/-!
# Folding a list into a table

Every item is added to the entry of its key, which is made when its first item comes. What is read off the entries is, up to
order, what is read off the items, if that is so for each key.
-/

namespace Lib.Table
variable {K V X L : Type*} [DecidableEq K]

section Accumulate
variable (key : X → K) (fresh : X → V) (add : V → X → V)

def accumulate (table : Table K V) (items : List X) : Table K V :=
  items.foldl (fun table item => table.insert (key item) (add ((table.lookup (key item)).getD (fresh item)) item)) table

theorem accumulate_append (table : Table K V) (items others : List X) :
    accumulate key fresh add table (items ++ others) =
      accumulate key fresh add (accumulate key fresh add table items) others := List.foldl_append

theorem lookup_accumulate (items : List X) (k : K) :
    (accumulate key fresh add ∅ items).lookup k =
      match items.filter (fun item => key item = k) with
      | [] => none
      | item :: rest => some ((item :: rest).foldl add (fresh item)) := by
  induction items using List.reverseRecOn with
  | nil => rfl
  | append_singleton items last ih =>
      have step : (accumulate key fresh add ∅ (items ++ [last])).lookup k =
          if k = key last then
            some (add (((accumulate key fresh add ∅ items).lookup (key last)).getD (fresh last)) last)
          else (accumulate key fresh add ∅ items).lookup k := by
        rw [accumulate_append]
        exact lookup_insert_ite _ _ _ _
      rw [step, List.filter_append]
      by_cases same : k = key last
      · subst same
        rw [if_pos rfl, ih]
        cases items.filter (fun item => key item = key last) with
        | nil => simp
        | cons item rest => simp
      · have other : [last].filter (fun item => key item = k) = [] := by simp [Ne.symm same]
        rw [if_neg same, ih, other, List.append_nil]

end Accumulate

theorem foldl_component {S A : Type*} {key : X → K} {fresh : X → V} {add : V → X → V} {step : S → A → S}
    (get : S → Table K V) {pick : A → Option X}
    (one : ∀ state input, get (step state input) = accumulate key fresh add (get state) (pick input).toList)
    (inputs : List A) (state : S) :
    get (inputs.foldl step state) = accumulate key fresh add (get state) (inputs.filterMap pick) := by
  induction inputs generalizing state with
  | nil => rfl
  | cons input inputs ih =>
      rw [List.foldl_cons, ih, one, ← accumulate_append, List.filterMap_cons]
      cases pick input with
      | none => rfl
      | some item => rfl

variable {key : X → K} {fresh : X → V} {add : V → X → V}

theorem flatMap_insert_once {keys : List K} (nodup : keys.Nodup) {k : K} (member : k ∈ keys) (item : X) (others : K → List X) :
    (keys.flatMap fun other => if k = other then item :: others other else others other).Perm
      (item :: keys.flatMap others) := by
  induction keys with
  | nil => cases member
  | cons first keys ih =>
      obtain ⟨absent, nodup⟩ := List.nodup_cons.mp nodup
      rw [List.flatMap_cons, List.flatMap_cons]
      by_cases here : k = first
      · subst here
        have rest : (keys.flatMap fun other => if k = other then item :: others other else others other) =
            keys.flatMap others := by
          refine List.flatMap_congr fun other within => if_neg ?_
          rintro rfl
          exact absent within
        rw [if_pos rfl, rest, List.cons_append]
      · rw [if_neg here]
        have later := ih nodup ((List.mem_cons.mp member).resolve_left here)
        exact (later.append_left (others first)).trans List.perm_middle

theorem flatMap_filter_perm {keys : List K} (nodup : keys.Nodup) {items : List X} (all : ∀ item ∈ items, key item ∈ keys) :
    (keys.flatMap fun k => items.filter fun item => key item = k).Perm items := by
  induction items with
  | nil => simp
  | cons item items ih =>
      have split : (keys.flatMap fun k => (item :: items).filter fun item => key item = k) =
          keys.flatMap fun k =>
            if key item = k then item :: items.filter (fun item => key item = k) else items.filter fun item => key item = k := by
        refine List.flatMap_congr fun k _ => ?_
        by_cases same : key item = k <;> simp [same]
      rw [split]
      refine (flatMap_insert_once nodup (all item List.mem_cons_self) item _).trans (List.Perm.cons item ?_)
      exact ih fun other member => all other (List.mem_cons_of_mem _ member)

theorem entry_accumulate {items : List X} {entry : Σ _ : K, V} (member : entry ∈ (accumulate key fresh add ∅ items).entries) :
    ∃ item rest, items.filter (fun item => key item = entry.1) = item :: rest ∧ key item = entry.1 ∧ item ∈ items ∧
      entry.2 = (item :: rest).foldl add (fresh item) := by
  have found := AList.mem_lookup_iff.mpr member
  rw [Option.mem_def, lookup_accumulate] at found
  cases within : items.filter (fun item => key item = entry.1) with
  | nil =>
      rw [within] at found
      cases found
  | cons item rest =>
      rw [within] at found
      have first : item ∈ items.filter fun item => key item = entry.1 := within ▸ List.mem_cons_self
      obtain ⟨original, same⟩ := List.mem_filter.mp first
      exact ⟨item, rest, rfl, of_decide_eq_true same, original, (Option.some.inj found).symm⟩

theorem key_mem_accumulate (fresh : X → V) (add : V → X → V) {items : List X} {item : X} (member : item ∈ items) :
    key item ∈ (accumulate key fresh add ∅ items).keys := by
  rw [← AList.mem_keys, ← AList.lookup_isSome, lookup_accumulate]
  have within : item ∈ items.filter fun other => key other = key item := List.mem_filter.mpr ⟨member, decide_eq_true rfl⟩
  cases same : items.filter (fun other => key other = key item) with
  | nil =>
      rw [same] at within
      cases within
  | cons first rest => rfl

theorem flatMap_accumulate {items : List X} (lines : K → V → List L) {line : X → List L}
    (each : ∀ item rest, items.filter (fun other => key other = key item) = item :: rest →
      (lines (key item) ((item :: rest).foldl add (fresh item))).Perm ((item :: rest).flatMap line))
    {entries : List (Σ _ : K, V)} (order : entries.Perm (accumulate key fresh add ∅ items).entries) :
    (entries.flatMap fun entry => lines entry.1 entry.2).Perm (items.flatMap line) := by
  have whole := (flatMap_filter_perm (accumulate key fresh add ∅ items).keys_nodup
    fun item member => key_mem_accumulate fresh add member).flatMap_right line
  refine (order.flatMap_right _).trans (List.Perm.trans ?_ whole)
  rw [AList.keys, List.keys, List.flatMap_map, List.flatMap_assoc]
  refine List.Perm.flatMap_left _ fun entry member => ?_
  obtain ⟨item, rest, within, same, _, value⟩ := entry_accumulate member
  rw [within, value, ← same]
  exact each item rest (same ▸ within)

end Lib.Table
