import MacMgmt.Lib.Table
import Mathlib.Data.Finmap

/-!
# Stores with change tracking

Each value has a version, raised when the value changes. A reader takes a snapshot of the versions of the keys it reads;
while none of them has moved, the values it read are the current ones.
-/

namespace Lib

structure Versioned (V : Type*) where
  value : V
  version : Nat
deriving DecidableEq

abbrev VersionedStore (K V : Type*) := Table K (Versioned V)

namespace VersionedStore
variable {K V W : Type*} [DecidableEq K]

def get (store : VersionedStore K V) (key : K) : Option V := (store.lookup key).map (·.value)

def versionOf (store : VersionedStore K V) (key : K) : Nat := ((store.lookup key).map (·.version)).getD 0

def set [DecidableEq V] (store : VersionedStore K V) (key : K) (value : V) : VersionedStore K V :=
  if store.get key = some value then store else store.insert key ⟨value, store.versionOf key + 1⟩

def pick (store : VersionedStore K V) (part : Versioned V → W) (keys : List K) : Finmap fun _ : K => W :=
  keys.foldl (fun picked key =>
    match store.lookup key with
    | some entry => picked.insert key (part entry)
    | none => picked) ∅

def snapshot (store : VersionedStore K V) (keys : List K) : Finmap fun _ : K => Nat := store.pick (·.version) keys

def valuesFor (store : VersionedStore K V) (keys : List K) : Finmap fun _ : K => V := store.pick (·.value) keys

def anyChanged (store : VersionedStore K V) (keys : List K) (seen : Finmap fun _ : K => Nat) : Bool :=
  keys.any fun key => store.versionOf key ≠ (seen.lookup key).getD 0

theorem lookup_pick (store : VersionedStore K V) (part : Versioned V → W) (keys : List K) (key : K) :
    (store.pick part keys).lookup key = if key ∈ keys then (store.lookup key).map part else none := by
  have added (picked : Finmap fun _ : K => W) :
      (keys.foldl (fun picked key =>
        match store.lookup key with
        | some entry => picked.insert key (part entry)
        | none => picked) picked).lookup key =
      (if key ∈ keys then (store.lookup key).map part else none).or (picked.lookup key) := by
    induction keys generalizing picked with
    | nil => simp
    | cons head rest ih =>
        rw [List.foldl_cons, ih]
        cases found : store.lookup head with
        | none =>
            by_cases same : key = head
            · subst same
              simp [found]
            · simp [same]
        | some entry =>
            by_cases same : key = head
            · subst same
              by_cases later : key ∈ rest <;> simp [found, later]
            · simp [same, Finmap.lookup_insert_of_ne _ same]
  simpa [pick] using added ∅

theorem lookup_valuesFor (store : VersionedStore K V) (keys : List K) (key : K) :
    (store.valuesFor keys).lookup key = if key ∈ keys then store.get key else none := store.lookup_pick _ keys key

theorem valuesFor_congr {store other : VersionedStore K V} {keys : List K}
    (same : ∀ key ∈ keys, store.get key = other.get key) : store.valuesFor keys = other.valuesFor keys := by
  apply Finmap.ext_lookup
  intro key
  rw [lookup_valuesFor, lookup_valuesFor]
  split
  · rename_i member
    exact same key member
  · rfl

/-! ## Readers -/

/-- What a reader keeps: values that are current for each key whose version it has seen. -/
structure Seen (store : VersionedStore K V) (keys : List K) (seen : Finmap fun _ : K => Nat)
    (values : Finmap fun _ : K => V) : Prop where
  bounded : ∀ key ∈ keys, (seen.lookup key).getD 0 ≤ store.versionOf key
  current : ∀ key ∈ keys, (seen.lookup key).getD 0 = store.versionOf key → values.lookup key = store.get key
  only : ∀ key, key ∉ keys → values.lookup key = none

theorem seen_snapshot (store : VersionedStore K V) (keys : List K) :
    Seen store keys (store.snapshot keys) (store.valuesFor keys) where
  bounded key member := by rw [snapshot, lookup_pick, if_pos member]; rfl
  current key member _ := by rw [lookup_valuesFor, if_pos member]
  only key missing := by rw [lookup_valuesFor, if_neg missing]

theorem Seen.valuesFor_eq {store : VersionedStore K V} {keys : List K} {seen : Finmap fun _ : K => Nat}
    {values : Finmap fun _ : K => V} (reader : Seen store keys seen values) (unchanged : store.anyChanged keys seen = false) :
    values = store.valuesFor keys := by
  apply Finmap.ext_lookup
  intro key
  rw [lookup_valuesFor]
  split
  · rename_i member
    apply reader.current key member
    have same := List.any_eq_false.mp unchanged key member
    rw [decide_eq_true_iff, not_not] at same
    exact same.symm
  · rename_i missing
    exact reader.only key missing

section Set
variable [DecidableEq V]

theorem get_set (store : VersionedStore K V) (key other : K) (value : V) :
    (store.set key value).get other = if other = key then some value else store.get other := by
  unfold set
  split
  · rename_i held
    split
    · rename_i same
      rw [same, held]
    · rfl
  · unfold get
    rw [Table.lookup_insert_ite]
    split <;> rfl

theorem Seen.set {store : VersionedStore K V} {keys : List K} {seen : Finmap fun _ : K => Nat}
    {values : Finmap fun _ : K => V} (reader : Seen store keys seen values) (key : K) (value : V) :
    Seen (store.set key value) keys seen values := by
  unfold VersionedStore.set
  split
  · exact reader
  · have version (other : K) : versionOf (store.insert key ⟨value, store.versionOf key + 1⟩) other =
        if other = key then store.versionOf key + 1 else store.versionOf other := by
      rw [versionOf, Table.lookup_insert_ite]
      split <;> rfl
    refine ⟨fun other member => ?_, fun other member same => ?_, reader.only⟩
    · have below := reader.bounded other member
      rw [version]
      split
      · rename_i equal
        subst equal
        omega
      · exact below
    · -- the version of the key that was set is above what any reader has seen
      have below := reader.bounded other member
      rw [version] at same
      split at same
      · rename_i equal
        subst equal
        omega
      · rename_i different
        rw [reader.current other member same, get, get, Table.lookup_insert_ite, if_neg different]

end Set
end VersionedStore
end Lib
