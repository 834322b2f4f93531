import MacMgmt.Daemon.Skills
import MacMgmt.Daemon.UpdateTarget
import MacMgmt.Lib.FileTree

/-!
# Store paths from the server

The update target is checked by its characters, among which is the dot; a skill's path only by how it begins.
-/

namespace MacMgmt.Proof.StorePaths
open Lib Daemon

def InsideEntry (path : FilePath) : Prop := ∃ entry rest, path = "nix" :: "store" :: entry :: rest

def storeNames (path : String) : List String := (pieces path).drop 3

/-- From the store, a way stays below it or leads back into it by its names. -/
def Returns (way : Way) : Prop :=
  match way with
  | ⟨0, downs⟩ => downs ≠ []
  | ⟨1, downs⟩ => ∃ entry rest, downs = "store" :: entry :: rest
  | ⟨_, downs⟩ => InsideEntry downs

theorem pieces_prefix {path : String} (within : inNixStore path = true) :
    pieces path = ["", "nix", "store"] ++ storeNames path := by
  obtain ⟨rest, same⟩ := List.isPrefixOf_iff_prefix.mp within
  have text : path.toList = [] ++ '/' :: ("nix".toList ++ '/' :: ("store".toList ++ '/' :: rest)) := same.symm
  have split : path.toList.splitOn '/' = [[], "nix".toList, "store".toList] ++ rest.splitOn '/' := by
    rw [text, List.splitOn_append_cons_self, List.splitOn_append_cons_self, List.splitOn_append_cons_self]
    rfl
  rw [storeNames, pieces, split]
  rfl

theorem denoted_eq {path : String} (within : inNixStore path = true) :
    denoted path = descend ["nix", "store"] (storeNames path) := by
  rw [denoted, pieces_prefix within]
  rfl

theorem insideEntry_iff {path : String} (within : inNixStore path = true) :
    InsideEntry (denoted path) ↔ Returns (Way.of (storeNames path)) := by
  rw [denoted_eq within, descend_eq_from]
  obtain ⟨ups, downs⟩ := Way.of (storeNames path)
  match ups with
  | 0 =>
      cases downs <;> simp [InsideEntry, Returns, Way.from_]
  | 1 => simp [InsideEntry, Returns, Way.from_]
  | n + 2 => simp [InsideEntry, Returns, Way.from_]

theorem storeNames_valid {path : String} (valid : isValidStorePath path = true) :
    inNixStore path = true ∧ ∃ name, path = "/nix/store/" ++ name ∧ storeNames path = [name] ∧ name ≠ "" := by
  unfold isValidStorePath at valid
  split at valid
  · cases valid
  · rename_i rest starts
    simp only [Bool.and_eq_true, Bool.not_eq_true', List.contains_eq_mem, decide_eq_false_iff_not] at valid
    obtain ⟨⟨⟨nonempty, -⟩, noSlash⟩, -⟩ := valid
    have same : path.toList = "/nix/store/".toList ++ rest := List.isPrefixOf?_eq_some_iff_append_eq.mp starts |>.symm
    have within : inNixStore path = true := List.isPrefixOf_iff_prefix.mpr ⟨rest, same.symm⟩
    have text : path.toList = [] ++ '/' :: ("nix".toList ++ '/' :: ("store".toList ++ '/' :: rest)) := same
    refine ⟨within, String.ofList rest, ?_, ?_, ?_⟩
    · exact String.toList_injective (by simp [same])
    · rw [storeNames, pieces, text, List.splitOn_append_cons_self, List.splitOn_append_cons_self,
        List.splitOn_append_cons_self, List.splitOn_eq_singleton noSlash]
      rfl
    · simpa using nonempty

theorem valid_iff {path : String} (valid : isValidStorePath path = true) :
    InsideEntry (denoted path) ↔ path ≠ "/nix/store/." ∧ path ≠ "/nix/store/.." := by
  obtain ⟨within, name, rfl, names, nonempty⟩ := storeNames_valid valid
  have dot : "/nix/store/" ++ name = "/nix/store/." ↔ name = "." := @String.append_right_inj _ _ "."
  have dots : "/nix/store/" ++ name = "/nix/store/.." ↔ name = ".." := @String.append_right_inj _ _ ".."
  rw [denoted_eq within, names, ne_eq, ne_eq, dot, dots]
  by_cases here : name = "."
  · simp [descend, here, InsideEntry]
  by_cases up : name = ".."
  · simp [descend, up, InsideEntry]
  · simp [descend, nonempty, here, up, InsideEntry]

/-- A target names an entry unless it is one of two names; a skill's path does if its way from the store returns. -/
theorem store_paths_inside_iff (path : String) :
    (isValidStorePath path = true →
      (InsideEntry (denoted path) ↔ path ≠ "/nix/store/." ∧ path ≠ "/nix/store/..")) ∧
    (inNixStore path = true → (InsideEntry (denoted path) ↔ Returns (Way.of (storeNames path)))) :=
  ⟨valid_iff, insideEntry_iff⟩

theorem store_path_leads_outside :
    (isValidStorePath "/nix/store/.." = true ∧ denoted "/nix/store/.." = ["nix"]) ∧
      (inNixStore "/nix/store/../../etc" = true ∧ denoted "/nix/store/../../etc" = ["etc"]) ∧
      ¬ ∀ path, isValidStorePath path = true ∨ inNixStore path = true → InsideEntry (denoted path) := by
  have target : isValidStorePath "/nix/store/.." = true ∧ denoted "/nix/store/.." = ["nix"] := by decide +kernel
  refine ⟨target, by decide +kernel, fun inside => ?_⟩
  obtain ⟨entry, rest, same⟩ := inside "/nix/store/.." (.inl target.1)
  rw [target.2] at same
  cases same

end MacMgmt.Proof.StorePaths
