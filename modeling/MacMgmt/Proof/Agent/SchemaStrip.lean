import MacMgmt.Agent.EnvFiles

/-!
# Stripping relaxes a schema where it takes away constraints only

A constraint that is taken away relaxes a schema unless it stood under `oneOf`, where one more accepted branch is a failure.
Names that stripping takes from a map of properties become additional properties, and values in an enumeration are changed.
-/

namespace MacMgmt.Proof.Agent
open MacMgmt.Agent Lib Lib.JsonSchema

inductive Plain : JsonValue → Prop where
  | null : Plain .null
  | bool (flag : Bool) : Plain (.bool flag)
  | number (number : NumberText) : Plain (.number number)
  | string (text : String) : Plain (.string text)
  | array (items : List JsonValue) (each : ∀ item ∈ items, Plain item) : Plain (.array items)
  | object (map : List (String × JsonValue)) (names : ∀ entry ∈ map, entry.1 ∉ ["$ref", "$defs", "required"])
      (each : ∀ entry ∈ map, Plain entry.2) : Plain (.object map)

def KeepsNames (schema : List (String × JsonValue)) : Prop :=
  ∀ properties, schema.lookup "properties" = some (.object properties) →
    isInternalRef properties = false ∧ ∀ entry ∈ properties, entry.1 ≠ "$defs" ∧ entry.1 ≠ "required"

mutual

inductive Relaxable : JsonValue → Prop where
  | noKeywords (value : JsonValue) (other : ∀ keywords, value ≠ .object keywords) : Relaxable value
  | reference (keywords : List (String × JsonValue)) (internal : isInternalRef keywords = true) : Relaxable (.object keywords)
  | keywords (keywords : List (String × JsonValue))
      (each : ∀ keyword ∈ keywords, RelaxableKeyword keywords keyword.1 keyword.2) : Relaxable (.object keywords)

/-- What stands next to a keyword matters for `additionalProperties` only. -/
inductive RelaxableKeyword : List (String × JsonValue) → String → JsonValue → Prop where
  | defs (schema : List (String × JsonValue)) (value : JsonValue) : RelaxableKeyword schema "$defs" value
  | required (schema : List (String × JsonValue)) (value : JsonValue) : RelaxableKeyword schema "required" value
  | ref (schema : List (String × JsonValue)) (value : JsonValue)
      (outer : ∀ text, value = .string text → isPointer text = false) : RelaxableKeyword schema "$ref" value
  | properties (schema : List (String × JsonValue)) (value : JsonValue)
      (each : ∀ properties, value = .object properties → ∀ property ∈ properties, Relaxable property.2) :
      RelaxableKeyword schema "properties" value
  | additionalProperties (schema : List (String × JsonValue)) (value : JsonValue) (keeps : KeepsNames schema)
      (relaxable : Relaxable value) : RelaxableKeyword schema "additionalProperties" value
  | items (schema : List (String × JsonValue)) (value : JsonValue) (relaxable : Relaxable value) :
      RelaxableKeyword schema "items" value
  | allOf (schema : List (String × JsonValue)) (value : JsonValue)
      (each : ∀ schemas, value = .array schemas → ∀ branch ∈ schemas, Relaxable branch) : RelaxableKeyword schema "allOf" value
  | anyOf (schema : List (String × JsonValue)) (value : JsonValue)
      (each : ∀ schemas, value = .array schemas → ∀ branch ∈ schemas, Relaxable branch) : RelaxableKeyword schema "anyOf" value
  | oneOf (schema : List (String × JsonValue)) (value : JsonValue) (plain : Plain value) : RelaxableKeyword schema "oneOf" value
  | assertion (schema : List (String × JsonValue)) (name : String) (value : JsonValue) (fixed : stripDefsRefs value = value)
      (other : name ∉ applicators) :
      RelaxableKeyword schema name value

end

/-! ## What stripping leaves -/

theorem mem_stripFields {map : List (String × JsonValue)} {entry : String × JsonValue} :
    entry ∈ stripFields map ↔
      ∃ source ∈ map, source.1 ≠ "$defs" ∧ source.1 ≠ "required" ∧ entry = (source.1, stripDefsRefs source.2) := by
  induction map with
  | nil => simp [stripFields]
  | cons first rest ih =>
      obtain ⟨key, value⟩ := first
      rw [stripFields]
      split
      · rename_i removed
        rw [ih, List.exists_mem_cons_iff]
        exact (or_iff_right fun found => removed.elim found.1 found.2.1).symm
      · rename_i kept
        obtain ⟨defs, required⟩ := not_or.mp kept
        rw [List.mem_cons, ih, List.exists_mem_cons_iff]
        exact or_congr_left ⟨fun same => ⟨defs, required, same⟩, fun found => found.2.2⟩

theorem stripItems_eq_map (items : List JsonValue) : stripItems items = items.map stripDefsRefs := by
  induction items with
  | nil => rfl
  | cons item rest ih => rw [stripItems, ih, List.map_cons]

theorem stripFields_eq_map {map : List (String × JsonValue)} (kept : ∀ entry ∈ map, entry.1 ≠ "$defs" ∧ entry.1 ≠ "required") :
    stripFields map = map.map fun entry => (entry.1, stripDefsRefs entry.2) := by
  induction map with
  | nil => rfl
  | cons entry rest ih =>
      obtain ⟨keptEntry, keptRest⟩ := List.forall_mem_cons.mp kept
      rw [stripFields, if_neg (not_or.mpr keptEntry), ih keptRest, List.map_cons]

theorem lookup_stripFields (map : List (String × JsonValue)) {key : String} (kept : key ≠ "$defs" ∧ key ≠ "required") :
    (stripFields map).lookup key = (map.lookup key).map stripDefsRefs := by
  induction map with
  | nil => rfl
  | cons entry rest ih =>
      obtain ⟨name, value⟩ := entry
      rw [stripFields, lookup_cons_ite]
      split
      · rename_i removed
        have other : key ≠ name := fun same => (not_or.mpr kept) (same ▸ removed)
        rw [ih, if_neg other]
      · rw [lookup_cons_ite, ih]
        split <;> rfl

theorem stripDefsRefs_object (map : List (String × JsonValue)) :
    ∃ stripped, stripDefsRefs (.object map) = .object stripped ∧
      ∀ entry ∈ stripped, ∃ source ∈ map, entry = (source.1, stripDefsRefs source.2) := by
  rw [stripDefsRefs]
  split
  · exact ⟨[], rfl, by simp⟩
  · refine ⟨_, rfl, fun entry member => ?_⟩
    obtain ⟨source, inside, _, _, same⟩ := mem_stripFields.mp member
    exact ⟨source, inside, same⟩

theorem declared_stripFields {schema : List (String × JsonValue)} (keeps : KeepsNames schema) :
    declared (stripFields schema) = declared schema := by
  rw [declared, lookup_stripFields schema (by decide), declared]
  cases found : schema.lookup "properties" with
  | none => rfl
  | some value =>
      cases value with
      | object properties =>
          obtain ⟨map, names⟩ := keeps properties found
          simp [stripDefsRefs, map, stripFields_eq_map names]
      | _ => rfl

/-! ## Plain values -/

theorem not_internalRef {map : List (String × JsonValue)} (names : ∀ entry ∈ map, entry.1 ∉ ["$ref", "$defs", "required"]) :
    isInternalRef map = false := by
  have absent : map.lookup "$ref" = none := by
    rw [List.lookup_eq_none_iff]
    intro entry member
    refine bne_iff_ne.mpr fun same => names entry member ?_
    rw [← same]
    exact List.mem_cons_self
  rw [isInternalRef, absent]

theorem Plain.strip {value : JsonValue} (plain : Plain value) : stripDefsRefs value = value := by
  induction plain with
  | null => rfl
  | bool => rfl
  | number => rfl
  | string => rfl
  | array items each ih =>
      rw [stripDefsRefs, stripItems_eq_map, List.map_congr_left ih, List.map_id']
  | object map names each ih =>
      have kept : ∀ entry ∈ map, entry.1 ≠ "$defs" ∧ entry.1 ≠ "required" := by
        intro entry member
        have absent := names entry member
        simp_all
      have same : map.map (fun entry => (entry.1, stripDefsRefs entry.2)) = map.map id :=
        List.map_congr_left fun entry member => Prod.ext rfl (ih entry member)
      rw [stripDefsRefs, not_internalRef names, stripFields_eq_map kept, same, List.map_id]
      rfl

theorem Plain.within {value sub : JsonValue} (plain : Plain value) (within : Within value sub) : Plain sub := by
  cases within with
  | self => exact plain
  | item items same sub member =>
      subst same
      cases plain with
      | array _ each => exact each sub member
  | entry map same entry member =>
      subst same
      cases plain with
      | object _ _ each => exact each entry member

/-! ## Evaluation -/

section Evaluation
variable {dialect : Dialect} {root : JsonValue}

theorem Plain.eval_eq {schema : JsonValue} (plain : Plain schema) (other : JsonValue) (fuel : Nat) (value : JsonValue) :
    eval dialect root fuel schema value = eval dialect other fuel schema value := by
  induction fuel generalizing schema value with
  | zero => rfl
  | succ fuel ih =>
      cases plain with
      | object keywords names each =>
          refine congrArg conj (List.map_congr_left fun keyword member => ?_)
          have noRef : keyword.1 ≠ "$ref" := by
            intro same
            exact names keyword member (same ▸ List.mem_cons_self)
          exact evalKeyword_congr noRef (fun sub within value => ih ((each keyword member).within within) value) value
      | _ => rfl

variable {schema : List (String × JsonValue)} {fuel : Nat}

theorem eval_empty (fuel : Nat) (value : JsonValue) : eval dialect root (fuel + 1) (.object []) value = some true := rfl

theorem evalKeyword_strip {name : String} {inner value : JsonValue} (relaxable : RelaxableKeyword schema name inner)
    (kept : name ≠ "$defs" ∧ name ≠ "required")
    (relaxed : ∀ sub value, Relaxable sub → eval dialect root fuel sub value = some true →
      eval dialect (stripDefsRefs root) fuel (stripDefsRefs sub) value = some true) (rootRelaxable : Relaxable root)
    (accepted : evalKeyword dialect (eval dialect root fuel) root schema (name, inner) value = some true) :
    evalKeyword dialect (eval dialect (stripDefsRefs root) fuel) (stripDefsRefs root) (stripFields schema)
      (name, stripDefsRefs inner) value = some true := by
  cases relaxable with
  | defs => exact absurd rfl kept.1
  | required => exact absurd rfl kept.2
  | ref _ _ outer =>
      simp only [evalKeyword] at accepted ⊢
      cases inner with
      | string text =>
          simp only [resolve, stripDefsRefs, outer text rfl] at accepted ⊢
          split
          · rename_i whole
            rw [if_pos whole] at accepted
            exact relaxed root value rootRelaxable accepted
          · rename_i elsewhere
            rw [if_neg elsewhere] at accepted
            cases accepted
      | _ => cases accepted
  | properties _ _ each =>
      simp only [evalKeyword] at accepted ⊢
      cases inner with
      | object properties =>
          obtain ⟨stripped, same, sources⟩ := stripDefsRefs_object properties
          rw [same]
          cases value with
          | object members =>
              rw [evalProperties_eq_true] at accepted ⊢
              intro property inside member found
              obtain ⟨source, declared, rfl⟩ := sources property inside
              exact relaxed source.2 member (each properties rfl source declared) (accepted source declared member found)
          | _ => rfl
      | _ => cases accepted
  | additionalProperties _ _ keeps relaxable =>
      simp only [evalKeyword] at accepted ⊢
      cases value with
      | object members =>
          rw [conj_eq_true, List.forall_mem_map] at accepted ⊢
          rw [declared_stripFields keeps]
          exact fun member extra => relaxed inner member.2 relaxable (accepted member extra)
      | _ => rfl
  | items _ _ relaxable =>
      simp only [evalKeyword] at accepted ⊢
      cases value with
      | array items =>
          rw [conj_eq_true, List.forall_mem_map] at accepted ⊢
          exact fun item member => relaxed inner item relaxable (accepted item member)
      | _ => rfl
  | allOf _ _ each =>
      simp only [evalKeyword] at accepted ⊢
      cases inner with
      | array schemas =>
          simp only [stripDefsRefs, stripItems_eq_map, conj_eq_true, List.forall_mem_map] at accepted ⊢
          exact fun branch member => relaxed branch value (each schemas rfl branch member) (accepted branch member)
      | _ => cases accepted
  | anyOf _ _ each =>
      simp only [evalKeyword] at accepted ⊢
      cases inner with
      | array schemas =>
          simp only [stripDefsRefs, stripItems_eq_map, disj_eq_true, List.mem_map] at accepted ⊢
          obtain ⟨branch, member, taken⟩ := accepted
          exact ⟨_, ⟨branch, member, rfl⟩, relaxed branch value (each schemas rfl branch member) taken⟩
      | _ => cases accepted
  | oneOf _ _ plain =>
      have same : evalKeyword dialect (eval dialect root fuel) root schema ("oneOf", inner) value =
          evalKeyword dialect (eval dialect (stripDefsRefs root) fuel) (stripDefsRefs root) schema ("oneOf", inner) value :=
        evalKeyword_congr (show "oneOf" ≠ "$ref" by decide)
          (fun sub within value => (plain.within within).eval_eq (stripDefsRefs root) fuel value) value
      rw [plain.strip]
      exact same.symm.trans accepted
  | assertion _ _ _ fixed other =>
      rw [fixed]
      exact (evalKeyword_assertion other value).symm.trans accepted

theorem eval_strip (rootRelaxable : Relaxable root) (fuel : Nat) (schema value : JsonValue) (relaxable : Relaxable schema)
    (accepted : eval dialect root fuel schema value = some true) :
    eval dialect (stripDefsRefs root) fuel (stripDefsRefs schema) value = some true := by
  induction fuel generalizing schema value with
  | zero => cases accepted
  | succ fuel ih =>
      cases schema with
      | object keywords =>
          rw [stripDefsRefs]
          split
          · exact eval_empty fuel value
          rename_i outer
          rw [eval, conj_eq_true] at accepted ⊢
          intro result member
          obtain ⟨entry, inside, rfl⟩ := List.mem_map.mp member
          obtain ⟨⟨name, inner⟩, source, noDefs, noRequired, rfl⟩ := mem_stripFields.mp inside
          cases relaxable with
          | noKeywords _ other => exact absurd rfl (other keywords)
          | reference _ internal => exact absurd internal outer
          | keywords _ each =>
              exact evalKeyword_strip (each _ source) ⟨noDefs, noRequired⟩ ih rootRelaxable
                (accepted _ (List.mem_map_of_mem source))
      | bool flag => exact accepted
      | _ => cases accepted

end Evaluation

def eitherName : JsonValue :=
  .object [("oneOf", .array [.object [("required", .array [.string "a"])], .object [("required", .array [.string "b"])]])]

def namedRequired : JsonValue :=
  .object [("additionalProperties", .bool false), ("properties", .object [("required", .bool true)])]

theorem not_accepts {dialect : Dialect} {schema value : JsonValue} (undecided : eval dialect schema 1 schema value = none)
    (rejected : ∀ fuel, eval dialect schema (fuel + 2) schema value = some false) : ¬ Accepts dialect schema value := by
  rintro ⟨_ | _ | fuel, accepted⟩
  · cases accepted
  · cases undecided.symm.trans accepted
  · cases (rejected fuel).symm.trans accepted

theorem strip_tightens (dialect : Dialect) :
    (Accepts dialect eitherName (.object [("a", .null)]) ∧
      ¬ Accepts dialect (stripDefsRefs eitherName) (.object [("a", .null)])) ∧
    (Accepts dialect namedRequired (.object [("required", .null)]) ∧
      ¬ Accepts dialect (stripDefsRefs namedRequired) (.object [("required", .null)])) :=
  ⟨⟨⟨2, rfl⟩, not_accepts rfl fun _ => rfl⟩, ⟨2, rfl⟩, not_accepts rfl fun _ => rfl⟩

end MacMgmt.Proof.Agent
