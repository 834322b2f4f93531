import MacMgmt.Lib.JsonValue

/-!
# JSON Schema

The meaning of the keywords for objects, arrays, enumerations, combinations and references. An evaluation is given fuel, as a
schema may refer to itself; it ends in `none` where the fuel runs out or the schema has no meaning.
-/

namespace Lib.JsonSchema

/-! ## Three values -/

def conj (results : List (Option Bool)) : Option Bool :=
  if some false ∈ results then some false else if none ∈ results then none else some true

def disj (results : List (Option Bool)) : Option Bool :=
  if some true ∈ results then some true else if none ∈ results then none else some false

def exactlyOne (results : List (Option Bool)) : Option Bool :=
  if 1 < results.count (some true) then some false
  else if none ∈ results then none
  else some (results.count (some true) = 1)

theorem conj_eq_true {results : List (Option Bool)} : conj results = some true ↔ ∀ result ∈ results, result = some true := by
  rw [conj]
  split
  · rename_i fails
    exact ⟨fun same => (nomatch same), fun all => (nomatch all _ fails)⟩
  split
  · rename_i open_
    exact ⟨fun same => (nomatch same), fun all => (nomatch all _ open_)⟩
  · rename_i fails open_
    refine ⟨fun _ result member => ?_, fun _ => rfl⟩
    match result with
    | some true => rfl
    | some false => exact (fails member).elim
    | none => exact (open_ member).elim

theorem disj_eq_true {results : List (Option Bool)} : disj results = some true ↔ some true ∈ results := by
  rw [disj]
  split
  · simp_all
  · split <;> simp_all

/-! ## Keywords -/

/-- `pointer` is what a JSON pointer leads to in a document, `same` the equality of JSON values and `assertion` the other
keywords, each of which looks at its own value and the instance. -/
structure Dialect where
  pointer : JsonValue → String → Option JsonValue
  same : JsonValue → JsonValue → Bool
  assertion : String → JsonValue → JsonValue → Bool

variable (dialect : Dialect)

def isPointer (reference : String) : Bool := "#/".toList.isPrefixOf reference.toList

def resolve (root reference : JsonValue) : Option JsonValue :=
  match reference with
  | .string text => if text = "#" then some root else if isPointer text then dialect.pointer root text else none
  | _ => none

/-- The names that `additionalProperties` leaves alone. -/
def declared (schema : List (String × JsonValue)) : List String :=
  match schema.lookup "properties" with
  | some (.object properties) => properties.map Prod.fst
  | _ => []

def hasMember (value : JsonValue) (name : JsonValue) : Bool :=
  match value, name with
  | .object members, .string name => (members.lookup name).isSome
  | .object _, _ => false
  | _, _ => true

section Keyword
variable (eval : JsonValue → JsonValue → Option Bool)

def evalProperties (properties members : List (String × JsonValue)) : Option Bool :=
  conj (properties.map fun property =>
    match members.lookup property.1 with
    | some member => eval property.2 member
    | none => some true)

def evalKeyword (root : JsonValue) (schema : List (String × JsonValue)) (keyword : String × JsonValue) (value : JsonValue) :
    Option Bool :=
  match keyword.1 with
  | "$ref" => (resolve dialect root keyword.2).bind (eval · value)
  | "$defs" => some true
  | "required" =>
      match keyword.2 with
      | .array names => some (names.all (hasMember value))
      | _ => none
  | "properties" =>
      match keyword.2, value with
      | .object properties, .object members => evalProperties eval properties members
      | .object _, _ => some true
      | _, _ => none
  | "additionalProperties" =>
      match value with
      | .object members => conj ((members.filter (·.1 ∉ declared schema)).map fun member => eval keyword.2 member.2)
      | _ => some true
  | "items" =>
      match value with
      | .array items => conj (items.map (eval keyword.2))
      | _ => some true
  | "allOf" =>
      match keyword.2 with
      | .array schemas => conj (schemas.map (eval · value))
      | _ => none
  | "anyOf" =>
      match keyword.2 with
      | .array schemas => disj (schemas.map (eval · value))
      | _ => none
  | "oneOf" =>
      match keyword.2 with
      | .array schemas => exactlyOne (schemas.map (eval · value))
      | _ => none
  | "enum" =>
      match keyword.2 with
      | .array items => some (items.any (dialect.same · value))
      | _ => none
  | other => some (dialect.assertion other keyword.2 value)

end Keyword

def eval (root : JsonValue) : Nat → JsonValue → JsonValue → Option Bool
  | 0, _, _ => none
  | fuel + 1, schema, value =>
      match schema with
      | .bool verdict => some verdict
      | .object keywords => conj (keywords.map fun keyword => evalKeyword dialect (eval root fuel) root keywords keyword value)
      | _ => none

def Accepts (schema value : JsonValue) : Prop := ∃ fuel, eval dialect schema fuel schema value = some true

/-! ## What an evaluation looks at -/

inductive Within (value : JsonValue) : JsonValue → Prop where
  | self : Within value value
  | item (items : List JsonValue) (same : value = .array items) (sub : JsonValue) (member : sub ∈ items) : Within value sub
  | entry (map : List (String × JsonValue)) (same : value = .object map) (entry : String × JsonValue) (member : entry ∈ map) :
      Within value entry.2

variable {dialect} {first second : JsonValue → JsonValue → Option Bool} {root other : JsonValue}
  {schema : List (String × JsonValue)} {keyword : String × JsonValue}

theorem evalProperties_eq_true {properties members : List (String × JsonValue)} :
    evalProperties first properties members = some true ↔
      ∀ property ∈ properties, ∀ member, members.lookup property.1 = some member → first property.2 member = some true := by
  rw [evalProperties, conj_eq_true, List.forall_mem_map]
  refine forall₂_congr fun property _ => ?_
  cases members.lookup property.1 with
  | none => simp
  | some member => simp

theorem map_eval_congr {schemas : List JsonValue} {value : JsonValue}
    (agree : ∀ sub ∈ schemas, first sub value = second sub value) : schemas.map (first · value) = schemas.map (second · value) :=
  List.map_congr_left agree

theorem evalProperties_congr {properties members : List (String × JsonValue)}
    (agree : ∀ property ∈ properties, ∀ value, first property.2 value = second property.2 value) :
    evalProperties first properties members = evalProperties second properties members := by
  rw [evalProperties, evalProperties]
  refine congrArg conj (List.map_congr_left fun property member => ?_)
  split
  · exact agree property member _
  · rfl

theorem evalKeyword_congr (noRef : keyword.1 ≠ "$ref")
    (agree : ∀ sub, Within keyword.2 sub → ∀ value, first sub value = second sub value) (value : JsonValue) :
    evalKeyword dialect first root schema keyword value = evalKeyword dialect second other schema keyword value := by
  obtain ⟨name, inner⟩ := keyword
  simp only at noRef agree
  unfold evalKeyword
  split
  case h_1 => contradiction
  case h_4 =>
    cases inner with
    | object properties =>
        cases value with
        | object members => exact evalProperties_congr fun property member => agree _ (.entry properties rfl property member)
        | _ => rfl
    | _ => rfl
  case h_5 =>
    cases value with
    | object members => simp only [agree inner .self]
    | _ => rfl
  case h_6 =>
    cases value with
    | array items => simp only [show first inner = second inner from funext (agree inner .self)]
    | _ => rfl
  case h_7 =>
    cases inner with
    | array schemas => exact congrArg conj (map_eval_congr fun sub member => agree sub (.item schemas rfl sub member) value)
    | _ => rfl
  case h_8 =>
    cases inner with
    | array schemas => exact congrArg disj (map_eval_congr fun sub member => agree sub (.item schemas rfl sub member) value)
    | _ => rfl
  case h_9 =>
    cases inner with
    | array schemas => exact congrArg exactlyOne (map_eval_congr fun sub member => agree sub (.item schemas rfl sub member) value)
    | _ => rfl
  all_goals rfl

/-- The keywords whose value holds schemas, references or names. -/
def applicators : List String :=
  ["$ref", "$defs", "required", "properties", "additionalProperties", "items", "allOf", "anyOf", "oneOf"]

theorem evalKeyword_assertion {siblings : List (String × JsonValue)} (assertion : keyword.1 ∉ applicators) (value : JsonValue) :
    evalKeyword dialect first root schema keyword value = evalKeyword dialect second other siblings keyword value := by
  obtain ⟨name, inner⟩ := keyword
  simp only [applicators, List.mem_cons, not_or] at assertion
  unfold evalKeyword
  split
  case h_10 => rfl
  case h_11 => rfl
  all_goals simp_all

end Lib.JsonSchema
