/-!
# JSON values

The values of `serde_json` as the server's routes read and write them. The fields of an object are kept in the order in
which they were first written; a number is its literal.
-/

namespace MacMgmt.Server

inductive Json where
  | null
  | bool (value : Bool)
  | number (literal : String)
  | string (value : String)
  | array (items : List Json)
  | object (fields : List (String × Json))

namespace Json

/-- Replace the value of a field, or add the field at the end. -/
def insertField (fields : List (String × Json)) (name : String) (value : Json) : List (String × Json) :=
  match fields with
  | [] => [(name, value)]
  | (head, old) :: rest => if head = name then (name, value) :: rest else (head, old) :: insertField rest name value

theorem lookup_cons_ite (head other : String) (value : Json) (rest : List (String × Json)) :
    ((head, value) :: rest).lookup other = if other = head then some value else rest.lookup other := by
  by_cases same : other = head
  · subst same
    simp
  · have unequal : (other == head) = false := beq_eq_false_iff_ne.mpr same
    rw [List.lookup_cons, unequal, if_neg same]

theorem lookup_insertField (fields : List (String × Json)) (name other : String) (value : Json) :
    (insertField fields name value).lookup other = if other = name then some value else fields.lookup other := by
  induction fields with
  | nil => exact lookup_cons_ite name other value []
  | cons field rest ih =>
      obtain ⟨head, old⟩ := field
      rw [insertField]
      split
      · rename_i found
        subst found
        simp only [lookup_cons_ite]
        split <;> rfl
      · rename_i different
        rw [lookup_cons_ite, lookup_cons_ite, ih]
        by_cases same : other = head
        · subst same
          simp [different]
        · simp [same]

def field (json : Json) (name : String) : Option Json :=
  match json with
  | .object fields => fields.lookup name
  | _ => none

end Json
end MacMgmt.Server
