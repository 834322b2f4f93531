import MacMgmt.Agent.ServerPush
import MacMgmt.Lib.JsonSchema
import MacMgmt.Lib.JsonValue

/-!
# Env files

`parse_env`, `serialize_env`, `validate_env_object` and `merge_json` of `mac-mgmt-agent/src/validator.rs`, and the merging
of configurations in `mac-mgmt-agent/src/config.rs`.
-/

namespace MacMgmt.Agent
open Lib

/-- `[A-Za-z_][A-Za-z0-9_]*`. -/
def isValidEnvKey (key : List Char) : Bool :=
  (key.head?.any fun c => c.isAlpha || c = '_') && key.all fun c => c.isAlphanum || c = '_'

def stripCarriageReturn (line : List Char) : List Char := if line.getLast? = some '\r' then line.dropLast else line

/-- `str::lines`. A last line without a line feed keeps its carriage return. -/
def lines (text : List Char) : List (List Char) :=
  let pieces := text.splitOn '\n'
  pieces.dropLast.map stripCarriageReturn ++ pieces.getLast?.toList.filter (· ≠ [])

def parseEnvLine (number : Nat) (raw : List Char) : Except String (Option (String × String)) :=
  let line := trimWhitespace raw
  if line = [] ∨ line.head? = some '#' then .ok none
  else
    let line := (line.dropPrefix? "export ".toList).getD line
    match line.span (· ≠ '=') with
    | (_, []) => .error s!"invalid env: line {number} has no '='"
    | (key, _ :: value) =>
        let key := trimWhitespace key
        if isValidEnvKey key then .ok (some (String.ofList key, String.ofList value))
        else .error s!"invalid env key '{String.ofList key}' on line {number}"

def parseEnvLines (map : List (String × JsonValue)) : Nat → List (List Char) → Except String (List (String × JsonValue))
  | _, [] => .ok map
  | number, raw :: rest =>
      match parseEnvLine number raw with
      | .error message => .error message
      | .ok none => parseEnvLines map (number + 1) rest
      | .ok (some (key, value)) => parseEnvLines (insertSorted map key (.string value)) (number + 1) rest

def parseEnv (content : String) : Except String JsonValue := (parseEnvLines [] 1 (lines content.toList)).map .object

def envLine (key rendered : String) : Except String String :=
  if !isValidEnvKey key.toList then .error s!"invalid env key '{key}'"
  else if '\n' ∈ rendered.toList then .error s!"env value for '{key}' contains a newline"
  else .ok (key ++ "=" ++ rendered ++ "\n")

def serializeEnvEntry (entry : String × JsonValue) : Except String String :=
  match entry.2 with
  | .null => .ok ""
  | .string text => envLine entry.1 text
  | .bool flag => envLine entry.1 (if flag then "true" else "false")
  | .number number => envLine entry.1 number.text
  | .array _ | .object _ => .error s!"env value for '{entry.1}' must be a scalar"

def serializeEnv (value : JsonValue) : Except String String :=
  match value with
  | .object fields => (fields.mapM serializeEnvEntry).map String.join
  | _ => .error "env config must be a JSON object"

def validateEnvEntry (entry : String × JsonValue) : Except String Unit :=
  if !isValidEnvKey entry.1.toList then .error s!"invalid env key '{entry.1}': must match [A-Za-z_][A-Za-z0-9_]*"
  else match entry.2 with
    | .null | .bool _ | .number _ => .ok ()
    | .string text => if '\n' ∈ text.toList then .error s!"env value for '{entry.1}' contains a newline" else .ok ()
    | .array _ | .object _ => .error s!"env value for '{entry.1}' must be a scalar or null"

def validateEnvObject (value : JsonValue) : Except String Unit :=
  match value with
  | .object fields => fields.forM validateEnvEntry
  | _ => .error "env config must be a JSON object"

/-! ## Merging -/

mutual

def mergeJson (target : JsonValue) : JsonValue → JsonValue
  | .object source =>
      match target with
      | .object fields => .object (mergeFields fields source)
      | _ => .object source
  | source => source

def mergeFields (fields : List (String × JsonValue)) : List (String × JsonValue) → List (String × JsonValue)
  | [] => fields
  | (key, value) :: rest =>
      mergeFields (insertSorted fields key (mergeJson ((fields.lookup key).getD .null) value)) rest

end

/-! ## The configuration

`config.rs` has a `merge_json` of its own. -/

namespace Config

mutual

def mergeJson (base : JsonValue) : JsonValue → JsonValue
  | .object o =>
      match base with
      | .object b => .object (mergeMembers b o)
      | _ => .object o
  | o => o

def mergeMembers (b : List (String × JsonValue)) : List (String × JsonValue) → List (String × JsonValue)
  | [] => b
  | (k, v) :: rest => mergeMembers (insertSorted b k (mergeJson ((b.lookup k).getD .null) v)) rest

end

/-- The section that is read from the cached remote configuration and the local file; `fromValue` is its deserializer. -/
def readOpentelemetry {Section : Type} (fromValue : JsonValue → Option Section) (unset : Section)
    (cachedRemote localFile : Option JsonValue) : Section :=
  let remote := cachedRemote.getD (.object [])
  let merged := match localFile with
    | some overlay => mergeJson remote overlay
    | none => remote
  ((merged.field "opentelemetry").bind fromValue).getD unset

end Config

/-! ## Schemas of `openclaw`

`strip_defs_refs` of `mac-mgmt-agent/src/validator.rs`. -/

section
open Lib Lib.JsonSchema

def isInternalRef (map : List (String × JsonValue)) : Bool :=
  match map.lookup "$ref" with
  | some (.string reference) => isPointer reference
  | _ => false

mutual

def stripDefsRefs : JsonValue → JsonValue
  | .object map => if isInternalRef map then .object [] else .object (stripFields map)
  | .array items => .array (stripItems items)
  | value => value

def stripFields : List (String × JsonValue) → List (String × JsonValue)
  | [] => []
  | (key, value) :: rest =>
      if key = "$defs" ∨ key = "required" then stripFields rest else (key, stripDefsRefs value) :: stripFields rest

def stripItems : List JsonValue → List JsonValue
  | [] => []
  | item :: rest => stripDefsRefs item :: stripItems rest

end

end

end MacMgmt.Agent
