import MacMgmt.Agent.EnvFiles
import MacMgmt.Agent.FileTunnels
import MacMgmt.Lib.FileLinks

/-!
# Merging a patch into a config file

`merge_validate_and_write`, `backup_config_file` and `write_atomic` of `mac-mgmt-agent/src/validator.rs`. The formats other than
env files, the text of a time, the operations on the disk and the verdicts of schemas and commands are parameters. A file
is known by its path without links; permissions and times of files are left out.
-/

namespace MacMgmt.Agent
open Lib

/-- `parse` and `print` are not asked about env files. `stamp` writes a second as `%Y%m%dT%H%M%SZ`. -/
structure ConfigEnvironment where
  parse : ConfigFormat → String → Except String JsonValue
  print : ConfigFormat → JsonValue → Except String String
  stamp : Nat → String
  backupDir : FilePath

/-- A copy that fails may have opened its target, and has then written the first bytes of it. -/
inductive CopyOutcome where
  | copied
  | notOpened
  | cutOff (length : Nat)
deriving DecidableEq

inductive CommandOutcome where
  | passed
  | rejected (message : String)
  | unavailable
deriving DecidableEq

/-- A call and what the operations in it come to: making the parent, reading, the schema, the copy, the write, the command
and the write that rolls back. -/
structure MergeCall where
  validator : Validator
  path : FilePath
  patch : JsonValue
  now : Nat
  parent : Except String Unit
  reads : Bool
  schemaSays : JsonValue → Except String Unit
  copy : CopyOutcome
  writes : Bool
  command : CommandOutcome
  rollsBack : Bool

/-- `backups` is history: where each complete backup was put, and its content. -/
structure ConfigDisk where
  files : Table FilePath ByteArray
  backups : List (FilePath × ByteArray)

def pathSafeName (path : FilePath) : String :=
  let text := (absoluteText path).toList.dropWhile fun c => c = '/' || c = '\\'
  String.ofList (text.map fun c => if c = '/' || c = '\\' || c = ':' then '_' else c)

def validateValue (call : MergeCall) (value : JsonValue) : Except String Unit :=
  match if call.validator.format = .env then validateEnvObject value else .ok () with
  | .error message => .error message
  | .ok _ =>
      match call.validator.schema with
      | some (.url _) | some (.file _) | some (.exec _) => call.schemaSays value
      | some (.command _) | none => .ok ()

def validateCommand (call : MergeCall) : Except String Unit :=
  match call.validator.schema with
  | some (.command command) =>
      if command = [] then .ok ()
      else match call.command with
        | .passed | .unavailable => .ok ()
        | .rejected message => .error message
  | some (.url _) | some (.file _) | some (.exec _) | none => .ok ()

section Merge
variable (environment : ConfigEnvironment)

def parseConfig (format : ConfigFormat) (content : String) : Except String JsonValue :=
  match format with
  | .env => parseEnv content
  | .json | .toml | .yaml => environment.parse format content

def serializeConfig (format : ConfigFormat) (value : JsonValue) : Except String String :=
  match format with
  | .env => serializeEnv value
  | .toml => .error "TOML round-trip serialization from JSON Value is not supported"
  | .json | .yaml => environment.print format value

/-- The text that the patch is merged into, which is also what a rollback writes. -/
def existingText (disk : ConfigDisk) (call : MergeCall) : Except String String :=
  match disk.files.lookup call.path with
  | some bytes =>
      match if call.reads then String.fromUTF8? bytes else none with
      | some text => .ok text
      | none => .error s!"failed to read {absoluteText call.path}"
  | none =>
      match call.parent with
      | .error message => .error message
      | .ok _ =>
          match call.validator.format with
          | .json => .ok "\x7b\x7d"
          | .yaml | .toml | .env => .ok ""

def mergedText (call : MergeCall) (backup : String) : Except String String :=
  match parseConfig environment call.validator.format backup with
  | .error message => .error ("failed to parse existing config: " ++ message)
  | .ok existing =>
      let merged := mergeJson existing call.patch
      match validateValue call merged with
      | .error message => .error ("schema validation failed: " ++ message)
      | .ok _ => serializeConfig environment call.validator.format merged

def backupPath (call : MergeCall) : FilePath :=
  environment.backupDir ++ [pathSafeName call.path ++ "." ++ environment.stamp call.now]

def backupConfigFile (disk : ConfigDisk) (call : MergeCall) : ConfigDisk :=
  match disk.files.lookup call.path with
  | none => disk
  | some bytes =>
      let dest := backupPath environment call
      match call.copy with
      | .copied => ⟨disk.files.insert dest bytes, disk.backups ++ [(dest, bytes)]⟩
      | .notOpened => disk
      | .cutOff length => { disk with files := disk.files.insert dest (bytes.extract 0 length) }

/-- A write that fails leaves nothing: the temporary file is removed. -/
def writeAtomic (disk : ConfigDisk) (path : FilePath) (contents : String) (works : Bool) : Option ConfigDisk :=
  if works then some { disk with files := disk.files.insert path contents.toUTF8 } else none

def mergeValidateAndWrite (disk : ConfigDisk) (call : MergeCall) : ConfigDisk × Except String Unit :=
  match existingText disk call with
  | .error message => (disk, .error message)
  | .ok backup =>
      match mergedText environment call backup with
      | .error message => (disk, .error message)
      | .ok merged =>
          let saved := backupConfigFile environment disk call
          match writeAtomic saved call.path merged call.writes with
          | none => (saved, .error s!"failed to write {absoluteText call.path}")
          | some written =>
              match validateCommand call with
              | .ok _ => (written, .ok ())
              | .error message =>
                  match writeAtomic written call.path backup call.rollsBack with
                  | none => (written, .error s!"failed to rollback {absoluteText call.path}")
                  | some restored => (restored, .error ("command validation failed, rolled back: " ++ message))

def mergeStep (disk : ConfigDisk) (call : MergeCall) : Option ConfigDisk := some (mergeValidateAndWrite environment disk call).1

end Merge
end MacMgmt.Agent
