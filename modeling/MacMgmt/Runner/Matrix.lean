import MacMgmt.Lib.JsonValue
import MacMgmt.Runner.Orchestrator

/-!
# The matrix of cells

`generate` of `runner/src/matrix.rs`, with `MatrixConfig` of `config.rs`.
-/

namespace MacMgmt.Runner
open Lib

structure MatrixConfig where
  cloudApiKeys : Table String String
  agents : Option (List String)
  llms : Option (List String)
  cloudProviders : Option (List String)
  ollamaModel : String
  ollamaFlavour : String
  lmsEnabled : Bool
  lmsModel : String
  clusterSizes : List Nat

def MatrixConfig.default : MatrixConfig where
  cloudApiKeys := ∅
  agents := none
  llms := none
  cloudProviders := none
  ollamaModel := "qwen2.5:0.5b"
  ollamaFlavour := "cpu"
  lmsEnabled := false
  lmsModel := "qwen2.5-0.5b-instruct"
  clusterSizes := [1, 2]

structure ConfiguredCell extends MatrixCell where
  config : JsonValue

/-- `json!` of an object. -/
def jsonObject (fields : List (String × JsonValue)) : JsonValue :=
  .object (fields.foldl (fun map field => insertSorted map field.1 field.2) [])

def withSize (key : String) (size : Nat) : String := if size ≤ 1 then key else s!"{key}-n{size}"

def knownCloudProviders : List String :=
  ["anthropic", "openai", "google", "mistral", "groq", "xai", "deepseek", "openrouter", "together", "bedrock"]

def isKnownCloudProvider (s : String) : Bool := knownCloudProviders.contains s

def cloudDefaultModel (provider : String) : String :=
  match provider with
  | "anthropic" => "anthropic/claude-sonnet-4-6"
  | "openai" => "openai/gpt-5.4"
  | "google" => "google/gemini-3-flash-preview"
  | "mistral" => "mistral/mistral-large-latest"
  | "groq" => "groq/llama-4-scout-17b-16e-instruct"
  | "xai" => "xai/grok-3-mini"
  | "deepseek" => "deepseek/deepseek-chat"
  | "openrouter" => "openrouter/auto"
  | "together" => "together/meta-llama/Llama-4-Maverick-17B-128E-Instruct-Turbo"
  | "bedrock" => "amazon-bedrock/us.anthropic.claude-sonnet-4-6-v1:0"
  | _ => ""

def global (agent llm : String) : JsonValue := jsonObject [("default_llm", .string llm), ("default_agent", .string agent)]

def enabled : JsonValue := jsonObject [("enabled", .bool true)]

def agentConfig (agent : String) : Option (String × JsonValue) :=
  match agent with
  | "openclaw" => some ("openclaw", enabled)
  | "opencode" => some ("opencode", enabled)
  | _ => none

def relay : JsonValue := jsonObject [("url", .string "wss://relay.plan.ai"), ("remote_ssh_enabled", .bool true)]

def aiProxy : JsonValue :=
  jsonObject
    [("enabled", .bool true),
      ("keys", .array [jsonObject
        [("name", .string "default"),
          ("key_hash", .string "122088dc28d0f030c55ed4ab77ed8faf098196cb1c05df778539800c9f1243fe6b4b")]])]

def memvaultIfMulti (size : Nat) : Option JsonValue := if size > 1 then some enabled else none

def buildCell (agent llm suffix : String) (sections : List (String × JsonValue)) (size : Nat) : ConfiguredCell where
  key := withSize (agent ++ suffix) size
  nodeCount := size
  config := jsonObject
    (("global", global agent llm) :: sections ++ [("relay", relay), ("ai_proxy", aiProxy)] ++ (agentConfig agent).toList ++
      ((memvaultIfMulti size).map fun mv => ("memvault", mv)).toList)

def buildCloudCell (agent provider apiKey : String) (size : Nat) : ConfiguredCell :=
  buildCell agent "cloud" ("-cloud-" ++ provider)
    [("cloud", .array [jsonObject
      [("enabled", .bool true), ("provider", .string provider), ("api_key", .string apiKey),
        ("default_model", .string (cloudDefaultModel provider))]])] size

def buildOllamaCell (agent model flavour : String) (size : Nat) : ConfiguredCell :=
  buildCell agent "ollama" "-ollama"
    [("ollama", jsonObject
      [("enabled", .bool true), ("models", .array [.string model]), ("default_model", .string model),
        ("flavour", .string flavour)])] size

def buildLmsCell (agent model : String) (size : Nat) : ConfiguredCell :=
  buildCell agent "lms" "-lms"
    [("lms", jsonObject [("enabled", .bool true), ("models", .array [.string model]), ("default_model", .string model)])] size

def buildNoneLlmCell (agent : String) (size : Nat) : ConfiguredCell := buildCell agent "none" "-nollm" [] size

namespace MatrixConfig
variable (matrix : MatrixConfig)

def agentList : List String := matrix.agents.getD ["openclaw", "opencode", "none"]

def llmList : List String :=
  let llms := matrix.llms.getD ["ollama", "lms", "cloud"]
  if matrix.lmsEnabled then llms else llms.filter (· ≠ "lms")

def providerList : List String := matrix.cloudProviders.getD knownCloudProviders

def sizes : List Nat :=
  let sizes := matrix.clusterSizes.filter (1 ≤ ·)
  if sizes.isEmpty then [1] else sizes

end MatrixConfig

def generate (matrix : MatrixConfig) : List ConfiguredCell :=
  matrix.agentList.flatMap fun agent => matrix.llmList.flatMap fun llm => matrix.sizes.flatMap fun size =>
    match llm with
    | "cloud" => matrix.providerList.filterMap fun cp =>
        if isKnownCloudProvider cp then
          (matrix.cloudApiKeys.lookup cp).map fun apiKey => buildCloudCell agent cp apiKey size
        else none
    | "ollama" => [buildOllamaCell agent matrix.ollamaModel matrix.ollamaFlavour size]
    | "lms" => [buildLmsCell agent matrix.lmsModel size]
    | "none" => if agent ≠ "none" then [buildNoneLlmCell agent size] else []
    | _ => []

def fleetNames (config : RunnerConfig) (matrix : MatrixConfig) : List String :=
  (generate matrix).flatMap fun cell => Orchestrator.instanceNames config cell.toMatrixCell

/-! ## What should hold -/

structure ValidInstanceName (name : String) : Prop where
  nonempty : name ≠ ""
  length : name.length ≤ 63
  characters : ∀ c ∈ name.toList, c.isAlphanum = true ∨ c = '-'
  first : ∀ c ∈ name.toList.head?, c ≠ '-' ∧ c.isDigit = false
  last : name.toList.getLast? ≠ some '-'

inductive Llm where
  | cloud (provider : String)
  | ollama
  | lms
  | none
deriving DecidableEq

def Llm.suffix : Llm → String
  | .cloud provider => "-cloud-" ++ provider
  | .ollama => "-ollama"
  | .lms => "-lms"
  | .none => "-nollm"

structure Planned where
  agent : String
  llm : Llm
  size : Nat
deriving DecidableEq

namespace Planned
variable (cell : Planned)

def key : String := withSize (cell.agent ++ cell.llm.suffix) cell.size

end Planned

namespace MatrixConfig
variable (matrix : MatrixConfig)

def usableProviders : List String :=
  matrix.providerList.filter fun cp => isKnownCloudProvider cp && (matrix.cloudApiKeys.lookup cp).isSome

def choices (agent llm : String) : List Llm :=
  match llm with
  | "cloud" => matrix.usableProviders.map .cloud
  | "ollama" => [.ollama]
  | "lms" => [.lms]
  | "none" => if agent ≠ "none" then [.none] else []
  | _ => []

def plan : List Planned :=
  matrix.agentList.flatMap fun agent => matrix.llmList.flatMap fun llm => matrix.sizes.flatMap fun size =>
    (matrix.choices agent llm).map fun choice => ⟨agent, choice, size⟩

end MatrixConfig

def sanitized (raw : String) : List Char := raw.toList.map sanitizeChar

/-- The sanitised names of the instances of a cell, before they are cut. -/
def longNames (config : RunnerConfig) (cell : Planned) : List (List Char) :=
  (List.range' 1 cell.size).map fun index =>
    sanitized (config.namePrefix ++ cell.key ++ if cell.size ≤ 1 then "" else "-" ++ toString index)

/-- Sanitising leaves the agents of alike cells apart, names begin with a letter, and the names of a cluster have room for
the largest number. A name that is cut, which is then the one of a single instance, ends well and shares its beginning with
no other name. -/
structure NamesFit (config : RunnerConfig) (matrix : MatrixConfig) : Prop where
  apart : (matrix.plan.map fun cell => (sanitized cell.agent, cell.llm, cell.size)).Nodup
  letter : ∀ cell ∈ matrix.plan, ∃ first ∈ (sanitized (config.namePrefix ++ cell.agent)).head?, first.isAlpha = true
  room : ∀ cell ∈ matrix.plan, 1 < cell.size →
    (config.namePrefix ++ cell.key).length + 1 + (toString cell.size).length ≤ 63
  cut : ∀ cell ∈ matrix.plan, cell.size = 1 → 63 < (config.namePrefix ++ cell.key).length →
    let kept := (sanitized (config.namePrefix ++ cell.key)).take 63
    kept.getLast? ≠ some '-' ∧ ∀ other ∈ matrix.plan, other ≠ cell → ∀ name ∈ longNames config other, ¬ kept <+: name

end MacMgmt.Runner
