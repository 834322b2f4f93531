import MacMgmt.Agent.Connectors

/-!
# The config of the daemon, its services and its connectors

`build_services` and `build_connectors` of `mac-mgmt-agent/src/connectors/mod.rs` with the spawn specs of `services/`. Of a
section only what these read is kept, and the text of the rest.
-/

namespace MacMgmt.Agent
open Lib Supervisor

inductive LlmProvider where
  | ollama
  | lms
  | unsloth
  | litellm
  | cloud
  | other (name : String)
deriving DecidableEq

structure OpenclawConfig where
  enabled : Bool
  rest : String
deriving DecidableEq

structure OpencodeConfig where
  enabled : Bool
  host : String
  port : Nat
  rest : String
deriving DecidableEq

structure HermesDashboardConfig where
  enabled : Bool
  host : String
  port : Nat
deriving DecidableEq

structure HermesWebuiConfig where
  enabled : Bool
  host : String
  port : Nat
  password : Option String
  defaultWorkspace : Option String
deriving DecidableEq

structure HermesConfig where
  enabled : Bool
  dashboard : Option HermesDashboardConfig
  webui : Option HermesWebuiConfig
deriving DecidableEq

structure OllamaConfig where
  enabled : Bool
  host : String
  port : Nat
  contextLength : Nat
  defaultModel : String
  rest : String
deriving DecidableEq

/-- The sections `lms` and `unsloth`. -/
structure LocalLlmConfig where
  enabled : Bool
  host : String
  port : Nat
  defaultModel : String
  rest : String
deriving DecidableEq

structure LitellmConfig where
  enabled : Bool
  host : String
  port : Nat
deriving DecidableEq

/-- `envVar` is that of the provider. -/
structure CloudConfig where
  enabled : Bool
  envVar : String
  apiKey : Option String
  rest : String
deriving DecidableEq

structure MemvaultConfig where
  enabled : Bool
  port : Nat
deriving DecidableEq

structure CustomServiceConfig where
  name : String
  enabled : Bool
  spawn : Option SpawnSpec
deriving DecidableEq

structure DaemonConfig where
  defaultLlm : LlmProvider
  defaultAgent : String
  openclaw : OpenclawConfig
  opencode : OpencodeConfig
  hermes : HermesConfig
  ollama : OllamaConfig
  lms : LocalLlmConfig
  unsloth : LocalLlmConfig
  litellm : LitellmConfig
  cloud : List CloudConfig
  backupEnabled : Bool
  aiProxyEnabled : Bool
  memvault : MemvaultConfig
  customServices : List CustomServiceConfig

/-! ## Services -/

/-- What the spawn specs read besides the config: directories and the two env files. -/
structure SpawnHost where
  compileCache : String
  hermesHome : String
  litellmConfig : String
  ollamaEnv : Env
  hermesEnv : String → Option String
  gatewayApiPort : Nat

/-- `spawn_spec` of a service that is not managed is unreachable. -/
def unmanaged (name : ServiceName) (mode : ServiceMode) : Service := ⟨name, mode, name, ⟨"", [], ∅⟩, false⟩

def openclawService (host : SpawnHost) : Service :=
  ⟨"openclaw", .managed, "openclaw",
    ⟨"openclaw", ["gateway"],
      ((∅ : Env).insert "NODE_COMPILE_CACHE" host.compileCache).insert "OPENCLAW_NO_RESPAWN" "1"⟩, true⟩

def opencodeService (config : OpencodeConfig) : Service :=
  ⟨"opencode", .managed, "opencode",
    ⟨"opencode", ["serve", "--port", toString config.port, "--hostname", config.host], ∅⟩, true⟩

def hermesService (host : SpawnHost) : Service :=
  let env := (∅ : Env).insert "HERMES_HOME" host.hermesHome
  let env := match host.hermesEnv "API_SERVER_KEY" with
    | some key => env.insert "API_SERVER_KEY" key
    | none => env
  ⟨"hermes", .managed, "hermes", ⟨"hermes", ["gateway", "run", "--replace"], env⟩, true⟩

def effectiveHost (host : String) : String := if host = "" then "127.0.0.1" else host

def effectivePort (port default : Nat) : Nat := if port = 0 then default else port

def hermesDashboardService (host : SpawnHost) (config : HermesDashboardConfig) : Service :=
  let env := ((∅ : Env).insert "HERMES_HOME" host.hermesHome).insert "HERMES_MANAGED" "1"
  let env := if (host.hermesEnv "API_SERVER_KEY").isSome then
      env.insert "GATEWAY_HEALTH_URL" ("http://127.0.0.1:" ++ toString host.gatewayApiPort)
    else env
  ⟨"hermes-dashboard", .managed, "hermes",
    ⟨"hermes", ["dashboard", "--host", effectiveHost config.host, "--port", toString (effectivePort config.port 9119),
      "--no-open"], env⟩, false⟩

def insertNonEmpty (env : Env) (key : String) : Option String → Env
  | some value => if value = "" then env else env.insert key value
  | none => env

def hermesWebuiService (host : SpawnHost) (config : HermesWebuiConfig) : Service :=
  let env := (((∅ : Env).insert "HERMES_HOME" host.hermesHome).insert "HERMES_MANAGED" "1").insert
    "HERMES_WEBUI_AUTO_INSTALL" "0"
  let env := env.insert "HERMES_WEBUI_STATE_DIR" (host.hermesHome ++ "/webui")
  let env := insertNonEmpty env "HERMES_WEBUI_PASSWORD" config.password
  let env := insertNonEmpty env "HERMES_WEBUI_DEFAULT_WORKSPACE" config.defaultWorkspace
  ⟨"hermes-webui", .managed, "hermes-webui",
    ⟨"hermes-webui", ["--host", effectiveHost config.host, toString (effectivePort config.port 8787)], env⟩, false⟩

def ollamaService (host : SpawnHost) (config : OllamaConfig) : Service :=
  let env : Env := if config.host ≠ "127.0.0.1" ∨ config.port ≠ 11434 then
      (∅ : Env).insert "OLLAMA_HOST" (config.host ++ ":" ++ toString config.port)
    else ∅
  let env := env.insert "OLLAMA_CONTEXT_LENGTH" (toString config.contextLength)
  ⟨"ollama", .managed, "ollama", ⟨"ollama", ["serve"], env ∪ host.ollamaEnv⟩, false⟩

def lmsService : Service := ⟨"lms", .managed, "lms", ⟨"lms", ["server", "start", "--foreground"], ∅⟩, false⟩

def unslothService (config : LocalLlmConfig) : Service :=
  ⟨"unsloth", .managed, "unsloth",
    ⟨"unsloth", ["studio", "-H", effectiveHost config.host, "-p", toString (effectivePort config.port 8888)], ∅⟩, false⟩

def cloudEnv (cloud : List CloudConfig) : Env :=
  cloud.foldl (fun env config => if config.enabled then insertNonEmpty env config.envVar config.apiKey else env) ∅

def litellmService (host : SpawnHost) (config : LitellmConfig) (cloud : List CloudConfig) : Service :=
  ⟨"litellm", .managed, "litellm",
    ⟨"litellm", ["--config", host.litellmConfig, "--host", effectiveHost config.host, "--port",
      toString (effectivePort config.port 4100)], (cloudEnv cloud).insert "LITELLM_TELEMETRY" "False"⟩, true⟩

def customService (config : CustomServiceConfig) : Service :=
  match config.spawn with
  | some spawn => ⟨config.name, .managed, config.name, spawn, false⟩
  | none => unmanaged config.name .integrated

def onlyIf {Item : Type} (enabled : Bool) (items : List Item) : List Item := if enabled then items else []

def buildServices (host : SpawnHost) (cfg : DaemonConfig) : List Service :=
  [ onlyIf cfg.openclaw.enabled [openclawService host],
    onlyIf cfg.opencode.enabled [opencodeService cfg.opencode],
    onlyIf cfg.hermes.enabled (hermesService host ::
      (((cfg.hermes.dashboard.filter (·.enabled)).map (hermesDashboardService host)).toList ++
        ((cfg.hermes.webui.filter (·.enabled)).map (hermesWebuiService host)).toList)),
    onlyIf cfg.ollama.enabled [ollamaService host cfg.ollama],
    onlyIf cfg.lms.enabled [lmsService],
    onlyIf cfg.unsloth.enabled [unslothService cfg.unsloth],
    onlyIf cfg.litellm.enabled [litellmService host cfg.litellm cfg.cloud],
    [unmanaged "mcporter" .installOnly, unmanaged "apprise" .installOnly, unmanaged "nvidia-smi" .installOnly,
      unmanaged "rocm-smi" .installOnly],
    onlyIf cfg.backupEnabled [unmanaged "restic" .installOnly],
    onlyIf cfg.aiProxyEnabled [unmanaged "ai-proxy" .integrated],
    onlyIf cfg.memvault.enabled [unmanaged "memvault" .integrated],
    (cfg.customServices.filter (·.enabled)).map customService ].flatten

/-! ## Connectors -/

inductive AgentKind where
  | openclaw
  | opencode
  | hermes
deriving DecidableEq

inductive ConnectorKind where
  | relayOllama
  | relayUnsloth
  | relay (agent : AgentKind)
  | ollama (agent : AgentKind) (address : Option (String × Nat)) (defaultModel : String) (setDefault : Bool)
  | lms (agent : AgentKind) (host : String) (port : Nat) (defaultModel : String) (setDefault : Bool)
  | unsloth (agent : AgentKind) (host : String) (port : Nat) (defaultModel : String) (setDefault : Bool)
  | litellm (agent : AgentKind) (host : String) (port : Nat) (setDefault : Bool)
  | cloud (agent : AgentKind) (setDefault : Bool)
  | memvault (agent : AgentKind) (port : Nat)
  | memvaultCleanup (agent : AgentKind)
  | backup

/-- The connector of ollama and opencode has no address, and memvault none with opencode. -/
def agentConnectors (cfg : DaemonConfig) (agent : AgentKind) : List ConnectorKind :=
  let address := if agent = .opencode then none else some (cfg.ollama.host, cfg.ollama.port)
  let cloudLlm : Bool := cfg.defaultLlm = .cloud || cfg.defaultLlm = .litellm
  [ onlyIf cfg.ollama.enabled [.ollama agent address cfg.ollama.defaultModel (cfg.defaultLlm = .ollama)],
    onlyIf cfg.lms.enabled [.lms agent cfg.lms.host cfg.lms.port cfg.lms.defaultModel (cfg.defaultLlm = .lms)],
    onlyIf cfg.unsloth.enabled
      [.unsloth agent cfg.unsloth.host cfg.unsloth.port cfg.unsloth.defaultModel (cfg.defaultLlm = .unsloth)],
    if cfg.litellm.enabled then [.litellm agent cfg.litellm.host cfg.litellm.port cloudLlm]
    else onlyIf (cfg.cloud.any (·.enabled)) [.cloud agent (cfg.defaultLlm = .cloud)],
    if agent = .opencode then []
    else if cfg.memvault.enabled then [.memvault agent cfg.memvault.port]
    else [.memvaultCleanup agent] ].flatten

def buildConnectors (cfg : DaemonConfig) : List ConnectorKind :=
  [ onlyIf cfg.ollama.enabled [.relayOllama],
    onlyIf cfg.unsloth.enabled [.relayUnsloth],
    onlyIf cfg.openclaw.enabled [.relay .openclaw],
    onlyIf cfg.opencode.enabled [.relay .opencode],
    onlyIf cfg.hermes.enabled [.relay .hermes],
    onlyIf cfg.openclaw.enabled (agentConnectors cfg .openclaw),
    onlyIf cfg.opencode.enabled (agentConnectors cfg .opencode),
    onlyIf cfg.hermes.enabled (agentConnectors cfg .hermes),
    onlyIf cfg.backupEnabled [.backup] ].flatten

end MacMgmt.Agent
