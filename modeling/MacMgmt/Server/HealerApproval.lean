import MacMgmt.Server.HealerSessions
import MacMgmt.Server.Json

/-!
# Approval of remediation

One healer session with what its `state_data` carries, from `mac-mgmt-healer/src/lib.rs`, and the tools that its agent gets, from
`tools.rs` and `settings_tools.rs`. Each await is a step of its own. What `SessionManager` writes is up to it, and
`transition_state` stores the data that it is given, which are the fields of an object.
-/

namespace MacMgmt.Server.Approval
open Lib MacMgmt.Server

/-! ## Tools -/

inductive ToolRisk where
  | readOnly
  | sessionLocal
  | mutating
  | destructive
deriving DecidableEq

inductive HealerTool where
  | listFiles
  | readFile
  | writeFile
  | runCommand
  | fetchLogs
  | listFileTunnels
  | listShellCommands
  | fetchClusterLogs
  | runClusterCommand
  | pin
  | staffPing
  | listStaffPings
  | setPhase
  | nameSession
  | checkNodeOnline
  | waitForNode
  | getProbeStatus
  | readDoc
  | listDocs
  | getInventory
  | getSystemSample
  | getProbeHistory
  | getMetrics
  | useSkill
  | listBuiltinSkills
  | wait
  | requestAssessment
  | getConfig
  | patchConfig
  | setConfig
  | listSkills
  | listMcpServers
  | addSkill
  | removeSkill
  | addMcpServer
  | removeMcpServer
  | sendPush
  | getVersionInfo
  | getHeartbeat
  | getClusterInstances
  | getServiceState
  | nixCheckUpgrades
  | context7 (name : String)
deriving DecidableEq

namespace HealerTool

def risk : HealerTool → ToolRisk
  | .writeFile | .runCommand | .runClusterCommand | .setConfig => .destructive
  | .staffPing | .setPhase | .requestAssessment | .patchConfig | .addSkill | .removeSkill | .addMcpServer | .removeMcpServer
  | .sendPush => .mutating
  | .pin | .nameSession | .wait => .sessionLocal
  | _ => .readOnly

/-- The tools for the config, the skills, the MCP servers and pushes. -/
def changesSettings : HealerTool → Bool
  | .patchConfig | .setConfig | .addSkill | .removeSkill | .addMcpServer | .removeMcpServer | .sendPush
  | .requestAssessment => true
  | _ => false

end HealerTool

/-- What `build_access` gives, and the tools of the documentation server. -/
structure InstanceAccess where
  hasCluster : Bool
  hasMetrics : Bool
  context7 : List String

open HealerTool in
def allTools (access : InstanceAccess) (diagnosisOnly : Bool) : List HealerTool :=
  [listFiles, readFile, fetchLogs, listFileTunnels, listShellCommands, pin, staffPing, listStaffPings, setPhase, nameSession,
    getProbeStatus, getInventory, getSystemSample, getProbeHistory, readDoc, listDocs, useSkill, listBuiltinSkills] ++
    (if !diagnosisOnly then [writeFile, runCommand] else []) ++
    (if access.hasCluster then
      [fetchClusterLogs, checkNodeOnline, waitForNode] ++ (if !diagnosisOnly then [runClusterCommand] else [])
    else []) ++
    (if access.hasMetrics then [getMetrics] else [])

open HealerTool in
def allSettingsTools (diagnosisOnly : Bool) : List HealerTool :=
  [wait, getConfig, listSkills, listMcpServers, getVersionInfo, getHeartbeat, getClusterInstances, getServiceState,
    nixCheckUpgrades] ++
    (if !diagnosisOnly then
      [requestAssessment, patchConfig, setConfig, addSkill, removeSkill, addMcpServer, removeMcpServer, sendPush]
    else [])

/-! ## Requests and their data -/

abbrev StateData := List (String × Json)

structure SpawnRequest where
  clusterName : String
  hostname : String
  fileTunnels : Json
  shellTunnels : Json
  provider : Option String
  model : Option String
  autoApprove : Bool
  fixProvider : Option String
  fixModel : Option String

def asStr : Json → Option String
  | .string value => some value
  | _ => none

def asBool : Json → Option Bool
  | .bool value => some value
  | _ => none

def ofOption : Option String → Json
  | some value => .string value
  | none => .null

/-- The data of `spawn_session`. -/
def stateData (req : SpawnRequest) : StateData :=
  [("cluster_name", .string req.clusterName), ("hostname", .string req.hostname), ("file_tunnels", req.fileTunnels),
    ("shell_tunnels", req.shellTunnels), ("auto_approve", .bool req.autoApprove), ("fix_provider", ofOption req.fixProvider),
    ("fix_model", ofOption req.fixModel)]

def readStr (data : StateData) (key : String) : Option String := (data.lookup key).bind asStr

structure SessionRow where
  state : SessionState
  data : StateData
  provider : Option String
  model : Option String

def fromStr (state : String) : Option SessionState :=
  [.created, .initializing, .diagnosing, .remediating, .verifying, .completed, .done, .failed, .cancelled, .awaitingRetry,
    .awaitingApproval, .paused, .needsHumanAttention].find? fun known => SessionState.asStr known = state

/-- The request and the start state of `resume_session_internal`. -/
def resumeRequest (row : SessionRow) : SpawnRequest where
  clusterName := (readStr row.data "cluster_name").getD ""
  hostname := (readStr row.data "hostname").getD ""
  fileTunnels := (row.data.lookup "file_tunnels").getD .null
  shellTunnels := (row.data.lookup "shell_tunnels").getD .null
  provider := row.provider
  model := row.model
  autoApprove := ((row.data.lookup "auto_approve").bind asBool).getD false
  fixProvider := none
  fixModel := none

def resumeState (row : SessionRow) : SessionState :=
  match (readStr row.data "last_state").bind fromStr with
  | some last => if last.isActive then last else if row.state.isActive then row.state else .diagnosing
  | none => if row.state.isActive then row.state else .diagnosing

/-- The row that `approve_session` resumes from. -/
def approvedRow (row : SessionRow) : SessionRow where
  state := .remediating
  data := Json.insertField (Json.insertField row.data "auto_approve" (.bool true)) "reason" (.string "approved")
  provider := (readStr row.data "fix_provider").or row.provider
  model := (readStr row.data "fix_model").or row.model

/-! ## Sessions -/

/-- `entitled` says that remediation was approved when the launch was begun, `afterApproval` that a person had approved it, and
`approval` that this is the launch of the approval. -/
structure Launch where
  req : SpawnRequest
  resumed : Bool
  startState : SessionState
  entitled : Bool
  afterApproval : Bool
  approval : Bool

/-- `asked` says that the agent has asked for approval, which stops it. -/
structure SessionAgent where
  launch : Launch
  access : InstanceAccess
  running : Bool
  asked : Bool

namespace SessionAgent

def tools (agent : SessionAgent) : List HealerTool :=
  let diagnosisOnly := !agent.launch.req.autoApprove
  allTools agent.access diagnosisOnly ++ allSettingsTools diagnosisOnly ++ agent.access.context7.map .context7

end SessionAgent

inductive SessionOperation where
  | initializing
  | launching (launch : Launch)
  | approving (row : SessionRow)
  | failing

/-- `approved` says that a call of `approve_session` has succeeded, `strayed` that the session has left `AwaitingApproval` in
another way than by an approval or a cancellation. -/
structure HealerSession where
  created : SpawnRequest
  row : SessionRow
  operations : Table Nat SessionOperation
  agent : Option SessionAgent
  approved : Bool
  strayed : Bool

/-- An `op` is the number of an operation; that of the spawn is 0. -/
inductive SessionEvent where
  | initialized
  | resume (op : Nat)
  | resumeInterrupted (op : Nat)
  | approve (op : Nat)
  | approved (op : Nat)
  | launch (op : Nat) (access : InstanceAccess)
  | build
  | buildFailed (op : Nat)
  | fail (op : Nat)
  | setPhase (phase reason : String)
  | manage (new : SessionState) (data : StateData)
  | useModel (provider model : Option String)
  | unregister
  | giveUp (op : Nat)
  | restart

namespace HealerSession

def start (created : SpawnRequest) : HealerSession where
  created
  row := ⟨.created, stateData created, created.provider, created.model⟩
  operations := AList.singleton 0 .initializing
  agent := none
  approved := false
  strayed := false

def begin (state : HealerSession) (op : Nat) (operation : SessionOperation) : HealerSession :=
  { state with operations := state.operations.insert op operation }

def finish (state : HealerSession) (op : Nat) : HealerSession := { state with operations := state.operations.erase op }

/-- `allowed` says that the write is one of an approval or a cancellation. -/
def transitionState (state : HealerSession) (allowed : Bool) (new : SessionState) (data : StateData) : HealerSession :=
  { state with
    row := { state.row with state := new, data }
    strayed := state.strayed || (state.row.state = .awaitingApproval && new ≠ .awaitingApproval && !allowed) }

def entitled (state : HealerSession) : Bool := state.created.autoApprove || state.approved

def resumeLaunch (state : HealerSession) : Launch :=
  ⟨resumeRequest state.row, true, resumeState state.row, state.entitled, state.approved, false⟩

def step (state : HealerSession) : SessionEvent → Option HealerSession
  | .initialized =>
      match state.operations.lookup 0 with
      | some .initializing =>
          let launch : Launch := ⟨state.created, false, .diagnosing, state.created.autoApprove, false, false⟩
          some ((state.transitionState false .initializing (stateData state.created)).begin 0 (.launching launch))
      | _ => none
  | .resume op =>
      if op ∈ state.operations ∨ state.row.state ≠ .paused then none else some (state.begin op (.launching state.resumeLaunch))
  | .resumeInterrupted op =>
      if op ∈ state.operations ∨ state.row.state.asStr ∈ nonResumableStates then none
      else some (state.begin op (.launching state.resumeLaunch))
  | .approve op =>
      if op ∈ state.operations ∨ state.row.state ≠ .awaitingApproval then none else some (state.begin op (.approving state.row))
  | .approved op =>
      match state.operations.lookup op with
      | some (.approving row) =>
          let row := approvedRow row
          let launch : Launch := ⟨resumeRequest row, true, resumeState row, true, true, true⟩
          some ((state.transitionState true .remediating row.data).begin op (.launching launch))
      | _ => none
  | .launch op access =>
      match state.operations.lookup op with
      | some (.launching launch) =>
          match state.agent with
          | some _ => some (state.finish op)
          | none =>
              some { state.finish op with
                agent := some ⟨launch, access, false, false⟩
                approved := state.approved || launch.approval }
      | _ => none
  | .build =>
      match state.agent with
      | some ⟨launch, access, false, asked⟩ => some { state with agent := some ⟨launch, access, true, asked⟩ }
      | _ => none
  | .buildFailed op =>
      match state.agent with
      | some agent =>
          if agent.running ∨ op ∈ state.operations then none else some { state.begin op .failing with agent := none }
      | none => none
  | .fail op =>
      match state.operations.lookup op with
      | some .failing => some ((state.transitionState false .failed []).finish op)
      | _ => none
  | .setPhase phase reason =>
      match state.agent with
      | some agent =>
          if agent.running then
            (SessionState.agentAllowed phase).map fun new =>
              -- when approval is required, intercept the transition to remediating
              if !agent.launch.req.autoApprove && new = .remediating then
                { state.transitionState false .awaitingApproval [("reason", .string reason)] with
                  agent := some { agent with asked := true } }
              else state.transitionState false new [("reason", .string reason)]
          else none
      | none => none
  | .manage new data => some (state.transitionState (new = .cancelled) new data)
  | .useModel provider model => some { state with row := { state.row with provider, model } }
  | .unregister => some { state with agent := none }
  | .giveUp op => some (state.finish op)
  | .restart => some { state with operations := ∅, agent := none }

/-! ## What a session keeps -/

/-- What a resumed session has of the request that it was created with. -/
structure SameContext (created req : SpawnRequest) (afterApproval : Bool) : Prop where
  clusterName : req.clusterName = created.clusterName
  hostname : req.hostname = created.hostname
  fileTunnels : req.fileTunnels = created.fileTunnels
  shellTunnels : req.shellTunnels = created.shellTunnels
  provider : afterApproval = true → ∀ provider, created.fixProvider = some provider → req.provider = some provider
  model : afterApproval = true → ∀ model, created.fixModel = some model → req.model = some model

structure Entrusted (state : HealerSession) : Prop where
  tools : state.created.autoApprove = false → state.approved = false → ∀ agent, state.agent = some agent →
    ∀ tool ∈ agent.tools, tool.risk ≠ .destructive ∧ tool.changesSettings = false
  keeps : ∀ agent, state.agent = some agent → agent.launch.resumed = true → agent.launch.entitled = true →
    agent.launch.req.autoApprove = true
  stays : state.strayed = false
  context : ∀ agent, state.agent = some agent → agent.launch.resumed = true →
    SameContext state.created agent.launch.req agent.launch.afterApproval

def keptKeys : List String :=
  ["cluster_name", "hostname", "file_tunnels", "shell_tunnels", "auto_approve", "fix_provider", "fix_model"]

def Carries (created : SpawnRequest) (data : StateData) : Prop :=
  (data.lookup "cluster_name" = none → created.clusterName = "") ∧
  (data.lookup "hostname" = none → created.hostname = "") ∧
  (data.lookup "file_tunnels" = none → created.fileTunnels = .null) ∧
  (data.lookup "shell_tunnels" = none → created.shellTunnels = .null)

/-- A resume finds a `state_data` with its keys, or nothing to lose; with `auto_approve`, where remediation is approved, and not
set before an approval has succeeded; and the fix model of an approved session in its row. -/
def Resumable (state : HealerSession) : Prop :=
  Carries state.created state.row.data ∧
  (state.entitled = true → state.row.data.lookup "auto_approve" ≠ none) ∧
  (state.row.data.lookup "auto_approve" = some (.bool true) → state.entitled = true) ∧
  (state.approved = true →
    (state.created.fixProvider = none ∨ state.row.provider = state.created.fixProvider) ∧
    (state.created.fixModel = none ∨ state.row.model = state.created.fixModel))

/-- An approval has been stored, and is not launched yet. -/
def ApprovalPending (state : HealerSession) : Prop :=
  ∃ op launch, state.operations.lookup op = some (.launching launch) ∧ launch.approval = true

/-- Sessions are resumed with their data, none is launched while it awaits approval, an agent that has asked for approval calls
`set_phase` no more; and the manager keeps the data, and once the agent has asked writes nothing but a cancellation. -/
def Careful (state : HealerSession) : SessionEvent → Prop
  | .initialized => state.row.state ≠ .awaitingApproval ∧
      (state.created.autoApprove = false → state.approved = false ∧ ¬ ApprovalPending state)
  | .resume _ | .resumeInterrupted _ => Resumable state
  | .approve _ => Carries state.created state.row.data ∧
      (state.row.data.lookup "fix_provider" = none → state.created.fixProvider = none) ∧
      (state.row.data.lookup "fix_model" = none → state.created.fixModel = none)
  | .launch _ _ => state.row.state ≠ .awaitingApproval
  | .fail _ => state.row.state ≠ .awaitingApproval
  | .setPhase _ _ => ∀ agent, state.agent = some agent → agent.asked = false
  | .manage new data => (∀ key ∈ keptKeys, data.lookup key = state.row.data.lookup key) ∧
      (new = .cancelled ∨ new ≠ .awaitingApproval ∧ ∃ agent, state.agent = some agent ∧ agent.asked = false)
  | _ => True

end HealerSession
end MacMgmt.Server.Approval
