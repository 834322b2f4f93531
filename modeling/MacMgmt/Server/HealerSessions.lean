import MacMgmt.Lib.Run
import MacMgmt.Lib.Table

/-!
# Healer sessions

`HealerState` of `mac-mgmt-healer/src/lib.rs` and its tool `set_phase`. Each await is a step of its own, and what an operation
has read is kept with it until it writes. `SessionManager` and the chat store belong to another crate: the store writes what it
is given, `register` refuses a second agent, and otherwise the manager writes what it likes.
-/

namespace MacMgmt.Server
open Lib

inductive SessionState where
  | created
  | initializing
  | diagnosing
  | remediating
  | verifying
  | completed
  | done
  | failed
  | cancelled
  | awaitingRetry
  | awaitingApproval
  | paused
  | needsHumanAttention
deriving DecidableEq

namespace SessionState

def asStr : SessionState → String
  | .created => "created"
  | .initializing => "initializing"
  | .diagnosing => "diagnosing"
  | .remediating => "remediating"
  | .verifying => "verifying"
  | .completed => "completed"
  | .done => "done"
  | .failed => "failed"
  | .cancelled => "cancelled"
  | .awaitingRetry => "awaiting_retry"
  | .awaitingApproval => "awaiting_approval"
  | .paused => "paused"
  | .needsHumanAttention => "needs_human_attention"

def isTerminal : SessionState → Bool
  | .completed | .done | .failed | .cancelled | .needsHumanAttention => true
  | _ => false

def isActive : SessionState → Bool
  | .initializing | .diagnosing | .remediating | .verifying => true
  | _ => false

def agentAllowed : String → Option SessionState
  | "diagnosing" => some .diagnosing
  | "remediating" => some .remediating
  | "verifying" => some .verifying
  | "done" => some .done
  | "needs_human_attention" => some .needsHumanAttention
  | _ => none

end SessionState

def nonResumableStates : List String := ["completed", "done", "failed", "cancelled", "paused", "needs_human_attention"]

def inactiveStates : List String := ["completed", "done", "failed", "cancelled", "needs_human_attention"]

/-- What is read of `state_data`. -/
structure SessionData where
  autoApprove : Option Bool
  lastState : Option SessionState

structure HealerSession where
  instanceId : String
  state : SessionState
  data : SessionData
  createdAt : Nat

structure SpawnRequest where
  instanceId : String
  skipCooldown : Bool
  autoApprove : Bool

inductive HealerOperation where
  | notRunning (req : SpawnRequest)
  | notRecent (req : SpawnRequest)
  | created (req : SpawnRequest) (id : Nat)
  | launching (id : Nat) (autoApprove : Bool) (startState : SessionState)
  | approving (id : Nat) (session : HealerSession)
  | failing (id : Nat)

namespace HealerOperation

/-- The instance of a spawn between its guard and its insert. -/
def spawning : HealerOperation → Option String
  | .notRunning req | .notRecent req => some req.instanceId
  | _ => none

/-- The session of a spawn or an approval that has still to write its state. -/
def holding : HealerOperation → Option Nat
  | .created _ id | .approving id _ => some id
  | _ => none

end HealerOperation

/-- An agent that is registered, and whether its spec has been built. -/
structure HealerAgent where
  autoApprove : Bool
  startState : SessionState
  running : Bool

structure Healer where
  sessions : Table Nat HealerSession
  operations : Table Nat HealerOperation
  agents : Table Nat HealerAgent
  now : Nat

/-- An `op` is the number of an operation. One that is refused at its first read has no event, and one may be given up at any
await. -/
inductive HealerEvent where
  | spawn (op : Nat) (req : SpawnRequest)
  | cooldown (op : Nat)
  | create (op id : Nat)
  | initialized (op : Nat)
  | launch (op : Nat)
  | build (id : Nat)
  | buildFailed (op id : Nat)
  | fail (op : Nat)
  | resume (op id : Nat)
  | resumeInterrupted (op id : Nat)
  | approve (op id : Nat)
  | approved (op : Nat)
  | setPhase (id : Nat) (phase : String)
  | manage (id : Nat) (state : SessionState) (data : SessionData)
  | unregister (id : Nat)
  | giveUp (op : Nat)
  | tick (seconds : Nat)
  | restart

namespace Healer

def start (now : Nat) : Healer := ⟨∅, ∅, ∅, now⟩

def hasRunningSession (state : Healer) (instanceId : String) : Bool :=
  state.sessions.entries.any fun entry => entry.2.instanceId = instanceId && entry.2.state.asStr ∉ inactiveStates

def hasRecentSession (state : Healer) (instanceId : String) : Bool :=
  state.sessions.entries.any fun entry => entry.2.instanceId = instanceId && state.now < entry.2.createdAt + 3600

def transitionState (state : Healer) (id : Nat) (new : SessionState) (data : SessionData) : Healer :=
  { state with sessions := state.sessions.modify id fun session => { session with state := new, data := data } }

/-- `resume_session_internal` up to the launch. -/
def resumeOperation (id : Nat) (session : HealerSession) : HealerOperation :=
  let startState := match session.data.lastState with
    | some last => if last.isActive then last else if session.state.isActive then session.state else .diagnosing
    | none => if session.state.isActive then session.state else .diagnosing
  .launching id (session.data.autoApprove.getD false) startState

/-- The state and the data that `set_phase` writes. -/
def setPhase (autoApprove : Bool) (phase : String) : Option (SessionState × SessionData) :=
  (SessionState.agentAllowed phase).map fun new =>
    (if !autoApprove && new = .remediating then .awaitingApproval else new, ⟨none, none⟩)

def begin (state : Healer) (op : Nat) (operation : HealerOperation) : Healer :=
  { state with operations := state.operations.insert op operation }

def finish (state : Healer) (op : Nat) : Healer := { state with operations := state.operations.erase op }

def step (state : Healer) : HealerEvent → Option Healer
  | .spawn op req =>
      if op ∈ state.operations ∨ state.hasRunningSession req.instanceId then none else some (state.begin op (.notRunning req))
  | .cooldown op =>
      match state.operations.lookup op with
      | some (.notRunning req) =>
          if !req.skipCooldown && state.hasRecentSession req.instanceId then some (state.finish op)
          else some (state.begin op (.notRecent req))
      | _ => none
  | .create op id =>
      match state.operations.lookup op with
      | some (.notRecent req) =>
          if id ∈ state.sessions then none
          else
            let session : HealerSession := ⟨req.instanceId, .created, ⟨some req.autoApprove, none⟩, state.now⟩
            some { state.begin op (.created req id) with sessions := state.sessions.insert id session }
      | _ => none
  | .initialized op =>
      match state.operations.lookup op with
      | some (.created req id) =>
          some ((state.transitionState id .initializing ⟨some req.autoApprove, none⟩).begin op
            (.launching id req.autoApprove .diagnosing))
      | _ => none
  | .launch op =>
      match state.operations.lookup op with
      | some (.launching id autoApprove startState) =>
          if id ∈ state.agents then some (state.finish op)
          else some { state.finish op with agents := state.agents.insert id ⟨autoApprove, startState, false⟩ }
      | _ => none
  | .build id =>
      match state.agents.lookup id with
      | some agent =>
          if agent.running then none else some { state with agents := state.agents.insert id { agent with running := true } }
      | none => none
  | .buildFailed op id =>
      match state.agents.lookup id with
      | some agent =>
          if agent.running ∨ op ∈ state.operations then none
          else some { state.begin op (.failing id) with agents := state.agents.erase id }
      | none => none
  | .fail op =>
      match state.operations.lookup op with
      | some (.failing id) => some ((state.transitionState id .failed ⟨none, none⟩).finish op)
      | _ => none
  | .resume op id =>
      match state.sessions.lookup id with
      | some session =>
          if op ∈ state.operations ∨ session.state ≠ .paused then none
          else some (state.begin op (resumeOperation id session))
      | none => none
  | .resumeInterrupted op id =>
      match state.sessions.lookup id with
      | some session =>
          if op ∈ state.operations ∨ session.state.asStr ∈ nonResumableStates then none
          else some (state.begin op (resumeOperation id session))
      | none => none
  | .approve op id =>
      match state.sessions.lookup id with
      | some session =>
          if op ∈ state.operations ∨ session.state ≠ .awaitingApproval then none
          else some (state.begin op (.approving id session))
      | none => none
  | .approved op =>
      match state.operations.lookup op with
      | some (.approving id session) =>
          let approved := { session with state := .remediating, data := { session.data with autoApprove := some true } }
          some ((state.transitionState id .remediating approved.data).begin op (resumeOperation id approved))
      | _ => none
  | .setPhase id phase =>
      match state.agents.lookup id with
      | some agent =>
          if agent.running then (setPhase agent.autoApprove phase).map fun (new, data) => state.transitionState id new data
          else none
      | none => none
  | .manage id new data => some (state.transitionState id new data)
  | .unregister id => some { state with agents := state.agents.erase id }
  | .giveUp op => some (state.finish op)
  | .tick seconds => some { state with now := state.now + seconds }
  | .restart => some { state with operations := ∅, agents := ∅ }

/-! ## One session for an instance, and states that are final -/

def Exclusive (state : Healer) : Prop :=
  ∀ id other session rival, state.sessions.lookup id = some session → state.sessions.lookup other = some rival →
    session.instanceId = rival.instanceId → session.state.asStr ∉ inactiveStates → rival.state.asStr ∉ inactiveStates →
    id = other

/-- A write finds the session in a state that is not terminal, and does not end it between the insert or the read and the write
of another operation. -/
def Free (state : Healer) (id : Nat) (new : SessionState) : Prop :=
  (∀ session, state.sessions.lookup id = some session → session.state.isTerminal = false) ∧
  (new.isTerminal = true → ∀ op operation, state.operations.lookup op = some operation → operation.holding ≠ some id)

/-- No spawn passes the guard while another for the instance is between its guard and its insert; and the writes of the tool, of
a launch that fails and of the manager are free. -/
def Serialized (state : Healer) : HealerEvent → Prop
  | .spawn _ req => ∀ op operation, state.operations.lookup op = some operation → operation.spawning ≠ some req.instanceId
  | .fail op => ∀ id, state.operations.lookup op = some (.failing id) → state.Free id .failed
  | .setPhase id phase => ∀ agent new data, state.agents.lookup id = some agent →
      setPhase agent.autoApprove phase = some (new, data) → state.Free id new
  | .manage id new _ => state.Free id new
  | _ => True

end Healer
end MacMgmt.Server
