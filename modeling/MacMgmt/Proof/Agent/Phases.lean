import MacMgmt.Agent.ServiceState

/-!
# Phases and installs

A service that is out of the phases `Installing` and `InstallFailed` has installed. Each function on a single service
keeps this as long as the service is not in these phases when its phase is assigned.
-/

namespace MacMgmt.Agent
open Supervisor

/-- A service leaves the install phases by a successful install update, and goes from `InstallFailed` to `Installing`
by a retry. -/
def PhaseChange.Proper (change : PhaseChange) : Prop :=
  (change.before.awaitsInstall → change.after.awaitsInstall = false → change.cause = .installUpdate true) ∧
    (change.before = .installFailed → change.after = .installing → change.cause = .retry)

namespace ServiceState

def awaitsInstall (state : ServiceState) : Bool := state.phase.awaitsInstall

structure Guarded (succeeded : List AttemptId) (state : ServiceState) : Prop where
  changes : ∀ change ∈ state.history, change.Proper
  installed : state.awaitsInstall = false → state.integrated = false →
    state.attempt.any (fun attempt => attempt ∈ succeeded)
  mode : state.service.mode ≠ .installOnly

structure SameInstall (before after : ServiceState) : Prop where
  service : after.service = before.service
  phase : after.phase = before.phase
  attempt : after.attempt = before.attempt
  history : after.history = before.history

/-- The step of a service that leaves one in an install phase alone. -/
structure Evolves (before after : ServiceState) : Prop where
  service : after.service = before.service
  same : after.awaitsInstall → after = before
  guarded : ∀ succeeded, before.Guarded succeeded → after.Guarded succeeded

variable {before after middle state : ServiceState} {succeeded : List AttemptId}

theorem SameInstall.refl (state : ServiceState) : SameInstall state state := ⟨rfl, rfl, rfl, rfl⟩

theorem SameInstall.trans (one : SameInstall before middle) (two : SameInstall middle after) :
    SameInstall before after :=
  ⟨two.service.trans one.service, two.phase.trans one.phase, two.attempt.trans one.attempt,
    two.history.trans one.history⟩

theorem SameInstall.awaitsInstall (same : SameInstall before after) : after.awaitsInstall = before.awaitsInstall := by
  simp only [ServiceState.awaitsInstall, same.phase]

theorem SameInstall.integrated (same : SameInstall before after) : after.integrated = before.integrated := by
  simp only [ServiceState.integrated, same.service]

theorem SameInstall.guarded (same : SameInstall before after) (guarded : before.Guarded succeeded) :
    after.Guarded succeeded := by
  refine ⟨?_, ?_, ?_⟩
  · rw [same.history]
    exact guarded.changes
  · rw [same.awaitsInstall, same.integrated, same.attempt]
    exact guarded.installed
  · rw [same.service]
    exact guarded.mode

theorem guarded_setPhase (cause : Cause) (phase : ServicePhase) (out : state.awaitsInstall = false)
    (guarded : state.Guarded succeeded) : (state.setPhase cause phase).Guarded succeeded := by
  refine ⟨fun change member => ?_, fun _ => guarded.installed out, guarded.mode⟩
  cases List.mem_cons.mp member with
  | inl first =>
      subst first
      refine ⟨fun awaits => ?_, fun (failed : state.phase = .installFailed) => ?_⟩
      · rw [ServiceState.awaitsInstall] at out
        rw [out] at awaits
        cases awaits
      · rw [ServiceState.awaitsInstall, failed] at out
        cases out
  | inr earlier => exact guarded.changes change earlier

namespace Evolves

theorem refl (state : ServiceState) : Evolves state state := ⟨rfl, fun _ => rfl, fun _ guarded => guarded⟩

theorem trans (one : Evolves before middle) (two : Evolves middle after) : Evolves before after := by
  refine ⟨two.service.trans one.service, fun awaits => ?_, fun succeeded guarded =>
    two.guarded succeeded (one.guarded succeeded guarded)⟩
  have same := two.same awaits
  rw [same] at awaits ⊢
  exact one.same awaits

theorem of_setPhase (cause : Cause) {phase : ServicePhase} (out : before.awaitsInstall = false)
    (outside : phase.awaitsInstall = false) (same : SameInstall (before.setPhase cause phase) after) :
    Evolves before after := by
  refine ⟨same.service, fun awaits => ?_, fun succeeded guarded => same.guarded (guarded_setPhase cause phase out guarded)⟩
  rw [same.awaitsInstall] at awaits
  simp [ServiceState.awaitsInstall, setPhase, outside] at awaits

theorem started (out : state.awaitsInstall = false) : Evolves state state.started :=
  of_setPhase .registered out rfl ⟨rfl, rfl, rfl, rfl⟩

theorem tornDown (cause : Cause) (out : state.awaitsInstall = false) : Evolves state (state.tornDown cause) :=
  of_setPhase cause out rfl ⟨rfl, rfl, rfl, rfl⟩

theorem adopt (answers : Answers) (status : ServiceStatus) (out : state.awaitsInstall = false) :
    Evolves state (state.adopt answers status) :=
  of_setPhase .adopted out rfl ⟨rfl, rfl, rfl, rfl⟩

theorem crash (now : Nat) (out : state.awaitsInstall = false) : Evolves state (state.crash now) :=
  of_setPhase .crashed out rfl ⟨rfl, rfl, rfl, rfl⟩

theorem expireCrashBackoff (state : ServiceState) (now : Nat) : Evolves state (state.expireCrashBackoff now) := by
  unfold ServiceState.expireCrashBackoff
  split
  · exact refl state
  · rename_i backoff
    simp only [Bool.or_eq_true, decide_eq_true_eq, not_or, not_not] at backoff
    split
    · refine of_setPhase .backoffExpired ?_ rfl ⟨rfl, rfl, rfl, rfl⟩
      simp [ServiceState.awaitsInstall, backoff.2, ServicePhase.awaitsInstall]
    · exact refl state

theorem applyHealthCheck (state : ServiceState) (answers : Answers) (live : LiveMap) :
    Evolves state (state.applyHealthCheck answers live) := by
  unfold ServiceState.applyHealthCheck
  split
  · rename_i checked
    have out : state.awaitsInstall = false := by
      simp only [checkable, Bool.or_eq_true, Bool.and_eq_true, decide_eq_true_eq] at checked
      rcases checked with (healthy | unhealthy) | stopped
      · simp [ServiceState.awaitsInstall, healthy, ServicePhase.awaitsInstall]
      · simp [ServiceState.awaitsInstall, unhealthy, ServicePhase.awaitsInstall]
      · simp [ServiceState.awaitsInstall, stopped.1, ServicePhase.awaitsInstall]
    split
    · split
      · exact of_setPhase .healthCheck out rfl ⟨rfl, rfl, rfl, rfl⟩
      · exact of_setPhase .healthCheck out rfl (.refl _)
    · exact of_setPhase .healthCheck out rfl (.refl _)
    · split
      · exact refl state
      · exact of_setPhase .healthCheck out rfl (.refl _)
  · exact refl state

theorem withStorePath (evolves : Evolves before after) (path : Option String) :
    Evolves { before with runningStorePath := path } { after with runningStorePath := path } := by
  refine ⟨evolves.service, fun awaits => ?_, fun succeeded guarded => ?_⟩
  · rw [evolves.same awaits]
  · have undone : SameInstall { before with runningStorePath := path } before := ⟨rfl, rfl, rfl, rfl⟩
    have redone : SameInstall after { after with runningStorePath := path } := ⟨rfl, rfl, rfl, rfl⟩
    exact redone.guarded (evolves.guarded succeeded (undone.guarded guarded))

end Evolves

/-! ## Functions that assign no phase -/

theorem sameInstall_scheduleRestart (state : ServiceState) (answers : Answers) :
    SameInstall state (state.scheduleRestart answers) := by
  unfold scheduleRestart
  repeat' split
  all_goals exact ⟨rfl, rfl, rfl, rfl⟩

theorem sameInstall_checkUpgrade (state : ServiceState) (answers : Answers) :
    SameInstall state (state.checkUpgrade answers) := by
  unfold checkUpgrade
  split <;> exact ⟨rfl, rfl, rfl, rfl⟩

theorem sameInstall_collectConnectorEnv (state : ServiceState) (env : Env) :
    SameInstall state (state.collectConnectorEnv env) := by
  unfold collectConnectorEnv
  split <;> exact ⟨rfl, rfl, rfl, rfl⟩

theorem sameInstall_checkDrift (state : ServiceState) (current : Option String) (timestamp : Nat) :
    SameInstall state (state.checkDrift current timestamp) := by
  unfold checkDrift
  repeat' split
  all_goals exact ⟨rfl, rfl, rfl, rfl⟩

/-! ## Install updates and retries -/

theorem guarded_installUpdate {ok : Bool} {phase : ServicePhase} (guarded : state.Guarded succeeded)
    (left : phase.awaitsInstall = false → ok = true) (retried : phase ≠ .installing)
    (latest : ok = true → state.attempt.any (fun attempt => attempt ∈ succeeded)) :
    (state.setPhase (.installUpdate ok) phase).Guarded succeeded := by
  refine ⟨fun change member => ?_, fun out _ => latest (left out), guarded.mode⟩
  cases List.mem_cons.mp member with
  | inl new =>
      subst new
      exact ⟨fun _ out => by rw [left out], fun _ installing => absurd installing retried⟩
  | inr earlier => exact guarded.changes change earlier

theorem guarded_installSucceeded (guarded : state.Guarded succeeded)
    (latest : state.attempt.any (fun attempt => attempt ∈ succeeded)) : state.installSucceeded.Guarded succeeded := by
  have phased : (state.setPhase (.installUpdate true) (if state.integrated then .starting else .stopped)).Guarded
      succeeded :=
    guarded_installUpdate guarded (fun _ => rfl) (by split <;> decide) fun _ => latest
  have same : SameInstall (state.setPhase (.installUpdate true) (if state.integrated then .starting else .stopped))
      state.installSucceeded := ⟨rfl, rfl, rfl, rfl⟩
  exact same.guarded phased

theorem guarded_installFails (guarded : state.Guarded succeeded) : state.installFails.Guarded succeeded :=
  guarded_installUpdate guarded (fun out => by cases out) (by decide) fun ok => by cases ok

theorem guarded_requeue (guarded : state.Guarded succeeded) : state.requeue.Guarded succeeded := by
  unfold requeue
  split
  · refine ⟨fun change member => ?_, fun out => (by cases out), guarded.mode⟩
    cases List.mem_cons.mp member with
    | inl new =>
        subst new
        exact ⟨fun _ out => (by cases out), fun _ _ => rfl⟩
    | inr earlier => exact guarded.changes change earlier
  · exact guarded

theorem guarded_withAttempt (attempt : AttemptId) (guarded : state.Guarded succeeded) :
    (state.withAttempt attempt).Guarded succeeded := by
  unfold withAttempt
  split
  · rename_i waiting
    refine ⟨guarded.changes, fun out => ?_, guarded.mode⟩
    simp only [awaitsInstall, waiting, ServicePhase.awaitsInstall] at out
    cases out
  · exact guarded

theorem guarded_new {service : Service} {restartPending connectorEnvCollected : Bool} {attempt : Option AttemptId}
    {phase : ServicePhase} (mode : service.mode ≠ .installOnly)
    (waits : phase.awaitsInstall = true ∨ service.mode = .integrated) :
    (new service phase restartPending connectorEnvCollected attempt).Guarded succeeded := by
  refine ⟨fun change member => (by cases member), fun out unintegrated => ?_, mode⟩
  cases waits with
  | inl awaits =>
      simp only [awaitsInstall, new, awaits] at out
      cases out
  | inr integrated => simp [ServiceState.integrated, new, integrated] at unintegrated

/-! ## The lifecycle step -/

/-- Whether `lifecycle_step` restarts a service that is not in crash backoff or applies an upgrade to it. -/
def restartDue (state : ServiceState) (gate : UpgradeGate) (answers : Answers) : Bool :=
  let current := answers.binaryStorePath state.service.binaryName
  (state.restartPending && (!(answers.isBusy state.service).getD false || gate.forcesBusyRestarts)) ||
  ((state.upgradePending || driftDecision state.runningStorePath current state.lastDriftTarget = .schedule) &&
    gate.allowsUpgrades && !(current.isSome && current = state.runningStorePath))

theorem sameInstall_lifecycleStep (state : ServiceState) (gate : UpgradeGate) (answers : Answers) (timestamp : Nat) :
    SameInstall state (state.lifecycleStep gate answers timestamp).1 := by
  have drifted (restartPending : Bool) (current : Option String) :
      SameInstall state ({ state with restartPending := restartPending }.checkDrift current timestamp) := by
    have marked : SameInstall state { state with restartPending := restartPending } := ⟨rfl, rfl, rfl, rfl⟩
    exact marked.trans (sameInstall_checkDrift _ _ _)
  unfold lifecycleStep
  simp only
  split
  · exact .refl state
  · split
    · exact ⟨rfl, rfl, rfl, rfl⟩
    · split
      · split <;> exact .trans (drifted _ _) ⟨rfl, rfl, rfl, rfl⟩
      · exact drifted _ _

theorem checkDrift_upgradePending (state : ServiceState) (current : Option String) (timestamp : Nat) :
    (state.checkDrift current timestamp).upgradePending = (state.upgradePending ||
      driftDecision state.runningStorePath current state.lastDriftTarget = .schedule) := by
  unfold checkDrift
  cases pending : state.upgradePending with
  | true => simp [pending]
  | false => cases driftDecision state.runningStorePath current state.lastDriftTarget <;> simp

theorem checkDrift_runningStorePath (state : ServiceState) (current : Option String) (timestamp : Nat) :
    (state.checkDrift current timestamp).runningStorePath = state.runningStorePath := by
  unfold checkDrift
  repeat' split
  all_goals rfl

theorem lifecycleStep_reregister (gate : UpgradeGate) (answers : Answers) (timestamp : Nat)
    (awaits : state.awaitsInstall = true)
    (reregister : (state.lifecycleStep gate answers timestamp).2.reregister = true) :
    state.restartDue gate answers = true := by
  have backoff : state.phase ≠ .crashBackoff := by
    intro crashed
    simp [ServiceState.awaitsInstall, crashed, ServicePhase.awaitsInstall] at awaits
  have unhealthy : state.phase.isHealthy = false := by
    cases phase : state.phase <;> simp_all [ServiceState.awaitsInstall, ServicePhase.awaitsInstall, ServicePhase.isHealthy]
  unfold lifecycleStep at reregister
  simp only [backoff, unhealthy, decide_false, Bool.not_false, Bool.true_and, Bool.false_and, Bool.or_false] at reregister
  split at reregister
  · cases reregister
  · unfold restartDue
    simp only [Bool.or_eq_true (_ && _)]
    split at reregister
    · rename_i restarts
      exact .inl restarts
    · refine .inr ?_
      split at reregister
      · rename_i upgrades
        rw [checkDrift_upgradePending] at upgrades
        split at reregister
        · cases reregister
        · rename_i moved
          rw [checkDrift_runningStorePath] at moved
          rw [upgrades, Bool.true_and, Bool.not_eq_true']
          exact Bool.eq_false_of_not_eq_true moved
      · cases reregister

theorem lifecycleStep_integrated (gate : UpgradeGate) (answers : Answers) (timestamp : Nat)
    (integrated : state.integrated = true) : (state.lifecycleStep gate answers timestamp).2.reregister = false := by
  simp [lifecycleStep, integrated]

theorem guarded_advance (gate : UpgradeGate) (answers : Answers) (timestamp : Nat) (live : LiveMap)
    (guarded : state.Guarded succeeded) : (state.advance gate answers timestamp live).1.Guarded succeeded := by
  have stepped := (sameInstall_lifecycleStep state gate answers timestamp).guarded guarded
  unfold advance
  simp only
  split
  · rename_i promoted
    simp only [Bool.and_eq_true, decide_eq_true_eq] at promoted
    refine guarded_setPhase .promoted .healthy ?_ stepped
    simp [awaitsInstall, promoted.1.2, ServicePhase.awaitsInstall]
  · exact stepped

theorem advance_reregister {gate : UpgradeGate} {answers : Answers} {timestamp : Nat} {live : LiveMap}
    (reregister : (state.advance gate answers timestamp live).2 = true)
    (due : state.awaitsInstall → state.integrated = false → state.restartDue gate answers = false) :
    (state.advance gate answers timestamp live).1.awaitsInstall = false ∧
      (state.advance gate answers timestamp live).1.integrated = false := by
  have same := sameInstall_lifecycleStep state gate answers timestamp
  unfold advance at reregister ⊢
  simp only at reregister ⊢
  split at reregister
  · cases reregister
  · rename_i kept
    rw [if_neg kept]
    have managed : state.integrated = false := by
      by_contra integrated
      rw [lifecycleStep_integrated gate answers timestamp (by simpa using integrated)] at reregister
      cases reregister
    refine ⟨?_, same.integrated.trans managed⟩
    rw [same.awaitsInstall]
    by_contra awaits
    have wanted := lifecycleStep_reregister gate answers timestamp (by simpa using awaits) reregister
    rw [due (by simpa using awaits) managed] at wanted
    cases wanted

end ServiceState
end MacMgmt.Agent
