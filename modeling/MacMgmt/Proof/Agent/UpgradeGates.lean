import MacMgmt.Proof.Agent.Phases

/-!
# The gate of upgrades

`lifecycle_step` asks for a reregister on two paths. The one for a pending restart looks at `busy`, the one for a pending
upgrade only at the gate; with `UpgradeGate::Anytime` it restarts a service that is busy.
-/

namespace MacMgmt.Proof.Agent.UpgradeGates
open MacMgmt.Agent

variable {state : ServiceState} {gate : UpgradeGate} {answers : Answers} {timestamp : Nat}

/-! ## What decides a step -/

def current (state : ServiceState) (answers : Answers) : Option String :=
  answers.binaryStorePath state.service.binaryName

def inBackoff (state : ServiceState) : Bool := state.phase = .crashBackoff

def reportsBusy (state : ServiceState) (answers : Answers) : Bool :=
  !inBackoff state && (answers.isBusy state.service).getD false

/-- `restart_pending` once the service was asked for an external change. -/
def restartPending (state : ServiceState) (answers : Answers) : Bool :=
  state.restartPending || (!inBackoff state && state.phase.isHealthy && answers.needsRestart state.service)

def restarts (state : ServiceState) (gate : UpgradeGate) (answers : Answers) : Bool :=
  !inBackoff state && restartPending state answers && (!reportsBusy state answers || gate.forcesBusyRestarts)

/-- `upgrade_pending` after the drift check, which an integrated service is spared. -/
def upgradePending (state : ServiceState) (answers : Answers) : Bool :=
  state.upgradePending || (!state.integrated &&
    driftDecision state.runningStorePath (current state answers) state.lastDriftTarget = .schedule)

def unchanged (state : ServiceState) (answers : Answers) : Bool :=
  (current state answers).isSome && current state answers = state.runningStorePath

def checked (state : ServiceState) (answers : Answers) (timestamp : Nat) : ServiceState :=
  { state with restartPending := restartPending state answers }.checkDrift (current state answers) timestamp

theorem checked_upgradePending (managed : state.integrated = false) :
    (checked state answers timestamp).upgradePending = upgradePending state answers := by
  unfold checked upgradePending
  rw [ServiceState.checkDrift_upgradePending, managed]
  rfl

theorem checked_runningStorePath : (checked state answers timestamp).runningStorePath = state.runningStorePath :=
  ServiceState.checkDrift_runningStorePath _ _ _

theorem lifecycleStep_integrated (integrated : state.integrated = true) :
    state.lifecycleStep gate answers timestamp = (state, ⟨reportsBusy state answers, false⟩) := by
  unfold ServiceState.lifecycleStep
  rw [if_pos integrated]
  rfl

theorem lifecycleStep_managed (managed : state.integrated = false) :
    state.lifecycleStep gate answers timestamp =
      if restarts state gate answers then
        ({ state with restartPending := false, upgradePending := false }, ⟨reportsBusy state answers, true⟩)
      else if upgradePending state answers && gate.allowsUpgrades then
        ({ checked state answers timestamp with upgradePending := false },
          ⟨reportsBusy state answers, !unchanged state answers⟩)
      else (checked state answers timestamp, ⟨reportsBusy state answers, false⟩) := by
  unfold ServiceState.lifecycleStep
  rw [if_neg (by simp [managed])]
  show (if restarts state gate answers then _ else
    if (checked state answers timestamp).upgradePending && gate.allowsUpgrades then
      if (current state answers).isSome && current state answers = (checked state answers timestamp).runningStorePath then
        _ else _
    else _) = _
  rw [checked_upgradePending managed, checked_runningStorePath]
  cases restarted : restarts state gate answers with
  | true => rfl
  | false =>
      cases upgrade : upgradePending state answers && gate.allowsUpgrades with
      | true =>
          cases same : unchanged state answers with
          | true =>
            unfold unchanged at same
            simp only [same, if_true]
            rfl
          | false =>
            unfold unchanged at same
            simp only [same]
            rfl
      | false => rfl

/-! ## The policy -/

/-- Outside a window no busy service is restarted, with the window still to come only a pending restart is a reason, and
an upgrade stays pending until it is applied or found to change nothing. -/
structure Policy (busy : Bool) (state : ServiceState) (gate : UpgradeGate) (answers : Answers) (timestamp : Nat) :
    Prop where
  window : (state.lifecycleStep gate answers timestamp).2.reregister = true → busy = true → gate = .inWindow
  deferred : gate = .deferred → (state.lifecycleStep gate answers timestamp).2.reregister = true →
    restartPending state answers = true
  undrifted : gate = .deferred → ∀ pending running target which canonicalize,
    ({ state with upgradePending := pending, runningStorePath := running, lastDriftTarget := target }.lifecycleStep gate
      { answers with which := which, canonicalize := canonicalize } timestamp).2.reregister =
      (state.lifecycleStep gate answers timestamp).2.reregister
  applied : upgradePending state answers = true →
    (state.lifecycleStep gate answers timestamp).1.upgradePending = false →
    (state.lifecycleStep gate answers timestamp).2.reregister = true ∨
      ∃ path, current state answers = some path ∧ state.runningStorePath = some path

/-- With no window configured, an upgrade or a drift of a service that is busy. -/
structure Interrupts (busy : Bool) (state : ServiceState) (gate : UpgradeGate) (answers : Answers) : Prop where
  anytime : gate = .anytime
  managed : state.integrated = false
  busy : busy = true
  pending : upgradePending state answers = true
  changed : unchanged state answers = false

theorem reregister_of_upgrade (managed : state.integrated = false) (pending : upgradePending state answers = true)
    (allowed : gate.allowsUpgrades = true) (changed : unchanged state answers = false) :
    (state.lifecycleStep gate answers timestamp).2.reregister = true := by
  rw [lifecycleStep_managed managed, pending, allowed, changed]
  split <;> rfl

theorem managed_of_reregister (reregister : (state.lifecycleStep gate answers timestamp).2.reregister = true) :
    state.integrated = false := by
  cases integrated : state.integrated with
  | false => rfl
  | true =>
      rw [lifecycleStep_integrated integrated] at reregister
      cases reregister

theorem restarts_or_upgrades (reregister : (state.lifecycleStep gate answers timestamp).2.reregister = true) :
    restarts state gate answers = true ∨
      upgradePending state answers = true ∧ gate.allowsUpgrades = true ∧ unchanged state answers = false := by
  rw [lifecycleStep_managed (managed_of_reregister reregister)] at reregister
  split at reregister
  · rename_i restarted
    exact .inl restarted
  · split at reregister
    · rename_i upgrade
      rw [Bool.and_eq_true] at upgrade
      exact .inr ⟨upgrade.1, upgrade.2, by simpa using reregister⟩
    · cases reregister

theorem reregister_deferred (managed : state.integrated = false) :
    (state.lifecycleStep .deferred answers timestamp).2.reregister = restarts state .deferred answers := by
  rw [lifecycleStep_managed managed]
  cases restarts state .deferred answers with
  | true => rfl
  | false => simp [UpgradeGate.allowsUpgrades]

theorem same_of_unchanged (same : unchanged state answers = true) :
    ∃ path, current state answers = some path ∧ state.runningStorePath = some path := by
  unfold unchanged at same
  rw [Bool.and_eq_true, decide_eq_true_eq] at same
  obtain ⟨known, equal⟩ := same
  obtain ⟨path, found⟩ := Option.isSome_iff_exists.mp known
  exact ⟨path, found, equal.symm.trans found⟩

theorem applied_of_cleared (pending : upgradePending state answers = true)
    (cleared : (state.lifecycleStep gate answers timestamp).1.upgradePending = false) :
    (state.lifecycleStep gate answers timestamp).2.reregister = true ∨
      ∃ path, current state answers = some path ∧ state.runningStorePath = some path := by
  cases integrated : state.integrated with
  | true =>
      rw [lifecycleStep_integrated integrated] at cleared
      simp only [upgradePending, integrated, Bool.not_true, Bool.false_and, Bool.or_false] at pending
      rw [pending] at cleared
      cases cleared
  | false =>
      rw [lifecycleStep_managed integrated] at cleared ⊢
      split at cleared
      · rename_i restarted
        rw [if_pos restarted]
        exact .inl rfl
      · rename_i kept
        rw [if_neg kept]
        split at cleared
        · rename_i upgrade
          rw [if_pos upgrade]
          cases same : unchanged state answers with
          | true => exact .inr (same_of_unchanged same)
          | false => exact .inl rfl
        · rw [checked_upgradePending integrated, pending] at cleared
          cases cleared

theorem restarts_frame (pending : Bool) (running target : Option String) (which canonicalize : String → Option String) :
    restarts { state with upgradePending := pending, runningStorePath := running, lastDriftTarget := target } gate
      { answers with which := which, canonicalize := canonicalize } = restarts state gate answers := rfl

theorem reregister_undrifted (pending : Bool) (running target : Option String)
    (which canonicalize : String → Option String) :
    ({ state with upgradePending := pending, runningStorePath := running, lastDriftTarget := target }.lifecycleStep
      .deferred { answers with which := which, canonicalize := canonicalize } timestamp).2.reregister =
      (state.lifecycleStep .deferred answers timestamp).2.reregister := by
  cases integrated : state.integrated with
  | true =>
      rw [lifecycleStep_integrated integrated, lifecycleStep_integrated (by exact integrated)]
  | false =>
      rw [reregister_deferred integrated, reregister_deferred (by exact integrated), restarts_frame]

theorem policy_iff_of {busy : Bool}
    (asked : busy = true → inBackoff state = false → reportsBusy state answers = true) :
    Policy busy state gate answers timestamp ↔ ¬ Interrupts busy state gate answers := by
  constructor
  · intro policy interrupts
    have allowed : gate.allowsUpgrades = true := by
      rw [interrupts.anytime]
      rfl
    have inWindow := policy.window
      (reregister_of_upgrade interrupts.managed interrupts.pending allowed interrupts.changed) interrupts.busy
    rw [interrupts.anytime] at inWindow
    cases inWindow
  · intro spared
    refine ⟨fun reregister isBusy => ?_, fun deferred reregister => ?_, fun deferred => ?_, applied_of_cleared⟩
    · cases restarts_or_upgrades reregister with
      | inl restarted =>
          simp only [restarts, Bool.and_eq_true, Bool.not_eq_true', Bool.or_eq_true] at restarted
          obtain ⟨⟨outside, -⟩, free | forced⟩ := restarted
          · rw [asked isBusy outside] at free
            cases free
          · cases gate with
            | inWindow => rfl
            | anytime => cases forced
            | deferred => cases forced
      | inr upgrade =>
          obtain ⟨pending, allowed, changed⟩ := upgrade
          cases gate with
          | inWindow => rfl
          | anytime => exact absurd ⟨rfl, managed_of_reregister reregister, isBusy, pending, changed⟩ spared
          | deferred => cases allowed
    · subst deferred
      rw [reregister_deferred (managed_of_reregister reregister)] at reregister
      simp only [restarts, Bool.and_eq_true] at reregister
      exact reregister.1.2
    · subst deferred
      exact reregister_undrifted

/-- The policy for a service that `is_busy` calls busy when the step asks it, and for one that it calls busy in any
phase. -/
theorem policy_iff (state : ServiceState) (gate : UpgradeGate) (answers : Answers) (timestamp : Nat) :
    (Policy (reportsBusy state answers) state gate answers timestamp ↔
      ¬ Interrupts (reportsBusy state answers) state gate answers) ∧
    (Policy ((answers.isBusy state.service).getD false) state gate answers timestamp ↔
      ¬ Interrupts ((answers.isBusy state.service).getD false) state gate answers) := by
  refine ⟨policy_iff_of fun busy _ => busy, policy_iff_of fun busy outside => ?_⟩
  unfold reportsBusy
  rw [busy, outside]
  rfl

def hermes : Service := ⟨"hermes", .managed, "hermes", ⟨"hermes", ["gateway"], ∅⟩, false⟩

/-- An upgrade of Hermes waits, and Hermes answers that it is at work. -/
def upgraded : ServiceState :=
  { ServiceState.new hermes .healthy false true none with
    upgradePending := true
    runningStorePath := some "/nix/store/old-hermes" }

def atWork : Answers where
  isBusy := fun _ => some true
  which := fun _ => some "/root/.nix-profile/bin/hermes"
  canonicalize := fun _ => some "/nix/store/new-hermes/bin/hermes"

theorem busy_service_restarted :
    ¬ ∀ state gate answers timestamp, Policy (reportsBusy state answers) state gate answers timestamp := by
  intro policy
  have inWindow := (policy upgraded .anytime atWork 0).window (by decide) (by decide)
  cases inWindow

end MacMgmt.Proof.Agent.UpgradeGates
