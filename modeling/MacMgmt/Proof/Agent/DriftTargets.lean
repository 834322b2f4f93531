import MacMgmt.Agent.ServiceState
import MacMgmt.Lib.Run
import MacMgmt.Proof.Agent.TickPasses
import MacMgmt.Proof.Agent.UpgradeGates

/-!
# The remembered drift target

`last_drift_target` is written when a reregister is scheduled. While the resolver stays at a target, drift asks for one
reregister toward it and no more. That a drift reported as a loop has been reregistered toward is true only as long as the
Register requests succeed, no upgrade is dropped and no target comes back.
-/

namespace MacMgmt.Proof.Agent.DriftTargets
open Lib MacMgmt.Supervisor MacMgmt.Agent MacMgmt.Proof.Agent.UpgradeGates

/-! ## A service under watch -/

/-- A service with what has happened since its drift target was recorded: `registered` if a Register succeeded, `reached` if the
target was the running path, `owed` if a reregister was asked for and no Register has succeeded after it. `byDrift` says that a
drift set `upgrade_pending`, and `reregisters` lists the targets of the reregisters that drift alone asked for. -/
structure DriftWatch where
  state : ServiceState
  byDrift : Bool
  registered : Bool
  reached : Bool
  owed : Bool
  reregisters : List String

namespace DriftWatch

def start (state : ServiceState) : DriftWatch := ⟨state, false, false, false, false, []⟩

def lifecycle (watch : DriftWatch) (gate : UpgradeGate) (answers : Answers) (timestamp : Nat)
    (live : ServiceState.LiveMap) : DriftWatch :=
  let after := (watch.state.lifecycleStep gate answers timestamp).1
  let reregister := (watch.state.lifecycleStep gate answers timestamp).2.reregister
  let recorded : Bool := after.lastDriftTarget ≠ watch.state.lastDriftTarget
  let byDrift := watch.byDrift || recorded
  { state := watch.state.apply (.lifecycle gate answers timestamp live)
    byDrift := byDrift && after.upgradePending
    registered := watch.registered && !recorded
    reached := watch.reached && !recorded
    owed := (watch.owed && !recorded) || reregister
    reregisters :=
      if reregister && byDrift && !restarts watch.state gate answers then
        after.lastDriftTarget.toList ++ watch.reregisters
      else watch.reregisters }

def step (watch : DriftWatch) : ServiceEvent → DriftWatch
  | .lifecycle gate answers timestamp live => watch.lifecycle gate answers timestamp live
  | .register ok =>
      { watch with
        state := watch.state.apply (.register ok)
        registered := watch.registered || ok
        owed := watch.owed && !ok }
  | .listed path =>
      { watch with
        state := watch.state.apply (.listed path)
        reached := watch.reached || (path.isSome && path = watch.state.lastDriftTarget) }
  | event@(.crashed _) | event@(.backoffExpires _) | event@(.healthCheck _ _) | event@(.tornDown _)
  | event@(.checkUpgrade _) => { watch with state := watch.state.apply event }

def next (watch : DriftWatch) (event : ServiceEvent) : Option DriftWatch := some (watch.step event)

end DriftWatch

def Suppresses (state : ServiceState) (gate : UpgradeGate) (answers : Answers) : Prop :=
  state.integrated = false ∧ restarts state gate answers = false ∧ state.upgradePending = false ∧
    driftDecision state.runningStorePath (current state answers) state.lastDriftTarget = .suppressedLoop

/-- A drift that is reported as a loop was reregistered toward, and the service has not run its target since. -/
def Justified (watch : DriftWatch) : ServiceEvent → Prop
  | .lifecycle gate answers _ _ =>
      Suppresses watch.state gate answers → watch.registered = true ∧ watch.reached = false
  | .register _ | .listed _ | .crashed _ | .backoffExpires _ | .healthCheck _ _ | .tornDown _ | .checkUpgrade _ => True

def Resolves (target : String) (watch : DriftWatch) : ServiceEvent → Prop
  | .lifecycle _ answers _ _ => current watch.state answers = some target
  | .register _ | .listed _ | .crashed _ | .backoffExpires _ | .healthCheck _ _ | .tornDown _ | .checkUpgrade _ => True

/-- With a target recorded, a step that restarts nothing finds every Register answered with success, drops no upgrade, and does
not find the resolver back at a target that the service has left. -/
structure Settled (watch : DriftWatch) (gate : UpgradeGate) (answers : Answers) : Prop where
  answered : watch.state.upgradePending = false → watch.owed = true → watch.registered = true ∨ watch.reached = true
  applied : watch.state.upgradePending = true → gate.allowsUpgrades = true → unchanged watch.state answers = true →
    watch.registered = true ∨ watch.reached = true
  left : watch.state.upgradePending = false → current watch.state answers = watch.state.lastDriftTarget →
    watch.state.runningStorePath ≠ watch.state.lastDriftTarget → watch.reached = false

def Settles (watch : DriftWatch) : ServiceEvent → Prop
  | .lifecycle gate answers _ _ =>
      watch.state.lastDriftTarget.isSome = true → restarts watch.state gate answers = false → Settled watch gate answers
  | .register _ | .listed _ | .crashed _ | .backoffExpires _ | .healthCheck _ _ | .tornDown _ | .checkUpgrade _ => True

/-! ## The lifecycle step and the target -/

section
variable {state : ServiceState} {gate : UpgradeGate} {answers : Answers} {timestamp : Nat} {live : ServiceState.LiveMap}

def records (state : ServiceState) (gate : UpgradeGate) (answers : Answers) : Bool :=
  !restarts state gate answers && !state.upgradePending &&
    driftDecision state.runningStorePath (current state answers) state.lastDriftTarget = .schedule

theorem driftDecision_schedule {running current lastTarget : Option String}
    (schedule : driftDecision running current lastTarget = .schedule) :
    ∃ target, current = some target ∧ lastTarget ≠ some target ∧ running ≠ some target := by
  unfold driftDecision at schedule
  split at schedule
  · rename_i old target
    split at schedule
    · rename_i moved
      split at schedule
      · cases schedule
      · rename_i fresh
        exact ⟨target, rfl, fresh, by simpa using moved⟩
    · cases schedule
  · cases schedule

theorem driftDecision_suppressed {running current lastTarget : Option String}
    (suppressed : driftDecision running current lastTarget = .suppressedLoop) :
    ∃ target, current = some target ∧ lastTarget = some target ∧ running ≠ some target := by
  unfold driftDecision at suppressed
  split at suppressed
  · rename_i old target
    split at suppressed
    · rename_i moved
      split at suppressed
      · rename_i remembered
        exact ⟨target, rfl, remembered, by simpa using moved⟩
      · cases suppressed
    · cases suppressed
  · cases suppressed

theorem checkDrift_lastDriftTarget (state : ServiceState) (current : Option String) (timestamp : Nat) :
    (state.checkDrift current timestamp).lastDriftTarget =
      if !state.upgradePending && driftDecision state.runningStorePath current state.lastDriftTarget = .schedule then current
      else state.lastDriftTarget := by
  unfold ServiceState.checkDrift
  cases pending : state.upgradePending with
  | true => simp
  | false =>
      cases decision : driftDecision state.runningStorePath current state.lastDriftTarget with
      | none => simp
      | schedule =>
          obtain ⟨target, rfl, -, -⟩ := driftDecision_schedule decision
          simp
      | suppressedLoop => simp

theorem lifecycleStep_lastDriftTarget (managed : state.integrated = false) :
    (state.lifecycleStep gate answers timestamp).1.lastDriftTarget =
      if records state gate answers then current state answers else state.lastDriftTarget := by
  rw [lifecycleStep_managed managed]
  unfold records
  cases restarted : restarts state gate answers with
  | true => simp
  | false =>
      have drifted : (checked state answers timestamp).lastDriftTarget = _ := checkDrift_lastDriftTarget _ _ _
      cases upgrade : upgradePending state answers && gate.allowsUpgrades with
      | true => simpa using drifted
      | false => simpa using drifted

theorem lifecycleStep_upgradePending (managed : state.integrated = false) :
    (state.lifecycleStep gate answers timestamp).1.upgradePending =
      (!restarts state gate answers && upgradePending state answers && !gate.allowsUpgrades) := by
  rw [lifecycleStep_managed managed]
  cases restarted : restarts state gate answers with
  | true => simp
  | false =>
      cases upgrade : upgradePending state answers <;> cases gate.allowsUpgrades <;>
        simp [checked_upgradePending managed, upgrade]

theorem lifecycleStep_reregister (managed : state.integrated = false) :
    (state.lifecycleStep gate answers timestamp).2.reregister =
      (restarts state gate answers ||
        (upgradePending state answers && gate.allowsUpgrades && !unchanged state answers)) := by
  rw [lifecycleStep_managed managed]
  cases restarted : restarts state gate answers with
  | true => simp
  | false => cases upgrade : upgradePending state answers && gate.allowsUpgrades <;> simp

theorem current_of_records (recorded : records state gate answers = true) :
    ∃ target, current state answers = some target ∧ state.lastDriftTarget ≠ some target := by
  simp only [records, Bool.and_eq_true, decide_eq_true_eq] at recorded
  obtain ⟨target, now, fresh, -⟩ := driftDecision_schedule recorded.2
  exact ⟨target, now, fresh⟩

theorem unchanged_of_records (recorded : records state gate answers = true) : unchanged state answers = false := by
  simp only [records, Bool.and_eq_true, decide_eq_true_eq] at recorded
  obtain ⟨target, now, -, away⟩ := driftDecision_schedule recorded.2
  simpa [unchanged, now] using Ne.symm away

theorem upgradePending_of_records (managed : state.integrated = false) (recorded : records state gate answers = true) :
    upgradePending state answers = true := by
  simp only [records, Bool.and_eq_true, decide_eq_true_eq] at recorded
  simp [upgradePending, managed, recorded.2]

theorem recorded_iff (managed : state.integrated = false) :
    decide ((state.lifecycleStep gate answers timestamp).1.lastDriftTarget ≠ state.lastDriftTarget) =
      records state gate answers := by
  rw [lifecycleStep_lastDriftTarget managed]
  cases recorded : records state gate answers with
  | true =>
      obtain ⟨target, now, fresh⟩ := current_of_records recorded
      simpa [now] using Ne.symm fresh
  | false => simp

theorem advance_lastDriftTarget : (state.advance gate answers timestamp live).1.lastDriftTarget =
    (state.lifecycleStep gate answers timestamp).1.lastDriftTarget := by
  unfold ServiceState.advance
  simp only
  split
  · rfl
  · rfl

theorem advance_upgradePending : (state.advance gate answers timestamp live).1.upgradePending =
    (state.lifecycleStep gate answers timestamp).1.upgradePending := by
  unfold ServiceState.advance
  simp only
  split
  · rfl
  · rfl

/-! ## The other events -/

/-- No target is recorded, and an upgrade that is pending stays so. -/
structure KeepsTarget (before after : ServiceState) : Prop where
  service : after.service = before.service
  lastDriftTarget : after.lastDriftTarget = before.lastDriftTarget
  upgradePending : before.upgradePending = true → after.upgradePending = true

theorem keepsTarget_expire (state : ServiceState) (now : Nat) : KeepsTarget state (state.expireCrashBackoff now) := by
  unfold ServiceState.expireCrashBackoff
  split
  · exact ⟨rfl, rfl, id⟩
  · split
    · exact ⟨rfl, rfl, id⟩
    · exact ⟨rfl, rfl, id⟩

theorem keepsTarget_applyHealthCheck (state : ServiceState) (answers : Answers) (live : ServiceState.LiveMap) :
    KeepsTarget state (state.applyHealthCheck answers live) := by
  unfold ServiceState.applyHealthCheck
  repeat' split
  all_goals exact ⟨rfl, rfl, id⟩

theorem keepsTarget_checkUpgrade (state : ServiceState) (answers : Answers) :
    KeepsTarget state (state.checkUpgrade answers) := by
  unfold ServiceState.checkUpgrade
  split
  · exact ⟨rfl, rfl, id⟩
  · rename_i settled
    exact ⟨rfl, rfl, fun pending => absurd pending settled⟩

end

/-! ## One reregister a target -/

/-- Whether drift may still ask for a reregister toward `target`. -/
def room (target : String) (watch : DriftWatch) : Nat :=
  if watch.state.lastDriftTarget = some target ∧ watch.byDrift = false then 0 else 1

theorem room_le_one (target : String) (watch : DriftWatch) : room target watch ≤ 1 := by
  unfold room
  split <;> omega

theorem room_keeps {target : String} {watch after : DriftWatch} (kept : KeepsTarget watch.state after.state)
    (byDrift : after.byDrift = watch.byDrift) : room target after = room target watch := by
  unfold room
  rw [kept.lastDriftTarget, byDrift]

theorem lifecycle_integrated {watch : DriftWatch} (integrated : watch.state.integrated = true) (gate : UpgradeGate)
    (answers : Answers) (timestamp : Nat) (live : ServiceState.LiveMap) :
    watch.lifecycle gate answers timestamp live =
      { watch with
        state := watch.state.apply (.lifecycle gate answers timestamp live)
        byDrift := watch.byDrift && watch.state.upgradePending } := by
  unfold DriftWatch.lifecycle
  rw [lifecycleStep_integrated integrated]
  simp

theorem lifecycle_managed {watch : DriftWatch} (managed : watch.state.integrated = false) (gate : UpgradeGate)
    (answers : Answers) (timestamp : Nat) (live : ServiceState.LiveMap) :
    watch.lifecycle gate answers timestamp live =
      let recorded := records watch.state gate answers
      let restarted := restarts watch.state gate answers
      let pending := upgradePending watch.state answers
      let applied := pending && gate.allowsUpgrades && !unchanged watch.state answers
      { state := watch.state.apply (.lifecycle gate answers timestamp live)
        byDrift := (watch.byDrift || recorded) && (!restarted && pending && !gate.allowsUpgrades)
        registered := watch.registered && !recorded
        reached := watch.reached && !recorded
        owed := (watch.owed && !recorded) || (restarted || applied)
        reregisters :=
          if (restarted || applied) && (watch.byDrift || recorded) && !restarted then
            (if recorded then current watch.state answers else watch.state.lastDriftTarget).toList ++ watch.reregisters
          else watch.reregisters } := by
  unfold DriftWatch.lifecycle
  simp only [recorded_iff managed]
  simp only [lifecycleStep_lastDriftTarget managed, lifecycleStep_upgradePending managed,
    lifecycleStep_reregister managed]

theorem count_toList_append (target : String) (given : Option String) (targets : List String) :
    (given.toList ++ targets).count target = targets.count target + if given = some target then 1 else 0 := by
  cases given with
  | none => simp
  | some other => simp [List.count_cons]

theorem room_lifecycle {target : String} {watch : DriftWatch} {gate : UpgradeGate} {answers : Answers} {timestamp : Nat}
    {live : ServiceState.LiveMap} (resolved : current watch.state answers = some target) :
    let after := watch.lifecycle gate answers timestamp live
    after.reregisters.count target + room target after ≤ watch.reregisters.count target + room target watch := by
  cases integrated : watch.state.integrated with
  | true =>
      have remembered : (watch.state.apply (.lifecycle gate answers timestamp live)).lastDriftTarget =
          watch.state.lastDriftTarget :=
        advance_lastDriftTarget.trans (by rw [lifecycleStep_integrated integrated])
      simp only [lifecycle_integrated integrated, room, remembered]
      cases watch.byDrift with
      | true => split <;> simp
      | false => simp
  | false =>
      have remembered : (watch.state.apply (.lifecycle gate answers timestamp live)).lastDriftTarget =
          if records watch.state gate answers then some target else watch.state.lastDriftTarget := by
        rw [← resolved]
        exact advance_lastDriftTarget.trans (lifecycleStep_lastDriftTarget integrated)
      simp only [lifecycle_managed integrated, room, remembered]
      cases recorded : records watch.state gate answers with
      | true =>
          -- The target was another one, so there was room for it.
          obtain ⟨other, now, fresh⟩ := current_of_records recorded
          cases now.symm.trans resolved
          have pending := upgradePending_of_records integrated recorded
          simp only [records, Bool.and_eq_true, Bool.not_eq_true'] at recorded
          simp only [recorded.1.1, resolved, fresh, pending]
          cases gate.allowsUpgrades with
          | true => cases unchanged watch.state answers <;> simp
          | false => simp
      | false =>
          cases watch.byDrift with
          | false => simp
          | true =>
              cases restarts watch.state gate answers with
              | true =>
                  simp only [Bool.not_true, Bool.and_false, Bool.false_eq_true, if_false, Bool.false_and, and_true]
                  split <;> simp
              | false =>
                  cases applied : upgradePending watch.state answers && gate.allowsUpgrades &&
                    !unchanged watch.state answers with
                  | true =>
                      simp only [Bool.and_eq_true] at applied
                      have fired := count_toList_append target watch.state.lastDriftTarget watch.reregisters
                      by_cases same : watch.state.lastDriftTarget = some target <;>
                        simp [applied.1.2, fired, same]
                  | false =>
                      simp only [Bool.false_or, Bool.false_and, Bool.false_eq_true, if_false]
                      split <;> simp

/-! ## Runs -/

def IsLifecycle (event : ServiceEvent) : Prop := ∃ gate answers timestamp live, event = .lifecycle gate answers timestamp live

theorem keepsTarget_step {watch : DriftWatch} {event : ServiceEvent} (other : ¬ IsLifecycle event) :
    KeepsTarget watch.state (watch.step event).state := by
  cases event with
  | register ok => cases ok <;> exact ⟨rfl, rfl, id⟩
  | listed path => exact ⟨rfl, rfl, id⟩
  | crashed now => exact ⟨rfl, rfl, id⟩
  | backoffExpires now => exact keepsTarget_expire watch.state now
  | lifecycle gate answers timestamp live => exact absurd ⟨gate, answers, timestamp, live, rfl⟩ other
  | healthCheck answers live => exact keepsTarget_applyHealthCheck watch.state answers live
  | tornDown cause => exact ⟨rfl, rfl, id⟩
  | checkUpgrade answers => exact keepsTarget_checkUpgrade watch.state answers

theorem byDrift_step {watch : DriftWatch} {event : ServiceEvent} (other : ¬ IsLifecycle event) :
    (watch.step event).byDrift = watch.byDrift ∧ (watch.step event).reregisters = watch.reregisters := by
  cases event with
  | lifecycle gate answers timestamp live => exact absurd ⟨gate, answers, timestamp, live, rfl⟩ other
  | register ok | listed path | crashed now | backoffExpires now | healthCheck answers live | tornDown cause
    | checkUpgrade answers => exact ⟨rfl, rfl⟩

theorem room_step {target : String} {watch : DriftWatch} {event : ServiceEvent} (resolved : Resolves target watch event) :
    (watch.step event).reregisters.count target + room target (watch.step event) ≤
      watch.reregisters.count target + room target watch := by
  by_cases lifecycle : IsLifecycle event
  · obtain ⟨gate, answers, timestamp, live, rfl⟩ := lifecycle
    exact room_lifecycle resolved
  · rw [(byDrift_step lifecycle).2, room_keeps (keepsTarget_step lifecycle) (byDrift_step lifecycle).1]

theorem room_run {target : String} {watch : DriftWatch} {events : List ServiceEvent}
    (resolved : Meets DriftWatch.next (Resolves target) watch events) :
    let after := events.foldl DriftWatch.step watch
    after.reregisters.count target + room target after ≤ watch.reregisters.count target + room target watch := by
  induction events generalizing watch with
  | nil => exact le_rfl
  | cons event events ih => exact (ih (resolved.2 _ rfl)).trans (room_step resolved.1)

def Accounted (watch : DriftWatch) : Prop :=
  watch.state.integrated = false ∧ (watch.state.lastDriftTarget.isSome = true →
    watch.state.upgradePending = true ∨ watch.registered = true ∨ watch.reached = true ∨ watch.owed = true)

theorem service_lifecycle (state : ServiceState) (gate : UpgradeGate) (answers : Answers) (timestamp : Nat)
    (live : ServiceState.LiveMap) : (state.apply (.lifecycle gate answers timestamp live)).service = state.service := by
  have same := (ServiceState.sameInstall_lifecycleStep state gate answers timestamp).service
  unfold ServiceState.apply ServiceState.advance
  simp only
  split
  · exact same
  · exact same

theorem accounted_lifecycle {watch : DriftWatch} {gate : UpgradeGate} {answers : Answers} {timestamp : Nat}
    {live : ServiceState.LiveMap} (accounted : Accounted watch)
    (settles : Settles watch (.lifecycle gate answers timestamp live)) :
    Accounted (watch.lifecycle gate answers timestamp live) := by
  obtain ⟨managed, account⟩ := accounted
  refine ⟨?_, fun known => ?_⟩
  · rw [ServiceState.integrated, DriftWatch.lifecycle, service_lifecycle]
    exact managed
  · have target : (watch.state.apply (.lifecycle gate answers timestamp live)).lastDriftTarget = _ :=
      advance_lastDriftTarget.trans (lifecycleStep_lastDriftTarget managed)
    have pending : (watch.state.apply (.lifecycle gate answers timestamp live)).upgradePending = _ :=
      advance_upgradePending.trans (lifecycleStep_upgradePending managed)
    rw [lifecycle_managed managed] at known ⊢
    simp only [target, pending] at known ⊢
    cases restarted : restarts watch.state gate answers with
    | true => simp
    | false =>
        cases recorded : records watch.state gate answers with
        | true =>
            rw [upgradePending_of_records managed recorded, unchanged_of_records recorded]
            cases gate.allowsUpgrades with
            | true => simp
            | false => simp
        | false =>
            simp only [recorded] at known
            have settled := settles known restarted
            rcases account known with waits | registered | reached | owed
            · have waiting : upgradePending watch.state answers = true := by simp [upgradePending, waits]
              rw [waiting]
              cases allowed : gate.allowsUpgrades with
              | false => simp
              | true =>
                  cases same : unchanged watch.state answers with
                  | false => simp
                  | true => rcases settled.applied waits allowed same with registered | reached <;> simp [*]
            · simp [registered]
            · simp [reached]
            · simp [owed]

/-- Registrations and arrivals are not forgotten, and a reregister is owed until a Register succeeds. -/
structure Remembers (before after : DriftWatch) : Prop where
  registered : before.registered = true → after.registered = true
  reached : before.reached = true → after.reached = true
  owed : before.owed = true → after.registered = true ∨ after.owed = true

theorem remembers_step {watch : DriftWatch} {event : ServiceEvent} (other : ¬ IsLifecycle event) :
    Remembers watch (watch.step event) := by
  cases event with
  | register ok => cases ok <;> constructor <;> simp +contextual [DriftWatch.step]
  | listed path => constructor <;> simp +contextual [DriftWatch.step]
  | lifecycle gate answers timestamp live => exact absurd ⟨gate, answers, timestamp, live, rfl⟩ other
  | crashed now | backoffExpires now | healthCheck answers live | tornDown cause | checkUpgrade answers =>
      exact ⟨id, id, .inr⟩

theorem accounted_other {watch : DriftWatch} {event : ServiceEvent} (other : ¬ IsLifecycle event)
    (accounted : Accounted watch) : Accounted (watch.step event) := by
  have kept : KeepsTarget watch.state _ := keepsTarget_step other
  have remembered : Remembers watch _ := remembers_step other
  obtain ⟨managed, account⟩ := accounted
  refine ⟨by rw [ServiceState.integrated, kept.service]; exact managed, fun known => ?_⟩
  rw [kept.lastDriftTarget] at known
  rcases account known with waits | registered | reached | owed
  · exact .inl (kept.upgradePending waits)
  · exact .inr (.inl (remembered.registered registered))
  · exact .inr (.inr (.inl (remembered.reached reached)))
  · rcases remembered.owed owed with registered | owed
    · exact .inr (.inl registered)
    · exact .inr (.inr (.inr owed))

theorem accounted_step {watch : DriftWatch} {event : ServiceEvent} (accounted : Accounted watch)
    (settles : Settles watch event) : Accounted (watch.step event) := by
  by_cases lifecycle : IsLifecycle event
  · obtain ⟨gate, answers, timestamp, live, rfl⟩ := lifecycle
    exact accounted_lifecycle accounted settles
  · exact accounted_other lifecycle accounted

theorem justified_of_settles {watch : DriftWatch} {event : ServiceEvent} (accounted : Accounted watch)
    (settles : Settles watch event) : Justified watch event := by
  cases event with
  | lifecycle gate answers timestamp live =>
      rintro ⟨-, outside, idle, suppressed⟩
      obtain ⟨target, resolved, remembered, away⟩ := driftDecision_suppressed suppressed
      have known : watch.state.lastDriftTarget.isSome = true := by rw [remembered]; rfl
      have settled := settles known outside
      have unreached : watch.reached = false := by
        refine settled.left idle ?_ ?_
        · rw [resolved, remembered]
        · rwa [remembered]
      rcases accounted.2 known with pending | registered | reached | owed
      · rw [idle] at pending
        cases pending
      · exact ⟨registered, unreached⟩
      · rw [unreached] at reached
        cases reached
      · rcases settled.answered idle owed with registered | reached
        · exact ⟨registered, unreached⟩
        · rw [unreached] at reached
          cases reached
  | register ok | listed path | crashed now | backoffExpires now | healthCheck answers live | tornDown cause
    | checkUpgrade answers => trivial

/-- (a) for every part of a run in which the resolver stays at a target, and (b) for every run whose steps settle. -/
theorem drift_reregisters (service : Service) (managed : service.mode = .managed) (phase : ServicePhase)
    (restartPending connectorEnvCollected : Bool) (attempt : Option AttemptId) (events : List ServiceEvent) :
    let start := DriftWatch.start (.new service phase restartPending connectorEnvCollected attempt)
    (∀ before segment, events = before ++ segment → ∀ target,
      Meets DriftWatch.next (Resolves target) (before.foldl DriftWatch.step start) segment →
        (events.foldl DriftWatch.step start).reregisters.count target ≤
          (before.foldl DriftWatch.step start).reregisters.count target + 1) ∧
    (Meets DriftWatch.next Settles start events → Meets DriftWatch.next Justified start events) := by
  constructor
  · rintro before segment rfl target resolved
    rw [List.foldl_append]
    have ran := room_run resolved
    have once := room_le_one target (before.foldl DriftWatch.step
      (.start (.new service phase restartPending connectorEnvCollected attempt)))
    simp only at ran
    omega
  · intro settles
    have initially : Accounted (.start (.new service phase restartPending connectorEnvCollected attempt)) :=
      ⟨by simp [DriftWatch.start, ServiceState.new, ServiceState.integrated, managed], fun known => nomatch known⟩
    refine settles.imp_of_invariant (fun watch event after accounted settled taken => ?_)
      (fun watch event => justified_of_settles) initially
    cases taken
    exact accounted_step accounted settled

def resolvesTo (path : String) : Answers where
  which := fun _ => some "/root/.nix-profile/bin/hermes"
  canonicalize := fun _ => some path

/-- Hermes drifts, is reregistered, and the Register is answered as `registered` says; the next list shows it as before. -/
def drifting (registered : Bool) : List ServiceEvent :=
  [.listed (some "/nix/store/old"), .lifecycle .anytime (resolvesTo "/nix/store/new/bin/hermes") 0 fun _ => none,
    .register registered, .listed (some "/nix/store/old"),
    .lifecycle .anytime (resolvesTo "/nix/store/new/bin/hermes") 30 fun _ => none]

def healthyHermes : DriftWatch := .start (.new hermes .healthy false true none)

theorem settles_drifting : Meets DriftWatch.next Settles healthyHermes (drifting true) := by
  refine ⟨trivial, fun _ taken => ?_⟩
  cases taken
  refine ⟨fun known => (nomatch known), fun _ taken => ?_⟩
  cases taken
  refine ⟨trivial, fun _ taken => ?_⟩
  cases taken
  refine ⟨trivial, fun _ taken => ?_⟩
  cases taken
  refine ⟨fun _ _ => ⟨fun _ owed => ?_, fun waits => ?_, fun _ _ _ => ?_⟩, fun _ _ => trivial⟩
  · revert owed
    decide +kernel
  · revert waits
    decide +kernel
  · decide +kernel

theorem drift_reregisters_hermes : Meets DriftWatch.next Justified healthyHermes (drifting true) :=
  (drift_reregisters hermes rfl .healthy false true none (drifting true)).2 settles_drifting

/-- After the Register of its reregister has failed a drift is reported as a loop. -/
theorem failed_register_suppressed :
    ¬ ∀ (service : Service) (phase : ServicePhase) (restartPending connectorEnvCollected : Bool)
      (attempt : Option AttemptId) (events : List ServiceEvent), service.mode = .managed →
      let start := DriftWatch.start (.new service phase restartPending connectorEnvCollected attempt)
      (∀ before segment, events = before ++ segment → ∀ target,
        Meets DriftWatch.next (Resolves target) (before.foldl DriftWatch.step start) segment →
          (events.foldl DriftWatch.step start).reregisters.count target ≤
            (before.foldl DriftWatch.step start).reregisters.count target + 1) ∧
      Meets DriftWatch.next Justified start events := by
  intro all
  have justified := (all hermes .healthy false true none (drifting false) rfl).2
  have last := ((((justified.2 _ rfl).2 _ rfl).2 _ rfl).2 _ rfl).1
  have registered := (last ⟨by decide +kernel, by decide +kernel, by decide +kernel, by decide +kernel⟩).1
  revert registered
  decide +kernel

/-! ## The tick as events -/

theorem state_foldl (watch : DriftWatch) (events : List ServiceEvent) :
    (events.foldl DriftWatch.step watch).state = events.foldl ServiceState.apply watch.state := by
  induction events generalizing watch with
  | nil => rfl
  | cons event events ih =>
      rw [List.foldl_cons, List.foldl_cons, ih]
      cases event <;> rfl

def Within (inputs : ServiceManager.TickInputs) : ServiceEvent → Prop
  | .lifecycle gate answers timestamp _ => gate = inputs.gate ∧ answers = inputs.answers ∧ timestamp = inputs.now
  | .healthCheck answers _ => answers = inputs.answers
  | .crashed now | .backoffExpires now => now = inputs.now
  | .checkUpgrade _ => False
  | .register _ | .listed _ | .tornDown _ => True

def Happens (inputs : ServiceManager.TickInputs) (before after : ServiceState) : Prop :=
  ∃ events : List ServiceEvent, (∀ event ∈ events, Within inputs event) ∧ after = events.foldl ServiceState.apply before

section
open MacMgmt.Agent.ServiceManager MacMgmt.Proof.Agent.TickPasses
variable (inputs : TickInputs)

theorem happens_one {inputs : TickInputs} (state : ServiceState) (event : ServiceEvent) (within : Within inputs event) :
    Happens inputs state (state.apply event) :=
  ⟨[event], by simpa using within, rfl⟩

theorem happens_passes (inputs : TickInputs) : Passes (Happens inputs) where
  refl _ := ⟨[], by simp, rfl⟩
  trans one two := by
    obtain ⟨first, within, rfl⟩ := one
    obtain ⟨second, later, rfl⟩ := two
    refine ⟨first ++ second, fun event member => ?_, (List.foldl_append ..).symm⟩
    exact (List.mem_append.mp member).elim (within event) (later event)
  started state := happens_one state (.register true) trivial
  listed state path := happens_one state (.listed path) trivial

theorem healthTickBody_happens {base : List ServiceState} {client : Option Client} (hasManaged : Bool) (count : Nat)
    {manager : ServiceManager} (moved : Moved (Happens inputs) base client manager)
    (connected : hasManaged = true → client = some .connected) :
    (healthTickBody inputs hasManaged count).wp (fun _ => Cut (Happens inputs) base) (Cut (Happens inputs) base)
      manager := by
  have passes := happens_passes inputs
  have ticked (live : ServiceState.LiveMap) {manager : ServiceManager} (moved : Moved (Happens inputs) base client manager) :
      (manageLifecycle inputs hasManaged live >>= fun _ => checkHealth inputs live).wp
        (fun _ => Cut (Happens inputs) base) (Cut (Happens inputs) base) manager := by
    have managed := moved_manageLifecycle passes inputs hasManaged live
      (fun state => happens_one state (.backoffExpires inputs.now) rfl)
      (fun state => happens_one state (.lifecycle inputs.gate inputs.answers inputs.now live) ⟨rfl, rfl, rfl⟩) moved
    refine Async.wp_bind.mpr (Async.wp_mono managed fun _ _ managed => ?_)
    refine Async.wp_bind.mpr (Async.wp_await.mpr ⟨Async.wp_modify.mpr ?_, managed.services⟩)
    exact (moved_map passes managed fun state =>
      happens_one state (.healthCheck inputs.answers live) rfl).services
  unfold healthTickBody
  refine Async.wp_bind.mpr (Async.wp_mono (moved_ensureRegistered passes inputs count moved) fun _ _ registered => ?_)
  cases hasManaged with
  | false => exact ticked (liveMap none) registered
  | true =>
      cases connected rfl
      have drained := fun {manager : ServiceManager} (moved : Moved (Happens inputs) base (some .connected) manager) =>
        moved_drainNotifications passes inputs.notifications inputs.now
          (fun state => happens_one state (.crashed inputs.now) rfl) moved
      refine Async.wp_bind.mpr (Async.wp_mono (Async.wp_bind.mpr (Async.wp_mono
        (moved_refresh passes inputs.answers inputs.refresh registered) fun _ _ => drained)) fun _ _ drained => ?_)
      refine Async.wp_bind.mpr (Async.wp_mono (moved_supervisorLiveMap inputs.live drained) fun live _ listed => ?_)
      exact ticked live listed.2

/-- A tick, run to its end or dropped, does to each service what some events do. -/
theorem healthTick_happens (manager : ServiceManager) :
    (healthTick inputs).wp (fun _ => Cut (Happens inputs) manager.services) (Cut (Happens inputs) manager.services)
      manager := by
  have passes := happens_passes inputs
  have start := moved_refl passes manager
  unfold healthTick
  rw [Async.wp_bind, Async.wp_read]
  split
  · exact Async.wp_pure.mpr start.services
  · cases hasManaged : manager.hasManaged with
    | false =>
        refine Async.wp_bind.mpr (Async.wp_pure.mpr (Async.wp_when (fun _ => ?_) fun skipped => nomatch skipped))
        exact healthTickBody_happens inputs false _ start fun managed => nomatch managed
    | true =>
        have connected := moved_ensureClient passes inputs.connects
          (fun state cause => happens_one state (.tornDown cause) trivial) start
        refine Async.wp_bind.mpr (Async.wp_mono connected fun ok after reached => ?_)
        exact Async.wp_when (fun taken => healthTickBody_happens inputs true _ (reached.2 taken) fun _ => rfl)
          fun _ => reached.1

end
end MacMgmt.Proof.Agent.DriftTargets
