import MacMgmt.Agent.UnmanagedServices

/-!
# What the install manifest says is so

Each step is a triple over the manifest in memory and the machine. `Fair` is what holds of the manifest file after every
action, so it survives a crash; the hash is that of the running unit only once `ensure_service` has returned.
-/

namespace MacMgmt.Proof.Agent.Unmanaged
open Lib Lib.Procedure MacMgmt.Agent.Unmanaged

structure Fair (svc : UnmanagedService) (state : ServiceState) (host : Host) : Prop where
  active : state.serviceActive → host.lastCommand ≠ some false
  pulled : state.modelsPulled → host.pulled
  commands : svc.strategy ≠ .generatedUnit → host.lastCommand ≠ some false

variable {sha256 : String → String} {svc : UnmanagedService}

theorem Fair.of {state other : ServiceState} {host : Host} (fair : Fair svc state host)
    (active : other.serviceActive = state.serviceActive) (pulled : other.modelsPulled = state.modelsPulled) :
    Fair svc other host := ⟨active ▸ fair.active, pulled ▸ fair.pulled, fair.commands⟩

/-- What an action leaves alone that neither runs a command of the unit nor saves nor brings the service up. -/
structure Quiet (before after : Host) : Prop where
  saved : after.saved = before.saved
  lastCommand : after.lastCommand = before.lastCommand
  pulled : after.pulled = before.pulled

theorem Fair.same {state : ServiceState} {before after : Host} (fair : Fair svc state before)
    (lastCommand : after.lastCommand = before.lastCommand) (pulled : after.pulled = before.pulled) : Fair svc state after := by
  constructor
  · rw [lastCommand]
    exact fair.active
  · rw [pulled]
    exact fair.pulled
  · rw [lastCommand]
    exact fair.commands

theorem Fair.quiet {state : ServiceState} {before after : Host} (fair : Fair svc state before) (quiet : Quiet before after) :
    Fair svc state after := fair.same quiet.lastCommand quiet.pulled

def Kept (svc : UnmanagedService) (memory : ServiceState) (host : Host) : Prop := Fair svc memory host ∧ Fair svc host.saved host

def Saved (svc : UnmanagedService) (memory : ServiceState) (host : Host) : Prop := host.saved = memory ∧ Fair svc memory host

theorem Kept.quiet {memory : ServiceState} {before after : Host} (kept : Kept svc memory before) (quiet : Quiet before after) :
    Kept svc memory after := by
  refine ⟨kept.1.quiet quiet, ?_⟩
  rw [quiet.saved]
  exact kept.2.quiet quiet

theorem Saved.quiet {memory : ServiceState} {before after : Host} (saved : Saved svc memory before) (quiet : Quiet before after) :
    Saved svc memory after := ⟨quiet.saved.trans saved.1, saved.2.quiet quiet⟩

theorem Saved.kept {memory : ServiceState} {host : Host} (saved : Saved svc memory host) : Kept svc memory host :=
  ⟨saved.2, saved.1 ▸ saved.2⟩

def Current (sha256 : String → String) (memory : ServiceState) (host : Host) : Prop :=
  ∃ contents, host.running = some contents ∧ memory.unitHash = some (sha256 contents)

def machine (sha256 : String → String) (svc : UnmanagedService) : Machine Host Action Outcome where
  perform := perform
  allowed := Installer.Sound sha256 svc
  safe := fun host => Fair svc host.saved host

/-- A step of the procedure from `pre`, which leaves a fair manifest also where it fails. -/
abbrev Does {A : Type} (sha256 : String → String) (svc : UnmanagedService) (pre : ServiceState → Host → Prop)
    (procedure : Installing A) (post : A → ServiceState → Host → Prop) : Prop :=
  Ensures (machine sha256 svc) pre procedure post (Kept svc)

/-! ## Single actions -/

def IsQuiet : Action → Bool
  | .save _ | .enable | .start | .restart | .installCommand _ | .postStart => false
  | _ => true

theorem quiet_perform {action : Action} (quiet : IsQuiet action) (host : Host) (outcome : Outcome) :
    Quiet host (perform host action outcome) := by
  cases action with
  | save _ | enable | start | restart | installCommand _ | postStart => cases quiet
  | isInstalled | ensureInstalled | migrateToNixpkgs | ensureSetup | spawnSpec | unitExists | profileRemove | which |
      pathExists | isActive => exact ⟨rfl, rfl, rfl⟩
  | writeUnit _ | daemonReload | uninstallCommand _ | disableNow | removeUnit =>
      simp only [perform]
      repeat' split
      all_goals exact ⟨rfl, rfl, rfl⟩

theorem does_act {pre : ServiceState → Host → Prop} {action : Action} {post : Outcome → ServiceState → Host → Prop}
    (quiet : IsQuiet action) (fair : ∀ memory host, pre memory host → Fair svc host.saved host)
    (reached : ∀ memory host, pre memory host → ∀ outcome, Installer.Sound sha256 svc host action outcome →
      post outcome memory (perform host action outcome)) : Does sha256 svc pre (act action) post := by
  apply ensures_act
  intro memory host start outcome sound
  refine ⟨?_, reached memory host start outcome sound⟩
  have same := quiet_perform quiet host outcome
  show Fair svc (perform host action outcome).saved _
  rw [same.saved]
  exact (fair memory host start).quiet same

theorem does_attempt {pre : ServiceState → Host → Prop} {action : Action} {post : Unit → ServiceState → Host → Prop}
    (quiet : IsQuiet action) (fair : ∀ memory host, pre memory host → Fair svc host.saved host)
    (reached : ∀ memory host, pre memory host → ∀ outcome, Installer.Sound sha256 svc host action outcome →
      post () memory (perform host action outcome)) : Does sha256 svc pre (attempt action) post := by
  apply ensures_bind (does_act quiet fair reached)
  intro outcome
  apply ensures_pure
  intro memory host reached
  exact reached

theorem does_call {pre : ServiceState → Host → Prop} {action : Action} {post : Unit → ServiceState → Host → Prop}
    (quiet : IsQuiet action) (kept : ∀ memory host, pre memory host → Kept svc memory host)
    (reached : ∀ memory host, pre memory host → ∀ outcome, Installer.Sound sha256 svc host action outcome → outcome.ok →
      post () memory (perform host action outcome)) : Does sha256 svc pre (call action) post := by
  have acted : Does sha256 svc pre (act action) fun outcome memory host =>
      (outcome.ok → post () memory host) ∧ Kept svc memory host := by
    apply does_act quiet fun memory host start => (kept memory host start).2
    intro memory host start outcome sound
    exact ⟨reached memory host start outcome sound, (kept memory host start).quiet (quiet_perform quiet host outcome)⟩
  apply ensures_bind acted
  intro outcome
  apply ensures_ite
  · intro ok
    apply ensures_pure
    intro memory host reached
    exact reached.1 ok
  · intro _
    apply ensures_fail
    intro memory host reached
    exact reached.2

theorem does_act_kept {action : Action} (quiet : IsQuiet action) :
    Does sha256 svc (Kept svc) (act action) fun _ => Kept svc := by
  apply does_act quiet fun memory host kept => kept.2
  intro memory host kept outcome _
  exact kept.quiet (quiet_perform quiet host outcome)

theorem does_attempt_kept {action : Action} (quiet : IsQuiet action) :
    Does sha256 svc (Kept svc) (attempt action) fun _ => Kept svc := by
  apply does_attempt quiet fun memory host kept => kept.2
  intro memory host kept outcome _
  exact kept.quiet (quiet_perform quiet host outcome)

theorem does_call_kept {action : Action} (quiet : IsQuiet action) :
    Does sha256 svc (Kept svc) (call action) fun _ => Kept svc := by
  apply does_call quiet fun memory host kept => kept
  intro memory host kept outcome _ _
  exact kept.quiet (quiet_perform quiet host outcome)

theorem does_remember_kept {change : ServiceState → ServiceState}
    (active : ∀ state, (change state).serviceActive = state.serviceActive)
    (pulled : ∀ state, (change state).modelsPulled = state.modelsPulled) :
    Does sha256 svc (Kept svc) (remember change) fun _ => Kept svc :=
  ensures_remember fun memory _ kept => ⟨kept.1.of (active memory) (pulled memory), kept.2⟩

theorem does_record {pre : ServiceState → Host → Prop} {change : ServiceState → ServiceState}
    {post : Unit → ServiceState → Host → Prop}
    (fair : ∀ memory host, pre memory host → Fair svc (change memory) host ∧ Fair svc host.saved host)
    (reached : ∀ memory host, pre memory host → post () (change memory) { host with saved := change memory }) :
    Does sha256 svc pre (record change) post := by
  let changed : ServiceState → Host → Prop := fun memory host =>
    Kept svc memory host ∧ post () memory { host with saved := memory }
  have remembered : Does sha256 svc pre (remember change) fun _ => changed := by
    apply ensures_remember
    intro memory host start
    exact ⟨fair memory host start, reached memory host start⟩
  apply ensures_bind remembered
  intro _
  apply ensures_recalled
  intro known
  have written : Does sha256 svc (fun memory host => memory = known ∧ changed memory host) (act (.save known))
      fun outcome memory host => (outcome.ok → post () memory host) ∧ Kept svc memory host := by
    apply ensures_act
    rintro memory host ⟨rfl, kept, reached⟩ outcome _
    let after := perform host (.save memory) outcome
    show Fair svc after.saved after ∧ (outcome.ok → post () memory after) ∧ Kept svc memory after
    cases ok : outcome.ok
    · have same : after = host := by simp only [after, perform, ok, Bool.false_eq_true, if_false]
      rw [same]
      exact ⟨kept.2, fun success => absurd (ok ▸ success) Bool.false_ne_true, kept⟩
    · have same : after = { host with saved := memory } := by
        simp only [after, perform, ok, if_true]
      rw [same]
      have fair : Fair svc memory { host with saved := memory } := kept.1.same rfl rfl
      exact ⟨fair, fun _ => reached, fair, fair⟩
  apply ensures_bind written
  intro outcome
  apply ensures_ite
  · intro ok
    apply ensures_pure
    intro memory host reached
    exact reached.1 ok
  · intro bad
    apply ensures_fail
    intro memory host reached
    exact reached.2

theorem does_failWith {pre : ServiceState → Host → Prop} {stage error : String} {post : Unit → ServiceState → Host → Prop}
    (kept : ∀ memory host, pre memory host → Kept svc memory host) :
    Does sha256 svc pre (failWith svc stage error) post := by
  have recorded : Does sha256 svc pre
      (record fun state => { state with lastError := some (stage ++ ": " ++ error) }) fun _ => Kept svc := by
    apply does_record
    · intro memory host start
      exact ⟨(kept memory host start).1.of rfl rfl, (kept memory host start).2⟩
    · intro memory host start
      have fair : Fair svc { memory with lastError := some (stage ++ ": " ++ error) } host := (kept memory host start).1.of rfl rfl
      exact ⟨fair.same rfl rfl, fair.same rfl rfl⟩
  apply ensures_bind recorded
  intro _
  apply ensures_fail
  intro memory host reached
  exact reached

/-! ## Installing and configuring -/

theorem does_installAndEnsureNixpkgs : Does sha256 svc (Kept svc) installAndEnsureNixpkgs fun _ => Kept svc := by
  apply ensures_bind (does_call_kept rfl)
  intro _
  exact does_attempt_kept rfl

theorem does_record_plain {change : ServiceState → ServiceState}
    (active : ∀ state, (change state).serviceActive = state.serviceActive)
    (pulled : ∀ state, (change state).modelsPulled = state.modelsPulled) :
    Does sha256 svc (Kept svc) (record change) fun _ => Saved svc := by
  apply does_record
  · intro memory host kept
    exact ⟨kept.1.of (active memory) (pulled memory), kept.2⟩
  · intro memory host kept
    exact ⟨rfl, (kept.1.of (active memory) (pulled memory)).same rfl rfl⟩

theorem does_ensurePackage : Does sha256 svc (Kept svc) (ensurePackage svc) fun _ => Saved svc := by
  apply ensures_bind (does_act_kept rfl)
  intro outcome
  have cleared : Does sha256 svc (Kept svc) (whenever (¬(outcome.ok && outcome.yes)) do
      remember fun state => { state with packageInstalled := false }) fun _ => Kept svc := by
    apply ensures_whenever
    · intro _
      exact does_remember_kept (fun _ => rfl) fun _ => rfl
    · intro _ memory host kept
      exact kept
  apply ensures_bind cleared
  intro _
  apply ensures_bind (ensures_caught does_installAndEnsureNixpkgs)
  intro result
  cases result with
  | ok _ => exact does_record_plain (fun _ => rfl) fun _ => rfl
  | error error => exact does_failWith fun memory host kept => kept

theorem does_ensureConfig : Does sha256 svc (Kept svc) (ensureConfig svc) fun _ => Saved svc := by
  have set_up : Does sha256 svc (Kept svc) (call .ensureSetup) fun _ => Kept svc := does_call_kept rfl
  apply ensures_bind (ensures_caught set_up)
  intro result
  cases result with
  | ok _ => exact does_record_plain (fun _ => rfl) fun _ => rfl
  | error error => exact does_failWith fun memory host kept => kept

/-! ## The unit -/

theorem does_status {pre : ServiceState → Host → Prop} {action : Action} {context : String}
    {post : Unit → ServiceState → Host → Prop}
    (ran : ∀ memory host, pre memory host → ∀ outcome, Installer.Sound sha256 svc host action outcome → outcome.ok →
      Kept svc memory (perform host action outcome) ∧ post () memory (perform host action outcome))
    (unable : ∀ memory host, pre memory host → ∀ outcome, outcome.ok = false → Kept svc memory (perform host action outcome)) :
    Does sha256 svc pre (status action context) post := by
  have acted : Does sha256 svc pre (act action) fun outcome memory host =>
      Kept svc memory host ∧ (outcome.ok → post () memory host) := by
    apply ensures_act
    intro memory host start outcome sound
    cases ok : outcome.ok
    · have kept := unable memory host start outcome ok
      exact ⟨kept.2, kept, fun run => absurd run Bool.false_ne_true⟩
    · obtain ⟨kept, reached⟩ := ran memory host start outcome sound ok
      exact ⟨kept.2, kept, fun _ => reached⟩
  apply ensures_bind acted
  intro outcome
  apply ensures_ite
  · intro ok
    exact ensures_pure fun memory host reached => reached.2 ok
  · intro _
    exact ensures_fail fun memory host reached => reached.1

def Written (svc : UnmanagedService) (spec : SpawnSpec) (known memory : ServiceState) (host : Host) : Prop :=
  memory = known ∧ Saved svc memory host ∧ host.unitFile = some (systemdUnit svc spec)

theorem does_writeSystemd (spec : SpawnSpec) (known : ServiceState) :
    Does sha256 svc (fun memory host => memory = known ∧ Saved svc memory host) (writeSystemd svc spec)
      fun _ => Written svc spec known := by
  have written : Does sha256 svc (fun memory host => memory = known ∧ Saved svc memory host)
      (act (.writeUnit (systemdUnit svc spec))) fun outcome memory host =>
        memory = known ∧ Saved svc memory host ∧ (outcome.ok → host.unitFile = some (systemdUnit svc spec)) := by
    apply does_act rfl fun memory host start => start.2.kept.2
    rintro memory host ⟨same, saved⟩ outcome _
    refine ⟨same, saved.quiet (quiet_perform rfl host outcome), ?_⟩
    intro ok
    simp only [perform, ok, if_true]
  apply ensures_bind written
  intro outcome
  apply ensures_ite
  · intro ok
    have reload {memory : ServiceState} {host : Host} (saved : Saved svc memory host) (reloaded : Outcome) :
        Saved svc memory (perform host .daemonReload reloaded) := saved.quiet (quiet_perform rfl host reloaded)
    apply does_status
    · rintro memory host ⟨same, saved, file⟩ reloaded _ _
      refine ⟨(reload saved reloaded).kept, same, reload saved reloaded, ?_⟩
      simp only [perform]
      split <;> exact file ok
    · rintro memory host ⟨_, saved, _⟩ reloaded _
      exact (reload saved reloaded).kept
  · intro _
    exact ensures_fail fun memory host reached => reached.2.1.kept

/-- The unit file is the one of the hash in memory, which need not be saved yet. -/
structure Ready (sha256 : String → String) (svc : UnmanagedService) (memory : ServiceState) (host : Host) : Prop where
  generated : svc.strategy = .generatedUnit
  fair : Fair svc memory host
  active : host.saved.serviceActive = memory.serviceActive
  models : host.saved.modelsPulled = memory.modelsPulled
  unit : ∃ contents, host.unitFile = some contents ∧ memory.unitHash = some (sha256 contents)

theorem Ready.kept {memory : ServiceState} {host : Host} (ready : Ready sha256 svc memory host) : Kept svc memory host :=
  ⟨ready.fair, ready.fair.of ready.active ready.models⟩

/-- After a command of the unit with success, the service may be recorded as active. -/
structure Up (sha256 : String → String) (svc : UnmanagedService) (memory : ServiceState) (host : Host) : Prop where
  fair : Fair svc { memory with serviceActive := true } host
  kept : Kept svc memory host
  current : Current sha256 memory host

theorem does_enable : Does sha256 svc (fun memory host => Ready sha256 svc memory host ∧ memory.serviceActive = false)
    (status .enable "systemctl enable") fun _ memory host => Ready sha256 svc memory host ∧ memory.serviceActive = false := by
  have enabled {memory : ServiceState} {host : Host} (ready : Ready sha256 svc memory host)
      (inactive : memory.serviceActive = false) (outcome : Outcome) : Ready sha256 svc memory (perform host .enable outcome) := by
    have fair (after : Host) (pulled : after.pulled = host.pulled) : Fair svc memory after := by
      constructor
      · intro active
        rw [inactive] at active
        cases active
      · rw [pulled]
        exact ready.fair.pulled
      · intro other
        exact absurd ready.generated other
    simp only [perform]
    repeat' split
    all_goals exact ⟨ready.generated, fair _ rfl, ready.active, ready.models, ready.unit⟩
  apply does_status
  · rintro memory host ⟨ready, inactive⟩ outcome _ _
    exact ⟨(enabled ready inactive outcome).kept, enabled ready inactive outcome, inactive⟩
  · rintro memory host ⟨ready, inactive⟩ outcome _
    exact (enabled ready inactive outcome).kept

theorem bringUp_pulled {state : ServiceState} {host : Host} (fair : Fair svc state host)
    (fresh : host.running = none → state.modelsPulled = false) (contents : Option String) :
    state.modelsPulled → (host.bringUp contents).pulled := by
  intro recorded
  have runs : host.running.isSome := by
    cases running : host.running with
    | none =>
        rw [fresh running] at recorded
        cases recorded
    | some old => rfl
  simp only [Host.bringUp, runs, Bool.and_true]
  exact fair.pulled recorded

theorem Ready.up {memory : ServiceState} {host : Host} (ready : Ready sha256 svc memory host)
    (fresh : host.running = none → host.saved.modelsPulled = false) {contents : String}
    (hash : memory.unitHash = some (sha256 contents)) :
    Up sha256 svc memory { host.bringUp (some contents) with lastCommand := some true } := by
  have pulled := bringUp_pulled ready.fair (fun stopped => ready.models.symm.trans (fresh stopped)) (some contents)
  have kept : Fair svc memory { host.bringUp (some contents) with lastCommand := some true } :=
    ⟨fun _ => nofun, pulled, fun _ => nofun⟩
  exact ⟨⟨fun _ => nofun, pulled, fun _ => nofun⟩, ⟨kept, kept.of ready.active ready.models⟩, contents, rfl, hash⟩

theorem does_start : Does sha256 svc (Ready sha256 svc) (status .start "systemctl start") fun _ => Up sha256 svc := by
  apply does_status
  · intro memory host ready outcome sound ok
    obtain ⟨success, same, fresh⟩ := sound ok
    obtain ⟨contents, file, hash⟩ := ready.unit
    have running : host.running.or host.definition = some contents := by
      cases running : host.running with
      | none => rw [Option.none_or, (fresh running).1, file]
      | some old =>
          rw [running] at same
          rw [Option.some_or, same.resolve_left nofun, file]
    have after : perform host .start outcome = { host.bringUp (some contents) with lastCommand := some true } := by
      simp only [perform, ok, success, Bool.true_or, Bool.and_true, if_true, running]
    have up := ready.up (fun stopped => (fresh stopped).2) hash
    rw [after]
    exact ⟨up.kept, up⟩
  · intro memory host ready outcome unable
    have same : perform host .start outcome = host := by simp [perform, unable]
    rw [same]
    exact ready.kept

theorem does_enableStartSystemd :
    Does sha256 svc (fun memory host => Ready sha256 svc memory host ∧ memory.serviceActive = false) enableStartSystemd
      fun _ => Up sha256 svc := by
  apply ensures_bind does_enable
  intro _
  exact does_start.of fun memory host start => start.1

theorem does_restartSystemd : Does sha256 svc (Ready sha256 svc) restartSystemd fun _ => Up sha256 svc := by
  apply does_status
  · intro memory host ready outcome sound ok
    obtain ⟨success, reread, fresh⟩ := sound ok
    obtain ⟨contents, file, hash⟩ := ready.unit
    have after : perform host .restart outcome = { host.bringUp (some contents) with lastCommand := some true } := by
      simp only [perform, ok, success, Bool.and_self, if_true, reread, file]
    have up := ready.up fresh hash
    rw [after]
    exact ⟨up.kept, up⟩
  · intro memory host ready outcome unable
    have same : perform host .restart outcome = host := by simp [perform, unable]
    rw [same]
    exact ready.kept

theorem does_updateSystemd (active : Bool) :
    Does sha256 svc (fun memory host => Ready sha256 svc memory host ∧ memory.serviceActive = active) (updateSystemd active)
      fun _ => Up sha256 svc := by
  cases active
  · exact does_enableStartSystemd
  · exact does_restartSystemd.of fun memory host start => start.1

def Settled (sha256 : String → String) (svc : UnmanagedService) (memory : ServiceState) (host : Host) : Prop :=
  Saved svc memory host ∧ Current sha256 memory host

theorem does_recordActive {change : ServiceState → ServiceState} (active : ∀ state, (change state).serviceActive = true)
    (models : ∀ state, (change state).modelsPulled = state.modelsPulled)
    (hash : ∀ state, (change state).unitHash = state.unitHash) :
    Does sha256 svc (Up sha256 svc) (record change) fun _ => Settled sha256 svc := by
  have fair {memory : ServiceState} {host : Host} (up : Up sha256 svc memory host) : Fair svc (change memory) host :=
    up.fair.of (active memory) (models memory)
  apply does_record
  · intro memory host up
    exact ⟨fair up, up.kept.2⟩
  · intro memory host up
    obtain ⟨contents, running, recorded⟩ := up.current
    exact ⟨⟨rfl, (fair up).same rfl rfl⟩, contents, running, (hash memory).trans recorded⟩

/-- The recorded hash, where it is the wanted one, is that of the unit concerned. -/
structure Asked (sha256 : String → String) (svc : UnmanagedService) (spec : SpawnSpec) (memory : ServiceState) (host : Host) :
    Prop where
  saved : Saved svc memory host
  known : memory.unitHash = some (sha256 (systemdUnit svc spec)) →
    (if memory.serviceActive then host.running else host.unitFile).map sha256 = memory.unitHash

theorem does_spawnSpec :
    Does sha256 svc (Saved svc) (act .spawnSpec) fun outcome => Asked sha256 svc outcome.spec := by
  apply does_act rfl fun memory host saved => saved.kept.2
  intro memory host saved outcome sound
  simp only [Installer.Sound, saved.1] at sound
  exact ⟨saved, sound⟩

theorem does_rewrite (generated : svc.strategy = .generatedUnit) (spec : SpawnSpec) (state : ServiceState) :
    Does sha256 svc (fun memory host => memory = state ∧ Asked sha256 svc spec memory host)
      (do
        writeSystemd svc spec
        remember fun state => { state with unitHash := some (sha256 (systemdUnit svc spec)) }
        updateSystemd state.serviceActive
        record fun state => { state with serviceActive := true, lastError := none })
      fun _ => Settled sha256 svc := by
  apply Ensures.of _ fun memory host start => And.intro start.1 start.2.saved
  apply ensures_bind (does_writeSystemd spec state)
  intro _
  have hashed : Does sha256 svc (Written svc spec state)
      (remember fun state => { state with unitHash := some (sha256 (systemdUnit svc spec)) })
      fun _ memory host => Ready sha256 svc memory host ∧ memory.serviceActive = state.serviceActive := by
    apply ensures_remember
    rintro memory host ⟨rfl, ⟨saved, fair⟩, file⟩
    have active := congrArg ServiceState.serviceActive saved
    have models := congrArg ServiceState.modelsPulled saved
    exact ⟨⟨generated, fair.of rfl rfl, active, models, _, file, rfl⟩, rfl⟩
  apply ensures_bind hashed
  intro _
  apply ensures_bind (does_updateSystemd state.serviceActive)
  intro _
  exact does_recordActive (fun _ => rfl) (fun _ => rfl) fun _ => rfl

theorem does_reuse (generated : svc.strategy = .generatedUnit) (spec : SpawnSpec) (state : ServiceState)
    (recorded : state.unitHash = some (sha256 (systemdUnit svc spec))) :
    Does sha256 svc (fun memory host => memory = state ∧ Asked sha256 svc spec memory host)
      (whenever (¬state.serviceActive) do
        enableStartSystemd
        record fun state => { state with serviceActive := true })
      fun _ => Settled sha256 svc := by
  apply ensures_whenever
  · intro inactive
    have stopped : state.serviceActive = false := Bool.not_eq_true _ ▸ inactive
    have ready (memory : ServiceState) (host : Host) (start : memory = state ∧ Asked sha256 svc spec memory host) :
        Ready sha256 svc memory host ∧ memory.serviceActive = false := by
      obtain ⟨rfl, ⟨saved, fair⟩, known⟩ := start
      have file := known recorded
      rw [stopped, recorded] at file
      obtain ⟨contents, found, hash⟩ := Option.map_eq_some_iff.mp file
      exact ⟨⟨generated, fair, congrArg _ saved, congrArg _ saved, contents, found,
        recorded.trans (congrArg some hash.symm)⟩, stopped⟩
    apply ensures_bind (does_enableStartSystemd.of ready)
    intro _
    exact does_recordActive (fun _ => rfl) (fun _ => rfl) fun _ => rfl
  · rintro active memory host ⟨rfl, saved, known⟩
    have runs := known recorded
    rw [if_pos (not_not.mp active), recorded] at runs
    obtain ⟨contents, running, hash⟩ := Option.map_eq_some_iff.mp runs
    exact ⟨saved, contents, running, recorded.trans (congrArg some hash.symm)⟩

theorem does_ensureUnit (generated : svc.strategy = .generatedUnit) :
    Does sha256 svc (Saved svc) (ensureUnit sha256 svc) fun _ => Settled sha256 svc := by
  apply ensures_bind does_spawnSpec
  intro outcome
  apply ensures_recalled
  intro state
  apply ensures_ite
  · intro _
    exact does_rewrite generated outcome.spec state
  · intro unchanged
    exact does_reuse generated outcome.spec state (not_not.mp unchanged)

/-! ## The other strategies, and the models -/

theorem does_checked {pre : ServiceState → Host → Prop} {action : Action} {post : Unit → ServiceState → Host → Prop}
    (reached : ∀ memory host, pre memory host → ∀ outcome, Installer.Sound sha256 svc host action outcome →
      Kept svc memory (perform host action outcome) ∧ post () memory (perform host action outcome)) :
    Does sha256 svc pre (checked action) post := by
  have acted : Does sha256 svc pre (act action) fun _ memory host => Kept svc memory host ∧ post () memory host := by
    apply ensures_act
    intro memory host start outcome sound
    have after := reached memory host start outcome sound
    exact ⟨after.1.2, after⟩
  apply ensures_bind acted
  intro outcome
  apply ensures_ite
  · intro _
    exact ensures_pure fun memory host after => after.2
  · intro _
    exact ensures_fail fun memory host after => after.1

theorem saved_installCommand {memory : ServiceState} {host : Host} {command : List String} {outcome : Outcome}
    (saved : Saved svc memory host) (sound : Installer.Sound sha256 svc host (.installCommand command) outcome) :
    Saved svc memory (perform host (.installCommand command) outcome) := by
  simp only [perform]
  split
  · rename_i effective
    have fresh := sound (Bool.and_eq_true_iff.mp effective).1
    rw [saved.1] at fresh
    exact ⟨saved.1, saved.2.active, bringUp_pulled saved.2 fresh _, saved.2.commands⟩
  · exact saved

theorem does_ensureDaemon (other : svc.strategy ≠ .generatedUnit) (command : List String) :
    Does sha256 svc (Saved svc) (ensureDaemon command) fun _ => Saved svc := by
  have installed : Does sha256 svc (Saved svc) (checked (.installCommand command)) fun _ => Saved svc := by
    apply does_checked
    intro memory host saved outcome sound
    have after := saved_installCommand saved sound
    exact ⟨after.kept, after⟩
  apply ensures_bind installed
  intro _
  have fair {memory : ServiceState} {host : Host} (saved : Saved svc memory host) :
      Fair svc { memory with serviceActive := true, lastError := none } host :=
    ⟨fun _ => saved.2.commands other, saved.2.pulled, saved.2.commands⟩
  apply does_record
  · intro memory host saved
    exact ⟨fair saved, saved.kept.2⟩
  · intro memory host saved
    exact ⟨rfl, (fair saved).same rfl rfl⟩

/-- `ensure_service` has reached the unit that runs, where the unit is generated. -/
def Reached (sha256 : String → String) (svc : UnmanagedService) (memory : ServiceState) (host : Host) : Prop :=
  Saved svc memory host ∧ (svc.strategy = .generatedUnit → Current sha256 memory host)

theorem does_ensureStrategy : Does sha256 svc (Saved svc) (ensureStrategy sha256 svc) fun _ => Reached sha256 svc := by
  unfold ensureStrategy
  split
  · rename_i generated
    apply (does_ensureUnit generated).imp
    · intro _ memory host settled
      exact ⟨settled.1, fun _ => settled.2⟩
    · intro memory host kept
      exact kept
  · rename_i installCmd _ builtIn
    have other : svc.strategy ≠ .generatedUnit := by simp [builtIn]
    apply (does_ensureDaemon other installCmd).imp
    · intro _ memory host saved
      exact ⟨saved, fun generated => absurd generated other⟩
    · intro memory host kept
      exact kept
  · rename_i installOnly
    apply ensures_pure
    intro memory host saved
    exact ⟨saved, fun generated => by simp [installOnly] at generated⟩

theorem does_ensureModels : Does sha256 svc (Reached sha256 svc) ensureModels fun _ => Reached sha256 svc := by
  apply ensures_recalled
  intro state
  apply ensures_whenever
  · intro _
    have started : Does sha256 svc (fun memory host => memory = state ∧ Reached sha256 svc memory host) (act .postStart)
        fun _ memory host => Reached sha256 svc memory host ∧ host.pulled := by
      apply ensures_act
      rintro memory host ⟨_, saved, current⟩ outcome (ok : outcome.ok)
      have after : perform host .postStart outcome = { host with pulled := true } := by simp only [perform, ok, if_true]
      have fair : Fair svc memory { host with pulled := true } := ⟨saved.2.active, fun _ => rfl, saved.2.commands⟩
      show Fair svc (perform host .postStart outcome).saved (perform host .postStart outcome) ∧
        Reached sha256 svc memory (perform host .postStart outcome) ∧ (perform host .postStart outcome).pulled
      rw [after]
      exact ⟨fair.of (congrArg ServiceState.serviceActive saved.1) (congrArg ServiceState.modelsPulled saved.1),
        ⟨⟨saved.1, fair⟩, current⟩, rfl⟩
    have logged : Does sha256 svc (fun memory host => memory = state ∧ Reached sha256 svc memory host) (attempt .postStart)
        fun _ memory host => Reached sha256 svc memory host ∧ host.pulled := by
      apply ensures_bind started
      intro _
      exact ensures_pure fun memory host reached => reached
    apply ensures_bind logged
    intro _
    apply does_record
    · rintro memory host ⟨⟨saved, _⟩, pulled⟩
      exact ⟨⟨saved.2.active, fun _ => pulled, saved.2.commands⟩, saved.kept.2⟩
    · rintro memory host ⟨⟨saved, current⟩, pulled⟩
      exact ⟨⟨rfl, saved.2.active, fun _ => pulled, saved.2.commands⟩, current⟩
  · rintro _ memory host ⟨_, reached⟩
    exact reached

theorem does_ensureService : Does sha256 svc (Kept svc) (ensureService sha256 svc) fun _ => Reached sha256 svc := by
  apply ensures_bind does_ensurePackage
  intro _
  apply ensures_bind (does_ensureConfig.of fun memory host saved => saved.kept)
  intro _
  apply ensures_bind does_ensureStrategy
  intro _
  exact does_ensureModels

/-! ## Removing -/

def KeepsProfile : Action → Bool
  | .ensureInstalled | .migrateToNixpkgs | .profileRemove => false
  | _ => true

theorem inProfile_perform {action : Action} (keeps : KeepsProfile action) (host : Host) (outcome : Outcome) :
    (perform host action outcome).inProfile = host.inProfile := by
  cases action with
  | ensureInstalled | migrateToNixpkgs | profileRemove => cases keeps
  | isInstalled | ensureSetup | spawnSpec | unitExists | which | pathExists | isActive => rfl
  | save _ | writeUnit _ | daemonReload | enable | start | restart | installCommand _ | uninstallCommand _ | postStart |
      disableNow | removeUnit =>
      simp only [perform]
      repeat' split
      all_goals rfl

/-- The profile has the package no more, where the manifest in memory says so. -/
def Gone (svc : UnmanagedService) (memory : ServiceState) (host : Host) : Prop :=
  Kept svc memory host ∧ (memory.packageInstalled = false → ¬host.inProfile)

theorem Gone.quiet {action : Action} {memory : ServiceState} {host : Host} (gone : Gone svc memory host)
    (quiet : IsQuiet action) (keeps : KeepsProfile action) (outcome : Outcome) :
    Gone svc memory (perform host action outcome) := by
  refine ⟨gone.1.quiet (quiet_perform quiet host outcome), ?_⟩
  rw [inProfile_perform keeps]
  exact gone.2

theorem does_gone_attempt {action : Action} (quiet : IsQuiet action) (keeps : KeepsProfile action) :
    Does sha256 svc (Gone svc) (attempt action) fun _ => Gone svc := by
  apply does_attempt quiet fun memory host gone => gone.1.2
  intro memory host gone outcome _
  exact gone.quiet quiet keeps outcome

theorem does_removeSystemd : Does sha256 svc (Gone svc) removeSystemd fun _ => Gone svc := by
  apply ensures_bind (does_gone_attempt rfl rfl)
  intro _
  have looked : Does sha256 svc (Gone svc) (act .unitExists) fun _ => Gone svc := by
    apply does_act rfl fun memory host gone => gone.1.2
    intro memory host gone outcome _
    exact gone
  apply ensures_bind looked
  intro file
  apply ensures_whenever
  · intro _
    have removed : Does sha256 svc (Gone svc) (call .removeUnit) fun _ => Gone svc := by
      apply does_call rfl fun memory host gone => gone.1
      intro memory host gone outcome _ _
      exact gone.quiet rfl rfl outcome
    apply ensures_bind removed
    intro _
    exact does_gone_attempt rfl rfl
  · intro _ memory host gone
    exact gone

theorem does_destroyService : Does sha256 svc (Gone svc) (destroyService svc) fun _ => Gone svc := by
  unfold destroyService
  split
  · rename_i command _
    apply does_checked
    intro memory host gone outcome _
    have after : Gone svc memory (perform host (.uninstallCommand command) outcome) := gone.quiet rfl rfl outcome
    exact ⟨after.1, after⟩
  · exact does_removeSystemd
  · exact ensures_pure fun memory host gone => gone

theorem does_record_gone {change : ServiceState → ServiceState}
    (fair : ∀ memory host, Fair svc memory host → Fair svc (change memory) host)
    (package : ∀ state, (change state).packageInstalled = state.packageInstalled) :
    Does sha256 svc (Gone svc) (record change) fun _ => Gone svc := by
  apply does_record
  · intro memory host gone
    exact ⟨fair memory host gone.1.1, gone.1.2⟩
  · intro memory host gone
    have saved : Fair svc (change memory) { host with saved := change memory } := (fair memory host gone.1.1).same rfl rfl
    refine ⟨⟨saved, saved⟩, ?_⟩
    rw [package]
    exact gone.2

theorem does_removeActive : Does sha256 svc (Gone svc) (removeActive svc) fun _ => Gone svc := by
  apply ensures_bind (ensures_caught does_destroyService)
  intro result
  cases result with
  | ok _ =>
      apply does_record_gone
      · intro memory host fair
        exact ⟨nofun, nofun, fair.commands⟩
      · exact fun _ => rfl
  | error error => exact does_failWith fun memory host kept => kept

theorem does_removePackage : Does sha256 svc (Kept svc) removePackage fun _ memory host =>
    Kept svc memory host ∧ ¬host.inProfile := by
  have removed : Does sha256 svc (Kept svc) (attempt .profileRemove) fun _ memory host =>
      Kept svc memory host ∧ ¬host.inProfile := by
    apply does_attempt rfl fun memory host kept => kept.2
    intro memory host kept outcome (sound : outcome.yes = false)
    refine ⟨kept.quiet (quiet_perform rfl host outcome), ?_⟩
    show ¬outcome.yes
    rw [sound]
    exact Bool.false_ne_true
  apply ensures_bind removed
  intro _
  apply does_record
  · rintro memory host ⟨kept, _⟩
    exact ⟨kept.1.of rfl rfl, kept.2⟩
  · rintro memory host ⟨kept, gone⟩
    have fair : Fair svc { memory with packageInstalled := false } host := kept.1.of rfl rfl
    exact ⟨⟨fair.same rfl rfl, fair.same rfl rfl⟩, gone⟩

theorem does_removeService : Does sha256 svc (Gone svc) (removeService svc) fun _ memory host =>
    Kept svc memory host ∧ ¬host.inProfile := by
  have known (state memory : ServiceState) (host : Host) (start : memory = state ∧ Gone svc memory host) :
      Gone svc memory host := start.2
  have stopped : ∀ state, Does sha256 svc (fun memory host => memory = state ∧ Gone svc memory host)
      (whenever state.serviceActive (removeActive svc)) fun _ => Gone svc := by
    intro state
    apply ensures_whenever
    · exact fun _ => does_removeActive.of (known state)
    · exact fun _ => known state
  have cleared : ∀ state, Does sha256 svc (fun memory host => memory = state ∧ Gone svc memory host)
      (whenever state.configured (record fun state => { state with configured := false })) fun _ => Gone svc := by
    intro state
    apply ensures_whenever
    · intro _
      apply Ensures.of _ (known state)
      exact does_record_gone (fun memory host fair => fair.of rfl rfl) fun _ => rfl
    · exact fun _ => known state
  apply ensures_recalled
  intro state
  apply ensures_bind (stopped state)
  intro _
  apply ensures_recalled
  intro state
  apply ensures_bind (cleared state)
  intro _
  apply ensures_recalled
  intro state
  apply ensures_whenever
  · intro _
    exact does_removePackage.of fun memory host start => start.2.1
  · rintro absent memory host ⟨rfl, kept, gone⟩
    exact ⟨kept, gone (Bool.not_eq_true _ ▸ absent)⟩

/-! ## Importing -/

theorem does_importActive : Does sha256 svc (Kept svc) (importActive svc) fun _ => Kept svc := by
  apply ensures_whenever
  · intro _
    have asked : Does sha256 svc (Kept svc) (act .isActive) fun outcome memory host =>
        Kept svc memory host ∧ (outcome.yes → host.lastCommand ≠ some false) := by
      apply does_act rfl fun memory host kept => kept.2
      intro memory host kept outcome sound
      exact ⟨kept, sound⟩
    apply ensures_bind asked
    intro outcome
    apply ensures_whenever
    · intro active
      apply ensures_remember
      rintro memory host ⟨kept, commands⟩
      exact ⟨⟨fun _ => commands active, kept.1.pulled, kept.1.commands⟩, kept.2⟩
    · rintro _ memory host ⟨kept, _⟩
      exact kept
  · intro _ memory host kept
    exact kept

theorem does_importService : Does sha256 svc (Kept svc) (importService svc) fun _ => Kept svc := by
  have installed : Does sha256 svc (Kept svc) (remember fun state => { state with packageInstalled := true })
      fun _ => Kept svc := does_remember_kept (fun _ => rfl) fun _ => rfl
  have ended : Does sha256 svc (Kept svc) (record fun state => { state with lastError := none }) fun _ => Saved svc :=
    does_record_plain (fun _ => rfl) fun _ => rfl
  apply ensures_bind (does_act_kept rfl)
  intro found
  apply ensures_ite
  · intro _
    apply ensures_bind (does_attempt_kept rfl)
    intro _
    apply ensures_bind installed
    intro _
    apply ensures_bind (does_act_kept rfl)
    intro path
    have noted : Does sha256 svc (Kept svc)
        (whenever path.yes (remember fun state => { state with configured := true })) fun _ => Kept svc := by
      apply ensures_whenever
      · exact fun _ => does_remember_kept (fun _ => rfl) fun _ => rfl
      · exact fun _ memory host kept => kept
    apply ensures_bind noted
    intro _
    apply ensures_bind does_importActive
    intro _
    apply ensures_bind ended
    intro _
    exact ensures_pure fun memory host saved => saved.kept
  · intro _
    exact ensures_pure fun memory host kept => kept

/-! ## Runs -/

open Installer

/-- What an operation that returns without an error has reached. -/
def Outcomes (sha256 : String → String) (svc : UnmanagedService) (operation : Operation) (memory : ServiceState) (host : Host) :
    Prop :=
  Kept svc memory host ∧ match operation with
    | .ensure => Reached sha256 svc memory host
    | .remove => ¬host.inProfile
    | .importing => True

/-- What is left to do reaches the operation's end, if all goes well, and leaves a fair manifest in any case. -/
def Underway (sha256 : String → String) (svc : UnmanagedService) (operation : Operation) (running : Running) (host : Host) :
    Prop := running.Holds (machine sha256 svc) (Finished (fun _ => Outcomes sha256 svc operation) (Kept svc)) host

theorem program_underway {operation : Operation} {memory : ServiceState} {host : Host} (kept : Kept svc memory host)
    (removable : operation = .remove → memory.packageInstalled = false → ¬host.inProfile) :
    Underway sha256 svc operation (program sha256 svc operation memory) host := by
  cases operation with
  | ensure =>
      apply (does_ensureService memory host kept).imp
      rintro ⟨result | result, after⟩ host reached
      · exact reached
      · exact ⟨reached.1.kept, reached⟩
  | remove =>
      apply (does_removeService memory host ⟨kept, removable rfl⟩).imp
      rintro ⟨result | result, after⟩ host reached
      · exact reached
      · exact reached
  | importing =>
      have imported : Does sha256 svc (Kept svc) (program sha256 svc .importing) fun _ memory host =>
          Outcomes sha256 svc .importing memory host := by
        apply ensures_bind does_importService
        intro _
        exact ensures_pure fun memory host kept => ⟨kept, trivial⟩
      exact imported memory host kept

structure Inv (sha256 : String → String) (svc : UnmanagedService) (installer : Installer) : Prop where
  fair : Fair svc installer.host.saved installer.host
  idle : installer.operation = none → Fair svc installer.memory installer.host
  underway : ∀ operation running, installer.operation = some (operation, running) →
    installer.finished = none ∧ Underway sha256 svc operation running installer.host
  removed : installer.finished = some .remove → ¬installer.host.inProfile
  ensured : installer.finished = some .ensure → installer.host.saved = installer.memory ∧
    (svc.strategy = .generatedUnit → Current sha256 installer.host.saved installer.host)

theorem inv_settle {installer : Installer} {operation : Operation} {running : Running}
    (fair : Fair svc installer.host.saved installer.host)
    (underway : Underway sha256 svc operation running installer.host) :
    Inv sha256 svc (installer.settle operation running) := by
  cases running with
  | ask action next => exact ⟨fair, nofun, fun _ _ same => by cases same; exact ⟨rfl, underway⟩, nofun, nofun⟩
  | done finished =>
      obtain ⟨result | result, memory⟩ := finished
      · exact ⟨fair, fun _ => underway.1, nofun, nofun, nofun⟩
      · obtain ⟨kept, reached⟩ := underway
        refine ⟨fair, fun _ => kept.1, nofun, ?_, ?_⟩
        · intro same
          cases same
          exact reached
        · intro same
          cases same
          refine ⟨reached.1.1, fun generated => ?_⟩
          show Current sha256 installer.host.saved installer.host
          rw [reached.1.1]
          exact reached.2 generated

theorem inv_step {installer after : Installer} {event : Event} (inv : Inv sha256 svc installer)
    (careful : Careful sha256 svc installer event) (taken : step sha256 svc installer event = some after) :
    Inv sha256 svc after := by
  cases event with
  | call operation =>
      cases idle : installer.operation with
      | some _ => simp [step, idle] at taken
      | none =>
          simp only [step, idle, Option.some.injEq] at taken
          subst taken
          apply inv_settle inv.fair
          apply program_underway ⟨inv.idle idle, inv.fair⟩
          rintro rfl
          exact careful
  | turn outcome =>
      match running : installer.operation with
      | none => simp [step, running] at taken
      | some (operation, .done _) => simp [step, running] at taken
      | some (operation, .ask action next) =>
          simp only [step, running, Option.some.injEq] at taken
          subst taken
          simp only [Careful, running] at careful
          obtain ⟨safe, onward⟩ := (inv.underway operation _ running).2 outcome careful
          exact inv_settle safe onward
  | save ok =>
      cases idle : installer.operation with
      | some _ => simp [step, idle] at taken
      | none =>
          simp only [step, idle, Option.some.injEq] at taken
          subst taken
          cases ok with
          | false => exact inv
          | true =>
              have fair : Fair svc installer.memory { installer.host with saved := installer.memory } :=
                (inv.idle idle).same rfl rfl
              refine ⟨fair, fun _ => fair, ?_, inv.removed, ?_⟩
              · intro operation running same
                cases same
              · intro finished
                obtain ⟨same, current⟩ := inv.ensured finished
                exact ⟨rfl, fun generated => same ▸ current generated⟩
  | crash =>
      simp only [step, Option.some.injEq] at taken
      subst taken
      exact ⟨inv.fair, fun _ => inv.fair, nofun, inv.removed, fun finished => ⟨rfl, (inv.ensured finished).2⟩⟩

theorem inv_fresh {installer : Installer} (fresh : Fresh installer) : Inv sha256 svc installer := by
  obtain ⟨saved, memory, commands, idle, finished⟩ := fresh
  have fair : Fair svc ServiceState.new installer.host := ⟨nofun, nofun, fun _ => by rw [commands]; nofun⟩
  refine ⟨saved ▸ fair, fun _ => memory ▸ fair, ?_, ?_, ?_⟩
  · intro operation running same
    rw [idle] at same
    cases same
  · intro same
    rw [finished] at same
    cases same
  · intro same
    rw [finished] at same
    cases same

theorem Inv.honest {installer : Installer} (inv : Inv sha256 svc installer) : Honest sha256 svc installer :=
  ⟨inv.fair.active, inv.fair.pulled, fun finished _ => inv.removed finished, fun finished => (inv.ensured finished).2⟩

theorem manifest_honest (installer : Installer) (events : List Event) (fresh : Fresh installer)
    (careful : Meets (step sha256 svc) (Careful sha256 svc) installer events) :
    Always (step sha256 svc) (Honest sha256 svc) installer events := by
  have preserved : ∀ before event after, Inv sha256 svc before → Careful sha256 svc before event →
      step sha256 svc before event = some after → Inv sha256 svc after := fun _ _ _ => inv_step
  exact (always_of_meets preserved (inv_fresh fresh) careful).imp fun _ inv => inv.honest

/-! Ollama on a machine without it: an install, and what goes wrong with a start that exits with an error, a `post_start` that
fails, a package that stays in the profile, and a crash after the start with another environment at the next attempt. -/

def ollama : UnmanagedService := ⟨"ollama", .generatedUnit, "root", "/root"⟩

def serve : SpawnSpec := ⟨"ollama", ["serve"], []⟩

def serveAll : SpawnSpec := ⟨"ollama", ["serve"], [("OLLAMA_HOST", "0.0.0.0")]⟩

def unitDigest (text : String) : String :=
  if text = systemdUnit ollama serve then "fb5fe7aca2e61846a8fbff4d17f46a6e2160d8ebea009c4fd3444e764543ae27"
  else if text = systemdUnit ollama serveAll then "11cd3bc4dd572866bcfa0b72b111d41213c38e2fdc0400eed7b8f07a701da15c"
  else ""

def newMachine : Installer :=
  ⟨⟨false, none, none, none, none, false, ServiceState.new⟩, ServiceState.new, none, none⟩

def success (spec : SpawnSpec) : Event := .turn ⟨true, true, true, spec, ""⟩

def failure (ok : Bool) : Event := .turn ⟨ok, false, false, serve, "exit status: 1"⟩

/-- `profile_remove`, after which the package is in the profile or not. -/
def profileRemoved (inProfile : Bool) : Event := .turn ⟨!inProfile, !inProfile, inProfile, serve, "error"⟩

def ensureSteps (spec : SpawnSpec) (count : Nat) : List Event := .call .ensure :: List.replicate count (success spec)

def removed : List Event := ensureSteps serve 14 ++ .call .remove :: List.replicate 6 (success serve)

theorem manifest_honest_removed :
    (run (step unitDigest ollama) newMachine (removed ++ [profileRemoved false, success serve])).any
        (fun after => after.finished = some .remove) ∧
      Always (step unitDigest ollama) (Honest unitDigest ollama) newMachine
        (removed ++ [profileRemoved false, success serve]) :=
  ⟨by decide +kernel, manifest_honest newMachine _ ⟨rfl, rfl, rfl, rfl, rfl⟩ (by decide +kernel)⟩

theorem manifest_dishonest :
    (run (step unitDigest ollama) newMachine (ensureSteps serve 10 ++ [failure true, success serve])).any
        (fun after => after.host.saved.serviceActive && after.host.lastCommand = some false) ∧
      (run (step unitDigest ollama) newMachine (ensureSteps serve 12 ++ [failure false, success serve])).any
        (fun after => after.host.saved.modelsPulled && !after.host.pulled) ∧
      (run (step unitDigest ollama) newMachine (removed ++ [profileRemoved true, success serve])).any
        (fun after => after.finished = some .remove && !after.host.saved.packageInstalled && after.host.inProfile) ∧
      (run (step unitDigest ollama) newMachine (ensureSteps serve 11 ++ .crash :: ensureSteps serveAll 14)).any
        (fun after => after.finished = some .ensure && after.host.running = some (systemdUnit ollama serve) &&
          after.host.saved.unitHash = some (unitDigest (systemdUnit ollama serveAll))) ∧
      unitDigest (systemdUnit ollama serve) ≠ unitDigest (systemdUnit ollama serveAll) :=
  ⟨by decide +kernel, by decide +kernel, by decide +kernel, by decide +kernel, by decide +kernel⟩

end MacMgmt.Proof.Agent.Unmanaged
