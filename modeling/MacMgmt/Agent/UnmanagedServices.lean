import MacMgmt.Lib.Procedures
import MacMgmt.Lib.Run

/-!
# Services outside the supervisor

`ensure_service`, `remove_service` and `import_service` of `mac-mgmt-agent/src/unmanaged/installer.rs` with the systemd side of
`unit_generator.rs`, for one service. The manifest that a process has loaded is the memory of a procedure; the manifest file is
part of the world. What every external step answers is chosen from outside.
-/

namespace MacMgmt.Agent.Unmanaged
open Lib

/-! ## The unit file -/

/-- The environment is in the order in which the map is read. -/
structure SpawnSpec where
  program : String
  args : List String
  env : List (String × String)
deriving DecidableEq

inductive ServiceStrategy where
  | builtInDaemon (installCmd uninstallCmd : List String)
  | generatedUnit
  | installOnly
deriving DecidableEq

/-- `user` and `home` are `service_user()` and its home directory. -/
structure UnmanagedService where
  name : String
  strategy : ServiceStrategy
  user : String
  home : String

def systemdUnit (svc : UnmanagedService) (spec : SpawnSpec) : String :=
  let exec := if spec.args = [] then spec.program else spec.program ++ " " ++ " ".intercalate spec.args
  let envLines := "\n".intercalate (spec.env.map fun entry => "Environment=" ++ entry.1 ++ "=" ++ entry.2)
  "\n".intercalate
    ["[Unit]", "Description=" ++ svc.name ++ " (mac-mgmt unmanaged)", "After=network-online.target",
      "Wants=network-online.target", "", "[Service]", "Type=simple", "User=" ++ svc.user, "Environment=HOME=" ++ svc.home,
      envLines, "ExecStart=/bin/bash -lc '" ++ exec ++ "'", "Restart=always", "RestartSec=5", "", "[Install]",
      "WantedBy=multi-user.target", ""]

def unitPath (svc : UnmanagedService) : String := "/etc/systemd/system/" ++ svc.name ++ ".service"

/-! ## The manifest and the machine -/

structure ServiceState where
  packageInstalled : Bool
  configured : Bool
  modelsPulled : Bool
  serviceActive : Bool
  unitHash : Option String
  lastError : Option String
deriving DecidableEq

def ServiceState.new : ServiceState := ⟨false, false, false, false, none, none⟩

/-- `loaded` is the unit as systemd last read it and `running` the unit of which the service is an instance. `lastCommand` is
whether the last `enable`, `start` or `restart` that was run exited with success, and `pulled` whether `post_start` has
succeeded since the service was last brought up from not running. -/
structure Host where
  inProfile : Bool
  unitFile : Option String
  loaded : Option String
  running : Option String
  lastCommand : Option Bool
  pulled : Bool
  saved : ServiceState

/-- A unit that systemd has not read is read when it is first needed. -/
def Host.definition (host : Host) : Option String := host.loaded.or host.unitFile

def Host.bringUp (host : Host) (contents : Option String) : Host :=
  { host with running := contents, pulled := host.pulled && host.running.isSome }

inductive Action where
  | isInstalled
  | ensureInstalled
  | migrateToNixpkgs
  | save (state : ServiceState)
  | ensureSetup
  | spawnSpec
  | writeUnit (contents : String)
  | daemonReload
  | enable
  | start
  | restart
  | installCommand (command : List String)
  | uninstallCommand (command : List String)
  | postStart
  | disableNow
  | unitExists
  | removeUnit
  | profileRemove
  | which
  | pathExists
  | isActive

/-- `ok` is whether a call returns without an error, or a command can be run; `success` is the command's exit status. `yes` is
the answer to a question, and what is the case afterwards where a step that changes something may leave it either way. -/
structure Outcome where
  ok : Bool
  success : Bool
  yes : Bool
  spec : SpawnSpec
  message : String

def perform (host : Host) (action : Action) (outcome : Outcome) : Host :=
  let effective := outcome.ok && (outcome.success || outcome.yes)
  match action with
  | .ensureInstalled | .migrateToNixpkgs | .profileRemove => { host with inProfile := outcome.yes }
  | .save state => if outcome.ok then { host with saved := state } else host
  | .writeUnit contents =>
      if outcome.ok then { host with unitFile := some contents }
      else if outcome.yes then { host with unitFile := some outcome.message } else host
  | .daemonReload => if effective then { host with loaded := host.unitFile } else host
  | .enable =>
      let host := if effective then { host with loaded := host.unitFile } else host
      if outcome.ok then { host with lastCommand := some outcome.success } else host
  | .start =>
      let host := if effective then host.bringUp (host.running.or host.definition) else host
      if outcome.ok then { host with lastCommand := some outcome.success } else host
  | .restart =>
      let host :=
        if outcome.ok && outcome.success then host.bringUp host.definition
        else if outcome.ok && outcome.yes then { host with running := none } else host
      if outcome.ok then { host with lastCommand := some outcome.success } else host
  | .installCommand _ => if effective then host.bringUp (host.running.or (some outcome.message)) else host
  | .uninstallCommand _ | .disableNow => if effective then { host with running := none } else host
  | .postStart => if outcome.ok then { host with pulled := true } else host
  | .removeUnit => if outcome.ok then { host with unitFile := none } else host
  | .isInstalled | .ensureSetup | .spawnSpec | .unitExists | .which | .pathExists | .isActive => host

/-! ## The steps -/

abbrev Installing := Procedure ServiceState Action Outcome String

def call (action : Action) : Installing Unit := do
  let outcome ← Procedure.act action
  if outcome.ok then pure () else Procedure.fail outcome.message

/-- A command of which the exit status is not looked at. -/
def status (action : Action) (context : String) : Installing Unit := do
  let outcome ← Procedure.act action
  if outcome.ok then pure () else Procedure.fail context

def attempt (action : Action) : Installing Unit := do
  let _ ← Procedure.act action
  pure ()

def checked (action : Action) : Installing Unit := do
  let outcome ← Procedure.act action
  if outcome.ok && outcome.success then pure () else Procedure.fail outcome.message

def save : Installing Unit := do
  let state ← Procedure.recalled
  call (.save state)

def record (change : ServiceState → ServiceState) : Installing Unit := do
  Procedure.remember change
  save

def writeSystemd (svc : UnmanagedService) (spec : SpawnSpec) : Installing Unit := do
  let written ← Procedure.act (.writeUnit (systemdUnit svc spec))
  if written.ok then status .daemonReload "systemctl daemon-reload"
  else Procedure.fail ("writing " ++ unitPath svc)

def enableStartSystemd : Installing Unit := do
  status .enable "systemctl enable"
  status .start "systemctl start"

def restartSystemd : Installing Unit := status .restart "systemctl restart"

def removeSystemd : Installing Unit := do
  attempt .disableNow
  let file ← Procedure.act .unitExists
  Procedure.whenever file.yes do
    call .removeUnit
    attempt .daemonReload

/-! ## The operations -/

def installAndEnsureNixpkgs : Installing Unit := do
  call .ensureInstalled
  attempt .migrateToNixpkgs

/-- The common end of a step of which the error is recorded before it is returned. -/
def failWith (svc : UnmanagedService) (stage error : String) : Installing Unit := do
  record fun state => { state with lastError := some (stage ++ ": " ++ error) }
  Procedure.fail (svc.name ++ ": " ++ stage)

def ensurePackage (svc : UnmanagedService) : Installing Unit := do
  let listed ← Procedure.act .isInstalled
  Procedure.whenever (¬(listed.ok && listed.yes)) do
    Procedure.remember fun state => { state with packageInstalled := false }
  match ← Procedure.caught installAndEnsureNixpkgs with
  | .ok _ => record fun state => { state with packageInstalled := true, lastError := none }
  | .error error => failWith svc "ensure_installed" error

def ensureConfig (svc : UnmanagedService) : Installing Unit := do
  match ← Procedure.caught (call .ensureSetup) with
  | .ok _ => record fun state => { state with configured := true, lastError := none }
  | .error error => failWith svc "ensure_setup" error

def updateSystemd (active : Bool) : Installing Unit := if active then restartSystemd else enableStartSystemd

def ensureUnit (sha256 : String → String) (svc : UnmanagedService) : Installing Unit := do
  let asked ← Procedure.act .spawnSpec
  let hash := sha256 (systemdUnit svc asked.spec)
  let state ← Procedure.recalled
  if state.unitHash ≠ some hash then do
    writeSystemd svc asked.spec
    Procedure.remember fun state => { state with unitHash := some hash }
    updateSystemd state.serviceActive
    record fun state => { state with serviceActive := true, lastError := none }
  else Procedure.whenever (¬state.serviceActive) do
    enableStartSystemd
    record fun state => { state with serviceActive := true }

def ensureDaemon (command : List String) : Installing Unit := do
  checked (.installCommand command)
  record fun state => { state with serviceActive := true, lastError := none }

/-- An error of `post_start` is only logged. -/
def ensureModels : Installing Unit := do
  let state ← Procedure.recalled
  Procedure.whenever (state.serviceActive && !state.modelsPulled) do
    attempt .postStart
    record fun state => { state with modelsPulled := true }

def ensureStrategy (sha256 : String → String) (svc : UnmanagedService) : Installing Unit :=
  match svc.strategy with
  | .generatedUnit => ensureUnit sha256 svc
  | .builtInDaemon installCmd _ => ensureDaemon installCmd
  | .installOnly => pure ()

def ensureService (sha256 : String → String) (svc : UnmanagedService) : Installing Unit := do
  ensurePackage svc
  ensureConfig svc
  ensureStrategy sha256 svc
  ensureModels

def destroyService (svc : UnmanagedService) : Installing Unit :=
  match svc.strategy with
  | .builtInDaemon _ uninstallCmd => checked (.uninstallCommand uninstallCmd)
  | .generatedUnit => removeSystemd
  | .installOnly => pure ()

def removeActive (svc : UnmanagedService) : Installing Unit := do
  match ← Procedure.caught (destroyService svc) with
  | .ok _ => record fun state => { state with serviceActive := false, unitHash := none, modelsPulled := false }
  | .error error => failWith svc "destroy_service" error

/-- An error of `profile_remove` is only logged. -/
def removePackage : Installing Unit := do
  attempt .profileRemove
  record fun state => { state with packageInstalled := false }

def removeService (svc : UnmanagedService) : Installing Unit := do
  let state ← Procedure.recalled
  Procedure.whenever state.serviceActive (removeActive svc)
  let state ← Procedure.recalled
  Procedure.whenever state.configured (record fun state => { state with configured := false })
  let state ← Procedure.recalled
  Procedure.whenever state.packageInstalled removePackage

def importActive (svc : UnmanagedService) : Installing Unit := do
  Procedure.whenever (svc.strategy ≠ .installOnly) do
    let active ← Procedure.act .isActive
    Procedure.whenever active.yes (Procedure.remember fun state => { state with serviceActive := true })

def importService (svc : UnmanagedService) : Installing Bool := do
  let found ← Procedure.act .which
  if found.ok then do
    attempt .migrateToNixpkgs
    Procedure.remember fun state => { state with packageInstalled := true }
    let path ← Procedure.act .pathExists
    Procedure.whenever path.yes (Procedure.remember fun state => { state with configured := true })
    importActive svc
    record fun state => { state with lastError := none }
    pure true
  else pure false

/-! ## A process -/

inductive Operation where
  | ensure
  | remove
  | importing
deriving DecidableEq

def program (sha256 : String → String) (svc : UnmanagedService) : Operation → Installing Unit
  | .ensure => ensureService sha256 svc
  | .remove => removeService svc
  | .importing => do
      let _ ← importService svc

abbrev Running := Script Action Outcome (Except String Unit × ServiceState)

/-- `memory` is the manifest as the process has it between two operations; `finished` is the last operation, if it returned
without an error and no other has begun. -/
structure Installer where
  host : Host
  memory : ServiceState
  operation : Option (Operation × Running)
  finished : Option Operation

/-- `save` is the process saving the manifest on behalf of another service, or at its end. After a crash, or at the end of the
process, the next one loads what was saved. -/
inductive Event where
  | call (operation : Operation)
  | turn (outcome : Outcome)
  | save (ok : Bool)
  | crash

namespace Installer

def settle (installer : Installer) (operation : Operation) : Running → Installer
  | .done (.ok _, memory) => { installer with memory, operation := none, finished := some operation }
  | .done (.error _, memory) => { installer with memory, operation := none, finished := none }
  | .ask action next => { installer with operation := some (operation, .ask action next), finished := none }

variable (sha256 : String → String) (svc : UnmanagedService)

def step (installer : Installer) : Event → Option Installer
  | .call operation =>
      match installer.operation with
      | none => some (installer.settle operation (program sha256 svc operation installer.memory))
      | some _ => none
  | .turn outcome =>
      match installer.operation with
      | some (operation, .ask action next) =>
          some ({ installer with host := perform installer.host action outcome }.settle operation (next outcome))
      | _ => none
  | .save ok =>
      match installer.operation with
      | none => some (if ok then { installer with host.saved := installer.memory } else installer)
      | some _ => none
  | .crash => some { installer with memory := installer.host.saved, operation := none }

/-- Nothing recorded and nothing done yet, on any machine. -/
def Fresh (installer : Installer) : Prop :=
  installer.host.saved = ServiceState.new ∧ installer.memory = ServiceState.new ∧ installer.host.lastCommand = none ∧
    installer.operation = none ∧ installer.finished = none

structure Honest (installer : Installer) : Prop where
  active : installer.host.saved.serviceActive → installer.host.lastCommand ≠ some false
  pulled : installer.host.saved.modelsPulled → installer.host.pulled
  removed : installer.finished = some .remove → installer.host.saved.packageInstalled = false → ¬installer.host.inProfile
  current : installer.finished = some .ensure → svc.strategy = .generatedUnit →
    ∃ contents, installer.host.running = some contents ∧ installer.host.saved.unitHash = some (sha256 contents)

/-- No step goes wrong in a way that the code does not look at. -/
def Sound (host : Host) (action : Action) (outcome : Outcome) : Prop :=
  match action with
  | .spawnSpec =>
      -- The recorded hash is that of the unit that runs, or that would be started.
      host.saved.unitHash = some (sha256 (systemdUnit svc outcome.spec)) →
        (if host.saved.serviceActive then host.running else host.unitFile).map sha256 = host.saved.unitHash
  | .start =>
      outcome.ok → outcome.success ∧ (host.running = none ∨ host.running = host.unitFile) ∧
        (host.running = none → host.definition = host.unitFile ∧ host.saved.modelsPulled = false)
  | .restart =>
      outcome.ok → outcome.success ∧ host.definition = host.unitFile ∧
        (host.running = none → host.saved.modelsPulled = false)
  | .installCommand _ => outcome.ok → host.running = none → host.saved.modelsPulled = false
  | .postStart => outcome.ok
  | .profileRemove => outcome.yes = false
  | .isActive => outcome.yes → host.lastCommand ≠ some false
  | _ => True

def Careful (installer : Installer) : Event → Prop
  | .call .remove => installer.memory.packageInstalled = false → ¬installer.host.inProfile
  | .turn outcome =>
      match installer.operation with
      | some (_, .ask action _) => Sound sha256 svc installer.host action outcome
      | _ => True
  | _ => True

instance (host : Host) : (action : Action) → (outcome : Outcome) → Decidable (Sound sha256 svc host action outcome)
  | .spawnSpec, _ | .start, _ | .restart, _ | .installCommand _, _ | .isActive, _ => inferInstanceAs (Decidable (_ → _))
  | .postStart, _ | .profileRemove, _ => inferInstanceAs (Decidable (_ = _))
  | .isInstalled, _ | .ensureInstalled, _ | .migrateToNixpkgs, _ | .save _, _ | .ensureSetup, _ | .writeUnit _, _ |
      .daemonReload, _ | .enable, _ | .uninstallCommand _, _ | .disableNow, _ | .unitExists, _ | .removeUnit, _ | .which, _ |
      .pathExists, _ => inferInstanceAs (Decidable True)

instance (installer : Installer) : (event : Event) → Decidable (Careful sha256 svc installer event)
  | .call .remove => inferInstanceAs (Decidable (_ → _))
  | .turn outcome =>
      match operation : installer.operation with
      | some (_, .ask action _) =>
          decidable_of_iff (Sound sha256 svc installer.host action outcome) (by simp only [Careful, operation])
      | some (_, .done _) => .isTrue (by simp only [Careful, operation])
      | none => .isTrue (by simp only [Careful, operation])
  | .call .ensure | .call .importing | .save _ | .crash => inferInstanceAs (Decidable True)

end Installer
end MacMgmt.Agent.Unmanaged
