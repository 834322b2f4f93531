import MacMgmt.Daemon.UpdateTarget
import MacMgmt.Supervisor.Connection

/-!
# The systemctl shim

The service verbs of `daemon/src/systemctl.rs`. What the supervisor answers and how the real systemctl exits come from
outside; what is done is recorded in order. Standard output is left out.
-/

namespace MacMgmt.Daemon
open Supervisor

inductive ServiceVerb where
  | start
  | stop
  | restart
  | status
  | isActive
  | kill
deriving DecidableEq

def ServiceVerb.text : ServiceVerb → String
  | .start => "start"
  | .stop => "stop"
  | .restart => "restart"
  | .status => "status"
  | .isActive => "is-active"
  | .kill => "kill"

/-- The signal numbers of the platform, and `str::to_uppercase`. -/
structure Platform where
  sighup : Int
  sigint : Int
  sigquit : Int
  sigkill : Int
  sigterm : Int
  sigusr1 : Int
  sigusr2 : Int
  sigcont : Int
  sigstop : Int
  toUppercase : String → String

def Platform.linux : Platform := ⟨1, 2, 3, 9, 15, 10, 12, 18, 19, String.toUpper⟩

/-! ## Arguments -/

def startsWithDash (arg : String) : Bool := arg.toList.head? = some '-'

def keepsValue (arg : String) : Bool := arg = "-s" || arg = "--signal" || arg = "--kill-who"

def splitFlagsAndUnits : List String → List String × List String
  | [] => ([], [])
  | [arg] => if startsWithDash arg then ([arg], []) else ([], [arg])
  | arg :: next :: rest =>
      if startsWithDash arg then
        if keepsValue arg then
          let (flags, units) := splitFlagsAndUnits rest
          (arg :: next :: flags, units)
        else
          let (flags, units) := splitFlagsAndUnits (next :: rest)
          (arg :: flags, units)
      else
        let (flags, units) := splitFlagsAndUnits (next :: rest)
        (flags, arg :: units)

def normalizeServiceName (unit : String) : String :=
  ((unit.toList.dropSuffix? ".service".toList).map String.ofList).getD unit

/-- `str::parse::<i32>` -/
def parseI32 (text : String) : Option Int :=
  let (negative, digits) := match text.toList with
    | '+' :: rest => (false, rest)
    | '-' :: rest => (true, rest)
    | plain => (false, plain)
  if digits ≠ [] ∧ digits.all Char.isDigit then
    let size : Int := digits.foldl (fun value digit => 10 * value + (digit.toNat - 48 : Nat)) 0
    let value := if negative then -size else size
    if -2 ^ 31 ≤ value ∧ value < 2 ^ 31 then some value else none
  else none

def parseSignal (platform : Platform) (s : String) : Int :=
  match parseI32 s with
  | some n => n
  | none =>
      let name := ((s.toList.dropPrefix? "SIG".toList).map String.ofList).getD s
      match platform.toUppercase name with
      | "HUP" => platform.sighup
      | "INT" => platform.sigint
      | "QUIT" => platform.sigquit
      | "KILL" => platform.sigkill
      | "TERM" => platform.sigterm
      | "USR1" => platform.sigusr1
      | "USR2" => platform.sigusr2
      | "CONT" => platform.sigcont
      | "STOP" => platform.sigstop
      | _ => platform.sigterm

/-- The text behind `--signal=`. -/
def signalSuffix (flag : String) : Option String := (flag.toList.dropPrefix? "--signal=".toList).map String.ofList

def parseKillSignal (platform : Platform) : List String → Int
  | [] => platform.sigterm
  | flag :: rest =>
      match (if flag = "-s" ∨ flag = "--signal" then rest.head? else none) with
      | some val => parseSignal platform val
      | none =>
          match signalSuffix flag with
          | some val => parseSignal platform val
          | none => parseKillSignal platform rest

/-! ## A verb -/

/-- Whether the supervisor is reached, the services that it has, and whether it fails to list them. `answers` are its answers
to the requests by their number, `exits` the exit codes of the real systemctl, which may not be found. -/
structure ShimEnv where
  platform : Platform
  connects : Bool
  services : List ServiceStatus
  listFails : Bool
  answers : Nat → Except String Unit
  exits : List String → Except String Int

inductive ShimAction where
  | request (request : Request)
  | printStatus (svc : ServiceStatus)
  | printActive (svc : ServiceStatus)
  | failed (name message : String)
  | passthrough (args : List String)
  | unknown (unit : String)
deriving DecidableEq

namespace ShimEnv
variable (env : ShimEnv)

/-- `list().await.unwrap_or_default()` -/
def listed : List ServiceStatus := if env.listFails then [] else env.services

/-- A later service of the same name replaces an earlier one. -/
def managed (name : String) : Option ServiceStatus := env.listed.reverse.find? fun svc => svc.name = name

def passthroughExec (args : List String) : List ShimAction × Except String Int := ([.passthrough args], env.exits args)

def isRunning (svc : ServiceStatus) : Bool := !svc.stopped && svc.pid.isSome

/-- What is done for a managed service, and the exit code if it changes. -/
def handleManaged (verb : ServiceVerb) (flags : List String) (number : Nat) (name : String) (svc : ServiceStatus) :
    List ShimAction × Option Int :=
  let send (request : Request) : List ShimAction × Option Int :=
    match env.answers number with
    | .ok () => ([.request request], none)
    | .error e => ([.request request, .failed name e], some 1)
  match verb with
  | .start => send (.start name)
  | .stop => send (.stop name)
  | .restart => send (.restart name)
  | .kill => send (.kill name (parseKillSignal env.platform flags))
  | .status => ([.printStatus svc], if isRunning svc then none else some 3)
  | .isActive => ([.printActive svc], if isRunning svc then none else some 3)

def handleAll (verb : ServiceVerb) (flags : List String) : Nat → Int → List String → List ShimAction × Int
  | _, code, [] => ([], code)
  | number, code, unit :: rest =>
      let name := normalizeServiceName unit
      match env.managed name with
      | none => handleAll verb flags number code rest
      | some svc =>
          let (done, changed) := env.handleManaged verb flags number name svc
          let (later, final) := handleAll verb flags (number + 1) (changed.getD code) rest
          (done ++ later, final)

def unmanagedUnits (units : List String) : List String := units.filter fun unit => (env.managed (normalizeServiceName unit)).isNone

def handleServiceVerb (verb : ServiceVerb) (rest : List String) (passthrough : Bool) : List ShimAction × Except String Int :=
  let (flags, units) := splitFlagsAndUnits rest
  if units = [] then
    if passthrough then env.passthroughExec (verb.text :: rest) else ([], .error "unit name required")
  else if !env.connects then
    if passthrough then env.passthroughExec (verb.text :: rest)
    else ([], .error "supervisor not available — is the daemon running?")
  else
    let (done, code) := env.handleAll verb flags 0 0 units
    match env.unmanagedUnits units with
    | [] => (done, .ok code)
    | unmanaged =>
        if passthrough then
          let (passed, result) := env.passthroughExec (verb.text :: (flags ++ unmanaged))
          (done ++ passed, result.map fun exit => if exit ≠ 0 then exit else code)
        else (done ++ unmanaged.map .unknown, .ok 1)

end ShimEnv

/-! ## What should hold -/

/-- Every option that takes a value keeps the argument after it. -/
def splitBy (takes : String → Bool) : Bool → List String → List String × List String
  | _, [] => ([], [])
  | pending, arg :: rest =>
      let (flags, units) := splitBy takes (!pending && startsWithDash arg && takes arg) rest
      if pending || startsWithDash arg then (arg :: flags, units) else (flags, arg :: units)

/-- The values of the signal options `-s X`, `--signal X`, `--signal=X` and `-sX`. -/
def signalValues (takes : String → Bool) : List String → List String
  | [] => []
  | [arg] => (attachedSignal arg).toList
  | arg :: next :: rest =>
      if arg = "-s" ∨ arg = "--signal" then next :: signalValues takes rest
      else if startsWithDash arg && takes arg then signalValues takes rest
      else (attachedSignal arg).toList ++ signalValues takes (next :: rest)
where
  attachedSignal (arg : String) : Option String :=
    match signalSuffix arg with
    | some val => some val
    | none => ((arg.toList.dropPrefix? "-s".toList).map String.ofList).filter (· ≠ "")

/-- The name that the supervisor is asked to act on, or whose state is printed. -/
def ShimAction.acted : ShimAction → Option String
  | .request (.start name) | .request (.stop name) | .request (.restart name) | .request (.kill name _) => some name
  | .printStatus svc | .printActive svc => some svc.name
  | .request _ | .failed _ _ | .passthrough _ | .unknown _ => none

def ShimAction.passed : ShimAction → Option (List String)
  | .passthrough args => some args
  | _ => none

/-- The supervisor has a service of the name of this unit. -/
def ShimEnv.manages (env : ShimEnv) (unit : String) : Bool :=
  env.services.any fun svc => svc.name = normalizeServiceName unit

/-- `takes` says which options the real systemctl reads a value for from the next argument. -/
structure ShimRight (takes : String → Bool) (env : ShimEnv) (verb : ServiceVerb) (rest : List String) : Prop where
  placed : splitFlagsAndUnits rest = splitBy takes false rest
  supervised : env.connects = true → ((env.handleServiceVerb verb rest true).1.filterMap ShimAction.acted) =
    ((splitFlagsAndUnits rest).2.filter env.manages).map normalizeServiceName
  passed : env.connects = true → ((env.handleServiceVerb verb rest true).1.filterMap ShimAction.passed) =
    let (flags, units) := splitFlagsAndUnits rest
    let others := units.filter fun unit => !env.manages unit
    if units = [] then [verb.text :: rest] else if others = [] then [] else [verb.text :: (flags ++ others)]
  signal : verb = .kill → parseKillSignal env.platform (splitFlagsAndUnits rest).1 =
    ((signalValues takes rest).getLast?.map (parseSignal env.platform)).getD env.platform.sigterm

/-- Two scans that may wait for the value of an option wait for it together before every argument without a dash. -/
def scansAgree (takes takes' : String → Bool) : Bool → Bool → List String → Bool
  | _, _, [] => true
  | pending, pending', arg :: rest =>
      (startsWithDash arg || pending == pending') &&
        scansAgree takes takes' (!pending && startsWithDash arg && takes arg) (!pending' && startsWithDash arg && takes' arg) rest

/-- The first flag that is `-s` or `--signal` with another one behind it, or begins with `--signal=`. -/
def firstSignal : List String → Option String
  | [] => none
  | flag :: rest =>
      ((if flag = "-s" ∨ flag = "--signal" then rest.head? else none).or (signalSuffix flag)).or (firstSignal rest)

structure ShimSound (takes : String → Bool) (env : ShimEnv) (verb : ServiceVerb) (rest : List String) : Prop where
  scans : scansAgree keepsValue takes false false rest = true
  lists : env.connects = true → env.listFails = true → ∀ unit ∈ (splitFlagsAndUnits rest).2, env.manages unit = false
  signals : verb = .kill → ((firstSignal (splitFlagsAndUnits rest).1).map (parseSignal env.platform)).getD env.platform.sigterm =
    ((signalValues takes rest).getLast?.map (parseSignal env.platform)).getD env.platform.sigterm

end MacMgmt.Daemon
