import MacMgmt.Lib.JsonValue
import MacMgmt.Runner.Orchestrator
import Mathlib.Data.List.MinMax

/-!
# The health in a snapshot

What `snapshot` of `runner/src/orchestrator.rs` says of a running cell, with `probes_healthy` and `probe_summary`. Times are
in nanoseconds.
-/

namespace MacMgmt.Runner
open Lib

/-- `AdminMachineRow` -/
structure MachineRow where
  instanceId : Nat
  hostname : Option String
  version : String
  reportedAt : Int
  servicesExtended : Option JsonValue

/-- A flag of a service that is missing, or no boolean, is false. -/
def flag (svc : JsonValue) (key : String) : Bool := ((svc.field key).bind JsonValue.asBool).getD false

def probesHealthy (v : JsonValue) : Option Bool :=
  match v.asObject with
  | none | some [] => none
  | some map => some (map.all fun entry => flag entry.2 "healthy" && flag entry.2 "last_probe_ok")

def probeSummary (v : Option JsonValue) : String :=
  match v.bind JsonValue.asObject with
  | none | some [] => ""
  | some map =>
      let parts := map.map fun entry => entry.1 ++ if flag entry.2 "healthy" then "✔" else "✗"
      " [" ++ ",".intercalate parts ++ "]"

def age (now : Int) (row : MachineRow) : Nat := (now - row.reportedAt).toNat

def knownRows (instances : List InstanceSpec) (rows : List MachineRow) : List MachineRow :=
  instances.filterMap fun inst => rows.find? fun row => row.instanceId = inst.instanceId

/-- `latest`, the oldest heartbeat. -/
def representative (instances : List InstanceSpec) (rows : List MachineRow) : Option MachineRow :=
  @List.argmin _ _ Int.instLinearOrder.toPreorder _ MachineRow.reportedAt (knownRows instances rows)

/-- `healthy` and `detail` of a cell in its stage `Running`. -/
def runningHealth (now : Int) (staleAfter : Nat) (instances : List InstanceSpec) (answer : Except String (List MachineRow)) :
    Option Bool × Option String :=
  match answer with
  | .error e => (some false, some s!"mgmt error: {e}")
  | .ok rows =>
      let latest := representative instances rows
      let heartbeatFresh := (latest.map fun row => decide (age now row < staleAfter)).getD false
      let probesOk := ((latest.bind MachineRow.servicesExtended).bind probesHealthy).getD true
      let detail := latest.map fun row =>
        let hostname := row.hostname.getD ""
        s!"v{row.version} {hostname} ({age now row / 10 ^ 9}s ago){probeSummary row.servicesExtended}"
      (some (heartbeatFresh && probesOk), detail)

/-! ## What should hold -/

def services (row : MachineRow) : List JsonValue :=
  match row.servicesExtended with
  | some (.array items) => items
  | some (.object fields) => fields.map Prod.snd
  | _ => []

def AllHealthy (row : MachineRow) : Prop := ∀ svc ∈ services row, flag svc "healthy" = true

/-- Every instance has a row, which is fresh and whose services are healthy. -/
def CellHealthy (now : Int) (staleAfter : Nat) (instances : List InstanceSpec) (rows : List MachineRow) : Prop :=
  ∀ inst ∈ instances, ∃ row, rows.find? (fun row => row.instanceId = inst.instanceId) = some row ∧
    age now row < staleAfter ∧ AllHealthy row

/-- Where the oldest row is fresh and its probes do not fail: no instance lacks a row, the other rows report healthy services
only, and so does the oldest one if it reports an array. -/
structure OthersHealthy (instances : List InstanceSpec) (rows : List MachineRow) (oldest : MachineRow) : Prop where
  present : ∀ inst ∈ instances, ∃ row ∈ rows, row.instanceId = inst.instanceId
  others : ∀ row ∈ knownRows instances rows, row ≠ oldest → AllHealthy row
  array : ∀ items, oldest.servicesExtended = some (.array items) → AllHealthy oldest

end MacMgmt.Runner
