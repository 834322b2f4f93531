import MacMgmt.Lib.Run

/-!
# Heartbeat posts

`send_heartbeat` of `daemon/src/daemon.rs` with the post of `mac-mgmt-agent/src/heartbeat.rs`. The main loop captures a
snapshot and spawns a task; the task takes the lock if it is free when it is first scheduled, and otherwise drops the
snapshot. A post that times out is given up by the daemon, while its request may still be under way. Snapshots are numbered
as they are captured.
-/

namespace MacMgmt.Daemon
open Lib

inductive PostPhase where
  | locked
  | posted
deriving DecidableEq

/-- `spawned` are the snapshots whose task has not been scheduled, `holder` the task that holds the lock, `requests` those
under way and `arrived` what has reached the server, the last one at the end. -/
structure Heartbeats where
  captured : Nat
  spawned : List Nat
  holder : Option (Nat × PostPhase)
  requests : List Nat
  arrived : List Nat
deriving DecidableEq

/-- `finish` is an answer, an error or the timeout, whatever has become of the request. -/
inductive HeartbeatEvent where
  | capture
  | schedule (snapshot : Nat)
  | post
  | arrive (snapshot : Nat)
  | lose (snapshot : Nat)
  | finish

namespace Heartbeats

def start : Heartbeats := ⟨0, [], none, [], []⟩

def step (state : Heartbeats) : HeartbeatEvent → Option Heartbeats
  | .capture => some { state with captured := state.captured + 1, spawned := state.spawned ++ [state.captured] }
  | .schedule snapshot =>
      if snapshot ∈ state.spawned then
        let spawned := state.spawned.erase snapshot
        match state.holder with
        | none => some { state with spawned := spawned, holder := some (snapshot, .locked) }
        | some _ => some { state with spawned := spawned }
      else none
  | .post =>
      match state.holder with
      | some (snapshot, .locked) =>
          some { state with holder := some (snapshot, .posted), requests := state.requests ++ [snapshot] }
      | some (_, .posted) | none => none
  | .arrive snapshot =>
      if snapshot ∈ state.requests then
        some { state with requests := state.requests.erase snapshot, arrived := state.arrived ++ [snapshot] }
      else none
  | .lose snapshot =>
      if snapshot ∈ state.requests then some { state with requests := state.requests.erase snapshot } else none
  | .finish =>
      match state.holder with
      | some _ => some { state with holder := none }
      | none => none

def InOrder (state : Heartbeats) : Prop := state.arrived.Pairwise (· < ·)

/-- A task takes the lock only if nothing newer has arrived, and a post is given up only when its request has arrived or is
lost. -/
def Settled (state : Heartbeats) : HeartbeatEvent → Prop
  | .schedule snapshot => state.holder = none → ∀ earlier ∈ state.arrived, earlier < snapshot
  | .finish => ∀ snapshot phase, state.holder = some (snapshot, phase) → snapshot ∉ state.requests
  | .capture | .post | .arrive _ | .lose _ => True

end Heartbeats
end MacMgmt.Daemon
