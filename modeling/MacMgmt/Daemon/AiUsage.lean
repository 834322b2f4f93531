import MacMgmt.Lib.Run
import Mathlib.Data.Multiset.AddSub
import Mathlib.Data.Multiset.Filter
import Mathlib.Algebra.BigOperators.Group.Multiset.Basic

/-!
# The token budgets of the AI proxy

`UsageTracker` of `daemon/src/ai_proxy/usage.rs` and the check in `AuthedKey::from_request` of `auth.rs`. Times are in
nanoseconds since the epoch and windows in nanoseconds; token counts are `i64` and wrap. An event that was written as a
line of its own is read back as it was.
-/

namespace MacMgmt.Daemon
open Lib

structure UsageEvent where
  ts : Int
  keyHash : String
  inputTokens : Int64
  outputTokens : Int64
deriving DecidableEq

structure KeyEntry where
  keyHash : String
  tokenBudget : Int64
  budgetWindow : Nat
  enabled : Bool

def UsageEvent.totalTokens (event : UsageEvent) : Int64 := event.inputTokens + event.outputTokens

def maxFileSize : Nat := 10 * 1024 * 1024

/-- `chrono::Duration` is at most `i64::MAX` milliseconds. -/
def maxDuration : Nat := (2 ^ 63 - 1) * 1000000

/-- `chrono::Duration::from_std(window).unwrap_or_default()` -/
def fromStd (window : Nat) : Nat := if window ≤ maxDuration then window else 0

/-- The fields from `writing` on are not in the source: the events taken by a flush that is at work, the lines and the size
of the file, the time, and the events recorded so far. -/
structure UsageTracker where
  events : List UsageEvent
  pending : List UsageEvent
  writing : List UsageEvent
  file : List UsageEvent
  fileSize : Nat
  clock : Int
  recorded : List UsageEvent

/-- A flush is two steps. Of what it writes, `parsed` are the events whose lines can be read back; lines may be lost when
the disk is full. -/
inductive UsageStep where
  | clock (now : Int)
  | record (event : UsageEvent)
  | flush
  | write (renames opens : Bool) (parsed : List UsageEvent) (bytes : Nat)
  | restart (reads : Bool)
  | request (keyHash : String)

namespace UsageTracker

def new (clock : Int) : UsageTracker := ⟨[], [], [], [], 0, clock, []⟩

/-- Times before `earliest` do not exist: the subtraction panics and the request fails. -/
def cutoff (tracker : UsageTracker) (earliest : Int) (window : Nat) : Option Int :=
  let time := tracker.clock - fromStd window
  if earliest ≤ time then some time else none

def tokensSince (tracker : UsageTracker) (keyHash : String) (cutoff : Int) : Int64 :=
  ((tracker.events.reverse.takeWhile fun event => cutoff ≤ event.ts).filter fun event => event.keyHash = keyHash).foldl
    (fun sum event => sum + event.totalTokens) 0

def remainingBudget (tracker : UsageTracker) (earliest : Int) (keyHash : String) (budget : Int64) (window : Nat) :
    Option Int64 :=
  if budget = 0 then some Int64.maxValue
  else (tracker.cutoff earliest window).map fun cutoff => budget - tracker.tokensSince keyHash cutoff

def admits (tracker : UsageTracker) (earliest : Int) (keys : List KeyEntry) (keyHash : String) : Bool :=
  match keys.find? fun entry => entry.keyHash = keyHash with
  | some entry => entry.enabled &&
      (tracker.remainingBudget earliest entry.keyHash entry.tokenBudget entry.budgetWindow).any fun remaining => 0 < remaining
  | none => false

def record (tracker : UsageTracker) (event : UsageEvent) : UsageTracker :=
  { tracker with
    events := tracker.events ++ [event]
    pending := tracker.pending ++ [event]
    recorded := tracker.recorded ++ [event] }

def maybeRotate (tracker : UsageTracker) (renames : Bool) : UsageTracker :=
  if maxFileSize < tracker.fileSize ∧ renames then { tracker with file := [], fileSize := 0 } else tracker

def write (tracker : UsageTracker) (opens : Bool) (parsed : List UsageEvent) (bytes : Nat) : UsageTracker :=
  if opens then
    { tracker with file := tracker.file ++ parsed, fileSize := tracker.fileSize + bytes, writing := [] }
  else { tracker with pending := tracker.pending ++ tracker.writing, writing := [] }

/-- `new` of the next process -/
def restart (tracker : UsageTracker) (reads : Bool) : UsageTracker :=
  { tracker with events := if reads then tracker.file else [], pending := [], writing := [] }

def step (tracker : UsageTracker) : UsageStep → Option UsageTracker
  | .clock now => some { tracker with clock := now }
  | .record event => some (tracker.record event)
  | .flush => if tracker.writing = [] then some { tracker with pending := [], writing := tracker.pending } else none
  | .write renames opens parsed bytes =>
      if tracker.writing ≠ [] ∧ parsed.isSublist tracker.writing then
        some ((tracker.maybeRotate renames).write opens parsed bytes)
      else none
  | .restart reads => some (tracker.restart reads)
  | .request _ => some tracker

/-! ## Budgets -/

/-- The tokens of the key in its window, as they were recorded. -/
def spent (tracker : UsageTracker) (entry : KeyEntry) : Int :=
  ((tracker.recorded.filter fun event =>
      event.keyHash = entry.keyHash ∧ tracker.clock - entry.budgetWindow ≤ event.ts).map
    fun event => event.inputTokens.toInt + event.outputTokens.toInt).sum

def WithinBudget (tracker : UsageTracker) (earliest : Int) (keys : List KeyEntry) (keyHash : String) : Prop :=
  tracker.admits earliest keys keyHash = true →
    ∀ entry, keys.find? (fun entry => entry.keyHash = keyHash) = some entry → entry.tokenBudget ≠ 0 →
      tracker.spent entry < entry.tokenBudget.toInt

def lost (tracker : UsageTracker) : Multiset UsageEvent := (tracker.recorded : Multiset UsageEvent) - tracker.events

def Expired (keys : List KeyEntry) (clock : Int) (event : UsageEvent) : Prop :=
  ∀ entry ∈ keys, entry.tokenBudget ≠ 0 → entry.keyHash = event.keyHash → event.ts < clock - entry.budgetWindow

/-- Events are recorded and read back in the order of their times, what a restart loses has left every window and no clock
step brings it back, and at a request the window and the remaining budget can be represented. -/
def Settled (keys : List KeyEntry) (tracker : UsageTracker) : UsageStep → Prop
  | .clock now => ∀ event ∈ tracker.lost, Expired keys now event
  | .record event => ∀ earlier ∈ tracker.events, earlier.ts ≤ event.ts
  | .flush | .write _ _ _ _ => True
  | .restart reads =>
      (reads = true → tracker.file.Pairwise fun earlier later => earlier.ts ≤ later.ts) ∧
      ∀ event ∈ (tracker.restart reads).lost, Expired keys tracker.clock event
  | .request keyHash => ∀ entry, keys.find? (fun entry => entry.keyHash = keyHash) = some entry → entry.tokenBudget ≠ 0 →
      entry.budgetWindow ≤ maxDuration ∧ tracker.spent entry ≤ entry.tokenBudget.toInt + 2 ^ 63

end UsageTracker
end MacMgmt.Daemon
