import MacMgmt.Agent.ShellExec

/-!
# What a command gives, and when it waits

Only the loop looks at the timer. The reads of the pipe that is left and the wait for the child come after it.
-/

namespace MacMgmt.Proof.Agent
open MacMgmt.Agent Lib

section Shell
variable (variant : ShellVariant) (execTimeout : Nat)

/-- The exit code of the child, or the timeout, when the child was killed for it. -/
inductive FinalResult (state : ShellRun) : ShellMessage → Prop where
  | exit {status : Option Int} (exited : state.exited = some status) : FinalResult state (.result (status.getD (-1)) none)
  | timeout (elapsed : state.elapsed = true) (killed : state.killed = true) : FinalResult state (timeoutResult variant execTimeout)
  | unknown (failed : state.waitFailed = true) : FinalResult state (.result (-1) none)

def linesOf (state : ShellRun) : List ShellMessage := state.read.map fun line => .line line.1 line.2

/-- Everything that was read is given, in order, and after it exactly one result once all is done; a client that is gone is given
nothing more. -/
def Accounted (state : ShellRun) : Prop :=
  match state.phase with
  | .looping | .draining _ | .waiting => state.broken = false ∧ state.given = linesOf state
  | .killing (some result) =>
      state.broken = false ∧ state.given = linesOf state ∧ result = timeoutResult variant execTimeout ∧
        state.elapsed = true ∧ state.killed = true
  | .killing none => state.broken = true
  | .done => state.broken = true ∨ ∃ result, FinalResult variant execTimeout state result ∧ state.given = linesOf state ++ [result]

def Waits (state : ShellRun) : Prop :=
  match state.phase with
  | .looping => state.elapsed = false ∧ ∀ pipe, (state.pipes pipe).nextLine = none
  | .draining pipe => (state.pipes pipe).nextLine = none
  | .waiting | .killing _ => state.exited = none
  | .done => False

structure TimelyRun (state : ShellRun) : Prop where
  accounted : Accounted variant execTimeout state
  killed : state.elapsed = true → Waits state → state.killed = true

/-- The timer does not run out on a suspended read or wait after the loop, and no read leads to one when it has. -/
def TimelyStep (state : ShellRun) (event : ShellEvent) : Prop :=
  match event, state.phase with
  | .elapse, .draining pipe => (state.pipes pipe).nextLine ≠ none
  | .elapse, .waiting => state.exited ≠ none
  | .poll pipe _, .looping => state.elapsed = true →
      match (state.pipes pipe).nextLine with
      | some .end_ => (state.pipes pipe.other).nextLine ≠ none
      | some (.item .failed) => state.exited ≠ none
      | some (.item (.line _)) | none => True
  | .poll pipe sent, .draining _ => state.elapsed = true →
      match (state.pipes pipe).nextLine with
      | some .end_ | some (.item .failed) => state.exited ≠ none
      | some (.item (.line _)) => (variant.sends && !sent) = true ∨ (state.pipes pipe).rest.nextLine ≠ none
      | none => True
  | _, _ => True

structure ShellInvariant (state : ShellRun) : Prop where
  accounted : Accounted variant execTimeout state
  killed : match state.phase with
    | .looping | .draining _ | .waiting => state.killed = false
    | .killing _ => state.killed = true
    | .done => True

variable {variant execTimeout} {state after : ShellRun}

theorem FinalResult.mono {result : ShellMessage} (final : FinalResult variant execTimeout state result)
    (exited : ∀ status, state.exited = some status → after.exited = some status) (elapsed : state.elapsed = true → after.elapsed = true)
    (killed : state.killed = true → after.killed = true) (waitFailed : state.waitFailed = true → after.waitFailed = true) :
    FinalResult variant execTimeout after result := by
  cases final with
  | exit known => exact .exit (exited _ known)
  | timeout late dead => exact .timeout (elapsed late) (killed dead)
  | unknown failed => exact .unknown (waitFailed failed)

theorem ShellInvariant.world (holds : ShellInvariant variant execTimeout state) (phase : after.phase = state.phase)
    (read : after.read = state.read) (given : after.given = state.given) (broken : after.broken = state.broken)
    (killed : after.killed = state.killed) (waitFailed : after.waitFailed = state.waitFailed)
    (exited : ∀ status, state.exited = some status → after.exited = some status) (elapsed : state.elapsed = true → after.elapsed = true) :
    ShellInvariant variant execTimeout after := by
  obtain ⟨accounted, dead⟩ := holds
  have lines : linesOf after = linesOf state := by rw [linesOf, linesOf, read]
  constructor
  · unfold Accounted at accounted ⊢
    rw [phase, broken, given, lines]
    cases stage : state.phase with
    | looping => rw [stage] at accounted; exact accounted
    | draining pipe => rw [stage] at accounted; exact accounted
    | waiting => rw [stage] at accounted; exact accounted
    | killing result =>
        rw [stage] at accounted
        cases result with
        | none => exact accounted
        | some result => exact ⟨accounted.1, accounted.2.1, accounted.2.2.1, elapsed accounted.2.2.2.1, killed ▸ accounted.2.2.2.2⟩
    | done =>
        rw [stage] at accounted
        refine accounted.imp_right fun ⟨result, final, whole⟩ => ⟨result, final.mono exited elapsed ?_ ?_, whole⟩
        · exact fun dead => killed ▸ dead
        · exact fun failed => waitFailed ▸ failed
  · rw [phase, killed]
    exact dead

theorem timely_iff (holds : ShellInvariant variant execTimeout after) :
    TimelyRun variant execTimeout after ↔ (after.elapsed = true → Waits after → after.killed = true) :=
  ⟨TimelyRun.killed, fun killed => ⟨holds.accounted, killed⟩⟩

/-! ## The child and the clock -/

theorem nextLine_write {pipe other : PipeName} {item : PipeItem}
    (none : (Function.update state.pipes pipe { state.pipes pipe with ready := (state.pipes pipe).ready ++ [item] } other).nextLine = none) :
    (state.pipes other).nextLine = Option.none := by
  by_cases here : other = pipe
  · subst here
    rw [Function.update_self, Pipe.nextLine] at none
    cases ready : (state.pipes other).ready with
    | nil => rw [ready] at none; cases none
    | cons first rest => rw [ready] at none; cases none
  · rwa [Function.update_of_ne here] at none

theorem nextLine_close {pipe other : PipeName}
    (none : (Function.update state.pipes pipe { state.pipes pipe with closed := true } other).nextLine = none) :
    (state.pipes other).nextLine = Option.none := by
  by_cases here : other = pipe
  · subst here
    rw [Function.update_self, Pipe.nextLine] at none
    cases ready : (state.pipes other).ready with
    | nil => simp only [ready, if_true] at none; cases none
    | cons first rest => simp only [ready] at none; cases none
  · rwa [Function.update_of_ne here] at none

theorem waits_of_world (waits : Waits after) (phase : after.phase = state.phase) (elapsed : after.elapsed = state.elapsed)
    (pipes : ∀ pipe, (after.pipes pipe).nextLine = none → (state.pipes pipe).nextLine = none)
    (exited : after.exited = none → state.exited = none) : Waits state := by
  unfold Waits at waits ⊢
  rw [phase] at waits
  cases stage : state.phase with
  | looping => rw [stage] at waits; exact ⟨elapsed ▸ waits.1, fun pipe => pipes pipe (waits.2 pipe)⟩
  | draining pipe => rw [stage] at waits; exact pipes pipe waits
  | waiting => rw [stage] at waits; exact exited waits
  | killing result => rw [stage] at waits; exact exited waits
  | done => rw [stage] at waits; exact waits

theorem pipes_timely {pipes : PipeName → Pipe} (holds : ShellInvariant variant execTimeout state)
    (more : ∀ pipe, (pipes pipe).nextLine = none → (state.pipes pipe).nextLine = none) :
    ShellInvariant variant execTimeout { state with pipes } ∧
      (TimelyRun variant execTimeout state → TimelyRun variant execTimeout { state with pipes }) := by
  have kept : ShellInvariant variant execTimeout { state with pipes } :=
    holds.world rfl rfl rfl rfl rfl rfl (fun _ known => known) fun late => late
  refine ⟨kept, fun timely => (timely_iff kept).mpr fun late waits => ?_⟩
  exact timely.killed late (waits_of_world waits rfl rfl more fun none => none)

theorem elapse_timely (holds : ShellInvariant variant execTimeout state) :
    TimelyRun variant execTimeout { state with elapsed := true } ↔ TimelyStep variant state .elapse := by
  have kept : ShellInvariant variant execTimeout { state with elapsed := true } :=
    holds.world rfl rfl rfl rfl rfl rfl (fun _ known => known) fun _ => rfl
  rw [timely_iff kept]
  have dead := holds.killed
  unfold TimelyStep Waits
  cases stage : state.phase with
  | looping => simp
  | draining pipe =>
      rw [stage] at dead
      have alive : state.killed = false := dead
      simp [alive]
  | waiting =>
      rw [stage] at dead
      have alive : state.killed = false := dead
      simp [alive]
  | killing result =>
      rw [stage] at dead
      have dead : state.killed = true := dead
      simp [dead]
  | done => simp

/-! ## The handler -/

def StepsTimely (variant : ShellVariant) (execTimeout : Nat) (state : ShellRun) (event : ShellEvent) (after : ShellRun) : Prop :=
  ShellInvariant variant execTimeout after ∧ (TimelyRun variant execTimeout after ↔ TimelyStep variant state event)

theorem linesOf_takeLine {pipe : PipeName} {data : String} {sent : Bool} :
    linesOf (takeLine variant state pipe data sent) = linesOf state ++ [ShellMessage.line pipe data] := by
  unfold linesOf takeLine
  dsimp only
  split <;> exact List.map_append

theorem takeLine_gone {pipe : PipeName} {data : String} {sent : Bool} (gone : (variant.sends && !sent) = true) :
    ShellInvariant variant execTimeout (takeLine variant state pipe data sent) ∧
      TimelyRun variant execTimeout (takeLine variant state pipe data sent) := by
  unfold takeLine
  rw [if_pos gone]
  exact ⟨⟨rfl, rfl⟩, rfl, fun _ _ => rfl⟩

theorem takeLine_sent (pipe : PipeName) (data : String) {sent : Bool} (reads : state.phase = .looping ∨ ∃ left, state.phase = .draining left)
    (holds : ShellInvariant variant execTimeout state) (on : ¬ (variant.sends && !sent) = true) :
    ShellInvariant variant execTimeout (takeLine variant state pipe data sent) := by
  obtain ⟨accounted, alive⟩ := holds
  have lines := @linesOf_takeLine variant state pipe data sent
  unfold takeLine at lines ⊢
  rw [if_neg on] at lines ⊢
  constructor
  · unfold Accounted at accounted ⊢
    rw [lines]
    obtain stage | ⟨left, stage⟩ := reads
    all_goals
      dsimp only
      rw [stage] at accounted ⊢
      exact ⟨accounted.1, congrArg (· ++ [ShellMessage.line pipe data]) accounted.2⟩
  · exact alive

theorem step_looping {pipe : PipeName} {sent : Bool} (holds : ShellInvariant variant execTimeout state) (stage : state.phase = .looping)
    (taken : pollPipe variant state pipe sent (.draining pipe.other) = some after) :
    StepsTimely variant execTimeout state (.poll pipe sent) after := by
  obtain ⟨next, found, rfl⟩ := Option.map_eq_some_iff.mp taken
  have accounted := holds.accounted
  have alive := holds.killed
  unfold Accounted at accounted
  rw [stage] at alive accounted
  have alive : state.killed = false := alive
  unfold StepsTimely TimelyStep
  rw [stage]
  dsimp only
  rw [found]
  match next with
  | .end_ =>
      have kept : ShellInvariant variant execTimeout { state with phase := .draining pipe.other } := ⟨accounted, alive⟩
      refine ⟨kept, (timely_iff kept).trans ?_⟩
      simp [Waits, alive]
  | .item .failed =>
      have kept : ShellInvariant variant execTimeout { state with phase := .waiting } := ⟨accounted, alive⟩
      refine ⟨kept, (timely_iff kept).trans ?_⟩
      simp [Waits, alive]
  | .item (.line data) =>
      dsimp only
      by_cases gone : (variant.sends && !sent) = true
      · obtain ⟨kept, timely⟩ := takeLine_gone gone
        exact ⟨kept, iff_of_true timely fun _ => trivial⟩
      · have kept := takeLine_sent pipe data (.inl stage) holds gone
        refine ⟨kept, iff_of_true ((timely_iff kept).mpr fun late waits => ?_) fun _ => trivial⟩
        unfold takeLine at late waits
        rw [if_neg gone] at late waits
        unfold Waits at waits
        dsimp only at late waits
        rw [stage] at waits
        exact absurd (late.symm.trans waits.1) (by decide)

theorem step_draining {pipe : PipeName} {sent : Bool} (holds : ShellInvariant variant execTimeout state) (stage : state.phase = .draining pipe)
    (taken : pollPipe variant state pipe sent .waiting = some after) :
    StepsTimely variant execTimeout state (.poll pipe sent) after := by
  obtain ⟨next, found, rfl⟩ := Option.map_eq_some_iff.mp taken
  have accounted := holds.accounted
  have alive := holds.killed
  unfold Accounted at accounted
  rw [stage] at alive accounted
  have alive : state.killed = false := alive
  unfold StepsTimely TimelyStep
  rw [stage]
  dsimp only
  rw [found]
  match next with
  | .end_ | .item .failed =>
      have kept : ShellInvariant variant execTimeout { state with phase := .waiting } := ⟨accounted, alive⟩
      refine ⟨kept, (timely_iff kept).trans ?_⟩
      simp [Waits, alive]
  | .item (.line data) =>
      dsimp only
      by_cases gone : (variant.sends && !sent) = true
      · obtain ⟨kept, timely⟩ := takeLine_gone gone
        exact ⟨kept, iff_of_true timely fun _ => .inl gone⟩
      · have kept := takeLine_sent pipe data (.inr ⟨pipe, stage⟩) holds gone
        refine ⟨kept, (timely_iff kept).trans ?_⟩
        unfold takeLine Waits
        rw [if_neg gone]
        dsimp only
        rw [stage, alive]
        simp [gone]

theorem step_reap {works : Bool} (holds : ShellInvariant variant execTimeout state)
    (taken : shellStep variant execTimeout state (.reap works) = some after) :
    StepsTimely variant execTimeout state (.reap works) after := by
  have accounted := holds.accounted
  unfold Accounted at accounted
  have finished (ended : after.phase = .done) (whole : Accounted variant execTimeout after) :
      StepsTimely variant execTimeout state (.reap works) after := by
    have kept : ShellInvariant variant execTimeout after := ⟨whole, by rw [ended]; trivial⟩
    refine ⟨kept, iff_of_true ((timely_iff kept).mpr fun _ waits => ?_) trivial⟩
    unfold Waits at waits
    rw [ended] at waits
    cases waits
  unfold shellStep at taken
  dsimp only at taken
  cases stage : state.phase with
  | looping => rw [stage] at taken; cases taken
  | draining pipe => rw [stage] at taken; cases taken
  | done => rw [stage] at taken; cases taken
  | waiting =>
      rw [stage] at taken accounted
      dsimp only at taken
      split at taken
      · cases taken
        exact finished rfl (.inr ⟨_, .unknown rfl, congrArg (· ++ _) accounted.2⟩)
      · obtain ⟨status, exited, rfl⟩ := Option.map_eq_some_iff.mp taken
        exact finished rfl (.inr ⟨_, .exit exited, congrArg (· ++ _) accounted.2⟩)
  | killing result =>
      rw [stage] at taken accounted
      dsimp only at taken
      split at taken
      · cases taken
      · cases taken
        refine finished rfl ?_
        cases result with
        | none => exact .inl accounted
        | some result =>
            obtain ⟨-, given, rfl, late, dead⟩ := accounted
            exact .inr ⟨_, .timeout late dead, congrArg (· ++ _) given⟩

theorem step_timeout (holds : ShellInvariant variant execTimeout state)
    (taken : shellStep variant execTimeout state .timeout = some after) : StepsTimely variant execTimeout state .timeout after := by
  have accounted := holds.accounted
  unfold Accounted at accounted
  unfold shellStep at taken
  dsimp only at taken
  cases stage : state.phase with
  | draining pipe => rw [stage] at taken; cases taken
  | waiting => rw [stage] at taken; cases taken
  | killing result => rw [stage] at taken; cases taken
  | done => rw [stage] at taken; cases taken
  | looping =>
      rw [stage] at taken accounted
      dsimp only at taken
      split at taken
      · rename_i late
        cases taken
        have kept : ShellInvariant variant execTimeout
            { state with phase := .killing (some (timeoutResult variant execTimeout)), killed := true } :=
          ⟨⟨accounted.1, accounted.2, rfl, late, rfl⟩, rfl⟩
        exact ⟨kept, iff_of_true ((timely_iff kept).mpr fun _ _ => rfl) trivial⟩
      · cases taken

theorem shellStep_timely {event : ShellEvent} (holds : ShellInvariant variant execTimeout state)
    (taken : shellStep variant execTimeout state event = some after) :
    ShellInvariant variant execTimeout after ∧
      (TimelyRun variant execTimeout state → (TimelyRun variant execTimeout after ↔ TimelyStep variant state event)) := by
  have own (steps : StepsTimely variant execTimeout state event after) : ShellInvariant variant execTimeout after ∧
      (TimelyRun variant execTimeout state → (TimelyRun variant execTimeout after ↔ TimelyStep variant state event)) :=
    ⟨steps.1, fun _ => steps.2⟩
  cases event with
  | write pipe item =>
      unfold shellStep at taken
      dsimp only at taken
      split at taken
      · cases taken
      · cases taken
        obtain ⟨kept, timely⟩ := pipes_timely holds fun _ none => nextLine_write none
        exact ⟨kept, fun before => iff_of_true (timely before) trivial⟩
  | close pipe =>
      cases taken
      obtain ⟨kept, timely⟩ := pipes_timely holds fun _ none => nextLine_close none
      exact ⟨kept, fun before => iff_of_true (timely before) trivial⟩
  | exit status =>
      unfold shellStep at taken
      dsimp only at taken
      split at taken
      · cases taken
      · rename_i unknown
        cases taken
        have fresh : state.exited = none := Option.not_isSome_iff_eq_none.mp unknown
        have kept : ShellInvariant variant execTimeout { state with exited := some status } :=
          holds.world rfl rfl rfl rfl rfl rfl (fun _ known => by rw [fresh] at known; cases known) fun late => late
        refine ⟨kept, fun timely => iff_of_true ((timely_iff kept).mpr fun late waits => ?_) trivial⟩
        exact timely.killed late (waits_of_world waits rfl rfl (fun _ none => none) nofun)
  | elapse =>
      cases taken
      exact own ⟨holds.world rfl rfl rfl rfl rfl rfl (fun _ known => known) fun _ => rfl, elapse_timely holds⟩
  | poll pipe sent =>
      unfold shellStep at taken
      dsimp only at taken
      cases stage : state.phase with
      | looping => rw [stage] at taken; exact own (step_looping holds stage taken)
      | draining left =>
          rw [stage] at taken
          dsimp only at taken
          split at taken
          · rename_i same
            subst same
            exact own (step_draining holds stage taken)
          · cases taken
      | waiting => rw [stage] at taken; cases taken
      | killing result => rw [stage] at taken; cases taken
      | done => rw [stage] at taken; cases taken
  | timeout => exact own (step_timeout holds taken)
  | reap works => exact own (step_reap holds taken)

end Shell

/-- In every variant of the loop, a run accounts for its output, gives one result, and never waits past the timeout on a child that is
alive, iff no step leads to a wait past it. -/
theorem shell_timely_iff (handler : ShellHandler) (timeoutSecs : Option Nat) {events : List ShellEvent} {final : ShellRun}
    (ran : run (handler.step timeoutSecs) .start events = some final) :
    Always (handler.step timeoutSecs) (TimelyRun handler.variant (timeoutSecs.getD defaultExecSecs)) .start events ↔
      Meets (handler.step timeoutSecs) (TimelyStep handler.variant) .start events := by
  have first : ShellInvariant handler.variant (timeoutSecs.getD defaultExecSecs) .start := ⟨⟨rfl, rfl⟩, rfl⟩
  have timely : TimelyRun handler.variant (timeoutSecs.getD defaultExecSecs) .start := ⟨⟨rfl, rfl⟩, nofun⟩
  exact always_iff_meets (fun _ _ _ holds taken => (shellStep_timely holds taken).1)
    (fun _ _ _ holds before taken => (shellStep_timely holds taken).2 before) first timely ran

def closesStdout : List ShellEvent := [ShellEvent.close .stdout, .poll .stdout true, .elapse]

def LateWait (handler : ShellHandler) : Prop :=
  ∃ final, run (handler.step none) .start closesStdout = some final ∧ final.elapsed = true ∧ Waits final ∧ final.killed = false

theorem waits_past_timeout : LateWait .handleExecSession ∧ LateWait .handleStreamedShell ∧ LateWait .shellExec :=
  ⟨⟨_, rfl, rfl, rfl, rfl⟩, ⟨_, rfl, rfl, rfl, rfl⟩, ⟨_, rfl, rfl, rfl, rfl⟩⟩

/-- A command that writes a line and ends well in time. -/
theorem shell_timely_echo :
    let events := [ShellEvent.write .stdout (.line "ok"), .poll .stdout true, .close .stdout, .close .stderr, .exit (some 0),
      .poll .stderr true, .poll .stdout true, .reap true]
    ∃ final, run (ShellHandler.handleExecSession.step none) .start events = some final ∧
      final.given = [ShellMessage.line .stdout "ok", .result 0 none] ∧
      (Always (ShellHandler.handleExecSession.step none) (TimelyRun ShellHandler.handleExecSession.variant 300) .start events ↔
        Meets (ShellHandler.handleExecSession.step none) (TimelyStep ShellHandler.handleExecSession.variant) .start events) :=
  ⟨_, rfl, rfl, shell_timely_iff .handleExecSession none rfl⟩

end MacMgmt.Proof.Agent
