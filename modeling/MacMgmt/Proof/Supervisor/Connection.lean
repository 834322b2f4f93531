import MacMgmt.Supervisor.Connection

/-!
# Every request of a connection is served once and in order
-/

namespace MacMgmt.Proof.Supervisor
open Lib MacMgmt.Supervisor

/-! ## Lines -/

def encodeLine (line : List UInt8) : List UInt8 := line ++ [newline]

theorem split_at_newline {first second bytes rest : List UInt8} (clean : newline ∉ first) (other : newline ∉ second)
    (same : first ++ newline :: bytes = second ++ newline :: rest) : first = second ∧ bytes = rest := by
  induction first generalizing second with
  | nil =>
      cases second with
      | nil => exact ⟨rfl, (List.cons.inj same).2⟩
      | cons byte second => exact absurd ((List.cons.inj same).1 ▸ List.mem_cons_self) other
  | cons byte first ih =>
      cases second with
      | nil => exact absurd ((List.cons.inj same).1 ▸ List.mem_cons_self) clean
      | cons next second =>
          obtain ⟨heads, tails⟩ := List.cons.inj same
          obtain ⟨prefixes, suffixes⟩ :=
            ih (fun member => clean (List.mem_cons_of_mem _ member)) (fun member => other (List.mem_cons_of_mem _ member)) tails
          exact ⟨by rw [heads, prefixes], suffixes⟩

theorem poll_line_done_iff {before bytes line rest : List UInt8} (clean : newline ∉ before) :
    lineDecoder.poll before bytes = (.done line, rest) ↔
      newline ∉ line ∧ before ++ bytes = encodeLine line ++ rest := by
  induction bytes generalizing before with
  | nil =>
      constructor
      · intro polled
        cases polled
      · rintro ⟨-, split⟩
        rw [List.append_nil] at split
        exact absurd (split ▸ by simp [encodeLine]) clean
  | cons byte bytes ih =>
      by_cases ends : byte = newline
      · simp only [Decoder.poll, lineDecoder, readLineByte, ends, if_true, Prod.mk.injEq, Progress.done.injEq]
        constructor
        · rintro ⟨rfl, rfl⟩
          exact ⟨clean, by simp [encodeLine]⟩
        · rintro ⟨other, split⟩
          rw [encodeLine, List.append_assoc, List.singleton_append] at split
          exact split_at_newline clean other split
      · have longer : newline ∉ before ++ [byte] := by
          simp only [List.mem_append, List.mem_singleton, not_or]
          exact ⟨clean, fun same => ends same.symm⟩
        simp only [Decoder.poll, lineDecoder, readLineByte, ends, if_false]
        rw [show before ++ byte :: bytes = before ++ [byte] ++ bytes by simp]
        exact ih longer

theorem lineDecoder_decodes : lineDecoder.Decodes encodeLine (fun line => newline ∉ line) where
  done_iff := fun _ _ _ => poll_line_done_iff List.not_mem_nil
  feed_ne := by
    intro (line : List UInt8) byte again
    have fed : readLineByte line byte = .more [] := again
    unfold readLineByte at fed
    split at fed
    · cases fed
    · exact absurd (Progress.more.inj fed) (by simp)

/-! ## The loop -/

def responded (written : List Outbound) : List Request :=
  written.filterMap fun
    | .response request _ => some request
    | .notification _ => none

section
variable (fromStr : List UInt8 → LineContent)

def requestOf (line : List UInt8) : Option Request :=
  match fromStr line with
  | .message (.request request) => some request
  | _ => none

def Progressed (connection : Connection) : Prop :=
  match connection.phase with
  | .reading =>
      connection.intake.frames.filterMap (requestOf fromStr) = connection.forwarded ∧
        connection.forwarded = responded connection.written
  | .forwarding request =>
      connection.intake.frames.filterMap (requestOf fromStr) = connection.forwarded ++ [request] ∧
        connection.forwarded = responded connection.written
  | .waiting request =>
      connection.intake.frames.filterMap (requestOf fromStr) = connection.forwarded ∧
        connection.forwarded = responded connection.written ++ [request]
  | .ended =>
      connection.forwarded <+: connection.intake.frames.filterMap (requestOf fromStr) ∧
        responded connection.written <+: connection.forwarded

/-- A notification, or the report that some were dropped, is taken only while no part of a line has been read. -/
def NotifiedBetweenLines (connection : Connection) : ConnectionEvent → Prop
  | .notify _ _ | .lagged => connection.intake.reading = []
  | _ => True

structure Serving (lines : List (List UInt8)) (future : List UInt8) (connection : Connection) : Prop where
  aligned : connection.intake.Aligned encodeLine lines future
  progressed : Progressed fromStr connection

inductive Took (connection after : Connection) : ConnectionEvent → Prop
  | arrive (chunk : List UInt8) (live : connection.hungUp = false)
      (same : after = { connection with intake := connection.intake.arrive chunk }) : Took connection after (.arrive chunk)
  | hangUp (same : after = { connection with hungUp := true }) : Took connection after .hangUp
  | poll (reading : connection.phase = .reading) (same : after = connection.pollLine fromStr) :
      Took connection after .poll
  | notify (notification : Notification) (succeeds : Bool) (reading : connection.phase = .reading)
      (same : after = Connection.writeMsg { connection with intake := connection.intake.cancel }
        (.notification notification) succeeds) : Took connection after (.notify notification succeeds)
  | lagged (reading : connection.phase = .reading)
      (same : after = { connection with intake := connection.intake.cancel }) : Took connection after .lagged
  | forward (request : Request) (forwarding : connection.phase = .forwarding request)
      (same : after = { connection with phase := .waiting request, forwarded := connection.forwarded ++ [request] }) :
      Took connection after .forward
  | respond (request : Request) (response : Response) (succeeds : Bool) (waiting : connection.phase = .waiting request)
      (same : after = connection.writeMsg (.response request response) succeeds) :
      Took connection after (.respond response succeeds)
  | stop {event : ConnectionEvent} (nothing : receivedBytes [event] = [])
      (same : after = { connection with phase := .ended }) : Took connection after event

variable {fromStr} {lines : List (List UInt8)}

theorem responded_concat_response (written : List Outbound) (request : Request) (response : Response) :
    responded (written ++ [.response request response]) = responded written ++ [request] := by
  simp [responded]

theorem responded_concat_notification (written : List Outbound) (notification : Notification) :
    responded (written ++ [.notification notification]) = responded written := by
  simp [responded]

theorem Progressed.prefixes {connection : Connection} (progressed : Progressed fromStr connection) :
    connection.forwarded <+: connection.intake.frames.filterMap (requestOf fromStr) ∧
      responded connection.written <+: connection.forwarded := by
  unfold Progressed at progressed
  split at progressed
  · exact ⟨progressed.1 ▸ List.prefix_rfl, progressed.2 ▸ List.prefix_rfl⟩
  · exact ⟨progressed.1 ▸ List.prefix_append _ _, progressed.2 ▸ List.prefix_rfl⟩
  · exact ⟨progressed.1 ▸ List.prefix_rfl, progressed.2 ▸ List.prefix_append _ _⟩
  · exact progressed

theorem Progressed.stop {connection : Connection} (progressed : Progressed fromStr connection) :
    Progressed fromStr { connection with phase := .ended } :=
  progressed.prefixes

theorem takeLine_hungUp (connection : Connection) (line : List UInt8) :
    (connection.takeLine fromStr line).hungUp = connection.hungUp := by
  unfold Connection.takeLine
  split
  all_goals rfl

theorem writeMsg_hungUp (connection : Connection) (line : Outbound) (succeeds : Bool) :
    (connection.writeMsg line succeeds).hungUp = connection.hungUp := by
  unfold Connection.writeMsg
  split
  all_goals rfl

theorem pollLine_hungUp (connection : Connection) : (connection.pollLine fromStr).hungUp = connection.hungUp := by
  unfold Connection.pollLine
  split
  · split
    · rfl
    · exact takeLine_hungUp _ _
  · split
    · exact takeLine_hungUp _ _
    · rfl

theorem connectionStep_took {connection after : Connection} {event : ConnectionEvent}
    (stepped : connectionStep fromStr connection event = some after) : Took fromStr connection after event := by
  cases event with
  | arrive chunk =>
      simp only [connectionStep] at stepped
      split at stepped
      · cases stepped
      · rename_i live
        exact .arrive chunk (by simpa using live) (Option.some.inj stepped).symm
  | hangUp => exact .hangUp (Option.some.inj stepped).symm
  | poll =>
      simp only [connectionStep] at stepped
      split at stepped
      · rename_i reading
        exact .poll reading (Option.some.inj stepped).symm
      · cases stepped
  | notify notification succeeds =>
      simp only [connectionStep] at stepped
      split at stepped
      · rename_i reading
        exact .notify notification succeeds reading (Option.some.inj stepped).symm
      · cases stepped
  | lagged =>
      simp only [connectionStep] at stepped
      split at stepped
      · rename_i reading
        exact .lagged reading (Option.some.inj stepped).symm
      · cases stepped
  | notifClosed =>
      simp only [connectionStep] at stepped
      split at stepped
      · exact .stop rfl (Option.some.inj stepped).symm
      · cases stepped
  | forward =>
      simp only [connectionStep] at stepped
      split at stepped
      · rename_i request forwarding
        exact .forward request forwarding (Option.some.inj stepped).symm
      · cases stepped
  | respond response succeeds =>
      simp only [connectionStep] at stepped
      split at stepped
      · rename_i request waiting
        exact .respond request response succeeds waiting (Option.some.inj stepped).symm
      · cases stepped
  | loopGone =>
      simp only [connectionStep] at stepped
      split at stepped
      · exact .stop rfl (Option.some.inj stepped).symm
      · exact .stop rfl (Option.some.inj stepped).symm
      · cases stepped

theorem Took.hungUp {connection after : Connection} {event : ConnectionEvent} (took : Took fromStr connection after event)
    (hungUp : connection.hungUp = true) : after.hungUp = true ∧ receivedBytes [event] = [] := by
  cases took with
  | arrive chunk live same =>
      rw [live] at hungUp
      cases hungUp
  | hangUp same => exact ⟨by rw [same], rfl⟩
  | poll reading same => exact ⟨by rw [same, pollLine_hungUp, hungUp], rfl⟩
  | notify notification succeeds reading same => exact ⟨by rw [same, writeMsg_hungUp]; exact hungUp, rfl⟩
  | lagged reading same => exact ⟨by rw [same]; exact hungUp, rfl⟩
  | forward request forwarding same => exact ⟨by rw [same]; exact hungUp, rfl⟩
  | respond request response succeeds waiting same => exact ⟨by rw [same, writeMsg_hungUp, hungUp], rfl⟩
  | stop nothing same => exact ⟨by rw [same]; exact hungUp, nothing⟩

theorem receivedBytes_cons (event : ConnectionEvent) (events : List ConnectionEvent) :
    receivedBytes (event :: events) = receivedBytes [event] ++ receivedBytes events := by
  simp [receivedBytes]

theorem receivedBytes_hungUp {connection final : Connection} {events : List ConnectionEvent}
    (hungUp : connection.hungUp = true) (ran : run (connectionStep fromStr) connection events = some final) :
    receivedBytes events = [] := by
  induction events generalizing connection with
  | nil => rfl
  | cons event events ih =>
      obtain ⟨after, taken, rest⟩ := run_cons_some.mp ran
      obtain ⟨still, nothing⟩ := (connectionStep_took taken).hungUp hungUp
      rw [receivedBytes_cons, nothing, ih still rest]
      rfl

theorem Serving.takeLine {connection : Connection} {future line : List UInt8}
    (parsed : ∀ line ∈ lines, ∃ request, fromStr line = .message (.request request))
    (aligned : connection.intake.poll.Aligned encodeLine lines future) (reading : connection.phase = .reading)
    (progressed : Progressed fromStr connection)
    (frames : connection.intake.poll.frames = connection.intake.frames ++ [line]) :
    Serving fromStr lines future
      (Connection.takeLine fromStr { connection with intake := connection.intake.poll } line) := by
  have known : line ∈ lines := by
    obtain ⟨_, rest, _, split, _⟩ := aligned
    rw [split, frames]
    simp
  obtain ⟨request, content⟩ := parsed line known
  have one : requestOf fromStr line = some request := by simp only [requestOf, content]
  simp only [Connection.takeLine, content]
  refine ⟨aligned, ?_⟩
  simp only [Progressed, reading] at progressed
  simp only [Progressed, frames, List.filterMap_append, List.filterMap_cons, one, List.filterMap_nil]
  exact ⟨by rw [progressed.1], progressed.2⟩

theorem aligned_leftover {intake : Intake lineDecoder} (whole : ∀ line ∈ lines, newline ∉ line)
    (aligned : intake.Aligned encodeLine lines []) (drained : intake.avail = []) :
    intake.reading = ([] : List UInt8) := by
  have complete := aligned.complete lineDecoder_decodes whole drained
  obtain ⟨pending, rest, holds, split, spelled⟩ := aligned
  rw [complete] at split
  have none_left : rest = [] := List.self_eq_append_right.mp split
  subst none_left
  have nothing : pending = [] := by simpa [drained] using spelled
  subst nothing
  exact (Progress.more.inj (congrArg Prod.fst holds)).symm

theorem Serving.pollLine {connection : Connection} {future : List UInt8}
    (whole : ∀ line ∈ lines, newline ∉ line)
    (parsed : ∀ line ∈ lines, ∃ request, fromStr line = .message (.request request))
    (serving : Serving fromStr lines future connection) (reading : connection.phase = .reading)
    (finished : connection.hungUp = true → future = []) :
    Serving fromStr lines future (connection.pollLine fromStr) := by
  obtain ⟨aligned, progressed⟩ := serving
  unfold Connection.pollLine
  split
  · rename_i ended
    simp only [Bool.and_eq_true, List.isEmpty_iff] at ended
    cases finished ended.1
    have fresh := aligned_leftover whole aligned ended.2
    split
    · exact ⟨aligned, progressed.stop⟩
    · rename_i partly
      rw [fresh] at partly
      cases partly
  · have still := (aligned.poll lineDecoder_decodes whole).1
    split
    · rename_i line rest polled
      have frames : connection.intake.poll.frames = connection.intake.frames ++ [line] := by
        simp only [Intake.poll, polled]
      exact Serving.takeLine parsed still reading progressed frames
    · rename_i unfinished
      have frames : connection.intake.poll.frames = connection.intake.frames := by
        unfold Intake.poll
        split
        · rfl
        · rename_i line rest polled
          exact absurd polled (unfinished line rest)
        · rfl
      refine ⟨still, ?_⟩
      simp only [Progressed, reading, frames] at progressed ⊢
      exact progressed

theorem Serving.step {connection after : Connection} {event : ConnectionEvent} {events : List ConnectionEvent}
    (whole : ∀ line ∈ lines, newline ∉ line)
    (parsed : ∀ line ∈ lines, ∃ request, fromStr line = .message (.request request))
    (serving : Serving fromStr lines (receivedBytes (event :: events)) connection)
    (condition : NotifiedBetweenLines connection event) (took : Took fromStr connection after event)
    (finished : after.hungUp = true → receivedBytes events = []) :
    Serving fromStr lines (receivedBytes events) after := by
  rw [receivedBytes_cons] at serving
  obtain ⟨aligned, progressed⟩ := serving
  cases took with
  | arrive chunk live same =>
      subst same
      have bytes : receivedBytes [.arrive chunk] = chunk := by simp [receivedBytes]
      rw [bytes] at aligned
      exact ⟨aligned.arrive, progressed⟩
  | hangUp same =>
      subst same
      exact ⟨aligned, progressed⟩
  | poll reading same =>
      subst same
      rw [pollLine_hungUp] at finished
      exact Serving.pollLine whole parsed ⟨aligned, progressed⟩ reading finished
  | notify notification succeeds reading same =>
      subst same
      have kept := aligned.cancel lineDecoder_decodes condition
      unfold Connection.writeMsg
      split
      · refine ⟨kept, ?_⟩
        simp only [Progressed, reading] at progressed
        simp only [Progressed, responded_concat_notification]
        exact progressed
      · exact ⟨kept, progressed.stop⟩
  | lagged reading same =>
      subst same
      exact ⟨aligned.cancel lineDecoder_decodes condition, progressed⟩
  | forward request forwarding same =>
      subst same
      refine ⟨aligned, ?_⟩
      simp only [Progressed, forwarding] at progressed
      exact ⟨progressed.1, by rw [progressed.2]⟩
  | respond request response succeeds waiting same =>
      subst same
      unfold Connection.writeMsg
      split
      · refine ⟨aligned, ?_⟩
        simp only [Progressed, waiting] at progressed
        simp only [Progressed, responded_concat_response]
        exact progressed
      · exact ⟨aligned, progressed.stop⟩
  | stop nothing same =>
      subst same
      rw [nothing] at aligned
      exact ⟨aligned, progressed.stop⟩

theorem Serving.run {connection final : Connection} {events : List ConnectionEvent}
    (whole : ∀ line ∈ lines, newline ∉ line)
    (parsed : ∀ line ∈ lines, ∃ request, fromStr line = .message (.request request))
    (serving : Serving fromStr lines (receivedBytes events) connection)
    (meets : Meets (connectionStep fromStr) NotifiedBetweenLines connection events)
    (ran : Lib.run (connectionStep fromStr) connection events = some final) : Serving fromStr lines [] final := by
  induction events generalizing connection with
  | nil =>
      cases ran
      exact serving
  | cons event events ih =>
      obtain ⟨after, taken, rest⟩ := run_cons_some.mp ran
      have next := serving.step whole parsed meets.1 (connectionStep_took taken)
        (fun hungUp => receivedBytes_hungUp hungUp rest)
      exact ih next (meets.2 after taken) rest

theorem filterMap_requestOf {requests : List Request}
    (parsed : lines.map fromStr = requests.map fun request => .message (.request request)) :
    lines.filterMap (requestOf fromStr) = requests := by
  induction lines generalizing requests with
  | nil =>
      cases requests with
      | nil => rfl
      | cons request requests => cases parsed
  | cons line lines ih =>
      cases requests with
      | nil => cases parsed
      | cons request requests =>
          obtain ⟨content, others⟩ := List.cons.inj parsed
          have one : requestOf fromStr line = some request := by simp only [requestOf, content]
          rw [List.filterMap_cons_some one, ih others]

/-- However the lines are split into chunks and interleaved with notifications that come between lines, the
requests are forwarded in order, each at most once and answered before the next; when the handler is back at
reading and has consumed what arrived, all of them have been forwarded and answered. -/
theorem requests_served {requests : List Request} {events : List ConnectionEvent} {final : Connection}
    (whole : ∀ line ∈ lines, newline ∉ line)
    (parsed : lines.map fromStr = requests.map fun request => .message (.request request))
    (delivered : receivedBytes events = lines.flatMap encodeLine)
    (ran : Lib.run (connectionStep fromStr) Connection.start events = some final)
    (meets : Meets (connectionStep fromStr) NotifiedBetweenLines Connection.start events) :
    final.forwarded <+: requests ∧ responded final.written <+: final.forwarded ∧
      (final.phase = .reading → final.intake.avail = [] →
        final.forwarded = requests ∧ responded final.written = requests) := by
  have each : ∀ line ∈ lines, ∃ request, fromStr line = .message (.request request) := by
    intro line member
    have content : fromStr line ∈ lines.map fromStr := List.mem_map_of_mem member
    rw [parsed] at content
    obtain ⟨request, -, same⟩ := List.mem_map.mp content
    exact ⟨request, same.symm⟩
  have initially : Serving fromStr lines (receivedBytes events) Connection.start :=
    ⟨delivered ▸ Intake.aligned_start lines, rfl, rfl⟩
  obtain ⟨aligned, progressed⟩ := initially.run whole each meets ran
  have all := filterMap_requestOf parsed
  refine ⟨?_, progressed.prefixes.2, ?_⟩
  · have sofar : final.intake.frames.filterMap (requestOf fromStr) <+: requests := by
      obtain ⟨_, rest, _, split, _⟩ := aligned
      rw [← all, split, List.filterMap_append]
      exact List.prefix_append _ _
    exact progressed.prefixes.1.trans sofar
  · intro reading drained
    have complete := aligned.complete lineDecoder_decodes whole drained
    simp only [Progressed, reading, complete, all] at progressed
    exact ⟨progressed.1.symm, by rw [← progressed.2, progressed.1]⟩

end

def asciiLine (text : String) : List UInt8 := text.toList.map fun char => UInt8.ofNat char.toNat

def listLine : List UInt8 := asciiLine "\x7b\"kind\":\"request\",\"type\":\"list\"\x7d"

def parseList (line : List UInt8) : LineContent :=
  if line = listLine then .message (.request .list) else .invalid

instance (connection : Connection) (event : ConnectionEvent) : Decidable (NotifiedBetweenLines connection event) :=
  match event with
  | .notify _ _ | .lagged => (inferInstance : DecidableEq (List UInt8)) connection.intake.reading []
  | .arrive _ | .hangUp | .poll | .notifClosed | .forward | .respond _ _ | .loopGone => instDecidableTrue

/-- A line in two chunks, with a notification before it and one after it. -/
def splitLine : List ConnectionEvent :=
  [.notify (.crashed "a" none) true, .arrive (listLine.take 7), .poll, .arrive (listLine.drop 7 ++ [newline]), .poll,
    .forward, .respond (.services [] []) true, .lagged]

theorem requests_served_split : ∃ final, run (connectionStep parseList) Connection.start splitLine = some final ∧
    final.forwarded = [.list] ∧ responded final.written = [.list] :=
  ⟨_, rfl, (@requests_served parseList [listLine] [.list] splitLine _ (by decide) (by decide) (by decide) rfl
    (by decide)).2.2 rfl rfl⟩

/-- A notification between the two chunks of a line leaves the handler with the line's second half. -/
theorem request_lost_to_notification : ¬ ∀ (fromStr : List UInt8 → LineContent) (lines : List (List UInt8))
    (requests : List Request) (events : List ConnectionEvent) (final : Connection),
    (∀ line ∈ lines, newline ∉ line) → (lines.map fromStr = requests.map fun request => .message (.request request)) →
      receivedBytes events = lines.flatMap encodeLine →
        run (connectionStep fromStr) Connection.start events = some final → final.phase = .reading →
          final.intake.avail = [] → final.forwarded = requests ∧ responded final.written = requests := by
  intro all
  have served := all parseList [listLine] [.list] [.arrive (listLine.take 7), .poll, .notify (.crashed "a" none) true,
    .arrive (listLine.drop 7 ++ [newline]), .poll] _ (by decide) (by decide) (by decide) rfl rfl rfl
  exact absurd served.1 (by decide)

end MacMgmt.Proof.Supervisor
