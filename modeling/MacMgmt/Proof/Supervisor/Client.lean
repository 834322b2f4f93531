import Mathlib.Data.List.Basic
import MacMgmt.Supervisor.Client

/-!
# Which request a response answers

Responses are matched to requests by position. The requests that were sent on the connection and
whose responses have not been taken are `owed`; answering and forwarding move them along without changing
their order, so a wait takes its own response exactly when nothing was owed as it began.
-/

namespace MacMgmt.Proof.Supervisor
open Lib MacMgmt.Supervisor

def responses (wire : List Inbound) : List Asked :=
  wire.filterMap fun
    | .response answer => some answer.asked
    | .notification _ => none

def owed (client : Client) : List Asked :=
  client.respRx.map Answer.asked ++ responses client.wire ++ client.unanswered

/-- The requests whose responses come before that of the request in progress. -/
def ahead (client : Client) : List Asked :=
  match client.phase with
  | .idle => []
  | .writing asked _ | .waiting asked => (owed client).filter fun other => other.id < asked.id

/-- Whether the wait that is in progress, or begins before any other event, ends with a response. -/
def answered : List ClientEvent → Bool
  | [] => false
  | .receive :: _ => true
  | .send _ :: _ => false
  | _ :: events => answered events

/-- A request whose wait ends with a response is sent only when no response is owed. -/
def SendsWhenNothingOwed : Client → List ClientEvent → Prop
  | _, [] => True
  | client, event :: events =>
      (∀ request, event = .send request → answered events = true → owed client = []) ∧
        ∀ after, clientStep client event = some after → SendsWhenNothingOwed after events

/-! ## What a step does to the queue -/

theorem owed_readLine {client after : Client} (forwarded : client.readLine = some after) : owed after = owed client := by
  unfold Client.readLine at forwarded
  split at forwarded
  · rename_i answer wire _ same
    split at forwarded
    · cases forwarded
      simp [owed, same, responses]
    · cases forwarded
  · rename_i notification wire _ same
    split at forwarded
    · cases forwarded
      simp [owed, same, responses]
    · cases forwarded
  · cases forwarded

theorem readLine_frame {client after : Client} (forwarded : client.readLine = some after) :
    after.phase = client.phase ∧ after.nextId = client.nextId ∧ after.returned = client.returned := by
  unfold Client.readLine at forwarded
  split at forwarded
  · split at forwarded
    · cases forwarded
      exact ⟨rfl, rfl, rfl⟩
    · cases forwarded
  · split at forwarded
    · cases forwarded
      exact ⟨rfl, rfl, rfl⟩
    · cases forwarded
  · cases forwarded

theorem giveUp_idle (client : Client) : client.giveUp.phase = .idle := by
  unfold Client.giveUp
  split
  · rfl
  · rfl

theorem giveUp_frame (client : Client) :
    owed client.giveUp = owed client ∧ client.giveUp.nextId = client.nextId ∧
      client.giveUp.returned = client.returned := by
  unfold Client.giveUp
  split
  · exact ⟨rfl, rfl, rfl⟩
  · exact ⟨rfl, rfl, rfl⟩

def Quiet (event : ClientEvent) : Prop := event ≠ .receive ∧ ∀ request, event ≠ .send request

theorem answered_quiet {event : ClientEvent} (quiet : Quiet event) (events : List ClientEvent) :
    answered (event :: events) = answered events := by
  cases event with
  | receive => exact absurd rfl quiet.1
  | send request => exact absurd rfl (quiet.2 request)
  | _ => rfl

inductive Effect (client after : Client) : ClientEvent → Prop
  | send (request : Request) (idle : client.phase = .idle)
      (same : after = { client with phase := .writing ⟨client.nextId, request⟩ false, nextId := client.nextId + 1 }) :
      Effect client after (.send request)
  | written (asked : Asked) (partly : Bool) (writing : client.phase = .writing asked partly)
      (same : after = client.written asked) : Effect client after .written
  | receive (asked : Asked) (answer : Answer) (respRx : List Answer) (waiting : client.phase = .waiting asked)
      (head : client.respRx = answer :: respRx)
      (same : after = { client with
        phase := .idle, respRx := respRx, returned := client.returned ++ [(asked, answer)] }) :
      Effect client after .receive
  | gaveUp {event : ClientEvent} (quiet : Quiet event) (same : after = client.giveUp) : Effect client after event
  | connect (idle : client.phase = .idle)
      (same : after = { Client.start with nextId := client.nextId, returned := client.returned }) :
      Effect client after .connect
  | moved {event : ClientEvent} (quiet : Quiet event)
      (phase : after.phase = client.phase ∨ ∃ asked partly, client.phase = .writing asked partly ∧
        after.phase = .writing asked true)
      (queue : owed after = owed client) (ids : after.nextId = client.nextId)
      (results : after.returned = client.returned) : Effect client after event

theorem clientStep_effect {client after : Client} {event : ClientEvent}
    (stepped : clientStep client event = some after) : Effect client after event := by
  cases event with
  | send request =>
      simp only [clientStep] at stepped
      split at stepped
      · rename_i idle
        exact .send request idle (Option.some.inj stepped).symm
      · cases stepped
  | writeSome =>
      simp only [clientStep] at stepped
      split at stepped
      · rename_i asked partly writing
        cases stepped
        exact .moved (by simp [Quiet]) (.inr ⟨asked, partly, writing, rfl⟩) rfl rfl rfl
      · cases stepped
  | written =>
      simp only [clientStep] at stepped
      split at stepped
      · rename_i asked partly writing
        exact .written asked partly writing (Option.some.inj stepped).symm
      · cases stepped
  | writeFailed | timedOut | dropped =>
      simp only [clientStep] at stepped
      split at stepped
      all_goals first
        | cases stepped
          exact .gaveUp (by simp [Quiet]) rfl
        | cases stepped
  | receive =>
      simp only [clientStep] at stepped
      split at stepped
      · rename_i asked answer respRx waiting head
        exact .receive asked answer respRx waiting head (Option.some.inj stepped).symm
      · cases stepped
  | closedConnection =>
      simp only [clientStep] at stepped
      split at stepped
      · cases stepped
        exact .gaveUp (by simp [Quiet]) rfl
      · cases stepped
  | answer response =>
      simp only [clientStep] at stepped
      split at stepped
      · rename_i asked unanswered first
        cases stepped
        refine .moved (by simp [Quiet]) (.inl rfl) ?_ rfl rfl
        simp [owed, first, responses]
      · cases stepped
  | notify notification =>
      cases stepped
      refine .moved (by simp [Quiet]) (.inl rfl) ?_ rfl rfl
      simp [owed, responses]
  | readLine =>
      obtain ⟨phase, ids, results⟩ := readLine_frame stepped
      exact .moved (by simp [Quiet]) (.inl phase) (owed_readLine stepped) ids results
  | readerEnds =>
      cases stepped
      exact .moved (by simp [Quiet]) (.inl rfl) rfl rfl rfl
  | tryRecvNotification =>
      simp only [clientStep] at stepped
      split at stepped
      · cases stepped
        exact .moved (by simp [Quiet]) (.inl rfl) rfl rfl rfl
      · cases stepped
  | connect =>
      simp only [clientStep] at stepped
      split at stepped
      · rename_i idle
        exact .connect idle (Option.some.inj stepped).symm
      · cases stepped

/-! ## The queue is in the order of sending -/

structure InTurn (client : Client) : Prop where
  older : ∀ asked ∈ owed client, asked.id < client.nextId
  writing : ∀ asked partly, client.phase = .writing asked partly →
    asked.id + 1 = client.nextId ∧ ahead client = owed client
  waiting : ∀ asked, client.phase = .waiting asked →
    owed client = ahead client ∨ owed client = ahead client ++ [asked]

theorem inTurn_start : InTurn Client.start where
  older := fun _ member => (List.not_mem_nil member).elim
  writing := fun _ _ phase => by cases phase
  waiting := fun _ phase => by cases phase

theorem ahead_eq_owed {client : Client} {asked : Asked}
    (phase : (∃ partly, client.phase = .writing asked partly) ∨ client.phase = .waiting asked)
    (older : ∀ other ∈ owed client, other.id < asked.id) : ahead client = owed client := by
  have kept : (owed client).filter (fun other => other.id < asked.id) = owed client :=
    List.filter_eq_self.mpr fun other member => decide_eq_true (older other member)
  rcases phase with ⟨partly, writing⟩ | waiting
  · simpa only [ahead, writing] using kept
  · simpa only [ahead, waiting] using kept

theorem ahead_moved {client after : Client} (queue : owed after = owed client)
    (phase : after.phase = client.phase ∨ ∃ asked partly, client.phase = .writing asked partly ∧
      after.phase = .writing asked true) : ahead after = ahead client := by
  rcases phase with same | ⟨asked, partly, before, writing⟩
  · simp only [ahead, same, queue]
  · simp only [ahead, before, writing, queue]

theorem ahead_older {client : Client} {asked : Asked} (waiting : client.phase = .waiting asked) :
    ∀ other ∈ ahead client, other.id < asked.id := by
  intro other member
  simp only [ahead, waiting, List.mem_filter, decide_eq_true_eq] at member
  exact member.2

theorem owed_written (client : Client) (asked : Asked) :
    owed (client.written asked) = if client.torn then owed client else owed client ++ [asked] := by
  unfold Client.written
  split
  · rfl
  · simp [owed]

theorem ahead_written {client : Client} {asked : Asked} (older : ∀ other ∈ owed client, other.id < asked.id) :
    ahead (client.written asked) = owed client := by
  have kept : (owed client).filter (fun other => other.id < asked.id) = owed client :=
    List.filter_eq_self.mpr fun other member => decide_eq_true (older other member)
  show (owed (client.written asked)).filter (fun other => other.id < asked.id) = owed client
  rw [owed_written]
  split
  · exact kept
  · rw [List.filter_append, kept]
    simp

theorem InTurn.step {client after : Client} {event : ClientEvent} (turn : InTurn client)
    (effect : Effect client after event) : InTurn after := by
  cases effect with
  | send request idle same =>
      subst same
      refine ⟨fun asked member => Nat.lt_succ_of_lt (turn.older asked member), ?_, fun _ phase => by cases phase⟩
      intro asked partly phase
      cases phase
      exact ⟨rfl, ahead_eq_owed (.inl ⟨false, rfl⟩) turn.older⟩
  | written asked partly writing same =>
      subst same
      obtain ⟨latest, all⟩ := turn.writing asked partly writing
      have older : ∀ other ∈ owed client, other.id < asked.id := by
        intro other member
        rw [← all] at member
        simp only [ahead, writing, List.mem_filter, decide_eq_true_eq] at member
        exact member.2
      refine ⟨?_, fun _ _ phase => (by cases phase), ?_⟩
      · intro other member
        show other.id < client.nextId
        rw [owed_written] at member
        split at member
        · exact turn.older other member
        · rcases List.mem_append.mp member with old | new
          · exact turn.older other old
          · cases List.mem_singleton.mp new
            omega
      · intro other phase
        cases phase
        rw [ahead_written older, owed_written]
        split
        · exact .inl rfl
        · exact .inr rfl
  | receive asked answer respRx waiting head same =>
      subst same
      refine ⟨fun other member => turn.older other ?_, fun _ _ phase => (by cases phase),
        fun _ phase => (by cases phase)⟩
      simp only [owed, head, List.map_cons, List.cons_append]
      exact List.mem_cons_of_mem _ member
  | gaveUp quiet same =>
      subst same
      obtain ⟨queue, ids, -⟩ := giveUp_frame client
      have idle := giveUp_idle client
      refine ⟨?_, fun _ _ phase => ?_, fun _ phase => ?_⟩
      · rw [queue, ids]
        exact turn.older
      · rw [idle] at phase
        cases phase
      · rw [idle] at phase
        cases phase
  | connect idle same =>
      subst same
      exact ⟨fun _ member => (List.not_mem_nil member).elim, fun _ _ phase => (by cases phase),
        fun _ phase => (by cases phase)⟩
  | moved quiet phase queue ids results =>
      have unmoved := ahead_moved queue phase
      refine ⟨by rw [queue, ids]; exact turn.older, fun asked partly writing => ?_, fun asked waiting => ?_⟩
      · rw [unmoved, queue, ids]
        rcases phase with same | ⟨other, before, written, now⟩
        · exact turn.writing asked partly (same ▸ writing)
        · rw [now] at writing
          cases writing
          exact turn.writing asked before written
      · rw [unmoved, queue]
        rcases phase with same | ⟨other, before, written, now⟩
        · exact turn.waiting asked (same ▸ waiting)
        · rw [now] at waiting
          cases waiting

theorem InTurn.own_iff {client : Client} {asked : Asked} {answer : Answer} {respRx : List Answer}
    (turn : InTurn client) (waiting : client.phase = .waiting asked) (head : client.respRx = answer :: respRx) :
    answer.asked = asked ↔ ahead client = [] := by
  have first : ∃ rest, owed client = answer.asked :: rest := ⟨_, by simp only [owed, head]; rfl⟩
  obtain ⟨rest, front⟩ := first
  have older := ahead_older waiting
  rcases turn.waiting asked waiting with all | all
  · rw [front] at all
    constructor
    · intro own
      have before := older answer.asked (all ▸ List.mem_cons_self)
      rw [own] at before
      exact absurd before (Nat.lt_irrefl _)
    · intro none_
      rw [none_] at all
      cases all
  · rw [front] at all
    cases blocked : ahead client with
    | nil =>
        rw [blocked] at all
        cases all
        exact ⟨fun _ => rfl, fun _ => rfl⟩
    | cons other others =>
        rw [blocked] at all older
        cases all
        constructor
        · intro own
          have before := older answer.asked List.mem_cons_self
          rw [own] at before
          exact absurd before (Nat.lt_irrefl _)
        · intro none_
          cases none_

/-! ## Whole runs -/

theorem answered_idle {client final : Client} {events : List ClientEvent} (idle : client.phase = .idle)
    (ran : run clientStep client events = some final) : answered events = false := by
  induction events generalizing client with
  | nil => rfl
  | cons event events ih =>
      obtain ⟨after, taken, rest⟩ := run_cons_some.mp ran
      cases clientStep_effect taken with
      | send request _ same => rfl
      | written asked partly writing same =>
          rw [idle] at writing
          cases writing
      | receive asked answer respRx waiting head same =>
          rw [idle] at waiting
          cases waiting
      | gaveUp quiet same =>
          rw [answered_quiet quiet]
          exact ih (same ▸ giveUp_idle client) rest
      | connect _ same => exact ih (by rw [same]; rfl) rest
      | moved quiet phase queue ids results =>
          rw [answered_quiet quiet]
          rcases phase with same | ⟨asked, partly, writing, -⟩
          · exact ih (same.trans idle) rest
          · rw [idle] at writing
            cases writing

def AllOwn (client : Client) : Prop := ∀ result ∈ client.returned, result.2.asked = result.1

theorem sends_cons {client after : Client} {event : ClientEvent} {events : List ClientEvent}
    (taken : clientStep client event = some after) :
    SendsWhenNothingOwed client (event :: events) ↔
      (∀ request, event = .send request → answered events = true → owed client = []) ∧
        SendsWhenNothingOwed after events := by
  constructor
  · intro ⟨now, later⟩
    exact ⟨now, later after taken⟩
  · intro ⟨now, later⟩
    refine ⟨now, fun other same => ?_⟩
    rw [taken] at same
    cases same
    exact later

theorem sends_cons_quiet {client after : Client} {event : ClientEvent} {events : List ClientEvent}
    (quiet : Quiet event) (taken : clientStep client event = some after) :
    SendsWhenNothingOwed client (event :: events) ↔ SendsWhenNothingOwed after events := by
  rw [sends_cons taken]
  exact ⟨And.right, fun later => ⟨fun request same => absurd same (quiet.2 request), later⟩⟩

theorem allOwn_concat (client : Client) (asked : Asked) (answer : Answer) (phase : SendPhase) (respRx : List Answer) :
    AllOwn { client with phase := phase, respRx := respRx, returned := client.returned ++ [(asked, answer)] } ↔
      AllOwn client ∧ answer.asked = asked := by
  simp only [AllOwn, List.forall_mem_append, List.forall_mem_singleton]

theorem InTurn.run_own_iff {client final : Client} {events : List ClientEvent} (turn : InTurn client)
    (ran : run clientStep client events = some final) :
    AllOwn final ↔
      AllOwn client ∧ (answered events = true → ahead client = []) ∧ SendsWhenNothingOwed client events := by
  induction events generalizing client with
  | nil =>
      cases ran
      exact ⟨fun own => ⟨own, fun ends => (by cases ends), trivial⟩, And.left⟩
  | cons event events ih =>
      obtain ⟨after, taken, rest⟩ := run_cons_some.mp ran
      have effect := clientStep_effect taken
      have later := ih (turn.step effect) rest
      cases effect with
      | send request idle same =>
          have nothing : ahead client = [] := by simp only [ahead, idle]
          have all : ahead after = owed client := by
            rw [same]
            exact ahead_eq_owed (.inl ⟨false, rfl⟩) turn.older
          have results : AllOwn after ↔ AllOwn client := by rw [same]; rfl
          rw [later, results, all, sends_cons taken]
          constructor
          · intro ⟨own, now, tail⟩
            exact ⟨own, fun _ => nothing, fun _ _ => now, tail⟩
          · intro ⟨own, _, now, tail⟩
            exact ⟨own, now request rfl, tail⟩
      | written asked partly writing same =>
          have quiet : Quiet .written := by simp [Quiet]
          have all := (turn.writing asked partly writing).2
          have unmoved : ahead after = ahead client := by
            rw [same, all]
            apply ahead_written
            intro other member
            rw [← all] at member
            simp only [ahead, writing, List.mem_filter, decide_eq_true_eq] at member
            exact member.2
          have results : AllOwn after ↔ AllOwn client := by rw [same]; rfl
          rw [later, results, unmoved, answered_quiet quiet, sends_cons_quiet quiet taken]
      | receive asked answer respRx waiting head same =>
          have unanswered : answered events = false := answered_idle (by rw [same]) rest
          have results : AllOwn after ↔ AllOwn client ∧ ahead client = [] := by
            rw [same, allOwn_concat, turn.own_iff waiting head]
          rw [later, results, sends_cons taken]
          constructor
          · intro ⟨⟨own, nothing⟩, _, tail⟩
            exact ⟨own, fun _ => nothing, fun _ impossible => (by cases impossible), tail⟩
          · intro ⟨own, nothing, _, tail⟩
            exact ⟨⟨own, nothing rfl⟩, fun more => absurd more (by simp [unanswered]), tail⟩
      | gaveUp quiet same =>
          have unanswered : answered events = false := answered_idle (same ▸ giveUp_idle client) rest
          have results : AllOwn after ↔ AllOwn client := by
            unfold AllOwn
            rw [same, (giveUp_frame client).2.2]
          rw [later, results, answered_quiet quiet, sends_cons_quiet quiet taken, unanswered]
          simp
      | connect idle same =>
          have quiet : Quiet .connect := by simp [Quiet]
          have unanswered : answered events = false := answered_idle (by rw [same]; rfl) rest
          have results : AllOwn after ↔ AllOwn client := by rw [same]; rfl
          rw [later, results, answered_quiet quiet, sends_cons_quiet quiet taken, unanswered]
          simp
      | moved quiet phase queue ids results =>
          have same : AllOwn after ↔ AllOwn client := by
            unfold AllOwn
            rw [results]
          rw [later, same, ahead_moved queue phase, answered_quiet quiet, sends_cons_quiet quiet taken]

/-- In every run, each response `send` returned is the supervisor's response to that request if and only if
every request that got one was sent while the connection owed no response. -/
theorem responses_own_iff {events : List ClientEvent} {final : Client}
    (ran : run clientStep Client.start events = some final) :
    (∀ result ∈ final.returned, result.2.asked = result.1) ↔ SendsWhenNothingOwed Client.start events := by
  have whole := inTurn_start.run_own_iff ran
  constructor
  · intro own
    exact (whole.mp own).2.2
  · intro sends
    exact whole.mpr ⟨fun _ member => (List.not_mem_nil member).elim, fun _ => rfl, sends⟩

instance SendsWhenNothingOwed.decidable : (client : Client) → (events : List ClientEvent) →
    Decidable (SendsWhenNothingOwed client events)
  | _, [] => .isTrue trivial
  | client, event :: events =>
      have : Decidable (∀ request, event = .send request → answered events = true → owed client = []) :=
        match event with
        | .send request => decidable_of_iff (answered events = true → owed client = [])
            ⟨fun now _ _ => now, fun all => all request rfl⟩
        | .writeSome | .written | .writeFailed | .receive | .timedOut | .closedConnection | .dropped | .answer _
        | .notify _ | .readLine | .readerEnds | .tryRecvNotification | .connect => .isTrue fun _ same => by cases same
      match taken : clientStep client event with
      | none => decidable_of_iff (∀ request, event = .send request → answered events = true → owed client = [])
          ⟨fun now => ⟨now, fun other same => by rw [taken] at same; cases same⟩, And.left⟩
      | some after =>
          have : Decidable (SendsWhenNothingOwed after events) := SendsWhenNothingOwed.decidable after events
          decidable_of_iff _ (sends_cons taken).symm

def exchange (request : Request) (response : Response) : List ClientEvent :=
  [.send request, .writeSome, .written, .answer response, .readLine, .receive]

/-- A wait times out and the next request is made on a new connection. -/
def reconnected : List ClientEvent :=
  exchange .list (.services [] []) ++ [.send (.stop "a"), .written, .timedOut, .readerEnds, .connect] ++
    exchange (.start "a") .ok

theorem responses_own_reconnected : ∃ final, run clientStep Client.start reconnected = some final ∧
    ∀ result ∈ final.returned, result.2.asked = result.1 :=
  ⟨_, rfl, (@responses_own_iff reconnected _ rfl).mpr (by decide)⟩

/-- `Stop` takes as long as the wait for it; its late response is returned for the request after it. -/
theorem late_response_taken : ¬ ∀ events final, run clientStep Client.start events = some final →
    ∀ result ∈ final.returned, result.2.asked = result.1 := by
  intro all
  have own := all [.send (.stop "a"), .written, .timedOut, .answer .ok, .readLine, .send (.kill "b" 9), .written,
    .receive] _ rfl (⟨1, .kill "b" 9⟩, ⟨⟨0, .stop "a"⟩, .ok⟩) (by decide)
  exact absurd own (by decide)

end MacMgmt.Proof.Supervisor
