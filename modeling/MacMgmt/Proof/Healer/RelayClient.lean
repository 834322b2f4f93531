import MacMgmt.Healer.RelayClient
import MacMgmt.Proof.Tunnel.Uploads

/-!
# How often a call takes effect

A call makes at most two requests, and the second only where the first looked like a daemon that is away. That may have been
the answer's way and not the request's, and then the daemon acts twice.
-/

namespace MacMgmt.Proof.Healer
open Lib MacMgmt.Agent MacMgmt.Tunnel MacMgmt.Healer

section Guarded
variable {A : Type} {first second : Attempt A} {pings : List Bool} (acted : A → Bool)

def LooksOffline (attempt : Attempt A) : Prop :=
  match attempt.result with
  | .ok response => isDaemonOfflineStatus response.status = true
  | .error error => isConnectionError error = true

theorem guardedRequest_of_retry (offline : LooksOffline first) (online : waitForDaemon pings = true) :
    guardedRequest first pings second =
      (second.result.mapError CallError.failedAfterReconnect, first.handled.toList ++ second.handled.toList) := by
  unfold LooksOffline at offline
  unfold guardedRequest
  split
  · rename_i response result
    rw [result] at offline
    rw [if_pos offline, if_pos online]
  · rename_i error result
    rw [result] at offline
    rw [if_pos offline, if_pos online]

theorem handled_of_no_retry (single : ¬ (LooksOffline first ∧ waitForDaemon pings = true)) :
    (guardedRequest first pings second).2 = first.handled.toList := by
  unfold LooksOffline at single
  unfold guardedRequest
  split
  · rename_i response result
    rw [result] at single
    split
    · rename_i offline
      rw [if_neg fun online => single ⟨offline, online⟩]
    · rfl
  · rename_i error result
    rw [result] at single
    split
    · rename_i offline
      rw [if_neg fun online => single ⟨offline, online⟩]
    · rfl

theorem guardedRequest_of_answer {response : Response A} (result : first.result = .ok response)
    (present : isDaemonOfflineStatus response.status = false) :
    guardedRequest first pings second = (.ok response, first.handled.toList) := by
  unfold guardedRequest
  rw [result]
  dsimp only
  rw [present]
  rfl

theorem countP_toList (handled : Option A) : handled.toList.countP acted = if handled.any acted then 1 else 0 := by
  cases handled with
  | none => rfl
  | some outcome => simp [List.countP_cons]

theorem acts_at_most_twice (first second : Attempt A) (pings : List Bool) :
    (guardedRequest first pings second).2.countP acted ≤ 2 := by
  by_cases retried : LooksOffline first ∧ waitForDaemon pings = true
  · rw [guardedRequest_of_retry retried.1 retried.2, List.countP_append, countP_toList, countP_toList]
    split <;> split <;> omega
  · rw [handled_of_no_retry retried, countP_toList]
    split <;> omega

theorem acts_twice_iff (first second : Attempt A) (pings : List Bool) :
    (guardedRequest first pings second).2.countP acted = 2 ↔
      first.handled.any acted = true ∧ LooksOffline first ∧ waitForDaemon pings = true ∧ second.handled.any acted = true := by
  by_cases retried : LooksOffline first ∧ waitForDaemon pings = true
  · rw [guardedRequest_of_retry retried.1 retried.2, List.countP_append, countP_toList, countP_toList]
    split
    · rename_i one
      split
      · rename_i two
        simp [one, two, retried]
      · rename_i two
        simp [two]
    · rename_i one
      simp only [one, Bool.false_eq_true, false_and, iff_false]
      split <;> omega
  · rw [handled_of_no_retry retried, countP_toList]
    refine iff_of_false ?_ fun all => retried ⟨all.2.1, all.2.2.1⟩
    split <;> omega

end Guarded

/-! ## Answers of the daemon -/

theorem answer_of_attempt {A : Type} {loss : Loss} {served : Response A × Option A} {response : Response A}
    (result : (loss.attempt served).result = .ok response) : response = served.1 ∧ loss = .nothing := by
  cases loss with
  | nothing => exact ⟨(Except.ok.inj result).symm, rfl⟩
  | request error => cases result
  | response error => cases result

theorem writeTarget_status {glob : Glob} {tree : FileTree} {tunnel : FileTunnel} {relPath : Option String}
    {content : List UInt8} {expectedMtime : Option Int} {status : Nat} {message : String}
    (refused : writeTarget glob tree tunnel relPath content expectedMtime = .error (status, message)) :
    status ∈ [400, 403, 409, 413] := by
  unfold writeTarget at refused
  split at refused
  · cases refused
    decide
  split at refused
  · cases refused
    decide
  split at refused
  · cases refused
    decide
  split at refused
  · cases refused
    decide
  split at refused
  · cases refused
    decide
  split at refused
  · split at refused
    · cases refused
      decide
    · cases refused
  · cases refused

def writeStatuses : List Nat := [200, 400, 403, 409, 413, 422, 500]

theorem answerStatus_write (daemon : FileDaemon) (tunnel : FileTunnel) (query : FileWriteQuery) (content : List UInt8) :
    answerStatus (daemon.write tunnel query content) ∈ writeStatuses := by
  unfold FileDaemon.write writeFile
  split
  · rename_i refusal refused
    obtain ⟨status, message⟩ := refusal
    have among := writeTarget_status refused
    have subset : [400, 403, 409, 413] ⊆ writeStatuses := by decide
    exact subset among
  have broken : 500 ∈ writeStatuses := by decide
  split
  · exact broken
  split
  · exact broken
  split
  · exact broken
  split
  · exact broken
  dsimp only
  split
  · exact List.mem_cons_self
  · split
    · exact List.mem_cons_self
    · exact (by decide : 422 ∈ writeStatuses)

theorem answerStatus_handle (daemon : FileDaemon) {handshake : FileWriteHandshake} {reads : List FrameRead}
    {outcome : WriteOutcome} (handled : daemon.handleFileWriteStream handshake reads = some outcome) :
    answerStatus outcome ∈ writeStatuses ∨
      answerStatus outcome = 404 ∧ daemon.registry.lookup handshake.query.tunnelName = none := by
  unfold FileDaemon.handleFileWriteStream at handled
  dsimp only at handled
  split at handled
  · cases handled
  · cases handled
    exact .inl (by decide : 413 ∈ writeStatuses)
  · split at handled
    · rename_i unknown
      cases handled
      exact .inr ⟨rfl, unknown⟩
    · cases handled
      exact .inl (answerStatus_write _ _ _ _)

theorem writeTry_status {query : FileWriteQuery} {request : WriteTry} {response : Response WriteOutcome}
    (result : (request.attempt query).result = .ok response) (answered : response.answer.isSome) :
    isDaemonOfflineStatus response.status = true →
      response.status = 404 ∧ request.daemon.registry.lookup query.tunnelName = none := by
  obtain ⟨rfl, -⟩ := answer_of_attempt result
  unfold WriteTry.serve at answered ⊢
  split
  · rename_i failed
    rw [failed] at answered
    cases answered
  · rename_i reading
    rw [reading] at answered
    cases handled : request.handled query with
    | none =>
        rw [handled] at answered
        cases answered
    | some outcome =>
        rw [handled] at answered
        cases arrives : request.transport.answered with
        | false =>
            rw [arrives] at answered
            cases answered
        | true =>
            intro offline
            unfold WriteTry.handled at handled
            split at handled
            · unfold FileUpload.outcome at handled
              dsimp only at handled
              split at handled
              · rcases answerStatus_handle _ handled with known | unknown
                · have apart : ∀ status ∈ writeStatuses, isDaemonOfflineStatus status = false := by decide
                  exact absurd ((apart _ known).symm.trans offline) Bool.false_ne_true
                · exact unknown
              · cases handled
            · cases handled

/-! ## The calls -/

theorem shellTry_status {commandName : String} {userArg : Option String} {request : ShellTry}
    {response : Response ShellOutcome} (result : (request.attempt commandName userArg).result = .ok response)
    (answered : response.answer.isSome) : response.status = 200 := by
  obtain ⟨rfl, -⟩ := answer_of_attempt result
  unfold ShellTry.serve at answered ⊢
  split
  · rename_i failed
    rw [failed] at answered
    cases answered
  · rfl

def restartDaemon : ShellDaemon where
  regex _ := .error "no patterns"
  registry := AList.singleton "restart" ⟨"restart", none⟩
  virtualHandlers := ∅
  spawn := .ok ()
  process := [.line "stdout" "restarting", .exit 0 none]

def openRoute : Route := ⟨none, .opened, true⟩

def answeredTry : ShellTry := ⟨.nothing, openRoute, true, none, restartDaemon⟩

def timeout : ReqwestError := ⟨false, true, "operation timed out", "operation timed out"⟩

end MacMgmt.Proof.Healer
