import MacMgmt.Cleaner.Sessions

/-!
# Prompts for the cloud

`CloudServer::send` of `plan-ai-cloud`, beside the cleaner whose sessions it reads. The two are processes of their own: a prompt
is read when a call comes in and the answer is rehydrated when it arrives, and the tools of the cleaner run in between. The
cloud opens the files of the sessions itself, without the cleaner's checks of the id and of the age.
-/

namespace MacMgmt.Cloud
open Lib Cleaner

structure SharedState where
  litellmUrl : Text
  litellmKey : Option Text
  ollamaHost : Text
  ollamaPort : Nat
  strict : Bool
  /-- The session to whose file the path `sessions/{id}.enc` leads. -/
  fileOf : Text → Option Text
  /-- In hexadecimal. -/
  sha256 : Text → Text

def SharedState.ollamaUrl (shared : SharedState) : Text :=
  "http://".toList ++ shared.ollamaHost ++ ':' :: Nat.toDigits 10 shared.ollamaPort

structure CloudSendParams where
  prompt : Text
  system : Option Text
  model : Option Text
  cleanerSessionId : Option Text

/-- What `chat_completion` is called with. -/
structure Completion where
  baseUrl : Text
  apiKey : Option Text
  model : Option Text
  prompt : Text
  system : Option Text

structure CompletionResponse where
  text : Text
  tokensIn : Option Nat
  tokensOut : Option Nat

structure AuditEntry where
  timestamp : Int
  provider : Text
  model : Text
  promptSha256 : Text
  promptLengthChars : Nat
  responseLengthChars : Nat
  cleanerSessionId : Option Text
  tokensIn : Option Nat
  tokensOut : Option Nat

/-- `unrestored` is a text with a warning behind it. -/
inductive CloudReply where
  | text (text : Text)
  | unrestored (text : Text)
  | strictMode
  | loading
  | notApproved
  | noRedactedText
  | llm

def isLocalModel : Option Text → Bool
  | some model => "ollama/".toList.isPrefixOf model || "local/".toList.isPrefixOf model
  | none => false

namespace SharedState
variable (shared : SharedState) (cleaner : CleanerState)

def loadManifest (sessionId : Text) (reads : Bool) : Option SessionManifest :=
  if reads then (shared.fileOf sessionId).bind fun file => cleaner.sessions.lookup file else none

def loadRedactedText (sessionId : Text) (reads : Bool) : Except CloudReply Text :=
  match shared.loadManifest cleaner sessionId reads with
  | none => .error .loading
  | some manifest =>
      if manifest.status = .approved then
        match manifest.redactedText with
        | some text => .ok text
        | none => .error .noRedactedText
      else .error .notApproved

def rehydrate (sessionId text : Text) (reads : Bool) : Option Text :=
  (shared.loadManifest cleaner sessionId reads).map fun manifest => rehydrateText manifest.entities text

def choosePrompt (params : CloudSendParams) (reads : Bool) : Except CloudReply Text :=
  match params.cleanerSessionId with
  | none => if shared.strict then .error .strictMode else .ok params.prompt
  | some sessionId => shared.loadRedactedText cleaner sessionId reads

def completion (params : CloudSendParams) (prompt : Text) : Completion :=
  let backend := if isLocalModel params.model then (shared.ollamaUrl, none) else (shared.litellmUrl, shared.litellmKey)
  { baseUrl := backend.1, apiKey := backend.2, model := params.model, prompt, system := params.system }

def auditEntry (params : CloudSendParams) (completion : Completion) (response : CompletionResponse) (now : Int) : AuditEntry :=
  { timestamp := now, provider := completion.baseUrl, model := params.model.getD [],
    promptSha256 := shared.sha256 completion.prompt, promptLengthChars := byteLength completion.prompt,
    responseLengthChars := byteLength response.text, cleanerSessionId := params.cleanerSessionId,
    tokensIn := response.tokensIn, tokensOut := response.tokensOut }

/-- The end of `send`. -/
def replyTo (params : CloudSendParams) (response : CompletionResponse) (reads : Bool) : CloudReply :=
  match params.cleanerSessionId with
  | none => .text response.text
  | some sessionId =>
      match shared.rehydrate cleaner sessionId response.text reads with
      | some rehydrated => .text rehydrated
      | none => .unrestored response.text

end SharedState

/-- `calls` wait for their answers. `approvals` is history: the texts that `cleaner_approve` has answered with. -/
structure CloudSystem where
  cleaner : CleanerState
  calls : Table Nat (CloudSendParams × Completion)
  sent : List Completion
  audit : List AuditEntry
  replies : List (Nat × CloudReply)
  approvals : List (Text × Text)

def CloudSystem.start (ttlSeconds : Int) : CloudSystem := ⟨.start ttlSeconds, ∅, [], [], [], []⟩

inductive CloudEvent where
  | cleaner (event : CleanerEvent)
  | send (number : Nat) (params : CloudSendParams) (reads : Bool)
  | answered (number : Nat) (response : Option CompletionResponse) (now : Int) (logs reads : Bool)

def approvalsOf (cleaner : CleanerState) : CleanerEvent → List (Text × Text)
  | .approve params now disk =>
      match (cleaner.approve params now disk).2 with
      | .ok redacted => [(params.sessionId, redacted)]
      | .error _ => []
  | _ => []

namespace CloudSystem
variable (shared : SharedState) (system : CloudSystem)

def send (number : Nat) (params : CloudSendParams) (reads : Bool) : CloudSystem :=
  match shared.choosePrompt system.cleaner params reads with
  | .error reply => { system with replies := system.replies ++ [(number, reply)] }
  | .ok prompt =>
      let completion := shared.completion params prompt
      { system with calls := system.calls.insert number (params, completion), sent := system.sent ++ [completion] }

def answered (number : Nat) (params : CloudSendParams) (completion : Completion) (response : Option CompletionResponse)
    (now : Int) (logs reads : Bool) : CloudSystem :=
  let ended := { system with calls := system.calls.erase number }
  match response with
  | none => { ended with replies := system.replies ++ [(number, .llm)] }
  | some response =>
      { ended with
        audit := if logs then system.audit ++ [shared.auditEntry params completion response now] else system.audit
        replies := system.replies ++ [(number, shared.replyTo system.cleaner params response reads)] }

def step : CloudEvent → Option CloudSystem
  | .cleaner event => (cleanerStep system.cleaner event).map fun cleaner =>
      { system with cleaner, approvals := system.approvals ++ approvalsOf system.cleaner event }
  | .send number params reads => if number ∈ system.calls then none else some (system.send shared number params reads)
  | .answered number response now logs reads => (system.calls.lookup number).map fun call =>
      system.answered shared number call.1 call.2 response now logs reads

end CloudSystem

end MacMgmt.Cloud
