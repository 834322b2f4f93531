import MacMgmt.Lib.Replace
import MacMgmt.Lib.Run
import MacMgmt.Lib.Table
import Mathlib.Data.List.Sort

/-!
# Redaction sessions

`SharedState`, `SessionStore` and the tools of `CleanerServer` of `plan-ai-cleaner`. A text is its list of characters. What the
disk does, the clock and the random session ids come with the events. A file that a failed write has damaged cannot be
decrypted again, so its session is gone.
-/

namespace MacMgmt.Cleaner
open Lib

abbrev Text := List Char

/-- `String::len`, in bytes. -/
def byteLength (text : Text) : Nat := (text.map Char.utf8Size).sum

inductive EntityCategory where
  | person
  | email
  | phone
  | creditCard
  | ssn
  | ipAddress
  | apiKey
  | jwt
  | company
  | projectName
  | internalUrl
  | proprietary
  | custom
deriving DecidableEq

def EntityCategory.categoryPrefix : EntityCategory → Text
  | .person => "PERSON".toList
  | .email => "EMAIL".toList
  | .phone => "PHONE".toList
  | .creditCard => "CC".toList
  | .ssn => "SSN".toList
  | .ipAddress => "IP".toList
  | .apiKey => "APIKEY".toList
  | .jwt => "JWT".toList
  | .company => "COMPANY".toList
  | .projectName => "PROJECT".toList
  | .internalUrl => "URL".toList
  | .proprietary => "PROPRIETARY".toList
  | .custom => "CUSTOM".toList

inductive DetectionSource where
  | regex
  | llm
  | manual
deriving DecidableEq

structure RedactionEntity where
  id : Text
  category : EntityCategory
  original : Text
  placeholder : Text
  source : DetectionSource
  approved : Bool
deriving DecidableEq

inductive SessionStatus where
  | scanned
  | approved
deriving DecidableEq

structure SessionManifest where
  id : Text
  createdAt : Int
  status : SessionStatus
  entities : List RedactionEntity
  redactedText : Option Text
  originalText : Text
deriving DecidableEq

/-- The patterns match no empty text, and `detect_entities` drops empty answers. -/
structure Detection where
  text : Text
  category : EntityCategory
  source : DetectionSource
  present : text ≠ []

/-! ## Placeholders -/

abbrev Counters := Table Text (Table EntityCategory Nat)

namespace Counters

def ofSession (counters : Counters) (sessionId : Text) : Table EntityCategory Nat := (counters.lookup sessionId).getD ∅

def count (counters : Counters) (sessionId : Text) (category : EntityCategory) : Nat :=
  ((counters.ofSession sessionId).lookup category).getD 0

def bump (counters : Counters) (sessionId : Text) (category : EntityCategory) : Counters :=
  counters.insert sessionId
    ((counters.ofSession sessionId).insert category (counters.count sessionId category + 1))

end Counters

def placeholderId (category : EntityCategory) (count : Nat) : Text :=
  category.categoryPrefix ++ '_' :: Nat.toDigits 10 count

def placeholderOf (id : Text) : Text := '[' :: (id ++ [']'])

def nextPlaceholder (counters : Counters) (sessionId : Text) (category : EntityCategory) : Counters × Text :=
  (counters.bump sessionId category, placeholderId category (counters.count sessionId category + 1))

def newEntity (id original : Text) (category : EntityCategory) (source : DetectionSource) : RedactionEntity :=
  { id, category, original, placeholder := placeholderOf id, source, approved := true }

/-- `seen` holds the texts that already have a placeholder. -/
def buildEntities (sessionId : Text) : Counters → List Text → List Detection → Counters × List RedactionEntity
  | counters, _, [] => (counters, [])
  | counters, seen, detection :: rest =>
      if detection.text ∈ seen then buildEntities sessionId counters seen rest
      else
        let next := nextPlaceholder counters sessionId detection.category
        let later := buildEntities sessionId next.1 (detection.text :: seen) rest
        (later.1, newEntity next.2 detection.text detection.category detection.source :: later.2)

/-- The loop of `approve` over the manual redactions. -/
def addRedactions (sessionId : Text) : Counters → List Text → Counters × List RedactionEntity
  | counters, [] => (counters, [])
  | counters, text :: rest =>
      if text = [] then addRedactions sessionId counters rest
      else
        let next := nextPlaceholder counters sessionId .custom
        let later := addRedactions sessionId next.1 rest
        (later.1, newEntity next.2 text .custom .manual :: later.2)

/-! ## The texts -/

def longestFirst (entities : List RedactionEntity) : List RedactionEntity :=
  entities.insertionSort fun first second => byteLength second.original ≤ byteLength first.original

def approvedEntities (entities : List RedactionEntity) : List RedactionEntity := entities.filter (·.approved)

def redact (entities : List RedactionEntity) (text : Text) : Text :=
  (longestFirst (approvedEntities entities)).foldl
    (fun redacted entity => replace id entity.original entity.placeholder redacted) text

def rehydrateText (entities : List RedactionEntity) (text : Text) : Text :=
  entities.foldl
    (fun text entity => if entity.approved then replace id entity.placeholder entity.original text else text) text

/-! ## The server -/

inductive WriteOutcome where
  | written
  | untouched
  | damaged
deriving DecidableEq

structure Disk where
  reads : Bool
  write : WriteOutcome
  removes : Bool
deriving DecidableEq

structure CleanerState where
  counters : Counters
  sessions : Table Text SessionManifest
  ttlSeconds : Int

inductive CleanerError where
  | loading
  | saving
  | notApproved
deriving DecidableEq

structure ApproveParams where
  sessionId : Text
  removeIds : List Text
  addRedactions : List Text

def validateId (id : Text) : Bool :=
  id ≠ [] && byteLength id ≤ 128 && id.all fun c => c.isAlphanum || c = '-'

namespace CleanerState

def start (ttlSeconds : Int) : CleanerState := ⟨∅, ∅, ttlSeconds⟩

def expired (state : CleanerState) (manifest : SessionManifest) (now : Int) : Bool :=
  decide (now - manifest.createdAt > state.ttlSeconds)

def load (state : CleanerState) (id : Text) (now : Int) (disk : Disk) : CleanerState × Option SessionManifest :=
  if validateId id && disk.reads then
    match state.sessions.lookup id with
    | none => (state, none)
    | some manifest =>
        if state.expired manifest now then
          (if disk.removes then { state with sessions := state.sessions.erase id } else state, none)
        else (state, some manifest)
  else (state, none)

def save (state : CleanerState) (manifest : SessionManifest) (disk : Disk) : CleanerState × Bool :=
  if validateId manifest.id then
    match disk.write with
    | .written => ({ state with sessions := state.sessions.insert manifest.id manifest }, true)
    | .untouched => (state, false)
    | .damaged => ({ state with sessions := state.sessions.erase manifest.id }, false)
  else (state, false)

def scan (state : CleanerState) (sessionId text : Text) (detections : List Detection) (now : Int) (disk : Disk) :
    CleanerState × Except CleanerError (List RedactionEntity) :=
  let built := buildEntities sessionId state.counters [] detections
  let numbered := { state with counters := built.1 }
  if built.2 = [] then (numbered, .ok [])
  else
    let saved := numbered.save
      { id := sessionId, createdAt := now, status := .scanned, entities := built.2, redactedText := none,
        originalText := text } disk
    (saved.1, if saved.2 then .ok built.2 else .error .saving)

def mark (removeIds : List Text) (entity : RedactionEntity) : RedactionEntity :=
  if entity.id ∈ removeIds then { entity with approved := false } else entity

def approve (state : CleanerState) (params : ApproveParams) (now : Int) (disk : Disk) :
    CleanerState × Except CleanerError Text :=
  match state.load params.sessionId now disk with
  | (loaded, none) => (loaded, .error .loading)
  | (loaded, some manifest) =>
      let added := Cleaner.addRedactions params.sessionId loaded.counters params.addRedactions
      let entities := manifest.entities.map (mark params.removeIds) ++ added.2
      let redacted := redact entities manifest.originalText
      let saved := { loaded with counters := added.1 }.save
        { manifest with entities, redactedText := some redacted, status := .approved } disk
      (saved.1, if saved.2 then .ok redacted else .error .saving)

def rehydrate (state : CleanerState) (sessionId text : Text) (now : Int) (disk : Disk) :
    CleanerState × Except CleanerError Text :=
  match state.load sessionId now disk with
  | (loaded, none) => (loaded, .error .loading)
  | (loaded, some manifest) =>
      (loaded, if manifest.status = .approved then .ok (rehydrateText manifest.entities text) else .error .notApproved)

/-- Every file is loaded once, by `list` and by `gc`. -/
def loadAll (state : CleanerState) (now : Int) (disk : Text → Disk) : CleanerState :=
  { state with sessions := state.sessions.retain fun id manifest =>
      !(validateId id && (disk id).reads && (disk id).removes && state.expired manifest now) }

def clearSession (state : CleanerState) (sessionId : Text) : CleanerState :=
  { state with counters := state.counters.erase sessionId }

def sessionDelete (state : CleanerState) (sessionId : Text) (disk : Disk) : CleanerState :=
  let cleared := state.clearSession sessionId
  if validateId sessionId && disk.removes then { cleared with sessions := cleared.sessions.erase sessionId } else cleared

def restart (state : CleanerState) (now : Int) (disk : Text → Disk) : CleanerState :=
  { state with counters := ∅ }.loadAll now disk

end CleanerState

inductive CleanerEvent where
  | scan (sessionId text : Text) (detections : List Detection) (now : Int) (disk : Disk)
  | approve (params : ApproveParams) (now : Int) (disk : Disk)
  | rehydrate (sessionId text : Text) (now : Int) (disk : Disk)
  | sessionList (now : Int) (disk : Text → Disk)
  | sessionDelete (sessionId : Text) (disk : Disk)
  | restart (now : Int) (disk : Text → Disk)

def CleanerState.Unused (state : CleanerState) (sessionId : Text) : Prop :=
  validateId sessionId = true ∧ state.counters.lookup sessionId = none ∧ state.sessions.lookup sessionId = none

instance (state : CleanerState) (sessionId : Text) : Decidable (state.Unused sessionId) :=
  inferInstanceAs (Decidable (_ ∧ _ ∧ _))

def cleanerStep (state : CleanerState) : CleanerEvent → Option CleanerState
  | .scan sessionId text detections now disk =>
      if state.Unused sessionId then some (state.scan sessionId text detections now disk).1 else none
  | .approve params now disk => some (state.approve params now disk).1
  | .rehydrate sessionId text now disk => some (state.rehydrate sessionId text now disk).1
  | .sessionList now disk => some (state.loadAll now disk)
  | .sessionDelete sessionId disk => some (state.sessionDelete sessionId disk)
  | .restart now disk => some (state.restart now disk)

end MacMgmt.Cleaner
