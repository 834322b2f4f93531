import MacMgmt.Server.Config

/-!
# Patches that are not lost

A patch inserts the whole config that it read, with its one entry changed. When a second patch is read and inserted
between the two statements of the first, the first puts the old value of the second's entry back. While at most one
request is between its statements, and each insert is later than the rows before it, the row that a request reads is the
one that the last patch inserted, so each patch carries the entries of all before it.
-/

namespace MacMgmt.Server
open Lib

/-! ## The entry of a patch -/

def PatchConfigBody.entry (body : PatchConfigBody) (config : Json) : Option Json :=
  (config.field body.configSection).bind fun inner => inner.field body.key

def PatchConfigBody.SamePlace (body other : PatchConfigBody) : Prop :=
  body.configSection = other.configSection ∧ body.key = other.key

theorem mergePatch_ok {config merged : Json} {body : PatchConfigBody} (ok : mergePatch config body = .ok merged) :
    ∃ fields sectionMap, config = .object fields ∧
      (fields.lookup body.configSection).getD (.object []) = .object sectionMap ∧
      merged = .object (Json.insertField fields body.configSection (.object (Json.insertField sectionMap body.key body.value))) := by
  unfold mergePatch at ok
  split at ok
  · rename_i fields
    split at ok
    · rename_i sectionMap held
      cases ok
      exact ⟨fields, sectionMap, rfl, held, rfl⟩
    · cases ok
  · cases ok

theorem mergePatch_error {config : Json} {body : PatchConfigBody} {status : PatchStatus}
    (error : mergePatch config body = .error status) : status ≠ .ok := by
  unfold mergePatch at error
  split at error
  · split at error
    · cases error
    · cases error
      decide
  · cases error
    decide

theorem entry_mergePatch_self {config merged : Json} {body : PatchConfigBody} (ok : mergePatch config body = .ok merged) :
    body.entry merged = some body.value := by
  obtain ⟨fields, sectionMap, rfl, held, rfl⟩ := mergePatch_ok ok
  simp [PatchConfigBody.entry, Json.field, Json.lookup_insertField]

theorem entry_mergePatch_other {config merged : Json} {body other : PatchConfigBody}
    (ok : mergePatch config body = .ok merged) (elsewhere : ¬ other.SamePlace body) :
    other.entry merged = other.entry config := by
  obtain ⟨fields, sectionMap, rfl, held, rfl⟩ := mergePatch_ok ok
  simp only [PatchConfigBody.entry, Json.field, Json.lookup_insertField]
  by_cases same : other.configSection = body.configSection
  · have different : other.key ≠ body.key := fun key => elsewhere ⟨same, key⟩
    simp only [same, if_true, Option.bind_some, Json.lookup_insertField, if_neg different]
    cases found : fields.lookup body.configSection with
    | none =>
        rw [found] at held
        cases held
        rfl
    | some inner =>
        rw [found, Option.getD_some] at held
        rw [held]
        rfl
  · rw [if_neg same]

/-! ## The invariant -/

namespace ConfigState

def Succeeded (state : ConfigState) (id : Nat) (body : PatchConfigBody) : Prop :=
  state.requests.lookup id = some ⟨body, .answered .ok⟩

def Merged (state : ConfigState) (id : Nat) (body : PatchConfigBody) (config : Json) : Prop :=
  state.requests.lookup id = some ⟨body, .merged config⟩

def Alone (state : ConfigState) (id : Nat) (body : PatchConfigBody) : Prop :=
  ∀ other otherBody, state.Succeeded other otherBody → otherBody.SamePlace body → other = id

/-- The latest config has the value of every successful patch that alone wrote its entry. -/
def Kept (state : ConfigState) : Prop :=
  ∀ row ∈ state.rows, state.isLatest row = true → ∀ id body, state.Succeeded id body → state.Alone id body →
    body.entry row.configJson = some body.value

structure Carries (state : ConfigState) : Prop where
  kept : state.Kept
  stored : ∀ {id body}, state.Succeeded id body → state.rows ≠ []
  single : ∀ {id other body otherBody config otherConfig}, state.Merged id body config →
    state.Merged other otherBody otherConfig → id = other
  own : ∀ {id body config}, state.Merged id body config → body.entry config = some body.value
  others : ∀ {id body config other otherBody}, state.Merged id body config → state.Succeeded other otherBody →
    state.Alone other otherBody → ¬ otherBody.SamePlace body → otherBody.entry config = some otherBody.value

variable {migrate : Json → Json} {valid : Json → Bool} {state after : ConfigState} {event : ConfigEvent}

theorem patched_merged {current config : Json} {body : PatchConfigBody}
    (merged : patched migrate valid current body = .merged config) : mergePatch (migrate current) body = .ok config := by
  unfold patched at merged
  split at merged
  · cases merged
  · rename_i ok
    split at merged
    · cases merged
      exact ok
    · cases merged

theorem patched_ne_ok {current : Json} {body : PatchConfigBody} : patched migrate valid current body ≠ .answered .ok := by
  intro succeeded
  unfold patched at succeeded
  split at succeeded
  · rename_i error
    cases succeeded
    exact mergePatch_error error rfl
  · split at succeeded <;> cases succeeded

theorem step_cases (taken : step migrate valid state event = some after) :
    (∃ id position body config, event = .read id position ∧ state.requests.lookup id = some ⟨body, .waiting⟩ ∧
      state.current position = some config ∧ after = state.setPhase id body (patched migrate valid config body)) ∨
    (∃ id createdAt body config, event = .insert id createdAt ∧ state.Merged id body config ∧
      after = setPhase { state with rows := state.rows ++ [⟨config, createdAt⟩] } id body (.answered .ok)) ∨
    (∃ id body phase, event = .fail id ∧ state.requests.lookup id = some ⟨body, phase⟩ ∧ phase ≠ .answered .ok ∧
      after = state.setPhase id body (.answered .internalServerError)) := by
  cases event with
  | read id position =>
      simp only [step] at taken
      split at taken
      · rename_i body found
        obtain ⟨config, read, rfl⟩ := Option.map_eq_some_iff.mp taken
        exact .inl ⟨id, position, body, config, rfl, found, read, rfl⟩
      · cases taken
  | insert id createdAt =>
      simp only [step] at taken
      split at taken
      · rename_i body config found
        cases taken
        exact .inr (.inl ⟨id, createdAt, body, config, rfl, found, rfl⟩)
      · cases taken
  | fail id =>
      simp only [step] at taken
      split at taken
      · cases taken
      · cases taken
      · rename_i body phase running found
        cases taken
        refine .inr (.inr ⟨id, body, phase, rfl, found, ?_, rfl⟩)
        rintro rfl
        exact running .ok rfl

theorem succeeded_setPhase {id other : Nat} {body otherBody : PatchConfigBody} {old new : PatchPhase}
    (found : state.requests.lookup id = some ⟨body, old⟩) (unsuccessful : old ≠ .answered .ok) (failed : new ≠ .answered .ok) :
    (state.setPhase id body new).Succeeded other otherBody ↔ state.Succeeded other otherBody := by
  simp only [Succeeded, setPhase, Table.lookup_insert_ite]
  split
  · rename_i same
    rw [same, found]
    simp [unsuccessful, failed]
  · rfl

theorem alone_setPhase {id other : Nat} {body otherBody : PatchConfigBody} {old new : PatchPhase}
    (found : state.requests.lookup id = some ⟨body, old⟩) (unsuccessful : old ≠ .answered .ok) (failed : new ≠ .answered .ok) :
    (state.setPhase id body new).Alone other otherBody ↔ state.Alone other otherBody := by
  simp only [Alone, succeeded_setPhase found unsuccessful failed]

theorem merged_setPhase {id other : Nat} {body otherBody : PatchConfigBody} {new : PatchPhase} {config : Json}
    (merged : (state.setPhase id body new).Merged other otherBody config) :
    (other = id ∧ otherBody = body ∧ new = .merged config) ∨ other ≠ id ∧ state.Merged other otherBody config := by
  simp only [Merged, setPhase, Table.lookup_insert_ite] at merged
  split at merged
  · rename_i same
    cases merged
    exact .inl ⟨same, rfl, rfl⟩
  · rename_i different
    exact .inr ⟨different, merged⟩

theorem Carries.setPhase (carries : state.Carries) {id : Nat} {body : PatchConfigBody} {old new : PatchPhase}
    (found : state.requests.lookup id = some ⟨body, old⟩) (unsuccessful : old ≠ .answered .ok) (failed : new ≠ .answered .ok)
    (merged : ∀ config, new = .merged config → (∀ other otherBody held, ¬ state.Merged other otherBody held) ∧
      body.entry config = some body.value ∧ ∀ other otherBody, state.Succeeded other otherBody →
        state.Alone other otherBody → ¬ otherBody.SamePlace body → otherBody.entry config = some otherBody.value) :
    (state.setPhase id body new).Carries := by
  constructor
  case kept =>
    intro row member latest other otherBody succeeded alone
    rw [succeeded_setPhase found unsuccessful failed] at succeeded
    rw [alone_setPhase found unsuccessful failed] at alone
    exact carries.kept row member latest other otherBody succeeded alone
  case stored =>
    intro other otherBody succeeded
    exact carries.stored ((succeeded_setPhase found unsuccessful failed).mp succeeded)
  case single =>
    intro first second firstBody secondBody firstConfig secondConfig firstMerged secondMerged
    obtain ⟨rfl, -, new⟩ | ⟨-, held⟩ := merged_setPhase firstMerged
    · obtain ⟨rfl, -, -⟩ | ⟨-, held⟩ := merged_setPhase secondMerged
      · rfl
      · exact absurd held ((merged _ new).1 _ _ _)
    · obtain ⟨rfl, -, new⟩ | ⟨-, other⟩ := merged_setPhase secondMerged
      · exact absurd held ((merged _ new).1 _ _ _)
      · exact carries.single held other
  case own =>
    intro other otherBody config held
    obtain ⟨-, rfl, new⟩ | ⟨-, held⟩ := merged_setPhase held
    · exact (merged config new).2.1
    · exact carries.own held
  case others =>
    intro holder holderBody config other otherBody held succeeded alone elsewhere
    rw [succeeded_setPhase found unsuccessful failed] at succeeded
    rw [alone_setPhase found unsuccessful failed] at alone
    obtain ⟨-, rfl, new⟩ | ⟨-, held⟩ := merged_setPhase held
    · exact (merged config new).2.2 other otherBody succeeded alone elsewhere
    · exact carries.others held succeeded alone elsewhere

/-! ## Serialized requests -/

/-- A request reads while no other is between its read and its insert, migrating the config it reads keeps the entries
that were patched, and an insert is later than every row before it. -/
def Serialized (migrate : Json → Json) (state : ConfigState) : ConfigEvent → Prop
  | .read _ position =>
      (∀ other body config, ¬ state.Merged other body config) ∧
        ∀ config, state.current position = some config → ∀ id body, state.Succeeded id body →
          body.entry (migrate config) = body.entry config
  | .insert _ createdAt => ∀ row ∈ state.rows, row.createdAt < createdAt
  | .fail _ => True

theorem current_some {position : Nat} {config : Json} (read : state.current position = some config) :
    state.rows = [] ∨ ∃ row ∈ state.rows, state.isLatest row = true ∧ row.configJson = config := by
  unfold current at read
  split at read
  · rename_i empty
    exact .inl (List.isEmpty_iff.mp empty)
  · obtain ⟨row, found, rfl⟩ := Option.map_eq_some_iff.mp read
    obtain ⟨held, latest⟩ := Option.filter_eq_some_iff.mp found
    exact .inr ⟨row, List.mem_of_getElem? held, latest, rfl⟩

theorem Carries.read (carries : state.Carries) {id position : Nat} {body : PatchConfigBody} {config : Json}
    (found : state.requests.lookup id = some ⟨body, .waiting⟩) (read : state.current position = some config)
    (serialized : Serialized migrate state (.read id position)) :
    (state.setPhase id body (patched migrate valid config body)).Carries := by
  apply carries.setPhase found (by simp) patched_ne_ok
  intro inserted merged
  have ok := patched_merged merged
  refine ⟨serialized.1, entry_mergePatch_self ok, fun other otherBody succeeded alone elsewhere => ?_⟩
  rw [entry_mergePatch_other ok elsewhere, serialized.2 config read other otherBody succeeded]
  obtain empty | ⟨row, member, latest, rfl⟩ := current_some read
  · exact absurd empty (carries.stored succeeded)
  · exact carries.kept row member latest other otherBody succeeded alone

theorem Carries.insert (carries : state.Carries) {id : Nat} {createdAt : DateTime} {body : PatchConfigBody} {config : Json}
    (merged : state.Merged id body config) (serialized : Serialized migrate state (.insert id createdAt)) :
    (ConfigState.setPhase { state with rows := state.rows ++ [⟨config, createdAt⟩] } id body (.answered .ok)).Carries := by
  let after := ConfigState.setPhase { state with rows := state.rows ++ [⟨config, createdAt⟩] } id body (.answered .ok)
  have succeeded {other : Nat} {otherBody : PatchConfigBody} : after.Succeeded other otherBody ↔
      if other = id then otherBody = body else state.Succeeded other otherBody := by
    simp only [Succeeded, after, ConfigState.setPhase, Table.lookup_insert_ite]
    split <;> simp [eq_comm]
  have idle {other : Nat} {otherBody : PatchConfigBody} {held : Json} : ¬ after.Merged other otherBody held := by
    intro still
    obtain ⟨-, -, answered⟩ | ⟨different, still⟩ := merged_setPhase still
    · cases answered
    · exact different (carries.single still merged)
  constructor
  case kept =>
    -- The new row is the only latest one, and it carries the other entries since the request read it alone.
    intro row member latest other otherBody success alone
    obtain old | new := List.mem_append.mp member
    · have later := List.all_eq_true.mp latest ⟨config, createdAt⟩ (List.mem_append_right _ List.mem_cons_self)
      exact absurd (serialized row old) (not_lt.mpr (of_decide_eq_true later))
    · obtain rfl := List.mem_singleton.mp new
      by_cases same : other = id
      · rw [succeeded, if_pos same] at success
        rw [success]
        exact carries.own merged
      · rw [succeeded, if_neg same] at success
        apply carries.others merged success
        · intro third thirdBody thirdSuccess place
          by_cases holder : third = id
          · rw [holder] at thirdSuccess
            rw [Succeeded, merged] at thirdSuccess
            cases thirdSuccess
          · exact alone third thirdBody (succeeded.mpr (by rw [if_neg holder]; exact thirdSuccess)) place
        · intro place
          exact same (alone id body (succeeded.mpr (by rw [if_pos rfl])) ⟨place.1.symm, place.2.symm⟩).symm
  case stored =>
    intro _ _ _
    exact List.append_ne_nil_of_right_ne_nil _ (List.cons_ne_nil _ _)
  case single =>
    intro _ _ _ _ _ _ still
    exact absurd still idle
  case own =>
    intro _ _ _ still
    exact absurd still idle
  case others =>
    intro _ _ _ _ _ still
    exact absurd still idle

theorem Carries.step (carries : state.Carries) (serialized : Serialized migrate state event)
    (taken : step migrate valid state event = some after) : after.Carries := by
  obtain ⟨id, position, body, config, rfl, found, read, rfl⟩ | ⟨id, createdAt, body, config, rfl, merged, rfl⟩ |
    ⟨id, body, phase, rfl, found, unsuccessful, rfl⟩ := step_cases taken
  · exact carries.read found read serialized
  · exact carries.insert merged serialized
  · exact carries.setPhase found unsuccessful (by simp) (by simp)

def Fresh (state : ConfigState) : Prop := ∀ id request, state.requests.lookup id = some request → request.phase = .waiting

theorem Fresh.carries (fresh : state.Fresh) : state.Carries := by
  have unsuccessful {id : Nat} {body : PatchConfigBody} : ¬ state.Succeeded id body := by
    intro succeeded
    cases fresh id _ succeeded
  have idle {id : Nat} {body : PatchConfigBody} {config : Json} : ¬ state.Merged id body config := by
    intro merged
    cases fresh id _ merged
  constructor
  case kept =>
    intro _ _ _ _ _ succeeded
    exact absurd succeeded unsuccessful
  case stored =>
    intro _ _ succeeded
    exact absurd succeeded unsuccessful
  case single =>
    intro _ _ _ _ _ _ merged
    exact absurd merged idle
  case own =>
    intro _ _ _ merged
    exact absurd merged idle
  case others =>
    intro _ _ _ _ _ merged
    exact absurd merged idle

/-- In a run of any number of patches that are serialized, no successful one is lost: whenever the config is read, it has
the value of every patch that alone wrote its entry. -/
theorem patches_kept {migrate : Json → Json} {valid : Json → Bool} {state final : ConfigState} {events : List ConfigEvent}
    (fresh : state.Fresh) (serialized : Meets (step migrate valid) (Serialized migrate) state events)
    (ran : run (step migrate valid) state events = some final) : final.Kept := by
  have carries : final.Carries :=
    run_invariant_of_meets (fun _ _ _ holds met taken => Carries.step holds met taken) fresh.carries serialized ran
  exact carries.kept

/-! ## Two patches -/

def relayPatch : PatchConfigBody := ⟨"relay", "enabled", .bool true⟩

def ollamaPatch : PatchConfigBody := ⟨"ollama", "enabled", .bool false⟩

def relayConfig : Json := .object [("relay", .object [("enabled", .bool true)])]

def ollamaConfig : Json := .object [("ollama", .object [("enabled", .bool false)])]

def twoPatches : ConfigState :=
  ⟨[], AList.insert 1 ⟨relayPatch, .waiting⟩ (AList.insert 2 ⟨ollamaPatch, .waiting⟩ ∅)⟩

def bothAnswered (rows : List ConfigRow) : ConfigState :=
  ⟨rows, AList.insert 2 ⟨ollamaPatch, .answered .ok⟩ (AList.insert 1 ⟨relayPatch, .answered .ok⟩ ∅)⟩

/-- Both requests read before either inserts: the second row is without the first patch. -/
theorem patch_lost :
    ∃ final, run (step id fun _ => true) twoPatches [.read 1 0, .read 2 0, .insert 1 10, .insert 2 20] = some final ∧
      final.Succeeded 1 relayPatch ∧ final.Succeeded 2 ollamaPatch ∧ ¬ final.Kept := by
  refine ⟨bothAnswered [⟨relayConfig, 10⟩, ⟨ollamaConfig, 20⟩], rfl, rfl, rfl, ?_⟩
  intro kept
  have alone : (bothAnswered [⟨relayConfig, 10⟩, ⟨ollamaConfig, 20⟩]).Alone 1 relayPatch := by
    intro other otherBody succeeded place
    simp only [bothAnswered, Succeeded, Table.lookup_insert_ite] at succeeded
    split at succeeded
    · cases succeeded
      exact absurd place.1 (by decide)
    · split at succeeded
      · assumption
      · cases succeeded
  have value := kept ⟨ollamaConfig, 20⟩ (by simp [bothAnswered]) rfl 1 relayPatch rfl alone
  cases value

theorem patches_kept_in_turn :
    ∃ final, run (step id fun _ => true) twoPatches [.read 1 0, .insert 1 10, .read 2 0, .insert 2 20] = some final ∧
      final.Succeeded 1 relayPatch ∧ final.Succeeded 2 ollamaPatch ∧ final.Kept := by
  have fresh : twoPatches.Fresh := by
    intro id request found
    simp only [twoPatches, Table.lookup_insert_ite, AList.lookup_empty] at found
    split at found
    · cases found
      rfl
    · split at found <;> cases found
      rfl
  let events : List ConfigEvent := [.read 1 0, .insert 1 10, .read 2 0, .insert 2 20]
  let both : Json := .object [("relay", .object [("enabled", .bool true)]), ("ollama", .object [("enabled", .bool false)])]
  have ran : run (step id fun _ => true) twoPatches events = some (bothAnswered [⟨relayConfig, 10⟩, ⟨both, 20⟩]) := rfl
  have idle : ∀ other body config, ¬ Merged ⟨[⟨relayConfig, 10⟩],
      AList.insert 1 ⟨relayPatch, .answered .ok⟩ (AList.insert 2 ⟨ollamaPatch, .waiting⟩ ∅)⟩ other body config := by
    intro other body config merged
    simp only [Merged, Table.lookup_insert_ite, AList.lookup_empty] at merged
    split at merged
    · cases merged
    · split at merged <;> cases merged
  have serialized : Meets (step id fun _ => true) (Serialized id) twoPatches events := by
    rw [meets_cons_iff rfl, meets_cons_iff rfl, meets_cons_iff rfl, meets_cons_iff rfl]
    refine ⟨⟨fun other body config merged => ?_, fun _ _ _ _ _ => rfl⟩, ?_, ⟨idle, fun _ _ _ _ _ => rfl⟩, ?_, trivial⟩
    · cases fresh other _ merged
    · intro row member
      cases member
    · intro row member
      obtain rfl := List.mem_singleton.mp member
      exact (by decide : (10 : Int) < 20)
  exact ⟨_, ran, rfl, rfl, patches_kept fresh serialized ran⟩

end ConfigState
end MacMgmt.Server
