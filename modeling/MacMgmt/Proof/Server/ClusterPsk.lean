import MacMgmt.Proof.Server.ConfigPatches
import MacMgmt.Server.Config

/-!
# One key for a cluster

A request that stores a key answers with it at once, so a column that is no longer empty has been answered from. Two
requests that both read the empty column store two keys, and a NULL column is never filled.
-/

namespace MacMgmt.Server
open Lib

/-! ## The key in a response -/

theorem mergePatch_psk_of_takesKey {config : Json} (takes : ClusterPsk.TakesKey config) (psk : List UInt8) :
    ∃ merged, mergePatch config (pskBody psk) = .ok merged := by
  obtain ⟨fields, rfl, relay, held⟩ := takes
  simp only [mergePatch, pskBody, held]
  exact ⟨_, rfl⟩

theorem takesKey_of_mergePatch {config merged : Json} {psk : List UInt8} (ok : mergePatch config (pskBody psk) = .ok merged) :
    ClusterPsk.TakesKey config := by
  obtain ⟨fields, relay, rfl, held, _⟩ := mergePatch_ok ok
  exact ⟨fields, rfl, relay, held⟩

namespace ClusterPsk

theorem key_insertPsk {config : Json} (takes : TakesKey config) (psk : List UInt8) :
    (pskBody psk).entry (insertPsk config psk) = some (.string (String.ofList (hexEncode psk))) := by
  obtain ⟨merged, ok⟩ := mergePatch_psk_of_takesKey takes psk
  rw [insertPsk, ok]
  exact entry_mergePatch_self ok

theorem key_of_not_takesKey {config : Json} (refuses : ¬ TakesKey config) (psk : List UInt8) :
    (pskBody psk).entry (insertPsk config psk) = none := by
  have same : insertPsk config psk = config := by
    unfold insertPsk
    cases result : mergePatch config (pskBody psk) with
    | error status => rfl
    | ok merged => exact absurd (takesKey_of_mergePatch result) refuses
  rw [same]
  cases config with
  | object fields =>
      cases found : fields.lookup "relay" with
      | none => exact absurd ⟨fields, rfl, [], by rw [found]; rfl⟩ refuses
      | some relay =>
          cases relay with
          | object inner => exact absurd ⟨fields, rfl, inner, by rw [found]; rfl⟩ refuses
          | null | bool value | number literal | string value | array items =>
              simp [PatchConfigBody.entry, pskBody, Json.field, found]
  | null | bool value | number literal | string value | array items => rfl

theorem carries_insertPsk_iff (config : Json) (psk : List UInt8) :
    Carries (insertPsk config psk) (some psk) ↔ TakesKey config ∧ psk.length = 32 := by
  constructor
  · rintro ⟨key, stored, held⟩
    cases stored
    refine ⟨?_, key.property⟩
    by_contra refuses
    have none := key_of_not_takesKey refuses key.val
    rw [show (pskBody key.val).entry (insertPsk config key.val) = _ from held] at none
    cases none
  · rintro ⟨takes, long⟩
    exact ⟨⟨psk, long⟩, rfl, key_insertPsk takes psk⟩

/-! ## What a step answers -/

def isAnswered : GetConfigPhase → Bool
  | .answered _ => true
  | .reading _ | .generating _ => false

theorem answered_insert {state after : ClusterPsk} {id : Nat} {old phase : GetConfigPhase}
    (held : state.requests.lookup id = some old) (waits : isAnswered old = false)
    (requests : after.requests = state.requests.insert id phase) (response : Json) :
    after.Answered response ↔ state.Answered response ∨ phase = .answered response := by
  unfold Answered
  simp only [requests, Table.lookup_insert_ite]
  constructor
  · rintro ⟨other, found⟩
    split at found
    · exact .inr (Option.some.inj found)
    · exact .inl ⟨other, found⟩
  · rintro (⟨other, found⟩ | rfl)
    · refine ⟨other, ?_⟩
      have different : other ≠ id := by
        rintro rfl
        rw [held] at found
        cases found
        cases waits
      rw [if_neg different]
      exact found
    · exact ⟨id, if_pos rfl⟩

/-- A request that holds no key found the column empty; who filled it since has answered. -/
def Filled (state : ClusterPsk) : Prop :=
  ∀ id config, state.requests.lookup id = some (.generating config) → state.psk = some [] ∨ ∃ response, state.Answered response

inductive Stepped (migrate : Json → Json) (state : ClusterPsk) : GetConfigEvent → ClusterPsk → Prop where
  | start {id : Nat} {config : Json} (fresh : state.requests.lookup id = none) :
      Stepped migrate state (.start id config) { state with requests := state.requests.insert id (.reading (migrate config)) }
  | null {id : Nat} {config : Json} (held : state.requests.lookup id = some (.reading config)) (column : state.psk = none) :
      Stepped migrate state (.read id) { state with requests := state.requests.insert id (.answered config) }
  | empty {id : Nat} {config : Json} (held : state.requests.lookup id = some (.reading config)) (column : state.psk = some []) :
      Stepped migrate state (.read id) { state with requests := state.requests.insert id (.generating config) }
  | held {id : Nat} {config : Json} {psk : List UInt8} (held : state.requests.lookup id = some (.reading config))
      (column : state.psk = some psk) (filled : psk ≠ []) :
      Stepped migrate state (.read id) { state with requests := state.requests.insert id (.answered (insertPsk config psk)) }
  | stored {id : Nat} {key : PskKey} {config : Json} (held : state.requests.lookup id = some (.generating config)) :
      Stepped migrate state (.store id key)
        { psk := some key.val, requests := state.requests.insert id (.answered (insertPsk config key.val)) }

section Step
variable {migrate : Json → Json} {state after : ClusterPsk} {event : GetConfigEvent}

theorem stepped_of_step (taken : step migrate state event = some after) : Stepped migrate state event after := by
  cases event with
  | start id config =>
      obtain ⟨fresh, same⟩ := Option.ite_none_left_eq_some.mp taken
      cases same
      exact .start (AList.lookup_eq_none.mpr fresh)
  | read id =>
      simp only [step] at taken
      split at taken
      · rename_i config held
        cases taken
        obtain column | ⟨psk, column⟩ : state.psk = none ∨ ∃ psk, state.psk = some psk := Option.eq_none_or_eq_some _
        · simpa only [column] using Stepped.null held column
        · by_cases empty : psk = []
          · subst empty
            simpa only [column, if_true] using Stepped.empty held column
          · simpa only [column, empty, if_false] using Stepped.held held column empty
      all_goals cases taken
  | store id key =>
      simp only [step] at taken
      split at taken
      · rename_i config held
        cases taken
        exact .stored held
      all_goals cases taken

theorem Stepped.filled (stepped : Stepped migrate state event after) (filled : Filled state) : Filled after := by
  intro other config generating
  cases stepped with
  | start fresh =>
      rw [Table.lookup_insert_ite] at generating
      split at generating
      · cases generating
      · refine (filled other config generating).imp id ?_
        rintro ⟨response, id, answered⟩
        refine ⟨response, id, ?_⟩
        rw [Table.lookup_insert_ite, if_neg ?_]
        · exact answered
        · rintro rfl
          rw [fresh] at answered
          cases answered
  | null held column => exact .inr ⟨_, (answered_insert held rfl rfl _).mpr (.inr rfl)⟩
  | empty held column => exact .inl column
  | held held column kept => exact .inr ⟨_, (answered_insert held rfl rfl _).mpr (.inr rfl)⟩
  | stored held => exact .inr ⟨_, (answered_insert held rfl rfl _).mpr (.inr rfl)⟩

theorem oneKey_answer_iff {id : Nat} {old : GetConfigPhase} {response : Json} (held : state.requests.lookup id = some old)
    (waits : isAnswered old = false) (requests : after.requests = state.requests.insert id (.answered response)) :
    OneKey after ↔ Carries response after.psk ∧ ∀ other, state.Answered other → Carries other after.psk := by
  unfold OneKey
  simp only [answered_insert held waits requests, GetConfigPhase.answered.injEq]
  constructor
  · intro all
    exact ⟨all response (.inr rfl), fun other answered => all other (.inl answered)⟩
  · rintro ⟨own, others⟩ other (answered | rfl)
    · exact others other answered
    · exact own

theorem carries_key_iff {response : Json} {psk : Option (List UInt8)} (carries : Carries response psk) (key : PskKey) :
    Carries response (some key.val) ↔ psk = some key.val := by
  obtain ⟨held, stored, entry⟩ := carries
  constructor
  · rintro ⟨other, same, found⟩
    rw [entry, Option.some.injEq, Json.string.injEq, String.ofList_inj] at found
    have equal : held.val = other.val := hexEncode_injective found
    rw [stored, equal, same]
  · rintro rfl
    exact ⟨held, stored, entry⟩

theorem Stepped.oneKey_iff (stepped : Stepped migrate state event after) (filled : Filled state) (oneKey : OneKey state) :
    OneKey after ↔ Steady state event := by
  cases stepped with
  | @start id config fresh =>
      refine ⟨fun _ => trivial, fun _ response ⟨other, found⟩ => ?_⟩
      rw [Table.lookup_insert_ite] at found
      split at found
      · cases found
      · exact oneKey response ⟨other, found⟩
  | null held column =>
      rw [oneKey_answer_iff held rfl rfl]
      constructor
      · rintro ⟨⟨key, stored, _⟩, _⟩
        rw [column] at stored
        cases stored
      · intro steady
        rcases steady _ held with empty | ⟨_, key, stored⟩
        · rw [column] at empty
          cases empty
        · rw [column] at stored
          cases stored
  | empty held column =>
      refine ⟨fun _ config found => .inl column, fun _ response answered => ?_⟩
      refine oneKey response (((answered_insert held rfl rfl response).mp answered).resolve_right ?_)
      intro same
      cases same
  | @held id config psk held column kept =>
      rw [oneKey_answer_iff held rfl rfl, column, carries_insertPsk_iff]
      constructor
      · rintro ⟨⟨takes, long⟩, _⟩ other same
        rw [held] at same
        cases same
        exact .inr ⟨takes, ⟨psk, long⟩, column⟩
      · intro steady
        rcases steady config held with empty | ⟨takes, key, stored⟩
        · rw [column, Option.some.injEq] at empty
          exact absurd empty kept
        · rw [column, Option.some.injEq] at stored
          refine ⟨⟨takes, stored ▸ key.property⟩, fun other answered => ?_⟩
          exact column ▸ oneKey other answered
  | @stored id key config held =>
      rw [oneKey_answer_iff held rfl rfl, carries_insertPsk_iff]
      constructor
      · rintro ⟨⟨takes, _⟩, others⟩ other same
        rw [held] at same
        cases same
        refine ⟨takes, (filled id config held).imp_right ?_⟩
        rintro ⟨response, answered⟩
        exact (carries_key_iff (oneKey response answered) key).mp (others response answered)
      · intro steady
        obtain ⟨takes, column⟩ := steady config held
        refine ⟨⟨takes, key.property⟩, fun other answered => ?_⟩
        rcases column with empty | same
        · obtain ⟨stored, column, _⟩ := oneKey other answered
          rw [empty, Option.some.injEq] at column
          have long := stored.property
          rw [← column] at long
          cases long
        · exact (carries_key_iff (oneKey other answered) key).mpr same

end Step

/-! ## Whole runs -/

theorem psk_agrees_iff (migrate : Json → Json) (psk : Option (List UInt8)) (events : List GetConfigEvent) (final : ClusterPsk)
    (ran : run (step migrate) (start psk) events = some final) :
    Always (step migrate) OneKey (start psk) events ↔ Meets (step migrate) Steady (start psk) events := by
  refine @always_iff_meets _ _ (step migrate) Filled OneKey Steady ?_ ?_ _ _ _ ?_ ?_ ran
  · intro state event after filled taken
    exact (stepped_of_step taken).filled filled
  · intro state event after filled oneKey taken
    exact (stepped_of_step taken).oneKey_iff filled oneKey
  · rintro id config ⟨⟩
  · rintro response ⟨id, ⟨⟩⟩

def zeroKey : PskKey := ⟨List.replicate 32 0, rfl⟩

def oneKey : PskKey := ⟨List.replicate 32 1, rfl⟩

theorem psk_agrees_after_first :
    Always (step id) OneKey (start (some []))
      [.start 1 (.object []), .read 1, .store 1 zeroKey, .start 2 (.object []), .read 2] := by
  refine (psk_agrees_iff id (some []) _ _ rfl).mpr ?_
  have takes : TakesKey (.object []) := ⟨[], rfl, [], rfl⟩
  refine ⟨trivial, fun _ first => ?_⟩
  cases first
  refine ⟨fun _ _ => .inl rfl, fun _ second => ?_⟩
  cases second
  refine ⟨fun config held => ?_, fun _ third => ?_⟩
  · cases held
    exact ⟨takes, .inl rfl⟩
  · cases third
    refine ⟨trivial, fun _ fourth => ?_⟩
    cases fourth
    refine ⟨fun config held => ?_, fun _ _ => trivial⟩
    cases held
    exact .inr ⟨takes, zeroKey, rfl⟩

/-- A NULL column answers without a key, and two requests that both found the column empty answer with two. -/
theorem psk_null_or_overtaken :
    (∃ final response, run (step id) (start none) [.start 1 (.object []), .read 1] = some final ∧
      final.Answered response ∧ response.field "relay" = none) ∧
    ∃ final first second,
      run (step id) (start (some []))
        [.start 1 (.object []), .start 2 (.object []), .read 1, .read 2, .store 1 zeroKey, .store 2 oneKey] = some final ∧
      final.Answered first ∧ final.Answered second ∧
      (pskBody []).entry first ≠ (pskBody []).entry second := by
  refine ⟨⟨_, _, rfl, ⟨1, rfl⟩, rfl⟩, _, _, _, rfl, ⟨1, rfl⟩, ⟨2, rfl⟩, ?_⟩
  intro same
  have keys : hexEncode zeroKey.val = hexEncode oneKey.val := by
    rw [show (pskBody []).entry _ = some (.string (String.ofList (hexEncode zeroKey.val))) from rfl,
      show (pskBody []).entry _ = some (.string (String.ofList (hexEncode oneKey.val))) from rfl,
      Option.some.injEq, Json.string.injEq, String.ofList_inj] at same
    exact same
  exact absurd (hexEncode_injective keys) (by decide)

end ClusterPsk
end MacMgmt.Server
