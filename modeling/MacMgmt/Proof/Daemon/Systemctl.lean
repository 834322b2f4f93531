import MacMgmt.Daemon.Systemctl

/-!
# Who acts on a unit

The scan of the shim waits for fewer values than the real systemctl does, and an empty list of services stands for a list
that could not be had.
-/

namespace MacMgmt.Proof.Systemctl
open Daemon Supervisor

/-! ## Arguments -/

theorem splitBy_flag {takes : String → Bool} {pending : Bool} {arg : String} (flag : (pending || startsWithDash arg) = true)
    (rest : List String) : splitBy takes pending (arg :: rest) =
      (arg :: (splitBy takes (!pending && startsWithDash arg && takes arg) rest).1,
        (splitBy takes (!pending && startsWithDash arg && takes arg) rest).2) := by
  rw [splitBy]
  simp only [flag, if_true]

theorem splitBy_unit {takes : String → Bool} {arg : String} (noDash : startsWithDash arg = false) (rest : List String) :
    splitBy takes false (arg :: rest) = ((splitBy takes false rest).1, arg :: (splitBy takes false rest).2) := by
  rw [splitBy]
  simp [noDash]

theorem splitBy_perm (takes : String → Bool) (pending : Bool) (args : List String) :
    (splitBy takes pending args).1.Sublist args ∧ (splitBy takes pending args).2.Sublist args ∧
      ((splitBy takes pending args).1 ++ (splitBy takes pending args).2).Perm args := by
  induction args generalizing pending with
  | nil => simp [splitBy]
  | cons arg rest ih =>
      cases flag : pending || startsWithDash arg with
      | true =>
          obtain ⟨flags, units, perm⟩ := ih (!pending && startsWithDash arg && takes arg)
          rw [splitBy_flag flag]
          exact ⟨flags.cons_cons arg, units.cons arg, perm.cons arg⟩
      | false =>
          obtain ⟨rfl, noDash⟩ := Bool.or_eq_false_iff.mp flag
          obtain ⟨flags, units, perm⟩ := ih false
          rw [splitBy_unit noDash]
          exact ⟨flags.cons arg, units.cons_cons arg, List.perm_middle.trans (perm.cons arg)⟩

theorem splitFlagsAndUnits_eq : ∀ args : List String, splitFlagsAndUnits args = splitBy keepsValue false args
  | [] => rfl
  | [arg] => by cases dash : startsWithDash arg <;> simp [splitFlagsAndUnits, splitBy, dash]
  | arg :: next :: rest => by
      cases dash : startsWithDash arg with
      | false =>
          rw [splitFlagsAndUnits, splitBy_unit dash, splitFlagsAndUnits_eq (next :: rest), dash]
          rfl
      | true =>
          have first := @splitBy_flag keepsValue false arg (by simp [dash]) (next :: rest)
          rw [first, splitFlagsAndUnits, dash]
          cases keeps : keepsValue arg with
          | true =>
              rw [splitFlagsAndUnits_eq rest, splitBy_flag rfl]
              rfl
          | false =>
              rw [splitFlagsAndUnits_eq (next :: rest)]
              rfl

theorem dash_of_head_flags {takes : String → Bool} {args : List String} {flag : String}
    (first : flag ∈ (splitBy takes false args).1.head?) : startsWithDash flag = true := by
  induction args with
  | nil => cases first
  | cons arg rest ih =>
      cases dash : startsWithDash arg with
      | true =>
          rw [splitBy_flag (by simp [dash])] at first
          obtain rfl := Option.some.inj first
          exact dash
      | false =>
          rw [splitBy_unit dash] at first
          exact ih first

theorem splitBy_ne {takes takes' : String → Bool} {arg : String} {rest : List String} (noDash : startsWithDash arg = false) :
    splitBy takes true (arg :: rest) ≠ splitBy takes' false (arg :: rest) := by
  rw [splitBy_flag rfl, splitBy_unit noDash]
  intro same
  have first : arg ∈ (splitBy takes' false rest).1.head? := by
    rw [← (Prod.mk.inj same).1]
    rfl
  rw [dash_of_head_flags first] at noDash
  cases noDash

theorem splitBy_eq_iff (takes takes' : String → Bool) (pending pending' : Bool) (args : List String) :
    splitBy takes pending args = splitBy takes' pending' args ↔ scansAgree takes takes' pending pending' args = true := by
  induction args generalizing pending pending' with
  | nil => simp [splitBy, scansAgree]
  | cons arg rest ih =>
      rw [scansAgree, Bool.and_eq_true, ← ih]
      cases dash : startsWithDash arg with
      | true =>
          rw [splitBy_flag (by simp [dash]), splitBy_flag (by simp [dash])]
          simp [dash, Prod.ext_iff]
      | false =>
          cases pending <;> cases pending'
          · rw [splitBy_unit dash, splitBy_unit dash]
            simp [Prod.ext_iff]
          · simpa using (splitBy_ne dash).symm
          · simpa using splitBy_ne dash
          · rw [splitBy_flag rfl, splitBy_flag rfl]
            simp [Prod.ext_iff]

theorem parseKillSignal_eq (platform : Platform) (flags : List String) :
    parseKillSignal platform flags = ((firstSignal flags).map (parseSignal platform)).getD platform.sigterm := by
  induction flags with
  | nil => rfl
  | cons flag rest ih =>
      rw [parseKillSignal, firstSignal]
      cases (if flag = "-s" ∨ flag = "--signal" then rest.head? else none) with
      | some val => rfl
      | none =>
          cases signalSuffix flag with
          | some val => rfl
          | none => exact ih

/-! ## Units -/

variable (env : ShimEnv) (verb : ServiceVerb)

theorem managed_name {name : String} {svc : ServiceStatus} (found : env.managed name = some svc) : svc.name = name := by
  simpa using List.find?_some found

theorem acted_handleManaged (flags : List String) (number : Nat) {name : String} {svc : ServiceStatus}
    (same : svc.name = name) :
    (env.handleManaged verb flags number name svc).1.filterMap ShimAction.acted = [name] ∧
      (env.handleManaged verb flags number name svc).1.filterMap ShimAction.passed = [] := by
  cases verb <;> simp only [ShimEnv.handleManaged]
  case status | isActive => simp [ShimAction.acted, ShimAction.passed, same]
  all_goals cases env.answers number <;> simp [ShimAction.acted, ShimAction.passed]

theorem acted_handleAll (flags : List String) (number : Nat) (code : Int) (units : List String) :
    (env.handleAll verb flags number code units).1.filterMap ShimAction.acted =
        (units.filter fun unit => (env.managed (normalizeServiceName unit)).isSome).map normalizeServiceName ∧
      (env.handleAll verb flags number code units).1.filterMap ShimAction.passed = [] := by
  induction units generalizing number code with
  | nil => simp [ShimEnv.handleAll]
  | cons unit rest ih =>
      cases found : env.managed (normalizeServiceName unit) with
      | none => simpa [ShimEnv.handleAll, found] using ih number code
      | some svc =>
          obtain ⟨acted, passed⟩ := acted_handleManaged env verb flags number (managed_name env found)
          obtain ⟨actedRest, passedRest⟩ :=
            ih (number + 1) ((env.handleManaged verb flags number (normalizeServiceName unit) svc).2.getD code)
          simp only [ShimEnv.handleAll, found, List.filterMap_append, acted, passed, actedRest, passedRest]
          simp [found]

theorem managed_isSome (unit : String) :
    (env.managed (normalizeServiceName unit)).isSome = (!env.listFails && env.manages unit) := by
  rw [ShimEnv.managed, ShimEnv.listed, ShimEnv.manages]
  cases env.listFails with
  | true => rfl
  | false =>
      rw [Bool.eq_iff_iff]
      simp

theorem actions_handleServiceVerb (connects : env.connects = true) (rest : List String) :
    let (flags, units) := splitFlagsAndUnits rest
    let others := units.filter fun unit => !(!env.listFails && env.manages unit)
    (env.handleServiceVerb verb rest true).1.filterMap ShimAction.acted =
        (units.filter fun unit => !env.listFails && env.manages unit).map normalizeServiceName ∧
      (env.handleServiceVerb verb rest true).1.filterMap ShimAction.passed =
        if units = [] then [verb.text :: rest] else if others = [] then [] else [verb.text :: (flags ++ others)] := by
  cases split : splitFlagsAndUnits rest with | mk flags units =>
  have owned : env.unmanagedUnits units = units.filter fun unit => !(!env.listFails && env.manages unit) := by
    rw [ShimEnv.unmanagedUnits]
    exact List.filter_congr fun unit _ => by rw [← managed_isSome, Option.not_isSome]
  have acts := acted_handleAll env verb flags 0 0 units
  simp only [managed_isSome] at acts
  simp only [ShimEnv.handleServiceVerb, split, connects]
  by_cases none_ : units = []
  · simp [none_, ShimEnv.passthroughExec, ShimAction.acted, ShimAction.passed]
  · rw [← owned]
    obtain ⟨acted, passed⟩ := acts
    cases others : env.unmanagedUnits units <;>
      simp [none_, acted, passed, ShimEnv.passthroughExec, ShimAction.acted, ShimAction.passed]

theorem acts_right_iff (connects : env.connects = true) (rest : List String) :
    ((env.handleServiceVerb verb rest true).1.filterMap ShimAction.acted =
        ((splitFlagsAndUnits rest).2.filter env.manages).map normalizeServiceName ∧
      (env.handleServiceVerb verb rest true).1.filterMap ShimAction.passed =
        let (flags, units) := splitFlagsAndUnits rest
        let others := units.filter fun unit => !env.manages unit
        if units = [] then [verb.text :: rest] else if others = [] then [] else [verb.text :: (flags ++ others)]) ↔
      (env.listFails = true → ∀ unit ∈ (splitFlagsAndUnits rest).2, env.manages unit = false) := by
  have actions := actions_handleServiceVerb env verb connects rest
  simp only at actions
  rw [actions.1, actions.2]
  cases env.listFails with
  | false => simp
  | true =>
      constructor
      · rintro ⟨acted, -⟩ - unit member
        by_contra managed
        have within : normalizeServiceName unit ∈ ((splitFlagsAndUnits rest).2.filter env.manages).map normalizeServiceName :=
          List.mem_map_of_mem (List.mem_filter.mpr ⟨member, by simpa using managed⟩)
        rw [← acted] at within
        simp at within
      · intro none_
        have unmanaged := none_ rfl
        have noOwn : (splitFlagsAndUnits rest).2.filter env.manages = [] :=
          List.filter_eq_nil_iff.mpr fun unit member => by simp [unmanaged unit member]
        have all : (splitFlagsAndUnits rest).2.filter (fun unit => !env.manages unit) = (splitFlagsAndUnits rest).2 :=
          List.filter_eq_self.mpr fun unit member => by simp [unmanaged unit member]
        simp only [noOwn, all]
        simp

/-! ## The whole -/

def silentEnv : ShimEnv where
  platform := Platform.linux
  connects := true
  services := [⟨"ollama", some 1, none, none, none, false⟩]
  listFails := true
  answers := fun _ => .ok ()
  exits := fun _ => .ok 0

end MacMgmt.Proof.Systemctl
