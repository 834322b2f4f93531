import MacMgmt.Proof.Server.CatalogRefreshes

/-!
# The cache and the list of the enabled centers

A `refresh_all` that has read the list removes what the list is without. A refresh that was begun before may store it once more.
-/

namespace MacMgmt.Proof.Server
open Lib MacMgmt.Server SkillCenters

variable {state after : SkillCenters} {now : Nat}

/-! ## The built-in center is not refreshed -/

def pending : PollPhase → List Uuid
  | .refreshing _ _ remaining => remaining
  | .cleaning _ _ stale => stale
  | _ => []

def Own (builtin : CenterCatalog) (task : RefreshTask) (refresh : Refresh) : Prop :=
  refresh.builtinUrl = true ∧ match refresh.stage with
    | .fetching => ∃ request, task = .sync request
    | .diffing _ _ => False
    | .deleting catalog _ _ => catalog = builtin

def EachOwn (builtin : CenterCatalog) (refreshes : Table RefreshTask Refresh) : Prop :=
  ∀ task refresh, refreshes.lookup task = some refresh → isBuiltin refresh.center = true → Own builtin task refresh

structure BuiltinApart (state : SkillCenters) : Prop where
  row : ∀ id row, state.centers.lookup id = some row → isBuiltin id = true → row.builtinUrl = true
  pending : ∀ id ∈ pending state.poll, isBuiltin id = false
  listeners : ∀ id ∈ state.listeners, isBuiltin id = false
  refreshes : EachOwn state.builtin state.refreshes

theorem EachOwn.insert {builtin : CenterCatalog} {refreshes : Table RefreshTask Refresh} (each : EachOwn builtin refreshes)
    {task : RefreshTask} {refresh : Refresh} (new : isBuiltin refresh.center = true → Own builtin task refresh) :
    EachOwn builtin (refreshes.insert task refresh) := by
  intro other found looked own
  rw [Table.lookup_insert_ite] at looked
  split at looked
  · rename_i same
    cases looked
    rw [same]
    exact new own
  · exact each other found looked own

theorem EachOwn.erase {builtin : CenterCatalog} {refreshes : Table RefreshTask Refresh} (each : EachOwn builtin refreshes)
    (task : RefreshTask) : EachOwn builtin (refreshes.erase task) :=
  fun other found looked => each other found (lookup_of_erase looked)

theorem mem_enabledIds {id : Uuid} (member : id ∈ state.enabledIds) : ∃ row, state.centers.lookup id = some row := by
  obtain ⟨row, found⟩ := Option.isSome_iff_exists.mp (AList.lookup_isSome.mpr (AList.mem_keys.mpr member))
  exact ⟨row, (Table.lookup_retain_some.mp found).1⟩

theorem BuiltinApart.enabled (apart : BuiltinApart state) {id : Uuid} (member : id ∈ state.enabledIds)
    (own : state.hasBuiltinUrl id = false) : isBuiltin id = false := by
  obtain ⟨row, found⟩ := mem_enabledIds member
  by_contra builtin
  have url := apart.row id row found (by simpa using builtin)
  rw [hasBuiltinUrl, found] at own
  simp [url] at own

theorem builtinApart_act {event : SkillCenterEvent} (apart : BuiltinApart state) (taken : state.act event = some after) :
    BuiltinApart after := by
  cases event
  case delete task queried =>
    simp only [act] at taken
    split at taken
    · rename_i center builtinUrl catalog takenAt query queries found
      cases taken
      have left : EachOwn state.builtin
          (state.refreshes.insert task ⟨center, builtinUrl, .deleting catalog takenAt queries⟩) :=
        apart.refreshes.insert fun own => by
          have before := apart.refreshes task _ found own
          exact before
      cases queried
      · exact ⟨apart.row, apart.pending, apart.listeners, left⟩
      · exact ⟨apart.row, apart.pending, apart.listeners, left⟩
    · cases taken
  all_goals simp only [act] at taken
  case create id row =>
    split at taken
    · cases taken
    · rename_i allowed
      cases taken
      refine ⟨fun other found looked own => ?_, apart.pending, apart.listeners, apart.refreshes⟩
      simp only [Table.lookup_insert_ite] at looked
      split at looked
      · rename_i same
        cases looked
        subst same
        simp only [not_or, not_and] at allowed
        simpa using allowed.2 own
      · exact apart.row other found looked own
  case update id enabled =>
    split at taken
    · cases taken
    · cases taken
      refine ⟨fun other found looked own => ?_, apart.pending, apart.listeners, apart.refreshes⟩
      simp only [Table.lookup_modify] at looked
      split at looked
      · rename_i same
        obtain ⟨old, stored, rfl⟩ := Option.map_eq_some_iff.mp looked
        exact apart.row id old stored (same ▸ own)
      · exact apart.row other found looked own
  case remove id =>
    split at taken
    · cases taken
    · cases taken
      exact ⟨fun other found looked => apart.row other found (lookup_of_erase looked), apart.pending, apart.listeners,
        apart.refreshes⟩
  case refreshAll queried =>
    split at taken
    · cases taken
      refine ⟨apart.row, fun id member => ?_, apart.listeners, apart.refreshes⟩
      obtain ⟨listed, own⟩ := List.mem_filter.mp member
      cases queried with
      | false => cases listed
      | true => exact apart.enabled listed (by simpa using own)
    · cases taken
  case refreshNext id =>
    split at taken
    · rename_i list readAt remaining polling
      split at taken
      · cases taken
      · rename_i allowed
        cases taken
        have others := apart.pending
        rw [polling] at others
        simp only [not_or, not_not] at allowed
        exact ⟨apart.row, fun other member => others other (List.mem_of_mem_erase member), apart.listeners,
          apart.refreshes.insert fun own => by cases (others id allowed.1).symm.trans own⟩
    · cases taken
  case collect =>
    split at taken
    · split at taken
      · cases taken
      · cases taken
        refine ⟨apart.row, fun id member => ?_, apart.listeners, apart.refreshes⟩
        simpa using (Bool.and_eq_true_iff.mp (List.mem_filter.mp member).2).2
    · cases taken
  case cleanUp id =>
    split at taken
    · rename_i list readAt stale polling
      split at taken
      · cases taken
        have others := apart.pending
        rw [polling] at others
        exact ⟨apart.row, fun other member => others other (List.mem_of_mem_erase member), apart.listeners, apart.refreshes⟩
      · cases taken
    · cases taken
  case finish =>
    split at taken
    · cases taken
      exact ⟨apart.row, (fun _ member => by cases member), apart.listeners, apart.refreshes⟩
    · cases taken
  case spawnListeners queried =>
    split at taken
    · cases taken
      refine ⟨apart.row, (fun _ member => by cases member), fun id member => ?_, apart.refreshes⟩
      rcases List.mem_append.mp member with old | new
      · exact apart.listeners id old
      · obtain ⟨listed, own⟩ := List.mem_filter.mp new
        cases queried with
        | false => cases listed
        | true => exact apart.enabled listed (by simpa using (Bool.and_eq_true_iff.mp own).2)
    · cases taken
  case catalogChanged id =>
    split at taken
    · rename_i allowed
      cases taken
      exact ⟨apart.row, apart.pending, apart.listeners,
        apart.refreshes.insert fun own => by cases (apart.listeners id allowed.1).symm.trans own⟩
    · cases taken
  case syncNow request id =>
    split at taken
    · rename_i row found
      split at taken
      · cases taken
      · cases taken
        exact ⟨apart.row, apart.pending, apart.listeners,
          apart.refreshes.insert fun own => ⟨apart.row id row found own, request, rfl⟩⟩
    · cases taken
  case fetched task =>
    split at taken
    · rename_i center builtinUrl found
      cases taken
      refine ⟨apart.row, apart.pending, apart.listeners, apart.refreshes.insert fun own => ?_⟩
      obtain ⟨url, request, rfl⟩ := apart.refreshes task _ found own
      exact ⟨url, if_pos url⟩
    · cases taken
  case diff task =>
    split at taken
    · rename_i center builtinUrl catalog takenAt found
      cases taken
      exact ⟨apart.row, apart.pending, apart.listeners,
        apart.refreshes.insert fun own => absurd (apart.refreshes task _ found own).2 id⟩
    · cases taken
  case fetchFailed task =>
    split at taken
    · cases taken
      exact ⟨apart.row, apart.pending, apart.listeners, apart.refreshes.erase task⟩
    · cases taken
  case store task =>
    split at taken
    · cases taken
      exact ⟨apart.row, apart.pending, apart.listeners, apart.refreshes.erase task⟩
    · cases taken
  all_goals
    repeat' split at taken
    all_goals cases taken
    all_goals exact ⟨apart.row, apart.pending, apart.listeners, apart.refreshes⟩

/-! ## What is cached -/

def ListRead (now : Nat) (state : SkillCenters) : Prop :=
  match state.poll with
  | .refreshing _ readAt _ => readAt < now
  | .cleaning list readAt stale => readAt < now ∧ (state.record.resurrected = false → ∀ ids, list = some ids →
      ∀ id entry, isBuiltin id = false → state.cache.lookup id = some entry →
        id ∈ ids ∨ id ∈ stale ∨ readAt < entry.allowedAt)
  | _ => True

structure Cached (now : Nat) (state : SkillCenters) : Prop where
  known : ∀ id entry, isBuiltin id = false → state.cache.lookup id = some entry →
    state.record.fetched.lookup id = some entry.catalog
  held : state.record.spurious = false → ∀ id catalog, isBuiltin id = false →
    state.record.fetched.lookup id = some catalog → id ∈ state.cache
  builtin : (state.cache.lookup builtinSkillCenterId).map (·.catalog) = some state.builtin
  reading : ListRead now state

theorem ListRead.go (reading : ListRead now state) (poll : after.poll = state.poll)
    (cache : after.cache = state.cache) (resurrected : after.record.resurrected = state.record.resurrected) :
    ListRead (now + 1) after := by
  unfold ListRead at reading ⊢
  rw [poll, cache, resurrected]
  cases phase : state.poll <;> rw [phase] at reading
  case refreshing => exact reading.trans (Nat.lt_succ_self _)
  case cleaning => exact ⟨reading.1.trans (Nat.lt_succ_self _), reading.2⟩
  all_goals trivial

theorem Cached.go (cached : Cached now state) (cache : after.cache = state.cache)
    (fetched : after.record.fetched = state.record.fetched) (spurious : after.record.spurious = state.record.spurious)
    (builtin : after.builtin = state.builtin) (reading : ListRead (now + 1) after) : Cached (now + 1) after := by
  refine ⟨?_, ?_, ?_, reading⟩
  · rw [cache, fetched]
    exact cached.known
  · intro clean id catalog own found
    rw [spurious] at clean
    rw [fetched] at found
    rw [cache]
    exact cached.held clean id catalog own found
  · rw [cache, builtin]
    exact cached.builtin

theorem builtin_of_ne {id : Uuid} (own : isBuiltin id = false) : id ≠ builtinSkillCenterId := by
  rintro rfl
  cases own

theorem cached_cleanUp (apart : BuiltinApart state) (cached : Cached state.clock state) {id : Uuid}
    (taken : state.act (.cleanUp id) = some after) : Cached (state.clock + 1) after := by
  simp only [act] at taken
  split at taken
  · rename_i list readAt stale polling
    split at taken
    · rename_i member
      cases taken
      have own : isBuiltin id = false := apart.pending id (by rw [polling]; exact member)
      have reading := cached.reading
      rw [ListRead, polling] at reading
      refine ⟨fun other entry apart_ found => ?_, fun clean other catalog apart_ found => ?_, ?_, ?_⟩
      · rw [cacheRemove, Table.lookup_erase_ite] at found
        split at found
        · cases found
        · rename_i different
          have stored := cached.known other entry apart_ found
          change AList.lookup other (if list.isSome = true then _ else _) = _
          split
          · rwa [AList.lookup_erase_ne different]
          · exact stored
      · have read : list.isSome = true := by
          have both : (state.record.spurious || list.isNone) = false := clean
          cases list
          · simp at both
          · rfl
        have before : state.record.spurious = false := (Bool.or_eq_false_iff.mp clean).1
        change AList.lookup other (if list.isSome = true then _ else _) = _ at found
        rw [if_pos read, Table.lookup_erase_ite] at found
        split at found
        · cases found
        · rename_i different
          have kept := cached.held before other catalog apart_ found
          exact AList.mem_erase.mpr ⟨different, kept⟩
      · change (AList.lookup _ (state.cache.erase id)).map _ = _
        rw [AList.lookup_erase_ne (builtin_of_ne own).symm]
        exact cached.builtin
      · refine ⟨reading.1.trans (Nat.lt_succ_self _), fun clean ids same other entry apart_ found => ?_⟩
        rw [cacheRemove, Table.lookup_erase_ite] at found
        split at found
        · cases found
        · rename_i different
          rcases reading.2 clean ids same other entry apart_ found with listed | inside | allowed
          · exact .inl listed
          · exact .inr (.inl ((List.mem_erase_of_ne different).mpr inside))
          · exact .inr (.inr allowed)
    · cases taken
  · cases taken

theorem cached_collect (cached : Cached state.clock state) (taken : state.act .collect = some after) :
    Cached (state.clock + 1) after := by
  simp only [act] at taken
  split at taken
  · rename_i list readAt polling
    split at taken
    · cases taken
    · cases taken
      have reading := cached.reading
      rw [ListRead, polling] at reading
      refine cached.go rfl rfl rfl rfl ⟨reading.trans (Nat.lt_succ_self _), fun _ ids same id entry own found => ?_⟩
      subst same
      by_cases listed : id ∈ ids
      · exact .inl listed
      · refine .inr (.inl (List.mem_filter.mpr ⟨?_, by simp [listed, own]⟩))
        exact AList.mem_keys.mp (AList.lookup_isSome.mp (by rw [found]; rfl))
  · cases taken

theorem cached_store (apart : BuiltinApart state) (cached : Cached state.clock state) {task : RefreshTask}
    (taken : state.act (.store task) = some after) : Cached (state.clock + 1) after := by
  simp only [act] at taken
  split at taken
  · rename_i center builtinUrl catalog takenAt found
    cases taken
    refine ⟨fun other entry own looked => ?_, fun clean other stored own looked => ?_, ?_, ?_⟩
    · simp only [SkillCenters.endRefresh, cacheUpdate, Table.lookup_insert_ite] at looked ⊢
      split at looked
      · rename_i same
        cases looked
        rw [if_pos same]
      · rename_i different
        rw [if_neg different]
        exact cached.known other entry own looked
    · simp only [SkillCenters.endRefresh, cacheUpdate, Table.lookup_insert_ite] at looked
      change other ∈ state.cache.insert center _
      rw [AList.mem_insert]
      split at looked
      · rename_i same
        exact .inl same
      · exact .inr (cached.held clean other stored own looked)
    · simp only [SkillCenters.endRefresh, cacheUpdate, Table.lookup_insert_ite]
      split
      · rename_i same
        have own := apart.refreshes task _ found (by rw [← same]; rfl)
        exact congrArg some own.2
      · exact cached.builtin
    · have reading := cached.reading
      unfold ListRead at reading ⊢
      change match state.poll with | .refreshing _ readAt _ => _ | .cleaning list readAt stale => _ | _ => _
      cases phase : state.poll <;> rw [phase] at reading
      case refreshing => exact reading.trans (Nat.lt_succ_self _)
      case cleaning list readAt stale =>
        refine ⟨reading.1.trans (Nat.lt_succ_self _), fun clean ids same other entry own looked => ?_⟩
        obtain ⟨before, back⟩ := Bool.or_eq_false_iff.mp clean
        simp only [SkillCenters.endRefresh, cacheUpdate, Table.lookup_insert_ite] at looked
        split at looked
        · rename_i here
          cases looked
          subst here
          by_cases enabled : state.isEnabled other = true
          · simp only [enabled, if_true]
            exact .inr (.inr reading.1)
          · simp only [enabled, Bool.not_false, Bool.and_true, Option.isNone_eq_false_iff] at back
            obtain ⟨old, cachedBefore⟩ := Option.isSome_iff_exists.mp back
            simp only [enabled, if_false, cachedBefore, Option.map_some, Option.getD_some, Bool.false_eq_true]
            exact reading.2 before ids same other old own cachedBefore
        · exact reading.2 before ids same other entry own looked
      all_goals trivial
  · cases taken

theorem cached_act {event : SkillCenterEvent} (apart : BuiltinApart state) (cached : Cached state.clock state)
    (taken : state.act event = some after) : Cached (state.clock + 1) after := by
  cases event
  case cleanUp => exact cached_cleanUp apart cached taken
  case collect => exact cached_collect cached taken
  case store => exact cached_store apart cached taken
  case delete task queried =>
    simp only [act] at taken
    split at taken
    · cases taken
      cases queried
      · exact cached.go rfl rfl rfl rfl (cached.reading.go rfl rfl rfl)
      · exact cached.go rfl rfl rfl rfl (cached.reading.go rfl rfl rfl)
    · cases taken
  all_goals simp only [act] at taken
  case refreshAll queried =>
    split at taken
    · cases taken
      exact cached.go rfl rfl rfl rfl (Nat.lt_succ_self _)
    · cases taken
  case refreshNext id =>
    split at taken
    · rename_i list readAt remaining polling
      split at taken
      · cases taken
      · cases taken
        have reading := cached.reading
        rw [ListRead, polling] at reading
        exact cached.go rfl rfl rfl rfl (reading.trans (Nat.lt_succ_self _))
    · cases taken
  case finish =>
    split at taken
    · cases taken
      exact cached.go rfl rfl rfl rfl trivial
    · cases taken
  case spawnListeners queried =>
    split at taken
    · cases taken
      exact cached.go rfl rfl rfl rfl trivial
    · cases taken
  all_goals
    repeat' split at taken
    all_goals cases taken
    all_goals exact cached.go rfl rfl rfl rfl (cached.reading.go rfl rfl rfl)

structure Caching (state : SkillCenters) : Prop where
  apart : BuiltinApart state
  cached : Cached state.clock state

theorem caching_goOn (caching : Caching state) : Caching state.goOn := by
  obtain ⟨apart, cached⟩ := caching
  exact ⟨⟨apart.row, apart.pending, apart.listeners, apart.refreshes⟩,
    ⟨cached.known, cached.held, cached.builtin, cached.reading⟩⟩

theorem caching_step {event : SkillCenterEvent} (caching : Caching state) (taken : step state event = some after) :
    Caching after := by
  obtain ⟨middle, acted, rfl⟩ := step_some taken
  obtain ⟨apart, cached⟩ := caching_goOn caching
  have apart := builtinApart_act apart acted
  have cached := cached_act ‹_› cached acted
  rw [← act_clock acted] at cached
  exact ⟨⟨apart.row, apart.pending, apart.listeners, apart.refreshes⟩,
    ⟨cached.known, cached.held, cached.builtin, cached.reading⟩⟩

theorem exact_of_finish (cached : Cached state.clock state) (spurious : state.record.spurious = false)
    (resurrected : state.record.resurrected = false) (taken : state.act .finish = some after)
    {list : List Uuid} {readAt : Nat} (finished : after.record.finished = some (list, readAt)) :
    Exact after list readAt := by
  simp only [act] at taken
  split at taken
  · rename_i found began polling
    cases taken
    obtain ⟨ids, rfl, same⟩ := Option.map_eq_some_iff.mp finished
    cases same
    have reading := cached.reading
    rw [ListRead, polling] at reading
    refine ⟨fun id own => ?_, fun id entry own looked => ?_, cached.builtin⟩
    · change (state.cache.lookup id).map _ = state.record.fetched.lookup id
      cases looked : state.cache.lookup id with
      | some entry => exact (cached.known id entry own looked).symm
      | none =>
          cases fetched : state.record.fetched.lookup id with
          | none => rfl
          | some catalog =>
              have held := AList.lookup_isSome.mpr (cached.held spurious id catalog own fetched)
              rw [looked] at held
              cases held
    · rcases reading.2 resurrected _ rfl id entry own looked with listed | none_ | allowed
      · exact .inl listed
      · cases none_
      · exact .inr allowed
  · cases taken

theorem act_finished {event : SkillCenterEvent} (taken : state.act event = some after) (other : event ≠ .finish) :
    after.record.finished = state.record.finished := by
  cases event
  case finish => exact absurd rfl other
  case delete task queried =>
    simp only [act] at taken
    split at taken
    · cases taken
      cases queried <;> rfl
    · cases taken
  all_goals simp only [act] at taken
  all_goals repeat' split at taken
  all_goals cases taken
  all_goals rfl

theorem act_flags {event : SkillCenterEvent} (taken : state.act event = some after) (cleanUp : ∀ id, event ≠ .cleanUp id)
    (store : ∀ task, event ≠ .store task) :
    after.record.spurious = state.record.spurious ∧ after.record.resurrected = state.record.resurrected := by
  cases event
  case cleanUp id => exact absurd rfl (cleanUp id)
  case store task => exact absurd rfl (store task)
  case delete task queried =>
    simp only [act] at taken
    split at taken
    · cases taken
      cases queried <;> exact ⟨rfl, rfl⟩
    · cases taken
  all_goals simp only [act] at taken
  all_goals repeat' split at taken
  all_goals cases taken
  all_goals exact ⟨rfl, rfl⟩

/-! ## Runs -/

theorem flags_cleanUp (spurious : state.record.spurious = false) (resurrected : state.record.resurrected = false) {id : Uuid}
    (taken : state.act (.cleanUp id) = some after) :
    (after.record.spurious = false ∧ after.record.resurrected = false) ↔ Followable state (.cleanUp id) := by
  simp only [act] at taken
  split at taken
  · rename_i list readAt stale polling
    split at taken
    · cases taken
      have one : ((state.record.spurious || list.isNone) = false ∧ state.record.resurrected = false) ↔ list.isSome = true := by
        rw [spurious, resurrected]
        cases list <;> simp
      refine one.trans ⟨fun read => ?_, fun followable => followable list readAt stale polling⟩
      intro found began left same
      cases polling.symm.trans same
      exact read
    · cases taken
  · cases taken

theorem flags_store (spurious : state.record.spurious = false) (resurrected : state.record.resurrected = false)
    {task : RefreshTask} (taken : state.act (.store task) = some after) :
    (after.record.spurious = false ∧ after.record.resurrected = false) ↔ Followable state (.store task) := by
  simp only [act] at taken
  split at taken
  · rename_i center builtinUrl catalog takenAt found
    cases taken
    have one : (state.record.spurious = false ∧
        (state.record.resurrected || ((state.cache.lookup center).isNone && !state.isEnabled center)) = false) ↔
        state.isEnabled center = true ∨ center ∈ state.cache := by
      rw [spurious, resurrected, ← AList.lookup_isSome]
      cases state.isEnabled center <;> cases state.cache.lookup center <;> simp
    refine one.trans ⟨fun either => ?_, fun followable => followable center builtinUrl catalog takenAt found⟩
    intro center builtinUrl catalog takenAt same
    cases found.symm.trans same
    exact either
  · cases taken

theorem followed_step {event : SkillCenterEvent} (caching : Caching state) (followed : Followed state)
    (taken : step state event = some after) : Followed after ↔ Followable state event := by
  obtain ⟨middle, acted, rfl⟩ := step_some taken
  have spurious : state.goOn.record.spurious = false := followed.spurious
  have resurrected : state.goOn.record.resurrected = false := followed.resurrected
  have quiet : event ≠ .finish → ∀ list readAt, middle.record.finished = some (list, readAt) →
      Exact middle.tick list readAt := by
    intro other list readAt finished
    rw [act_finished acted other] at finished
    cases finished
  have from_flags : event ≠ .finish → (Followed middle.tick ↔
      middle.record.spurious = false ∧ middle.record.resurrected = false) := fun other =>
    ⟨fun followed => ⟨followed.spurious, followed.resurrected⟩, fun flags => ⟨flags.1, flags.2, quiet other⟩⟩
  cases event
  case cleanUp id =>
    have one := flags_cleanUp spurious resurrected acted
    exact (from_flags (by simp)).trans one
  case store task =>
    have one := flags_store spurious resurrected acted
    exact (from_flags (by simp)).trans one
  case finish =>
    obtain ⟨one, two⟩ := act_flags acted (by simp) (by simp)
    refine iff_of_true ⟨one.trans spurious, two.trans resurrected, fun list readAt finished => ?_⟩ trivial
    have exact_ := exact_of_finish (caching_goOn caching).cached spurious resurrected acted finished
    exact ⟨exact_.fetched, exact_.listed, exact_.builtin⟩
  all_goals
    obtain ⟨one, two⟩ := act_flags acted (by simp) (by simp)
    exact iff_of_true ((from_flags (by simp)).mpr ⟨one.trans spurious, two.trans resurrected⟩) trivial

theorem caching_start (builtin : CenterCatalog) : Caching (start builtin) := by
  refine ⟨⟨?_, ?_, ?_, ?_⟩, ⟨?_, ?_, ?_, trivial⟩⟩
  · intro _ _ found
    cases found
  · intro _ member
    cases member
  · intro _ member
    cases member
  · intro _ _ found
    cases found
  · intro id entry own found
    rw [start, AList.lookup_insert_ne (builtin_of_ne own)] at found
    cases found
  · intro _ id catalog _ found
    cases found
  · rw [start, AList.lookup_insert]
    rfl

theorem followed_start (builtin : CenterCatalog) : Followed (start builtin) :=
  ⟨rfl, rfl, fun _ _ finished => by cases finished⟩

/-- A list that cannot be read once, and a listener that goes on after its center is disabled. -/
def failedQuery : List SkillCenterEvent :=
  [.create 1 ⟨false, true⟩, .publish 1 ⟨[7], [], [], []⟩, .refreshAll true, .refreshNext 1, .fetched .poll, .diff .poll,
    .store .poll, .collect, .finish, .spawnListeners true, .refreshAll false, .collect, .cleanUp 1]

def disabledListener : List SkillCenterEvent :=
  failedQuery.take 10 ++ [.update 1 false, .refreshAll true, .collect, .cleanUp 1, .finish, .spawnListeners true,
    .catalogChanged 1, .fetched (.listener 1), .diff (.listener 1), .store (.listener 1)]

end MacMgmt.Proof.Server
