import MacMgmt.Server.StaffPings

/-!
# The two stores of the staff pings agree

The rows of the table are the pings of the files, each in the file of its session.
-/

namespace MacMgmt.Proof.Server.Pings
open Lib MacMgmt.Server PingStores

variable {files : SessionFiles} {tables : PingTables} {order : Traversal Uuid} {reading : Reading StaffPing}

structure Related (files : SessionFiles) (tables : PingTables) : Prop where
  sessions : ∀ session, session ∈ tables.sessions ↔ session ∈ files
  rows : ∀ ping, ping ∈ tables.rows ↔ ∃ file, files.lookup ping.sessionId = some file ∧ ping ∈ file.pings
  own : ∀ session file, files.lookup session = some file → ∀ ping ∈ file.pings, ping.sessionId = session
  ids : (tables.rows.map StaffPing.id).Nodup
  fileIds : ∀ session file, files.lookup session = some file → (file.pings.map StaffPing.id).Nodup

theorem Related.row (related : Related files tables) {session : Uuid} {file : SessionFile}
    (found : files.lookup session = some file) {ping : StaffPing} (member : ping ∈ file.pings) : ping ∈ tables.rows := by
  refine (related.rows ping).mpr ⟨file, ?_, member⟩
  rw [related.own session file found ping member, found]

theorem nodup_of_ids {pings : List StaffPing} (ids : (pings.map StaffPing.id).Nodup) : pings.Nodup := List.Nodup.of_map _ ids

/-! ## Listings -/

instance : Std.Total StaffPing.openFirst := ⟨fun first second => by
  unfold StaffPing.openFirst
  rcases lt_trichotomy first.resolved second.resolved with less | same | more
  · exact .inl (.inl less)
  · rcases le_total second.createdAt first.createdAt with later | earlier
    · exact .inl (.inr ⟨same, later⟩)
    · exact .inr (.inr ⟨same.symm, earlier⟩)
  · exact .inr (.inl more)⟩

instance : IsTrans StaffPing StaffPing.openFirst := ⟨by
  rintro first second third (less | ⟨same, later⟩) (less' | ⟨same', later'⟩)
  · exact .inl (less.trans less')
  · exact .inl (same' ▸ less)
  · exact .inl (same ▸ less')
  · exact .inr ⟨same.trans same', later'.trans later⟩⟩

instance : Std.Total StaffPing.newestFirst := ⟨fun first second => le_total second.createdAt first.createdAt⟩
instance : IsTrans StaffPing StaffPing.newestFirst := ⟨fun _ _ _ one two => le_trans two one⟩
instance : Std.Total StaffPing.oldestFirst := ⟨fun first second => le_total first.createdAt second.createdAt⟩
instance : IsTrans StaffPing StaffPing.oldestFirst := ⟨fun _ _ _ one two => le_trans one two⟩

theorem mem_pingsOf {selects : SessionFile → Bool} {ping : StaffPing} :
    ping ∈ SessionFiles.pingsOf order files selects ↔
      ∃ session file, files.lookup session = some file ∧ selects file = true ∧ ping ∈ file.pings := by
  simp only [SessionFiles.pingsOf, List.mem_flatMap, List.mem_filter]
  constructor
  · rintro ⟨⟨session, file⟩, ⟨entry, selected⟩, member⟩
    exact ⟨session, file, order.mem_entries.mp entry, selected, member⟩
  · rintro ⟨session, file, found, selected, member⟩
    exact ⟨⟨session, file⟩, ⟨order.mem_entries.mpr found, selected⟩, member⟩

theorem Related.nodup_pingsOf (related : Related files tables) (selects : SessionFile → Bool) :
    (SessionFiles.pingsOf order files selects).Nodup := by
  have keys : ((order.entries files).map Sigma.fst).Nodup :=
    ((order.perm files).map Sigma.fst).nodup_iff.mpr files.nodupKeys
  refine List.nodup_flatMap.mpr ⟨fun entry member => ?_, ?_⟩
  · have found := order.mem_entries.mp (List.mem_filter.mp member).1
    exact nodup_of_ids (related.fileIds entry.1 entry.2 found)
  · have different : ((order.entries files).filter fun entry => selects entry.2).Pairwise fun one two => one.1 ≠ two.1 :=
      (List.pairwise_map.mp keys).filter _
    refine different.imp_of_mem fun {one two} first second apart ping inOne inTwo => apart ?_
    have found := order.mem_entries.mp (List.mem_filter.mp first).1
    have found' := order.mem_entries.mp (List.mem_filter.mp second).1
    rw [← related.own _ _ found ping inOne, ← related.own _ _ found' ping inTwo]

theorem list_agrees (related : Related files tables) {clusterId : Uuid}
    (belongs : ∀ ping ∈ tables.rows, ∀ file, files.lookup ping.sessionId = some file →
      (file.scopeId = clusterId ↔ ping.clusterId = clusterId))
    (apart : Apart StaffPing.openFirst (tables.rows.filter fun ping => ping.clusterId = clusterId)) :
    (SessionFiles.pingsOf order files fun file => file.scopeId = clusterId).insertionSort StaffPing.openFirst =
      ((reading.read tables.rows).filter fun ping => ping.clusterId = clusterId).insertionSort StaffPing.openFirst := by
  have same (ping : StaffPing) : ping ∈ (SessionFiles.pingsOf order files fun file => file.scopeId = clusterId) ↔
      ping ∈ tables.rows.filter fun ping => ping.clusterId = clusterId := by
    simp only [mem_pingsOf, List.mem_filter, decide_eq_true_eq]
    constructor
    · rintro ⟨session, file, found, scope, member⟩
      have row := related.row found member
      exact ⟨row, (belongs ping row file (by rw [related.own session file found ping member, found])).mp scope⟩
    · rintro ⟨row, cluster⟩
      obtain ⟨file, found, member⟩ := (related.rows ping).mp row
      exact ⟨ping.sessionId, file, found, (belongs ping row file found).mpr cluster, member⟩
  refine insertionSort_eq_of_mem _ (related.nodup_pingsOf _) ((Reading.nodup_read (nodup_of_ids related.ids)).filter _)
    (fun ping => (same ping).trans ?_) fun first one second two => ?_
  · simp only [List.mem_filter, Reading.mem_read]
  · exact apart first ((same first).mp one) second ((same second).mp two)

theorem listInstance_agrees (related : Related files tables) {selects : StaffPing → Bool}
    (apart : Apart StaffPing.newestFirst (tables.rows.filter selects)) :
    ((SessionFiles.pingsOf order files fun _ => true).filter selects).insertionSort StaffPing.newestFirst =
      ((reading.read tables.rows).filter selects).insertionSort StaffPing.newestFirst := by
  have same (ping : StaffPing) : ping ∈ (SessionFiles.pingsOf order files fun _ => true) ↔ ping ∈ tables.rows := by
    rw [mem_pingsOf, related.rows]
    constructor
    · rintro ⟨session, file, found, -, member⟩
      exact ⟨file, by rw [related.own session file found ping member, found], member⟩
    · rintro ⟨file, found, member⟩
      exact ⟨ping.sessionId, file, found, rfl, member⟩
  refine insertionSort_eq_of_mem _ ((related.nodup_pingsOf _).filter _)
    ((Reading.nodup_read (nodup_of_ids related.ids)).filter _) (fun ping => ?_) fun first one second two => ?_
  · simp only [List.mem_filter, same, Reading.mem_read]
  · refine apart first ?_ second ?_
    · exact List.mem_filter.mpr ((List.mem_filter.mp one).imp_left (same first).mp)
    · exact List.mem_filter.mpr ((List.mem_filter.mp two).imp_left (same second).mp)

theorem listSession_agrees (related : Related files tables) {session : Uuid}
    (goesUp : ∀ file, files.lookup session = some file →
      file.pings.Pairwise fun first second => first.createdAt < second.createdAt) :
    ((files.lookup session).map SessionFile.pings).getD [] =
      ((reading.read tables.rows).filter fun ping => ping.sessionId = session).insertionSort StaffPing.oldestFirst := by
  cases found : files.lookup session with
  | none =>
      have none_ : ((reading.read tables.rows).filter fun ping => ping.sessionId = session) = [] := by
        refine List.filter_eq_nil_iff.mpr fun ping member => ?_
        intro own
        obtain ⟨file, stored, -⟩ := (related.rows ping).mp (Reading.mem_read.mp member)
        rw [of_decide_eq_true own, found] at stored
        cases stored
      rw [none_]
      rfl
  | some file =>
      have up := goesUp file found
      have sorted : file.pings.insertionSort StaffPing.oldestFirst = file.pings :=
        List.Pairwise.insertionSort_eq (up.imp fun less => le_of_lt less)
      rw [Option.map_some, Option.getD_some, ← sorted]
      refine insertionSort_eq_of_mem _ (nodup_of_ids (related.fileIds session file found))
        ((Reading.nodup_read (nodup_of_ids related.ids)).filter _) (fun ping => ?_) fun first one second two before after => ?_
      · simp only [List.mem_filter, Reading.mem_read, decide_eq_true_eq]
        constructor
        · exact fun member => ⟨related.row found member, related.own session file found ping member⟩
        · rintro ⟨row, rfl⟩
          obtain ⟨other, stored, member⟩ := (related.rows ping).mp row
          rw [found] at stored
          cases stored
          exact member
      · have times : (file.pings.map StaffPing.createdAt).Nodup := List.pairwise_map.mpr (up.imp fun less => less.ne)
        exact List.inj_on_of_nodup_map times one two (le_antisymm before after)

/-! ## A ping is created -/

theorem nodup_add {pings : List StaffPing} {ping : StaffPing} (ids : (pings.map StaffPing.id).Nodup)
    (new : ping.id ∉ pings.map StaffPing.id) : ((pings ++ [ping]).map StaffPing.id).Nodup := by
  rw [List.map_append, List.map_singleton, ← List.concat_eq_append]
  exact ids.concat new

theorem related_create (related : Related files tables) {session : Uuid} {file : SessionFile}
    (found : files.lookup session = some file) {ping : StaffPing} (own : ping.sessionId = session)
    (new : ping.id ∉ tables.rows.map StaffPing.id) :
    Related (files.insert session { file with pings := file.pings ++ [ping] })
      { tables with rows := tables.rows ++ [ping] } := by
  have present : session ∈ files := AList.lookup_isSome.mp (by rw [found]; rfl)
  refine ⟨fun other => ?_, fun other => ?_, fun other at_ looked => ?_, nodup_add related.ids new, fun other at_ looked => ?_⟩
  · rw [related.sessions, AList.mem_insert]
    exact ⟨.inr, Or.rec (fun same => same ▸ present) id⟩
  · simp only [List.mem_append, List.mem_singleton, Table.lookup_insert_ite, related.rows]
    by_cases here : other.sessionId = session
    · subst here
      simp [found]
    · simp only [if_neg here]
      refine ⟨fun either => either.resolve_right ?_, .inl⟩
      rintro rfl
      exact here own
  · rw [Table.lookup_insert_ite] at looked
    split at looked
    · rename_i same
      cases looked
      intro other member
      rw [same]
      rcases List.mem_append.mp member with old | last
      · exact related.own session file found other old
      · rw [List.mem_singleton.mp last, own]
    · exact related.own other at_ looked
  · rw [Table.lookup_insert_ite] at looked
    split at looked
    · cases looked
      refine nodup_add (related.fileIds session file found) fun member => new ?_
      obtain ⟨old, listed, same⟩ := List.mem_map.mp member
      exact List.mem_map.mpr ⟨old, related.row found listed, same⟩
    · exact related.fileIds other at_ looked

/-! ## A ping is resolved -/

def resolveIf (id : Uuid) (resolvedBy : List Char) (now : Int) (ping : StaffPing) : StaffPing :=
  if ping.id = id then ping.resolve resolvedBy now else ping

variable {id : Uuid} {resolvedBy : List Char} {now : Int}

theorem resolveIf_id (ping : StaffPing) : (resolveIf id resolvedBy now ping).id = ping.id := by
  unfold resolveIf
  split <;> rfl

theorem resolveIf_sessionId (ping : StaffPing) : (resolveIf id resolvedBy now ping).sessionId = ping.sessionId := by
  unfold resolveIf
  split <;> rfl

theorem map_resolveIf_of_notMem {pings : List StaffPing} (none_ : id ∉ pings.map StaffPing.id) :
    pings.map (resolveIf id resolvedBy now) = pings := by
  refine (List.map_congr_left fun ping member => ?_).trans (List.map_id pings)
  exact if_neg fun same => none_ (List.mem_map.mpr ⟨ping, member, same⟩)

theorem resolvePing_eq_map {pings : List StaffPing} (ids : (pings.map StaffPing.id).Nodup) :
    SessionFiles.resolvePing pings id resolvedBy now = pings.map (resolveIf id resolvedBy now) := by
  induction pings with
  | nil => rfl
  | cons ping pings ih =>
      obtain ⟨fresh, ids⟩ := List.nodup_cons.mp ids
      rw [SessionFiles.resolvePing, List.map_cons]
      split
      · rename_i same
        rw [map_resolveIf_of_notMem (same ▸ fresh), resolveIf, if_pos same]
      · rename_i different
        rw [ih ids, resolveIf, if_neg different]

theorem Related.map (related : Related files tables) {after : SessionFiles} {change : StaffPing → StaffPing}
    (id : ∀ ping, (change ping).id = ping.id) (session : ∀ ping, (change ping).sessionId = ping.sessionId)
    (changed : ∀ session, after.lookup session =
      (files.lookup session).map fun file => { file with pings := file.pings.map change }) :
    Related after { tables with rows := tables.rows.map change } := by
  have ids (pings : List StaffPing) : (pings.map change).map StaffPing.id = pings.map StaffPing.id := by
    rw [List.map_map]
    exact List.map_congr_left fun ping _ => id ping
  refine ⟨fun other => ?_, fun ping => ?_, fun other file looked => ?_, ?_, fun other file looked => ?_⟩
  · rw [related.sessions, ← AList.lookup_isSome, ← AList.lookup_isSome, changed, Option.isSome_map]
  · simp only [List.mem_map, changed, Option.map_eq_some_iff]
    constructor
    · rintro ⟨old, row, rfl⟩
      obtain ⟨file, found, member⟩ := (related.rows old).mp row
      exact ⟨_, ⟨file, by rw [session, found], rfl⟩, List.mem_map_of_mem member⟩
    · rintro ⟨_, ⟨file, found, rfl⟩, member⟩
      obtain ⟨old, listed, rfl⟩ := List.mem_map.mp member
      exact ⟨old, related.row found listed, rfl⟩
  · rw [changed] at looked
    obtain ⟨old, found, rfl⟩ := Option.map_eq_some_iff.mp looked
    intro ping member
    obtain ⟨before, listed, rfl⟩ := List.mem_map.mp member
    rw [session, related.own other old found before listed]
  · change (List.map StaffPing.id (tables.rows.map change)).Nodup
    rw [ids]
    exact related.ids
  · rw [changed] at looked
    obtain ⟨old, found, rfl⟩ := Option.map_eq_some_iff.mp looked
    change (List.map StaffPing.id (old.pings.map change)).Nodup
    rw [ids]
    exact related.fileIds other old found

theorem Related.resolved (related : Related files tables) {session : Uuid} {file : SessionFile}
    (found : files.lookup session = some file) {ping : StaffPing} (member : ping ∈ file.pings) (same : ping.id = id)
    (other : Uuid) :
    (files.modify session fun file => { file with pings := SessionFiles.resolvePing file.pings id resolvedBy now }).lookup other =
      (files.lookup other).map fun file => { file with pings := file.pings.map (resolveIf id resolvedBy now) } := by
  rw [Table.lookup_modify]
  split
  · rename_i here
    subst here
    rw [found, Option.map_some, Option.map_some, resolvePing_eq_map (related.fileIds _ file found)]
  · rename_i elsewhere
    cases looked : files.lookup other with
    | none => rfl
    | some at_ =>
        have none_ : id ∉ at_.pings.map StaffPing.id := by
          intro listed
          obtain ⟨twin, inOther, twinId⟩ := List.mem_map.mp listed
          have one : twin = ping := List.inj_on_of_nodup_map related.ids (related.row looked inOther) (related.row found member)
            (twinId.trans same.symm)
          subst one
          exact elsewhere ((related.own other at_ looked twin inOther).symm.trans (related.own session file found twin member))
        rw [Option.map_some, map_resolveIf_of_notMem none_]

theorem find_ping (order : Traversal Uuid) (id : Uuid) (related : Related files tables) :
    (match (order.entries files).find? fun entry => entry.2.pings.any fun ping => ping.id = id with
      | none => id ∉ tables.rows.map StaffPing.id
      | some entry => files.lookup entry.1 = some entry.2 ∧ ∃ ping ∈ entry.2.pings, ping.id = id) := by
  cases search : (order.entries files).find? fun entry => entry.2.pings.any fun ping => ping.id = id with
  | none =>
      intro listed
      obtain ⟨ping, row, same⟩ := List.mem_map.mp listed
      obtain ⟨file, found, member⟩ := (related.rows ping).mp row
      have none_ := List.find?_eq_none.mp search ⟨_, file⟩ (order.mem_entries.mpr found)
      exact none_ (List.any_eq_true.mpr ⟨ping, member, decide_eq_true same⟩)
  | some entry =>
      have any := List.find?_some search
      obtain ⟨ping, member, same⟩ := List.any_eq_true.mp any
      exact ⟨order.mem_entries.mp (List.mem_of_find?_eq_some search), ping, member, of_decide_eq_true same⟩

/-! ## Runs -/

variable {state after : PingStores} {missingFails : Bool}

theorem related_perform (order : Traversal Uuid) (reading : Reading StaffPing) {operation : PingOperation}
    (related : Related files tables)
    (new : ∀ id sessionId clusterId instanceId category message now,
      operation = .create id sessionId clusterId instanceId category message now → id ∉ tables.rows.map StaffPing.id)
    (agreeable : Agreeable missingFails ⟨files, tables, true⟩ ⟨operation, order, reading⟩) :
    (files.perform missingFails order operation).1 = (tables.perform reading operation).1 ∧
      Related (files.perform missingFails order operation).2 (tables.perform reading operation).2 := by
  cases operation with
  | create id sessionId clusterId instanceId category message now =>
      have fresh := new _ _ _ _ _ _ _ rfl
      obtain ⟨whenKnown, otherwise⟩ := agreeable
      simp only [SessionFiles.perform, PingTables.perform]
      cases found : files.lookup sessionId with
      | none =>
          have absent : sessionId ∉ tables.sessions := by
            rw [related.sessions]
            exact AList.lookup_eq_none.mp found
          simp only [otherwise absent, absent, if_true, false_and, if_false, true_and]
          exact related
      | some file =>
          have present : sessionId ∈ tables.sessions := by
            rw [related.sessions, ← AList.lookup_isSome, found]
            rfl
          simp only [present, whenKnown present, and_self, if_true, true_and]
          exact related_create related found rfl fresh
  | resolve id resolvedBy now =>
      have find := find_ping order id related
      simp only [SessionFiles.perform, PingTables.perform]
      cases search : (order.entries files).find? fun entry => entry.2.pings.any fun ping => ping.id = id with
      | none =>
          rw [search] at find
          rw [if_neg fun text => find (agreeable.mpr text)]
          exact ⟨rfl, related⟩
      | some entry =>
          rw [search] at find
          obtain ⟨found, ping, member, same⟩ := find
          have known : id ∈ tables.rows.map StaffPing.id := List.mem_map.mpr ⟨ping, related.row found member, same⟩
          rw [if_pos (agreeable.mp known)]
          exact ⟨rfl, related.map resolveIf_id resolveIf_sessionId (related.resolved found member same)⟩
  | list clusterId =>
      exact ⟨congrArg (fun list : List StaffPing => PingResult.pings (list.take 100)) (list_agrees related agreeable.1 agreeable.2), related⟩
  | listInstance instanceId =>
      simp only [SessionFiles.perform, PingTables.perform, if_pos agreeable.1]
      exact ⟨congrArg (fun list : List StaffPing => PingResult.pings (list.take 50)) (listInstance_agrees related agreeable.2), related⟩
  | listSession sessionId =>
      exact ⟨congrArg PingResult.pings (listSession_agrees related agreeable), related⟩

def Agreed (state : PingStores) : Prop := Related state.files state.tables ∧ state.same = true

theorem agreed_step {event : PingStep} (agreed : Agreed state) (agreeable : Agreeable missingFails state event)
    (taken : step missingFails state event = some after) : Agreed after := by
  unfold step at taken
  split at taken
  · rename_i isNew
    cases taken
    obtain ⟨operation, order, reading⟩ := event
    obtain ⟨same, related⟩ := related_perform order reading agreed.1 (fun id _ _ _ _ _ _ creates => by
      subst creates
      simpa using (Bool.and_eq_true_iff.mp isNew).1) agreeable
    exact ⟨related, decide_eq_true same⟩
  · cases taken

theorem agreed_start (sessions : Table Uuid Uuid) (clusters : List Uuid) : Agreed (start sessions clusters) := by
  have empty {session : Uuid} {file : SessionFile} (found : (start sessions clusters).files.lookup session = some file) :
      file.pings = [] := by
    rw [start, Table.lookup_mapValues] at found
    obtain ⟨_, -, rfl⟩ := Option.map_eq_some_iff.mp found
    rfl
  refine ⟨⟨fun session => ?_, fun ping => ?_, fun session file found ping member => ?_, List.nodup_nil,
    fun session file found => ?_⟩, rfl⟩
  · rw [← AList.lookup_isSome, start, Table.lookup_mapValues, Option.isSome_map, AList.lookup_isSome, AList.mem_keys]
  · refine ⟨(fun member => by cases member), ?_⟩
    rintro ⟨file, found, member⟩
    rw [empty found] at member
    cases member
  · rw [empty found] at member
    cases member
  · rw [empty found]
    exact List.nodup_nil

theorem always_same {sessions : Table Uuid Uuid} {clusters : List Uuid} {events : List PingStep}
    (agreeable : Meets (step missingFails) (Agreeable missingFails) (start sessions clusters) events) :
    Always (step missingFails) (fun state => state.same = true) (start sessions clusters) events :=
  (always_of_meets (fun _ _ _ agreed agreeable taken => agreed_step agreed agreeable taken)
    (agreed_start sessions clusters) agreeable).imp fun _ => And.right

def here (operation : PingOperation) : PingStep := ⟨operation, .stored, .stored⟩

def sessions : Table Uuid Uuid := (AList.singleton 1 10).insert 2 20

def agreeing : List PingStep :=
  [here (.create 5 1 10 "mac".toList "network".toList "no route".toList 100), here (.resolve 5 "staff".toList 200),
    here (.list 10), here (.listSession 1)]

theorem always_same_resolved :
    (∃ final, run (step true) (start sessions [10, 20]) agreeing = some final) ∧
      Always (step true) (fun state => state.same = true) (start sessions [10, 20]) agreeing := by
  exact ⟨⟨_, rfl⟩, always_same (by decide)⟩

def create (id sessionId clusterId : Uuid) (now : Int) : PingStep :=
  here (.create id sessionId clusterId "mac".toList "network".toList "no route".toList now)

/-- A ping that is not there, one whose cluster is not that of its session or is unknown, and a clock that has gone back. -/
theorem differs_for_unknown_pings_other_clusters_and_times :
    (∃ final, run (step true) (start sessions [10, 20]) [here (.resolve 7 "staff".toList 200)] = some final ∧
      final.same = false) ∧
    (∃ final, run (step true) (start sessions [10, 20]) [create 5 1 20 100, here (.list 20)] = some final ∧
      final.same = false) ∧
    (∃ final, run (step true) (start sessions [10, 20]) [create 5 1 30 100] = some final ∧ final.same = false) ∧
    ∃ final, run (step true) (start sessions [10, 20]) [create 5 1 10 100, create 6 1 10 90, here (.listSession 1)] = some final ∧
      final.same = false :=
  ⟨⟨_, rfl, rfl⟩, ⟨_, rfl, rfl⟩, ⟨_, rfl, rfl⟩, _, rfl, rfl⟩

end MacMgmt.Proof.Server.Pings
