import MacMgmt.Agent.ServerPush

/-!
# Which push commands reach the daemon

The loop over chunks takes the lines of the decoded text, whatever the chunks are. What it makes of a line is compared with
what the line means.
-/

namespace MacMgmt.Proof.Agent
open MacMgmt.Agent Lib

/-! ## Lines -/

def leftover (start : List Char) : List Char → List Char
  | [] => start
  | c :: rest => if c = '\n' then leftover [] rest else leftover (start ++ [c]) rest

theorem linesFrom_append (start first second : List Char) :
    linesFrom start (first ++ second) = linesFrom start first ++ linesFrom (leftover start first) second := by
  induction first generalizing start with
  | nil => rfl
  | cons c first ih =>
      simp only [List.cons_append, linesFrom, leftover]
      split
      · rw [ih, List.cons_append]
      · exact ih _

theorem leftover_append (start first second : List Char) :
    leftover start (first ++ second) = leftover (leftover start first) second := by
  induction first generalizing start with
  | nil => rfl
  | cons c first ih =>
      simp only [List.cons_append, leftover]
      split
      · exact ih _
      · exact ih _

theorem linesFrom_of_noNewline {text : List Char} (start more : List Char) (none : '\n' ∉ text) :
    linesFrom start (text ++ more) = linesFrom (start ++ text) more ∧
      leftover start (text ++ more) = leftover (start ++ text) more := by
  induction text generalizing start with
  | nil => simp
  | cons c text ih =>
      obtain ⟨other, rest⟩ := not_or.mp (List.mem_cons.not.mp none)
      simp only [List.cons_append, linesFrom, leftover, if_neg (Ne.symm other)]
      rw [(ih _ rest).1, (ih _ rest).2, List.append_assoc, List.singleton_append]
      exact ⟨rfl, rfl⟩

theorem nextLine_none {buffer : List Char} (none : nextLine buffer = none) : '\n' ∉ buffer := by
  rw [nextLine, List.span_eq_takeWhile_dropWhile] at none
  split at none
  next before both =>
    rw [Prod.mk.injEq] at both
    have all := List.dropWhile_eq_nil_iff.mp both.2
    intro member
    simpa using all _ member
  next => cases none

theorem leftover_noNewline {start : List Char} (none : '\n' ∉ start) (text : List Char) : '\n' ∉ leftover start text := by
  induction text generalizing start with
  | nil => exact none
  | cons c text ih =>
      simp only [leftover]
      split
      next => exact ih List.not_mem_nil
      next other => exact ih (by simp [none, Ne.symm other])

/-! ## The loop -/

theorem numbered_append {A B : Type} (read : A → Option B) (n : Nat) (first second : List A) :
    numbered read n (first ++ second) = numbered read n first ++ numbered read (n + first.length) second := by
  induction first generalizing n with
  | nil => rfl
  | cons a first ih =>
      rw [List.cons_append, numbered, numbered, ih, List.append_assoc, List.length_cons, Nat.add_right_comm, Nat.add_assoc n]

theorem numbered_eq_nil {A B : Type} {read : A → Option B} {n : Nat} {list : List A} (silent : ∀ i : Nat, list[i]?.bind read = none) :
    numbered read n list = [] := by
  induction list generalizing n with
  | nil => rfl
  | cons a list ih =>
      have first : read a = none := silent 0
      rw [numbered, first, ih fun i => silent (i + 1)]
      rfl

theorem le_of_mem_numbered {A B : Type} {read : A → Option B} {n : Nat} {list : List A} {entry : Nat × B}
    (member : entry ∈ numbered read n list) : n ≤ entry.1 := by
  induction list generalizing n with
  | nil => cases member
  | cons a list ih =>
      rw [numbered, List.mem_append, Option.mem_toList, Option.map_eq_some_iff] at member
      obtain ⟨b, -, rfl⟩ | later := member
      · exact le_rfl
      · exact Nat.le_of_succ_le (ih later)

theorem mem_numbered_iff {A B : Type} {read : A → Option B} {n : Nat} {list : List A} {i : Nat} {b : B} :
    (n + i, b) ∈ numbered read n list ↔ list[i]?.bind read = some b := by
  induction list generalizing n i with
  | nil => simp [numbered]
  | cons a list ih =>
      rw [numbered, List.mem_append, Option.mem_toList, Option.map_eq_some_iff]
      cases i with
      | zero =>
          constructor
          · rintro (⟨c, first, same⟩ | later)
            · cases same
              exact first
            · exact absurd (le_of_mem_numbered later) (Nat.not_succ_le_self n)
          · intro first
            exact .inl ⟨b, first, rfl⟩
      | succ i =>
          rw [List.getElem?_cons_succ, ← ih (n := n + 1), Nat.add_right_comm, Nat.add_assoc n]
          refine or_iff_right ?_
          rintro ⟨c, -, same⟩
          have := congrArg Prod.fst same
          dsimp only at this
          omega

theorem numbered_eq_iff {A B : Type} {read other : A → Option B} {n : Nat} {first second : List A} :
    numbered read n first = numbered other n second ↔ ∀ i : Nat, first[i]?.bind read = second[i]?.bind other := by
  constructor
  · intro same i
    ext b
    rw [← mem_numbered_iff, ← mem_numbered_iff, same]
  · intro agree
    induction first generalizing n second with
    | nil => exact (numbered_eq_nil fun i => (agree i).symm).symm
    | cons a first ih =>
        cases second with
        | nil => exact numbered_eq_nil agree
        | cons b second =>
            have heads : read a = other b := agree 0
            rw [numbered, numbered, heads, ih fun i => agree (i + 1)]

section Loop
variable (parse : List Char → Option PushCommand) (instanceId : String)

def heard (line : List Char) : Option PushCommand := (lineCommand parse line).bind (forwardable instanceId)

theorem processLines_eq (sse : SseState) :
    processLines parse instanceId sse =
      { buffer := leftover [] sse.buffer
        lines := sse.lines + (linesFrom [] sse.buffer).length
        forwarded := sse.forwarded ++ numbered (heard parse instanceId) sse.lines (linesFrom [] sse.buffer) } := by
  fun_induction processLines parse instanceId sse with
  | case1 sse none =>
      have last := linesFrom_of_noNewline [] [] (nextLine_none none)
      rw [List.append_nil] at last
      rw [last.1, last.2]
      simp [linesFrom, leftover, numbered]
  | case2 sse line rest found shorter ih =>
      obtain ⟨before, none, rfl, whole⟩ := nextLine_some found
      have head := linesFrom_of_noNewline [] ('\n' :: rest) none
      rw [ih, whole, head.1, head.2]
      simp [linesFrom, leftover, numbered, heard, Nat.add_assoc, Nat.add_comm 1]

theorem foldl_receiveChunk (sse : SseState) (chunks : List (List UInt8)) (none : '\n' ∉ sse.buffer) :
    chunks.foldl (receiveChunk parse instanceId) sse =
      { buffer := leftover sse.buffer (chunks.flatMap fromUtf8Lossy)
        lines := sse.lines + (linesFrom sse.buffer (chunks.flatMap fromUtf8Lossy)).length
        forwarded := sse.forwarded ++
          numbered (heard parse instanceId) sse.lines (linesFrom sse.buffer (chunks.flatMap fromUtf8Lossy)) } := by
  induction chunks generalizing sse with
  | nil => simp [linesFrom, leftover, numbered]
  | cons chunk chunks ih =>
      have start := linesFrom_of_noNewline [] (fromUtf8Lossy chunk) none
      have received : receiveChunk parse instanceId sse chunk =
          { buffer := leftover sse.buffer (fromUtf8Lossy chunk)
            lines := sse.lines + (linesFrom sse.buffer (fromUtf8Lossy chunk)).length
            forwarded := sse.forwarded ++
              numbered (heard parse instanceId) sse.lines (linesFrom sse.buffer (fromUtf8Lossy chunk)) } := by
        rw [receiveChunk, processLines_eq, start.1, start.2, List.nil_append]
      rw [List.foldl_cons, ih _ (by rw [received]; exact leftover_noNewline none _), received, List.flatMap_cons,
        linesFrom_append, leftover_append, numbered_append, List.length_append, List.append_assoc, Nat.add_assoc]

theorem forwarded_eq (stream : SseStream) :
    (connectSse parse instanceId stream.chunks).forwarded =
      numbered (heard parse instanceId) 0 (linesFrom [] stream.received) := by
  rw [connectSse, foldl_receiveChunk parse instanceId _ _ List.not_mem_nil, List.nil_append]
  rfl

theorem meant_plain {cmd other : PushCommand} (same : meant instanceId cmd = some other) :
    other ≠ .ping ∧ ∀ target event, other ≠ .targeted target event := by
  induction cmd with
  | ping => cases same
  | targeted target event ih =>
      obtain ⟨-, inner⟩ := Option.ite_none_right_eq_some.mp same
      exact ih inner
  | _ =>
      cases same
      exact ⟨nofun, nofun⟩

theorem forwardable_eq_meant_iff (cmd : PushCommand) :
    forwardable instanceId cmd = meant instanceId cmd ↔ ¬ SseStream.Nested instanceId cmd := by
  cases cmd with
  | targeted target event =>
      by_cases ours : target = instanceId
      · subst ours
        cases event with
        | targeted inner deeper =>
            refine iff_of_false ?_ (not_not.mpr ⟨inner, deeper, rfl⟩)
            simp only [forwardable, meant, ne_eq, not_true, if_false, if_true, isPing]
            intro same
            have kept : meant target (.targeted inner deeper) = some (.targeted inner deeper) := same.symm
            exact (meant_plain target kept).2 inner deeper rfl
        | _ => simp [forwardable, meant, isPing, SseStream.Nested]
      · simp [forwardable, meant, ours, SseStream.Nested]
  | _ => simp [forwardable, meant, isPing, SseStream.Nested]

theorem heard_eq_meant_iff (line : List Char) :
    heard parse instanceId line = (lineCommand parse line).bind (meant instanceId) ↔
      ∀ cmd, lineCommand parse line = some cmd → ¬ SseStream.Nested instanceId cmd := by
  unfold heard
  cases lineCommand parse line with
  | none => simp
  | some cmd => simpa using forwardable_eq_meant_iff instanceId cmd

theorem lineStands_iff (stream : SseStream) (i : Nat) :
    stream.LineStands parse instanceId i ↔
      (linesFrom [] stream.received)[i]?.bind (heard parse instanceId) =
        (linesFrom [] stream.text)[i]?.bind fun line => (lineCommand parse line).bind (meant instanceId) := by
  unfold SseStream.LineStands
  split
  next same =>
    rw [same]
    cases (linesFrom [] stream.text)[i]? with
    | none => simp
    | some line =>
        refine Iff.trans ⟨fun all cmd => all line cmd rfl, fun all other cmd found => ?_⟩
          (heard_eq_meant_iff parse instanceId line).symm
        cases found
        exact all cmd
  next => rfl

theorem delivered_iff (stream : SseStream) :
    stream.Delivered parse instanceId ↔ ∀ i, stream.LineStands parse instanceId i := by
  simp only [lineStands_iff, ← numbered_eq_iff (n := 0), ← forwarded_eq]
  refine and_iff_left_of_imp ?_
  intro same (i, cmd) member
  rw [same, ← Nat.zero_add i, mem_numbered_iff, Option.bind_eq_some_iff] at member
  obtain ⟨line, -, read⟩ := member
  obtain ⟨sent, -, plain⟩ := Option.bind_eq_some_iff.mp read
  exact meant_plain instanceId plain

end Loop

/-! ## Chunks of whole characters -/

theorem flatMap_fromUtf8Lossy (pieces : List (List Char)) :
    (pieces.map utf8Encode).flatMap fromUtf8Lossy = pieces.flatten := by
  induction pieces with
  | nil => rfl
  | cons piece pieces ih => rw [List.map_cons, List.flatMap_cons, fromUtf8Lossy_encode, ih, List.flatten_cons]

theorem flatten_utf8Encode (pieces : List (List Char)) : (pieces.map utf8Encode).flatten = utf8Encode pieces.flatten := by
  induction pieces with
  | nil => rfl
  | cons piece pieces ih =>
      rw [List.map_cons, List.flatten_cons, ih, List.flatten_cons, utf8Encode, utf8Encode, utf8Encode, List.flatMap_append]

theorem received_of_whole {stream : SseStream} {pieces : List (List Char)} (whole : stream.chunks = pieces.map utf8Encode) :
    stream.received = stream.text := by
  have same := stream.split
  rw [whole, flatten_utf8Encode] at same
  rw [SseStream.received, whole, flatMap_fromUtf8Lossy, ← fromUtf8Lossy_encode pieces.flatten, same, fromUtf8Lossy_encode]

theorem delivered_of_whole {parse : List Char → Option PushCommand} {instanceId : String} {stream : SseStream}
    {pieces : List (List Char)} (whole : stream.chunks = pieces.map utf8Encode)
    (plain : ∀ line ∈ linesFrom [] stream.text, ∀ cmd, lineCommand parse line = some cmd →
      ¬ SseStream.Nested instanceId cmd) :
    (connectSse parse instanceId stream.chunks).forwarded =
      numbered (fun line => (lineCommand parse line).bind (meant instanceId)) 0 (linesFrom [] stream.text) := by
  rw [forwarded_eq, received_of_whole whole, numbered_eq_iff]
  intro i
  cases found : (linesFrom [] stream.text)[i]? with
  | none => rfl
  | some line => exact (heard_eq_meant_iff parse instanceId line).mpr (plain line (List.mem_of_getElem? found))

/-! ## Events that go wrong -/

def targetedJson (id event : String) : String :=
  "\x7b\"Targeted\":\x7b\"instance_id\":\"" ++ id ++ "\",\"event\":" ++ event ++ "\x7d\x7d"

def sampleParse (data : List Char) : Option PushCommand :=
  if data = (targetedJson "d1" (targetedJson "d1" "\"SyncSkills\"")).toList then
    some (.targeted "d1" (.targeted "d1" .syncSkills))
  else if data = (targetedJson "dé" "\"SyncSkills\"").toList then some (.targeted "dé" .syncSkills)
  else none

def nestedEvent : SseStream where
  text := ("data: " ++ targetedJson "d1" (targetedJson "d1" "\"SyncSkills\"") ++ "\n").toList
  chunks := [utf8Encode ("data: " ++ targetedJson "d1" (targetedJson "d1" "\"SyncSkills\"") ++ "\n").toList]
  split := List.append_nil _

/-- The second chunk starts at the last byte of the accented letter. -/
def splitEvent : SseStream where
  text := ("data: " ++ targetedJson "dé" "\"SyncSkills\"" ++ "\n").toList
  chunks :=
    [(utf8Encode ("data: " ++ targetedJson "dé" "\"SyncSkills\"" ++ "\n").toList).take 36,
      (utf8Encode ("data: " ++ targetedJson "dé" "\"SyncSkills\"" ++ "\n").toList).drop 36]
  split := by rw [List.flatten_cons, List.flatten_cons, List.flatten_nil, List.append_nil, List.take_append_drop]

theorem targetedJson_toList (id event : String) :
    (targetedJson id event).toList =
      ['{', '"', 'T', 'a', 'r', 'g', 'e', 't', 'e', 'd', '"', ':', '{', '"', 'i', 'n', 's', 't', 'a', 'n', 'c', 'e', '_', 'i', 'd',
        '"', ':', '"'] ++ id.toList ++ ['"', ',', '"', 'e', 'v', 'e', 'n', 't', '"', ':'] ++ event.toList ++ ['}', '}'] := by
  have opens : "\x7b\"Targeted\":\x7b\"instance_id\":\"".toList = _ := String.toList_ofList
  have middle : "\",\"event\":".toList = _ := String.toList_ofList
  have closes : "\x7d\x7d".toList = _ := String.toList_ofList
  show ("\x7b\"Targeted\":\x7b\"instance_id\":\"" ++ id ++ "\",\"event\":" ++ event ++ "\x7d\x7d").toList = _
  rw [String.toList_append, String.toList_append, String.toList_append, String.toList_append, opens, middle, closes]

def parseOf (nested split data : List Char) : Option PushCommand :=
  if data = nested then some (.targeted "d1" (.targeted "d1" .syncSkills))
  else if data = split then some (.targeted "dé" .syncSkills)
  else none

def dataLine (json : List Char) : List Char := ['d', 'a', 't', 'a', ':', ' '] ++ json ++ ['\n']

def cut (text : List Char) : List (List UInt8) := [(utf8Encode text).take 36, (utf8Encode text).drop 36]

theorem runs_of_texts : ∃ nested split,
    (targetedJson "d1" (targetedJson "d1" "\"SyncSkills\"")).toList = nested ∧ (targetedJson "dé" "\"SyncSkills\"").toList = split ∧
      numbered (heard (parseOf nested split) "d1") 0 (linesFrom [] (dataLine nested)) = [(0, .targeted "d1" .syncSkills)] ∧
      numbered (heard (parseOf nested split) "dé") 0 (linesFrom [] ((cut (dataLine split)).flatMap fromUtf8Lossy)) = [] ∧
      numbered (fun line => (lineCommand (parseOf nested split) line).bind (meant "dé")) 0 (linesFrom [] (dataLine split)) ≠ [] := by
  have command : "\"SyncSkills\"".toList = _ := String.toList_ofList
  have plain : "d1".toList = _ := String.toList_ofList
  have accented : "dé".toList = _ := String.toList_ofList
  refine ⟨_, _, by rw [targetedJson_toList, targetedJson_toList, plain, command], by rw [targetedJson_toList, accented, command],
    ?_, ?_, ?_⟩
  · decide +kernel
  · decide +kernel
  · decide +kernel

theorem dataLine_toList (json : String) : ("data: " ++ json ++ "\n").toList = dataLine json.toList := by
  have data : "data: ".toList = _ := String.toList_ofList
  have newline : "\n".toList = _ := String.toList_ofList
  rw [String.toList_append, String.toList_append, data, newline, dataLine]

/-- A nested event is forwarded as a targeted one, and an event cut inside a character is dropped. -/
theorem nested_and_split_events :
    (connectSse sampleParse "d1" nestedEvent.chunks).forwarded = [(0, .targeted "d1" .syncSkills)] ∧
    (connectSse sampleParse "dé" splitEvent.chunks).forwarded = [] ∧
    ¬ nestedEvent.Delivered sampleParse "d1" ∧ ¬ splitEvent.Delivered sampleParse "dé" := by
  obtain ⟨nestedText, splitText, sameNested, sameSplit, first, second, third⟩ := runs_of_texts
  have parse : sampleParse = parseOf nestedText splitText := by
    rw [← sameNested, ← sameSplit]
    rfl
  have nestedLine : nestedEvent.text = dataLine nestedText := sameNested ▸ dataLine_toList _
  have splitLine : splitEvent.text = dataLine splitText := sameSplit ▸ dataLine_toList _
  have nested : (connectSse sampleParse "d1" nestedEvent.chunks).forwarded = [(0, .targeted "d1" .syncSkills)] := by
    have whole : nestedEvent.chunks = [nestedEvent.text].map utf8Encode := rfl
    rw [forwarded_eq, received_of_whole whole, nestedLine, parse]
    exact first
  have split : (connectSse sampleParse "dé" splitEvent.chunks).forwarded = [] := by
    have received : splitEvent.received = (cut splitEvent.text).flatMap fromUtf8Lossy := rfl
    rw [forwarded_eq, received, splitLine, parse]
    exact second
  refine ⟨nested, split, fun delivered => ?_, fun delivered => ?_⟩
  · exact (delivered.2 (0, .targeted "d1" .syncSkills) (by rw [nested]; exact List.mem_singleton.mpr rfl)).2 _ _ rfl
  · have sent := delivered.1
    rw [split, splitLine, parse] at sent
    exact third sent.symm

end MacMgmt.Proof.Agent
