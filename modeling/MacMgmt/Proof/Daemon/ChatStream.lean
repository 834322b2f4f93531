import MacMgmt.Daemon.ChatStream
import MacMgmt.Lib.Pointwise
import MacMgmt.Proof.Agent.EnvFiles

/-!
# Which events of a backend's stream reach the client

The loop over chunks reads the lines of the decoded text up to the last blank line. Each line that is read comes from a line
that was sent, so the events agree exactly if every data line is read and reads alike.
-/

namespace MacMgmt.Proof.ChatStream
open MacMgmt.Agent MacMgmt.Daemon.ChatStream MacMgmt.Proof.Agent Lib

/-! ## Lines that were sent and lines that arrive -/

/-- The bytes of a line came in parts, which were decoded one by one. -/
def Arrived (sent got : List Char) : Prop :=
  ∃ parts : List (List UInt8), fromUtf8Lossy parts.flatten = sent ∧ parts.flatMap fromUtf8Lossy = got

theorem newline_not_mem {bytes : List UInt8} (noFeed : 10 ∉ bytes) : '\n' ∉ fromUtf8Lossy bytes := by
  intro member
  obtain ⟨byte, within, same, small⟩ := Utf8State.mem_decode (show Utf8State.start.Sound from trivial) member (by decide)
  have value := congrArg Char.toNat same
  have valid : byte.toNat.isValidChar := .inl (by omega)
  rw [Utf8State.toNat_ofNat valid] at value
  have feed : (10 : UInt8) = byte := UInt8.toNat_inj.mp value
  exact noFeed (feed ▸ within)

theorem arrived_lines (parts chunks : List (List UInt8)) (noFeed : 10 ∉ parts.flatten) :
    List.Forall₂ Arrived ((fromUtf8Lossy (parts.flatten ++ chunks.flatten)).splitOn '\n')
      ((parts.flatMap fromUtf8Lossy ++ chunks.flatMap fromUtf8Lossy).splitOn '\n') := by
  have noNewline : '\n' ∉ parts.flatMap fromUtf8Lossy := by
    intro member
    obtain ⟨part, within, inside⟩ := List.mem_flatMap.mp member
    exact newline_not_mem (fun feed => noFeed (List.mem_flatten.mpr ⟨part, within, feed⟩)) inside
  match chunks with
  | [] =>
      rw [List.flatten_nil, List.append_nil, List.flatMap_nil, List.append_nil, List.splitOn_eq_singleton noNewline,
        List.splitOn_eq_singleton (newline_not_mem noFeed)]
      exact .cons ⟨parts, rfl, rfl⟩ .nil
  | chunk :: rest =>
      by_cases feed : 10 ∈ chunk
      · obtain ⟨before, after, split, first⟩ := List.eq_append_cons_of_mem feed
        have noFeedLine : 10 ∉ (parts ++ [before]).flatten := by simp_all
        have sent : fromUtf8Lossy (parts.flatten ++ (chunk :: rest).flatten) =
            fromUtf8Lossy (parts ++ [before]).flatten ++ '\n' :: fromUtf8Lossy ([].flatten ++ (after :: rest).flatten) := by
          rw [← show Char.ofNat (10 : UInt8).toNat = '\n' from rfl, ← fromUtf8Lossy_append_ascii _ (by decide), split]
          simp
        have got : parts.flatMap fromUtf8Lossy ++ (chunk :: rest).flatMap fromUtf8Lossy =
            (parts ++ [before]).flatMap fromUtf8Lossy ++ '\n' :: ([].flatMap fromUtf8Lossy ++ (after :: rest).flatMap fromUtf8Lossy) := by
          have decoded := fromUtf8Lossy_append_ascii before (show (10 : UInt8).toNat < 0x80 by decide) after
          simp [split, decoded]
        have noNewlineLine : '\n' ∉ (parts ++ [before]).flatMap fromUtf8Lossy := by
          simpa using ⟨by simpa using noNewline, newline_not_mem first⟩
        rw [sent, got, List.splitOn_append_cons_self, List.splitOn_append_cons_self,
          List.splitOn_eq_singleton (newline_not_mem noFeedLine), List.splitOn_eq_singleton noNewlineLine]
        exact .cons ⟨parts ++ [before], rfl, rfl⟩ (arrived_lines [] (after :: rest) List.not_mem_nil)
      · have whole := arrived_lines (parts ++ [chunk]) rest (by simp_all)
        simpa using whole
termination_by chunks.flatten.length + chunks.length
decreasing_by
  · simp only [split, List.flatten_cons, List.length_append, List.length_cons]
    omega
  · simp only [List.flatten_cons, List.length_append, List.length_cons]
    omega

theorem Arrived.cons {sent rest : List Char} {c : Char} (arrived : Arrived sent (c :: rest)) (ascii : c.toNat < 0x80) :
    ∃ more, sent = c :: more ∧ Arrived more rest := by
  obtain ⟨parts, rfl, got⟩ := arrived
  induction parts with
  | nil => cases got
  | cons part parts ih =>
      rw [List.flatMap_cons] at got
      cases decoded : fromUtf8Lossy part with
      | nil =>
          obtain rfl := fromUtf8Lossy_eq_nil.mp decoded
          rw [decoded, List.nil_append] at got
          exact ih got
      | cons d more =>
          rw [decoded, List.cons_append] at got
          obtain ⟨rfl, rfl⟩ := List.cons.inj got
          obtain ⟨byte, tail, rfl, same, small, rest⟩ := (fromUtf8Lossy_cons_iff ascii).mp decoded
          refine ⟨fromUtf8Lossy (tail ++ parts.flatten), ?_, tail :: parts, rfl, ?_⟩
          · exact (fromUtf8Lossy_cons_iff ascii).mpr ⟨byte, tail ++ parts.flatten, rfl, same, small, rfl⟩
          · rw [List.flatMap_cons, rest]

theorem Arrived.append {start sent rest : List Char} (arrived : Arrived sent (start ++ rest)) (ascii : ∀ c ∈ start, c.toNat < 0x80) :
    ∃ more, sent = start ++ more ∧ Arrived more rest := by
  induction start generalizing sent with
  | nil => exact ⟨sent, rfl, arrived⟩
  | cons c start ih =>
      obtain ⟨asciiFirst, asciiStart⟩ := List.forall_mem_cons.mp ascii
      obtain ⟨more, rfl, later⟩ := arrived.cons asciiFirst
      obtain ⟨others, rfl, last⟩ := ih later asciiStart
      exact ⟨others, rfl, last⟩

theorem dataOf_eq_some {line data : List Char} : dataOf line = some data ↔ line = "data: ".toList ++ data := by
  rw [dataOf, List.dropPrefix?_eq_some_iff]
  constructor
  · rintro ⟨start, whole, same⟩
    rw [whole, eq_of_beq same]
  · intro whole
    exact ⟨_, whole, beq_self_eq_true _⟩

theorem sentData_data (data : List Char) : sentData ("data: ".toList ++ data) = some data := by
  have start : ("data: ".toList ++ data).dropPrefix? "data:".toList = some (' ' :: data) :=
    List.dropPrefix?_eq_some_iff.mpr ⟨"data:".toList, rfl, beq_self_eq_true _⟩
  have blank : (' ' :: data).dropPrefix? [' '] = some data :=
    List.dropPrefix?_eq_some_iff.mpr ⟨[' '], rfl, beq_self_eq_true _⟩
  rw [sentData, start, Option.map_some, blank]
  rfl

theorem stripCarriageReturn_start (line : List Char) : stripCarriageReturn line <+: line := by
  rw [stripCarriageReturn]
  split
  · exact List.dropLast_prefix line
  · exact List.prefix_rfl

theorem sentData_of_arrived {sent got line : List Char} (arrived : Arrived sent got)
    (read : line = got ∨ line = stripCarriageReturn got) (data : (dataOf line).isSome) :
    (sentData (stripCarriageReturn sent)).isSome := by
  obtain ⟨value, found⟩ := Option.isSome_iff_exists.mp data
  have start : "data: ".toList <+: got := by
    have inLine : "data: ".toList <+: line := ⟨value, (dataOf_eq_some.mp found).symm⟩
    rcases read with rfl | rfl
    · exact inLine
    · exact inLine.trans (stripCarriageReturn_start got)
  obtain ⟨rest, rfl⟩ := start
  obtain ⟨more, rfl, _⟩ := arrived.append (show ∀ c ∈ "data: ".toList, c.toNat < 0x80 by simp)
  have kept : stripCarriageReturn ("data: ".toList ++ more) = "data: ".toList ++ stripCarriageReturn more :=
    stripCarriageReturn_append (show ' ' ≠ '\r' by decide) "data:".toList more
  rw [kept, sentData_data]
  rfl

/-! ## Events as groups of lines -/

/-- The lines before the first blank one that the text goes on after, and those after it. -/
def cutLines : List (List Char) → Option (List (List Char) × List (List Char))
  | line :: [] :: next :: rest => some ([line], next :: rest)
  | line :: rest => (cutLines rest).map fun cut => (line :: cut.1, cut.2)
  | [] => none

/-- The text goes on after a blank line that is the first of these. -/
def BlankFirst (rest : List (List Char)) : Prop := ∃ next more, rest = [] :: next :: more

section Inner
variable {line : List Char} {rest : List (List Char)}

theorem cutLines_inner (inner : ¬ BlankFirst rest) :
    cutLines (line :: rest) = (cutLines rest).map fun cut => (line :: cut.1, cut.2) :=
  cutLines.eq_2 line rest fun next more same => inner ⟨next, more, same⟩

theorem readLines_inner (inner : ¬ BlankFirst rest) :
    readLines (line :: rest) = (if blankFollows rest then some (stripCarriageReturn line) else none) :: readLines rest :=
  readLines.eq_2 line rest fun next more same => inner ⟨next, more, same⟩

theorem blankFollows_inner (inner : ¬ BlankFirst rest) : blankFollows (line :: rest) = blankFollows rest :=
  blankFollows.eq_2 line rest fun next more same => inner ⟨next, more, same⟩

end Inner

theorem cutLines_modifyHead (c : Char) (line : List Char) (rest : List (List Char)) :
    cutLines ((c :: line) :: rest) = (cutLines (line :: rest)).map fun cut => (cut.1.modifyHead (c :: ·), cut.2) := by
  by_cases first : BlankFirst rest
  · obtain ⟨next, more, rfl⟩ := first
    rfl
  · rw [cutLines_inner first, cutLines_inner first, Option.map_map]
    rfl

theorem cutLines_splitOn (text : List Char) :
    cutLines (text.splitOn '\n') = (cutEvent text).map fun cut => (cut.1.splitOn '\n', cut.2.splitOn '\n') := by
  fun_induction cutEvent text with
  | case1 => rfl
  | case2 rest =>
      obtain ⟨next, more, split⟩ := List.exists_cons_of_ne_nil (List.splitOn_ne_nil '\n' rest)
      simp [List.splitOn_cons_eq_if_modifyHead, split, cutLines]
  | case3 c rest single ih =>
      obtain ⟨next, more, split⟩ := List.exists_cons_of_ne_nil (List.splitOn_ne_nil '\n' rest)
      rw [List.splitOn_cons_eq_if_modifyHead]
      by_cases newline : c = '\n'
      · subst newline
        have inner : ¬ BlankFirst (rest.splitOn '\n') := by
          rintro ⟨second, others, same⟩
          cases rest with
          | nil => cases same
          | cons d rest =>
              rw [List.splitOn_cons_eq_if_modifyHead] at same
              split at same
              · rename_i feed
                exact single rest rfl (eq_of_beq feed ▸ rfl)
              · obtain ⟨head, tail, inside⟩ := List.exists_cons_of_ne_nil (List.splitOn_ne_nil '\n' rest)
                rw [inside, List.modifyHead_cons] at same
                cases same
        rw [if_pos (beq_self_eq_true _), cutLines_inner inner, ih, Option.map_map, Option.map_map]
        refine congrArg (fun change => Option.map change (cutEvent rest)) (funext fun cut => ?_)
        simp [List.splitOn_cons_eq_if_modifyHead]
      · have other : ¬ (c == '\n') = true := by simpa using newline
        rw [if_neg other, split, List.modifyHead_cons, cutLines_modifyHead, ← split, ih, Option.map_map, Option.map_map]
        refine congrArg (fun change => Option.map change (cutEvent rest)) (funext fun cut => ?_)
        simp [List.splitOn_cons_eq_if_modifyHead, newline]

theorem blankFollows_eq (all : List (List Char)) : blankFollows all = (cutLines all).isSome := by
  induction all with
  | nil => rfl
  | cons line rest ih =>
      by_cases first : BlankFirst rest
      · obtain ⟨next, more, rfl⟩ := first
        rfl
      · rw [blankFollows_inner first, cutLines_inner first, ih, Option.isSome_map]

theorem readLines_none {all : List (List Char)} (none : cutLines all = none) : ∀ read ∈ readLines all, read = Option.none := by
  induction all with
  | nil => exact nofun
  | cons line rest ih =>
      by_cases first : BlankFirst rest
      · obtain ⟨next, more, rfl⟩ := first
        cases none
      · rw [cutLines_inner first, Option.map_eq_none_iff] at none
        rw [readLines_inner first, blankFollows_eq, none]
        exact List.forall_mem_cons.mpr ⟨rfl, ih none⟩

theorem cutLines_ne_nil {all event rest : List (List Char)} (found : cutLines all = some (event, rest)) : event ≠ [] := by
  cases all with
  | nil => cases found
  | cons line more =>
      by_cases first : BlankFirst more
      · obtain ⟨next, others, rfl⟩ := first
        cases found
        exact List.cons_ne_nil _ _
      · rw [cutLines_inner first] at found
        obtain ⟨cut, _, same⟩ := Option.map_eq_some_iff.mp found
        cases same
        exact List.cons_ne_nil _ _

/-- The lines of an event as `str::lines` gives them, a blank last one too. -/
def eventLines (event : List (List Char)) : List (List Char) := event.dropLast.map stripCarriageReturn ++ event.getLast?.toList

theorem readLines_some {all event rest : List (List Char)} (found : cutLines all = some (event, rest)) :
    readLines all = (eventLines event).map some ++ none :: readLines rest := by
  induction all generalizing event with
  | nil => cases found
  | cons line more ih =>
      by_cases first : BlankFirst more
      · obtain ⟨next, others, rfl⟩ := first
        cases found
        rfl
      · rw [cutLines_inner first] at found
        obtain ⟨⟨inner, after⟩, cut, same⟩ := Option.map_eq_some_iff.mp found
        obtain ⟨rfl, rfl⟩ := Prod.mk.inj same
        obtain ⟨second, others, rfl⟩ := List.exists_cons_of_ne_nil (cutLines_ne_nil cut)
        rw [readLines_inner first, blankFollows_eq, cut, ih cut]
        simp [eventLines, List.getLast?_cons]

/-! ## The loop -/

section Loop
variable {Chunk : Type} (parse : List Char → Option Chunk) (usage : Chunk → Option Usage)

def readEvent (read : Option (List Char)) : Option (StreamEvent Chunk) := (read.bind dataOf).map (readData parse)

def heard (text : List Char) : List (StreamEvent Chunk) := (readLines (text.splitOn '\n')).filterMap (readEvent parse)

theorem heard_none {text : List Char} (none : cutEvent text = none) : heard parse text = [] := by
  rw [heard, List.filterMap_eq_nil_iff]
  intro read member
  have cut : cutLines (text.splitOn '\n') = Option.none := by rw [cutLines_splitOn, none, Option.map_none]
  rw [readLines_none cut read member]
  rfl

theorem filterMap_lines (event : List Char) :
    ((lines event).map some).filterMap (readEvent parse) =
      ((eventLines (event.splitOn '\n')).map some).filterMap (readEvent parse) := by
  have blank : readEvent parse (some []) = none := rfl
  rw [lines, eventLines]
  cases (event.splitOn '\n').getLast? with
  | none => rfl
  | some last =>
      by_cases empty : last = []
      · subst empty
        simp [blank]
      · simp [empty]

theorem heard_some {text event rest : List Char} (found : cutEvent text = some (event, rest)) :
    heard parse text = ((lines event).map some).filterMap (readEvent parse) ++ heard parse rest := by
  have cut : cutLines (text.splitOn '\n') = some (event.splitOn '\n', rest.splitOn '\n') := by
    rw [cutLines_splitOn, found, Option.map_some]
  rw [heard, readLines_some cut, List.filterMap_append, filterMap_lines]
  rfl

theorem cutEvent_append {text event rest : List Char} (found : cutEvent text = some (event, rest)) (more : List Char) :
    cutEvent (text ++ more) = some (event, rest ++ more) := by
  fun_induction cutEvent text generalizing event with
  | case1 => cases found
  | case2 tail =>
      cases found
      rfl
  | case3 c tail single ih =>
      obtain ⟨cut, inner, same⟩ := Option.map_eq_some_iff.mp found
      obtain ⟨rfl, rfl⟩ := Prod.mk.inj same
      have outer : cutEvent (c :: (tail ++ more)) = (cutEvent (tail ++ more)).map fun cut => (c :: cut.1, cut.2) := by
        refine cutEvent.eq_3 c (tail ++ more) fun others newline start => ?_
        cases tail with
        | nil => cases inner
        | cons d tail => exact single tail newline (by rw [(List.cons.inj start).1])
      rw [List.cons_append, outer, ih inner, Option.map_some]

def leftOver (text : List Char) : List Char :=
  match found : cutEvent text with
  | none => text
  | some (_, rest) =>
      have : rest.length < text.length := cutEvent_length found
      leftOver rest
termination_by text.length

theorem cutEvent_leftOver (text : List Char) : cutEvent (leftOver text) = none := by
  fun_induction leftOver text with
  | case1 text found => exact found
  | case2 text event rest found shorter ih => exact ih

theorem heard_append (text more : List Char) : heard parse (text ++ more) = heard parse text ++ heard parse (leftOver text ++ more) := by
  fun_induction leftOver text with
  | case1 text found => rw [heard_none parse found, List.nil_append]
  | case2 text event rest found shorter ih =>
      rw [heard_some parse (cutEvent_append found more), heard_some parse found, ih, List.append_assoc]

def stateOf (buffer : List Char) (events : List (StreamEvent Chunk)) : StreamState Chunk :=
  ⟨buffer, events, lastUsageOf usage events⟩

theorem onLine_stateOf (buffer line : List Char) (events : List (StreamEvent Chunk)) :
    onLine parse usage (stateOf usage buffer events) line =
      stateOf usage buffer (events ++ [some line].filterMap (readEvent parse)) := by
  rw [onLine]
  cases data : dataOf line with
  | none => simp [readEvent, data]
  | some value =>
      have one : [some line].filterMap (readEvent parse) = [readData parse value] := by simp [readEvent, data]
      have last : lastUsageOf usage (events ++ [readData parse value]) =
          (usageOf usage (readData parse value)).or (lastUsageOf usage events) := by
        simp only [lastUsageOf, List.filterMap_append, List.getLast?_append]
        cases carried : usageOf usage (readData parse value) <;> simp [carried]
      rw [one, stateOf, stateOf, last]

theorem foldl_onLine (buffer : List Char) (read : List (List Char)) (events : List (StreamEvent Chunk)) :
    read.foldl (onLine parse usage) (stateOf usage buffer events) =
      stateOf usage buffer (events ++ (read.map some).filterMap (readEvent parse)) := by
  induction read generalizing events with
  | nil => simp
  | cons line read ih =>
      rw [List.foldl_cons, onLine_stateOf, ih, List.append_assoc, ← List.filterMap_append]
      rfl

theorem processEvents_none {state : StreamState Chunk} (none : cutEvent state.buffer = none) :
    processEvents parse usage state = state := by
  rw [processEvents]
  split
  · rfl
  · rename_i event rest found
    cases none.symm.trans found

theorem processEvents_some {state : StreamState Chunk} {event rest : List Char} (some : cutEvent state.buffer = some (event, rest)) :
    processEvents parse usage state =
      processEvents parse usage { (lines event).foldl (onLine parse usage) state with buffer := rest } := by
  rw [processEvents]
  split
  · rename_i found
    cases some.symm.trans found
  · rename_i other more found
    obtain ⟨rfl, rfl⟩ := Prod.mk.inj (Option.some.inj (some.symm.trans found))
    rfl

theorem processEvents_stateOf (buffer : List Char) (events : List (StreamEvent Chunk)) :
    processEvents parse usage (stateOf usage buffer events) = stateOf usage (leftOver buffer) (events ++ heard parse buffer) := by
  fun_induction leftOver buffer generalizing events with
  | case1 buffer found =>
      rw [heard_none parse found, List.append_nil, processEvents_none parse usage found]
  | case2 buffer event rest found shorter ih =>
      rw [processEvents_some parse usage found, foldl_onLine]
      have next := ih (events ++ ((lines event).map some).filterMap (readEvent parse))
      rw [List.append_assoc, ← heard_some parse found] at next
      exact next

theorem foldl_receiveChunk (chunks : List (List UInt8)) {buffer : List Char} (uncut : cutEvent buffer = none)
    (events : List (StreamEvent Chunk)) :
    ∃ rest, chunks.foldl (receiveChunk parse usage) (stateOf usage buffer events) =
      stateOf usage rest (events ++ heard parse (buffer ++ chunks.flatMap fromUtf8Lossy)) := by
  induction chunks generalizing buffer events with
  | nil =>
      refine ⟨buffer, ?_⟩
      rw [List.flatMap_nil, List.append_nil, heard_none parse uncut, List.append_nil]
      rfl
  | cons chunk chunks ih =>
      have received : receiveChunk parse usage (stateOf usage buffer events) chunk =
          stateOf usage (leftOver (buffer ++ fromUtf8Lossy chunk)) (events ++ heard parse (buffer ++ fromUtf8Lossy chunk)) :=
        processEvents_stateOf parse usage (buffer ++ fromUtf8Lossy chunk) events
      obtain ⟨rest, ends⟩ := ih (cutEvent_leftOver _) (events ++ heard parse (buffer ++ fromUtf8Lossy chunk))
      refine ⟨rest, ?_⟩
      rw [List.foldl_cons, received, ends, List.flatMap_cons, ← List.append_assoc buffer, List.append_assoc events,
        ← heard_append parse (buffer ++ fromUtf8Lossy chunk)]

/-! ## The events of the stream -/

theorem readLines_from (all : List (List Char)) :
    List.Forall₂ (fun read got => ∀ line, read = some line → line = got ∨ line = stripCarriageReturn got) (readLines all) all := by
  fun_induction readLines all with
  | case1 line next rest ih =>
      exact .cons (fun _ same => .inl (Option.some.inj same).symm) (.cons (fun _ same => nomatch same) ih)
  | case2 line rest inner ih =>
      refine .cons (fun other same => ?_) ih
      split at same
      · exact .inr (Option.some.inj same).symm
      · cases same
  | case3 => exact .nil

theorem fewer_events (chunks : List (List UInt8)) :
    List.Forall₂ (fun read sent => (readEvent parse read).isSome → ((sentData sent).map (readData parse)).isSome)
      (readLines ((chunks.flatMap fromUtf8Lossy).splitOn '\n')) (streamLines (fromUtf8Lossy chunks.flatten)) := by
  have arrived : List.Forall₂ (fun got sent => Arrived sent got) ((chunks.flatMap fromUtf8Lossy).splitOn '\n')
      ((fromUtf8Lossy chunks.flatten).splitOn '\n') := (arrived_lines [] chunks List.not_mem_nil).flip
  refine List.forall₂_map_right_iff.mpr (forall₂_comp (fun read got sent from_ arrived some => ?_) (readLines_from _) arrived)
  rw [readEvent, Option.isSome_map, Option.isSome_bind] at some
  rw [Option.isSome_map]
  cases read with
  | none => cases some
  | some line => exact sentData_of_arrived arrived (from_ line rfl) some

theorem faithful_iff_events (chunks : List (List UInt8)) : Faithful parse usage chunks ↔
    heard parse (chunks.flatMap fromUtf8Lossy) = sentEvents parse (fromUtf8Lossy chunks.flatten) := by
  obtain ⟨rest, ends⟩ := foldl_receiveChunk parse usage chunks (show cutEvent [] = none from rfl) []
  have whole : chatStream parse usage chunks = stateOf usage rest (heard parse (chunks.flatMap fromUtf8Lossy)) := ends
  rw [Faithful, whole]
  exact ⟨And.left, fun same => ⟨same, congrArg (fun events => recordedTokens (lastUsageOf usage events)) same⟩⟩

theorem stream_faithful_iff (chunks : List (List UInt8)) : Faithful parse usage chunks ↔ LinesStand parse chunks := by
  have fewer := fewer_events parse chunks
  rw [faithful_iff_events, heard, sentEvents, filterMap_eq_iff fewer]
  constructor
  · refine List.Forall₂.imp fun read sent same data found => ?_
    rw [found, Option.map_some] at same
    exact same
  · refine List.Forall₂.mp (fun read sent fewer stands => ?_) fewer
    cases found : sentData sent with
    | none =>
        rw [found] at fewer
        exact Option.not_isSome_iff_eq_none.mp fun some => Bool.false_ne_true (fewer some)
    | some data => exact stands data found

end Loop

/-! ## Streams that lose events -/

def unparsed : List Char → Option Unit := fun _ => none

/-- A stream with CRLF line ends has no two line feeds in a row. -/
def crlfStream : List (List UInt8) := [utf8Encode "data: x\r\n\r\n".toList]

def openStream : List (List UInt8) := [utf8Encode "data: x\n\ndata: [DONE]\n".toList]

/-- The second chunk starts at the last byte of the accented letter. -/
def cutStream : List (List UInt8) := [(utf8Encode "data: é\n\n".toList).take 7, (utf8Encode "data: é\n\n".toList).drop 7]

theorem streams_lose_events :
    ¬ Faithful unparsed (fun _ => none) crlfStream ∧ ¬ Faithful unparsed (fun _ => none) openStream ∧
      ¬ Faithful unparsed (fun _ => none) cutStream := by
  refine ⟨?_, ?_, ?_⟩
  · rw [faithful_iff_events]
    decide +kernel
  · rw [faithful_iff_events]
    decide +kernel
  · rw [faithful_iff_events]
    decide +kernel

end MacMgmt.Proof.ChatStream
