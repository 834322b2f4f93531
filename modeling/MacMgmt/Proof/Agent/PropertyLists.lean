import MacMgmt.Proof.Agent.UnitFiles

/-!
# Property lists that are read back

The text of a property list is read line by line: a line is the elements on it, whatever comes after it. Whatever is found
consists of characters that stand for themselves, which is what makes the lines be read so.
-/

namespace MacMgmt.Proof.UnitFiles
open Lib Agent.Unmanaged

variable {svc : UnmanagedService} {spec : SpawnSpec} {username : String}

def isLiteral (c : Char) : Bool := isXmlChar c && c ≠ '<' && c ≠ '&'

theorem isLiteral_iff {c : Char} : isLiteral c = true ↔ isXmlChar c = true ∧ c ≠ '<' ∧ c ≠ '&' := by
  simp [isLiteral, and_assoc]

def readItems (text : Text) : Option (List PlistItem) := (xmlTokens false [] text).bind plistItems

/-! ## Pieces of a text -/

theorem xmlTokens_text {front : Text} (literal : front.all isLiteral = true) (read rest : Text) :
    xmlTokens false read (front ++ rest) = xmlTokens false (read ++ front) rest := by
  induction front generalizing read with
  | nil => rw [List.nil_append, List.append_nil]
  | cons c front ih =>
      obtain ⟨first, later⟩ := Bool.and_eq_true_iff.mp literal
      obtain ⟨allowed, open_, reference⟩ := isLiteral_iff.mp first
      rw [List.cons_append, xmlTokens, allowed, if_neg (by decide), if_neg Bool.false_ne_true, if_neg open_, if_neg reference,
        ih later, List.append_assoc, List.singleton_append]

theorem xmlTokens_open (read rest : Text) : xmlTokens false read ('<' :: rest) =
    (xmlTokens true [] rest).map fun tokens => flush read ++ tokens := by
  rw [xmlTokens, if_neg (by decide), if_neg Bool.false_ne_true, if_pos rfl]

def isTagChar (c : Char) : Bool := isXmlChar c && c ≠ '>'

theorem xmlTokens_tag {name : Text} (bare : name.all isTagChar = true) (read rest : Text) :
    xmlTokens true read (name ++ '>' :: rest) =
      (xmlTokens false [] rest).map fun tokens => .tag (read ++ name) :: tokens := by
  induction name generalizing read with
  | nil => rw [List.nil_append, xmlTokens, if_neg (by decide), if_pos rfl, if_pos rfl, List.append_nil]
  | cons c name ih =>
      obtain ⟨first, later⟩ := Bool.and_eq_true_iff.mp bare
      obtain ⟨allowed, other⟩ : isXmlChar c = true ∧ c ≠ '>' := by simpa [isTagChar] using first
      rw [List.cons_append, xmlTokens, allowed, if_neg (by decide), if_pos rfl, if_neg other, ih later, List.append_assoc,
        List.singleton_append]

theorem plistItems_flush {white : Text} (space : white.all isXmlSpace = true) (read : Text) (tokens : List XmlToken) :
    plistItems (flush (white ++ read) ++ tokens) = plistItems (flush read ++ tokens) := by
  by_cases empty : white = []
  · rw [empty, List.nil_append]
  · have whole : white ++ read ≠ [] := by simp [empty]
    rw [flush, if_neg whole, List.singleton_append, plistItems, List.all_append, space, Bool.true_and]
    by_cases nothing : read = []
    · rw [nothing]
      rfl
    · rw [flush, if_neg nothing, List.singleton_append, plistItems]

theorem readItems_white {white : Text} (space : white.all isXmlSpace = true) (read text : Text) :
    (xmlTokens false (white ++ read) text).bind plistItems = (xmlTokens false read text).bind plistItems := by
  induction text generalizing read with
  | nil =>
      have same := plistItems_flush space read []
      simpa [xmlTokens] using same
  | cons c text ih =>
      rw [xmlTokens, xmlTokens]
      split
      · rfl
      rw [if_neg Bool.false_ne_true, if_neg Bool.false_ne_true]
      split
      · rw [Option.bind_map, Option.bind_map]
        exact congrArg _ (funext fun tokens => plistItems_flush space read tokens)
      split
      · rfl
      · rw [List.append_assoc, ih]

theorem plistItems_mark {tag : Text} (other : textElements.contains (String.ofList tag) = false) (tokens : List XmlToken) :
    plistItems (.tag tag :: tokens) = (plistItems tokens).map fun items => .mark tag :: items := by
  rw [plistItems.eq_def]
  simp only [other, Bool.false_eq_true, if_false]

theorem plistItems_leaf {name : String} (element : textElements.contains name = true) (content : Text) (tokens : List XmlToken) :
    plistItems (.tag name.toList :: (flush content ++ .tag ('/' :: name.toList) :: tokens)) =
      (plistItems tokens).map fun items => .leaf name.toList content :: items := by
  by_cases empty : content = []
  · rw [flush, if_pos empty, List.nil_append, plistItems.eq_def]
    simp only [String.ofList_toList, element, if_true, empty]
  · rw [flush, if_neg empty, List.singleton_append, plistItems.eq_def]
    simp only [String.ofList_toList, element, if_true]

def Reads (text : Text) (items : List PlistItem) : Prop :=
  ∀ rest, readItems (text ++ rest) = (readItems rest).map fun later => items ++ later

theorem Reads.append {first second : Text} {items items' : List PlistItem} (reads : Reads first items)
    (reads' : Reads second items') : Reads (first ++ second) (items ++ items') := by
  intro rest
  rw [List.append_assoc, reads, reads', Option.map_map]
  simp only [Function.comp_def, List.append_assoc]

theorem isLiteral_of_isXmlSpace {c : Char} (space : isXmlSpace c = true) : isLiteral c = true := by
  simp only [isXmlSpace, Bool.or_eq_true, decide_eq_true_eq] at space
  obtain (rfl | rfl) | rfl := space
  · decide
  · decide
  · decide

theorem Reads.white {white : Text} (space : white.all isXmlSpace = true) : Reads white [] := by
  intro rest
  have literal : white.all isLiteral = true :=
    List.all_eq_true.mpr fun c member => isLiteral_of_isXmlSpace (List.all_eq_true.mp space c member)
  have skipped := readItems_white space [] rest
  rw [readItems, xmlTokens_text literal, List.nil_append]
  rw [List.append_nil] at skipped
  rw [skipped]
  simp [readItems]

theorem Reads.mark {tag : Text} (bare : tag.all isTagChar = true)
    (other : textElements.contains (String.ofList tag) = false) : Reads ('<' :: tag ++ ['>']) [.mark tag] := by
  intro rest
  rw [List.append_assoc, List.cons_append, List.singleton_append, readItems, xmlTokens_open, xmlTokens_tag bare, List.nil_append,
    Option.map_map, Option.bind_map, readItems, Option.map_bind]
  exact congrArg _ (funext fun tokens => plistItems_mark other tokens)

theorem Reads.leaf {name : String} (element : name ∈ textElements) {content : Text} (literal : content.all isLiteral = true) :
    Reads ('<' :: name.toList ++ ['>'] ++ content ++ ('<' :: '/' :: name.toList ++ ['>'])) [.leaf name.toList content] := by
  have bare : name.toList.all isTagChar = true := by
    simp only [textElements, List.mem_cons, List.not_mem_nil, or_false] at element
    obtain rfl | rfl := element
    · decide
    · decide
  have closing : ('/' :: name.toList).all isTagChar = true := Bool.and_eq_true_iff.mpr ⟨by decide, bare⟩
  intro rest
  have text : '<' :: name.toList ++ ['>'] ++ content ++ ('<' :: '/' :: name.toList ++ ['>']) ++ rest =
      '<' :: (name.toList ++ '>' :: (content ++ '<' :: ('/' :: name.toList ++ '>' :: rest))) := by simp
  have known : textElements.contains name = true := by simpa using element
  rw [text, readItems, xmlTokens_open, xmlTokens_tag bare, xmlTokens_text literal, List.nil_append, xmlTokens_open,
    xmlTokens_tag closing, Option.map_map, Option.map_map, Option.map_map, Option.bind_map, readItems, Option.map_bind]
  exact congrArg _ (funext fun tokens => plistItems_leaf known content tokens)

theorem Reads.intercalate {lines : List Text} {items : List (List PlistItem)} (each : List.Forall₂ Reads lines items) :
    Reads (['\n'].intercalate lines) items.flatten := by
  have newline : Reads ['\n'] [] := Reads.white (by decide)
  induction each with
  | nil => exact Reads.white (by decide)
  | @cons line found lines items first rest ih =>
      cases rest with
      | nil =>
          rw [List.intercalate_singleton, List.flatten_singleton]
          exact first
      | cons second rest =>
          rw [List.intercalate_cons_cons, List.flatten_cons]
          have whole := (first.append newline).append ih
          rwa [List.append_nil] at whole

/-! ## The lines of a property list -/

def elementLine (indent name content : Text) : Text := indent ++ ('<' :: name ++ ['>'] ++ content ++ ('<' :: '/' :: name ++ ['>']))

theorem reads_element {indent content : Text} {name : String} (space : indent.all isXmlSpace = true) (element : name ∈ textElements)
    (literal : content.all isLiteral = true) : Reads (elementLine indent name.toList content) [.leaf name.toList content] :=
  (Reads.white space).append (Reads.leaf element literal)

theorem not_textElement {tag : Text} (key : tag ≠ ['k', 'e', 'y']) (string : tag ≠ ['s', 't', 'r', 'i', 'n', 'g']) :
    textElements.contains (String.ofList tag) = false := by
  have other {name : Text} (unlike : tag ≠ name) : String.ofList tag ≠ String.ofList name := by
    intro same
    exact unlike (by simpa using congrArg String.toList same)
  have first : String.ofList tag ≠ "key" := other key
  have second : String.ofList tag ≠ "string" := other string
  simp [textElements, first, second]

theorem reads_key {line key : Text} (text : line = elementLine [' ', ' ', ' ', ' '] ['k', 'e', 'y'] key)
    (literal : key.all isLiteral = true) : Reads (String.ofList line).toList [.leaf "key".toList (String.ofList key).toList] := by
  have name : "key".toList = ['k', 'e', 'y'] := String.toList_ofList
  rw [String.toList_ofList (l := line), String.toList_ofList (l := key), text, ← name]
  exact reads_element (by decide) (by decide) literal

theorem reads_argument {line value : Text}
    (text : line = elementLine [' ', ' ', ' ', ' ', ' ', ' ', ' ', ' '] ['s', 't', 'r', 'i', 'n', 'g'] value)
    (literal : value.all isLiteral = true) : Reads (String.ofList line).toList [.leaf "string".toList (String.ofList value).toList] := by
  have name : "string".toList = ['s', 't', 'r', 'i', 'n', 'g'] := String.toList_ofList
  rw [String.toList_ofList (l := line), String.toList_ofList (l := value), text, ← name]
  exact reads_element (by decide) (by decide) literal

theorem reads_tag (indent : Text) {line tag : Text} (text : line = indent ++ ('<' :: tag ++ ['>'])) (space : indent.all isXmlSpace = true)
    (bare : tag.all isTagChar = true) (key : tag ≠ ['k', 'e', 'y']) (string : tag ≠ ['s', 't', 'r', 'i', 'n', 'g']) :
    Reads (String.ofList line).toList [.mark (String.ofList tag).toList] := by
  rw [String.toList_ofList, String.toList_ofList, text]
  exact (Reads.white space).append (Reads.mark bare (not_textElement key string))

theorem reads_string (indent : Text) {front back before after : Text}
    (opens : front = indent ++ (['<', 's', 't', 'r', 'i', 'n', 'g', '>'] ++ before))
    (closes : back = after ++ ['<', '/', 's', 't', 'r', 'i', 'n', 'g', '>']) (space : indent.all isXmlSpace = true)
    (literalBefore : before.all isLiteral = true) (literalAfter : after.all isLiteral = true) {content : String}
    (literal : content.toList.all isLiteral = true) :
    Reads (String.ofList front ++ content ++ String.ofList back).toList
      [.leaf "string".toList (before ++ content.toList ++ after)] := by
  have name : "string".toList = ['s', 't', 'r', 'i', 'n', 'g'] := String.toList_ofList
  have line : (String.ofList front ++ content ++ String.ofList back).toList =
      elementLine indent "string".toList (before ++ content.toList ++ after) := by
    rw [String.toList_append, String.toList_append, String.toList_ofList, String.toList_ofList, opens, closes, elementLine, name]
    simp
  rw [line]
  exact reads_element space (by decide) (by simp [literalBefore, literal, literalAfter])

def entryItems (entry : String × String) : List PlistItem :=
  [.leaf "key".toList entry.1.toList, .leaf "string".toList entry.2.toList]

def entryLines (entry : String × String) : String :=
  "        <key>" ++ entry.1 ++ "</key>\n        <string>" ++ entry.2 ++ "</string>"

theorem reads_entryLines {entry : String × String} (key : entry.1.toList.all isLiteral = true)
    (value : entry.2.toList.all isLiteral = true) : Reads (entryLines entry).toList (entryItems entry) := by
  have first : Reads (elementLine "        ".toList "key".toList entry.1.toList) [.leaf "key".toList entry.1.toList] :=
    reads_element (by decide) (by decide) key
  have newline : Reads ['\n'] [] := Reads.white (by decide)
  have second : Reads (elementLine "        ".toList "string".toList entry.2.toList) [.leaf "string".toList entry.2.toList] :=
    reads_element (by decide) (by decide) value
  have text : (entryLines entry).toList = elementLine "        ".toList "key".toList entry.1.toList ++ ['\n'] ++
      elementLine "        ".toList "string".toList entry.2.toList := by
    have indent : "        ".toList = [' ', ' ', ' ', ' ', ' ', ' ', ' ', ' '] := String.toList_ofList
    have named : "key".toList = ['k', 'e', 'y'] := String.toList_ofList
    have string : "string".toList = ['s', 't', 'r', 'i', 'n', 'g'] := String.toList_ofList
    have opens : "        <key>".toList = _ := String.toList_ofList
    have between : "</key>\n        <string>".toList = _ := String.toList_ofList
    have closes : "</string>".toList = _ := String.toList_ofList
    show ("        <key>" ++ entry.1 ++ "</key>\n        <string>" ++ entry.2 ++ "</string>").toList = _
    rw [indent, named, string]
    simp only [elementLine, String.toList_append, opens, between, closes, List.append_assoc, List.cons_append, List.nil_append]
  rw [text]
  exact (first.append newline).append second

structure CleanSpec (spec : SpawnSpec) : Prop where
  words : (Shell.joined spec.words).all isLiteral = true
  env : ∀ entry ∈ spec.env, entry.1.toList.all isLiteral = true ∧ entry.2.toList.all isLiteral = true

def envItems (env : List (String × String)) : List PlistItem :=
  if env = [] then []
  else .leaf "key".toList "EnvironmentVariables".toList :: .mark "dict".toList :: (env.flatMap entryItems ++ [.mark "/dict".toList])

theorem envDict_eq_empty {env : List (String × String)} : "\n".intercalate (env.map entryLines) = "" ↔ env = [] := by
  constructor
  · intro empty
    cases env with
    | nil => rfl
    | cons entry env =>
        have begins : ("        <key>" ++ entry.1 ++ "</key>\n        <string>" ++ entry.2 ++ "</string>").toList ≠ [] := by simp
        have none_ : ['\n'].intercalate (((entry :: env).map entryLines).map String.toList) = [] := by
          have same := congrArg String.toList empty
          rwa [String.toList_intercalate] at same
        obtain ⟨c, member⟩ := List.exists_mem_of_ne_nil _ begins
        have within : c ∈ ['\n'].intercalate (((entry :: env).map entryLines).map String.toList) :=
          mem_intercalate_of_mem List.mem_cons_self member
        rw [none_] at within
        cases within
  · rintro rfl
    rfl

theorem reads_envSection (clean : CleanSpec spec) :
    Reads (if "\n".intercalate (spec.env.map entryLines) = "" then ""
      else "    <key>EnvironmentVariables</key>\n    <dict>\n" ++ "\n".intercalate (spec.env.map entryLines) ++
        "\n    </dict>").toList (envItems spec.env) := by
  rw [envItems]
  by_cases empty : spec.env = []
  · rw [if_pos (envDict_eq_empty.mpr empty), if_pos empty]
    exact Reads.white (by decide)
  · rw [if_neg fun found => empty (envDict_eq_empty.mp found), if_neg empty]
    have newline : Reads ['\n'] [] := Reads.white (by decide)
    have key : Reads "    <key>EnvironmentVariables</key>".toList [.leaf "key".toList "EnvironmentVariables".toList] :=
      reads_key rfl (by decide)
    have opening : Reads "    <dict>".toList [.mark "dict".toList] :=
      reads_tag [' ', ' ', ' ', ' '] rfl (by decide) (by decide) (by decide) (by decide)
    have closing : Reads "    </dict>".toList [.mark "/dict".toList] :=
      reads_tag [' ', ' ', ' ', ' '] rfl (by decide) (by decide) (by decide) (by decide)
    have entries : Reads ("\n".intercalate (spec.env.map entryLines)).toList (spec.env.flatMap entryItems) := by
      rw [String.toList_intercalate, List.flatMap_def, List.map_map]
      refine Reads.intercalate ?_
      rw [List.forall₂_map_left_iff, List.forall₂_map_right_iff, List.forall₂_same]
      exact fun entry member => reads_entryLines (clean.env entry member).1 (clean.env entry member).2
    have section_ := (((key.append newline).append opening).append newline).append ((entries.append newline).append closing)
    simp only [List.append_nil] at section_
    have text : ("    <key>EnvironmentVariables</key>\n    <dict>\n" ++ "\n".intercalate (spec.env.map entryLines) ++
        "\n    </dict>").toList = "    <key>EnvironmentVariables</key>".toList ++ ['\n'] ++ "    <dict>".toList ++ ['\n'] ++
          (("\n".intercalate (spec.env.map entryLines)).toList ++ ['\n'] ++ "    </dict>".toList) := by
      have opens : "    <key>EnvironmentVariables</key>\n    <dict>\n".toList = _ := String.toList_ofList
      have first : "    <key>EnvironmentVariables</key>".toList = _ := String.toList_ofList
      have second : "    <dict>".toList = _ := String.toList_ofList
      have closes : "\n    </dict>".toList = _ := String.toList_ofList
      have last : "    </dict>".toList = _ := String.toList_ofList
      rw [String.toList_append, String.toList_append, opens, first, second, closes, last]
      simp only [List.append_assoc, List.cons_append, List.nil_append]
    rw [text]
    exact section_

def plistFront (svc : UnmanagedService) (username : String) (spec : SpawnSpec) : List PlistItem :=
  [.mark "?xml version=\"1.0\" encoding=\"UTF-8\"?".toList,
    .mark "!DOCTYPE plist PUBLIC \"-//Apple//DTD PLIST 1.0//EN\"\n  \"http://www.apple.com/DTDs/PropertyList-1.0.dtd\"".toList,
    .mark "plist version=\"1.0\"".toList, .mark "dict".toList, .leaf "key".toList "Label".toList,
    .leaf "string".toList (plistLabel svc).toList, .leaf "key".toList "UserName".toList, .leaf "string".toList username.toList,
    .leaf "key".toList "ProgramArguments".toList, .mark "array".toList, .leaf "string".toList "/bin/bash".toList,
    .leaf "string".toList "-l".toList, .leaf "string".toList "-c".toList,
    .leaf "string".toList ("exec ".toList ++ Shell.joined spec.words), .mark "/array".toList, .leaf "key".toList "RunAtLoad".toList,
    .mark "true/".toList, .leaf "key".toList "KeepAlive".toList, .mark "true/".toList, .leaf "key".toList "StandardOutPath".toList,
    .leaf "string".toList ("/tmp/".toList ++ (plistLabel svc).toList ++ ".out.log".toList),
    .leaf "key".toList "StandardErrorPath".toList,
    .leaf "string".toList ("/tmp/".toList ++ (plistLabel svc).toList ++ ".err.log".toList)]

def plistBack : List PlistItem := [.mark "/dict".toList, .mark "/plist".toList]

theorem intercalate_merge (a b c d : Text) (rest : List Text) :
    ['\n'].intercalate (a :: b :: c :: d :: rest) = ['\n'].intercalate (a :: (b ++ ['\n'] ++ c) :: d :: rest) := by
  simp [List.intercalate_cons_cons]

theorem tidy_literal {text : String} (tidy : Tidy (.macos username) svc) (named : text ∈ [svc.name, username]) :
    text.toList.all isLiteral = true :=
  List.all_eq_true.mpr fun c member => isLiteral_iff.mpr (tidy text named c member)

theorem reads_lines {first second tag : Text} (text : first ++ ['\n'] ++ second = '<' :: tag ++ ['>'])
    (bare : tag.all isTagChar = true) (key : tag ≠ ['k', 'e', 'y']) (string : tag ≠ ['s', 't', 'r', 'i', 'n', 'g']) :
    Reads ((String.ofList first).toList ++ ['\n'] ++ (String.ofList second).toList) [.mark (String.ofList tag).toList] := by
  rw [String.toList_ofList, String.toList_ofList, String.toList_ofList, text]
  exact Reads.mark bare (not_textElement key string)

theorem readItems_launchdPlist (tidy : Tidy (.macos username) svc) (clean : CleanSpec spec) :
    readItems (launchdPlist svc username spec).toList = some (plistFront svc username spec ++ envItems spec.env ++ plistBack) := by
  have user : username.toList.all isLiteral = true := tidy_literal tidy (by simp)
  have label : (plistLabel svc).toList.all isLiteral = true := by
    have name : svc.name.toList.all isLiteral = true := tidy_literal tidy (by simp)
    have text : "com.plan-ai.".toList = _ := String.toList_ofList
    show ("com.plan-ai." ++ svc.name).toList.all isLiteral = true
    rw [String.toList_append, List.all_append, text, name]
    rfl
  have exec : (if spec.args = [] then spec.program else spec.program ++ " " ++ " ".intercalate spec.args).toList.all isLiteral =
      true := by
    rw [execText_toList]
    exact clean.words
  have xml : Reads "<?xml version=\"1.0\" encoding=\"UTF-8\"?>".toList [.mark "?xml version=\"1.0\" encoding=\"UTF-8\"?".toList] :=
    reads_tag [] rfl (by decide) (by decide) (by decide) (by decide)
  have doctype : Reads ("<!DOCTYPE plist PUBLIC \"-//Apple//DTD PLIST 1.0//EN\"".toList ++ ['\n'] ++
      "  \"http://www.apple.com/DTDs/PropertyList-1.0.dtd\">".toList)
      [.mark "!DOCTYPE plist PUBLIC \"-//Apple//DTD PLIST 1.0//EN\"\n  \"http://www.apple.com/DTDs/PropertyList-1.0.dtd\"".toList] :=
    reads_lines rfl (by decide) (by decide) (by decide)
  have plist : Reads "<plist version=\"1.0\">".toList [.mark "plist version=\"1.0\"".toList] :=
    reads_tag [] rfl (by decide) (by decide) (by decide) (by decide)
  have dict : Reads "<dict>".toList [.mark "dict".toList] :=
    reads_tag [] rfl (by decide) (by decide) (by decide) (by decide)
  have labelKey : Reads "    <key>Label</key>".toList [.leaf "key".toList "Label".toList] := reads_key rfl (by decide)
  have labelValue : Reads ("    <string>" ++ plistLabel svc ++ "</string>").toList
      [.leaf "string".toList ([] ++ (plistLabel svc).toList ++ [])] :=
    reads_string [' ', ' ', ' ', ' '] (by decide) (by decide) (by decide) (by decide) (by decide) label
  have userKey : Reads "    <key>UserName</key>".toList [.leaf "key".toList "UserName".toList] := reads_key rfl (by decide)
  have userValue : Reads ("    <string>" ++ username ++ "</string>").toList [.leaf "string".toList ([] ++ username.toList ++ [])] :=
    reads_string [' ', ' ', ' ', ' '] (by decide) (by decide) (by decide) (by decide) (by decide) user
  have argumentsKey : Reads "    <key>ProgramArguments</key>".toList [.leaf "key".toList "ProgramArguments".toList] := reads_key rfl (by decide)
  have array : Reads "    <array>".toList [.mark "array".toList] :=
    reads_tag [' ', ' ', ' ', ' '] rfl (by decide) (by decide) (by decide) (by decide)
  have bash : Reads "        <string>/bin/bash</string>".toList [.leaf "string".toList "/bin/bash".toList] :=
    reads_argument rfl (by decide)
  have login : Reads "        <string>-l</string>".toList [.leaf "string".toList "-l".toList] :=
    reads_argument rfl (by decide)
  have command : Reads "        <string>-c</string>".toList [.leaf "string".toList "-c".toList] :=
    reads_argument rfl (by decide)
  have execValue : Reads ("        <string>exec " ++ (if spec.args = [] then spec.program
      else spec.program ++ " " ++ " ".intercalate spec.args) ++ "</string>").toList
      [.leaf "string".toList ("exec ".toList ++ (if spec.args = [] then spec.program
        else spec.program ++ " " ++ " ".intercalate spec.args).toList ++ [])] :=
    reads_string [' ', ' ', ' ', ' ', ' ', ' ', ' ', ' '] (by decide) (by decide) (by decide) (by decide) (by decide) exec
  have arrayEnd : Reads "    </array>".toList [.mark "/array".toList] :=
    reads_tag [' ', ' ', ' ', ' '] rfl (by decide) (by decide) (by decide) (by decide)
  have runKey : Reads "    <key>RunAtLoad</key>".toList [.leaf "key".toList "RunAtLoad".toList] := reads_key rfl (by decide)
  have yes : Reads "    <true/>".toList [.mark "true/".toList] :=
    reads_tag [' ', ' ', ' ', ' '] rfl (by decide) (by decide) (by decide) (by decide)
  have keepKey : Reads "    <key>KeepAlive</key>".toList [.leaf "key".toList "KeepAlive".toList] := reads_key rfl (by decide)
  have outKey : Reads "    <key>StandardOutPath</key>".toList [.leaf "key".toList "StandardOutPath".toList] := reads_key rfl (by decide)
  have outValue : Reads ("    <string>/tmp/" ++ plistLabel svc ++ ".out.log</string>").toList
      [.leaf "string".toList ("/tmp/".toList ++ (plistLabel svc).toList ++ ".out.log".toList)] :=
    reads_string [' ', ' ', ' ', ' '] (by decide) (by decide) (by decide) (by decide) (by decide) label
  have errKey : Reads "    <key>StandardErrorPath</key>".toList [.leaf "key".toList "StandardErrorPath".toList] := reads_key rfl (by decide)
  have errValue : Reads ("    <string>/tmp/" ++ plistLabel svc ++ ".err.log</string>").toList
      [.leaf "string".toList ("/tmp/".toList ++ (plistLabel svc).toList ++ ".err.log".toList)] :=
    reads_string [' ', ' ', ' ', ' '] (by decide) (by decide) (by decide) (by decide) (by decide) label
  have dictEnd : Reads "</dict>".toList [.mark "/dict".toList] :=
    reads_tag [] rfl (by decide) (by decide) (by decide) (by decide)
  have plistEnd : Reads "</plist>".toList [.mark "/plist".toList] :=
    reads_tag [] rfl (by decide) (by decide) (by decide) (by decide)
  have blank : Reads "".toList [] := Reads.white (by decide)
  have lines := Reads.intercalate (.cons xml (.cons doctype (.cons plist (.cons dict (.cons labelKey (.cons labelValue (.cons userKey
    (.cons userValue (.cons argumentsKey (.cons array (.cons bash (.cons login (.cons command (.cons execValue (.cons arrayEnd
    (.cons runKey (.cons yes (.cons keepKey (.cons yes (.cons outKey (.cons outValue (.cons errKey (.cons errValue
    (.cons (reads_envSection clean) (.cons dictEnd (.cons plistEnd (.cons blank .nil)))))))))))))))))))))))))))
  have whole : Reads (launchdPlist svc username spec).toList (plistFront svc username spec ++ envItems spec.env ++ plistBack) := by
    rw [← intercalate_merge] at lines
    simp only [List.flatten_cons, List.flatten_nil, List.cons_append, List.nil_append, List.append_nil, execText_toList] at lines
    rw [launchdPlist, String.toList_intercalate, List.append_assoc]
    exact lines
  have read := whole []
  rw [List.append_nil] at read
  rw [read]
  simp [readItems, xmlTokens, flush, plistItems]

/-! ## What is found was in the text -/

theorem isXmlChar_of_xmlTokens {inTag : Bool} {read text : Text} {tokens : List XmlToken}
    (found : xmlTokens inTag read text = some tokens) : ∀ c ∈ text, isXmlChar c = true := by
  induction text generalizing inTag read tokens with
  | nil => exact List.forall_mem_nil _
  | cons c rest ih =>
      rw [xmlTokens] at found
      split at found
      · cases found
      rename_i allowed
      refine List.forall_mem_cons.mpr ⟨by simpa using allowed, ?_⟩
      split at found
      · split at found
        · obtain ⟨later, foundLater, -⟩ := Option.map_eq_some_iff.mp found
          exact ih foundLater
        · exact ih found
      split at found
      · obtain ⟨later, foundLater, -⟩ := Option.map_eq_some_iff.mp found
        exact ih foundLater
      split at found
      · cases found
      · exact ih found

theorem literal_xmlTokens {inTag : Bool} {read text : Text} {tokens : List XmlToken}
    (found : xmlTokens inTag read text = some tokens) (literal : inTag = false → read.all isLiteral = true) {content : Text}
    (member : .text content ∈ tokens) : content.all isLiteral = true := by
  have flushed {read : Text} (literal : read.all isLiteral = true) (member : .text content ∈ flush read) :
      content.all isLiteral = true := by
    rw [flush] at member
    split at member
    · cases member
    · obtain rfl := XmlToken.text.inj (List.mem_singleton.mp member)
      exact literal
  induction text generalizing inTag read tokens with
  | nil =>
      rw [xmlTokens] at found
      split at found
      · cases found
      · rename_i outside
        obtain rfl := Option.some.inj found
        exact flushed (literal (Bool.eq_false_iff.mpr outside)) member
  | cons c rest ih =>
      rw [xmlTokens] at found
      split at found
      · cases found
      rename_i allowed
      split at found
      · rename_i inside
        split at found
        · obtain ⟨later, foundLater, rfl⟩ := Option.map_eq_some_iff.mp found
          refine ih foundLater (fun _ => rfl) ?_
          simpa using member
        · exact ih found (fun outside => absurd outside (by decide)) member
      rename_i outside
      have readLiteral := literal (Bool.eq_false_iff.mpr outside)
      split at found
      · obtain ⟨later, foundLater, rfl⟩ := Option.map_eq_some_iff.mp found
        rcases List.mem_append.mp member with here | after
        · exact flushed readLiteral here
        · exact ih foundLater (fun outside => absurd outside (by decide)) after
      split at found
      · cases found
      · rename_i open_ reference
        refine ih found (fun _ => ?_) member
        have last : isLiteral c = true := isLiteral_iff.mpr ⟨by simpa using allowed, open_, reference⟩
        simp [readLiteral, last]

theorem literal_plistItems {tokens : List XmlToken} {items : List PlistItem} (found : plistItems tokens = some items)
    (literal : ∀ content, .text content ∈ tokens → content.all isLiteral = true) {name content : Text}
    (member : .leaf name content ∈ items) : content.all isLiteral = true := by
  rw [plistItems.eq_def] at found
  induction tokens using plistItems.induct generalizing items with
  | case1 =>
      obtain rfl := Option.some.inj found
      cases member
  | case2 read rest space ih =>
      simp only [space, if_true] at found
      rw [plistItems.eq_def] at found
      exact ih found (fun content within => literal content (List.mem_cons_of_mem _ within)) member
  | case3 read rest other =>
      simp only [if_neg other] at found
      cases found
  | case4 element known rest ih =>
      simp only [known, if_true] at found
      obtain ⟨later, foundLater, rfl⟩ := Option.map_eq_some_iff.mp found
      rcases List.mem_cons.mp member with first | after
      · rw [(PlistItem.leaf.inj first).2]
        rfl
      · rw [plistItems.eq_def] at foundLater
        exact ih foundLater (fun content within => literal content (by simp [within])) after
  | case5 element known close rest other =>
      simp only [known, if_true, if_neg other] at found
      cases found
  | case6 element known read rest ih =>
      simp only [known, if_true] at found
      obtain ⟨later, foundLater, rfl⟩ := Option.map_eq_some_iff.mp found
      rcases List.mem_cons.mp member with first | after
      · rw [(PlistItem.leaf.inj first).2]
        exact literal read (by simp)
      · rw [plistItems.eq_def] at foundLater
        exact ih foundLater (fun content within => literal content (by simp [within])) after
  | case7 element known read close rest other =>
      simp only [known, if_true, if_neg other] at found
      cases found
  | case8 element rest known notTag notText =>
      simp only [known, if_true] at found
      cases found
  | case9 tag rest other ih =>
      simp only [if_neg other] at found
      obtain ⟨later, foundLater, rfl⟩ := Option.map_eq_some_iff.mp found
      rw [plistItems.eq_def] at foundLater
      rcases List.mem_cons.mp member with first | after
      · cases first
      · exact ih foundLater (fun content within => literal content (List.mem_cons_of_mem _ within)) after

theorem literal_readItems {text : Text} {items : List PlistItem} (found : readItems text = some items) {name content : Text}
    (member : .leaf name content ∈ items) : content.all isLiteral = true := by
  obtain ⟨tokens, lexed, parsed⟩ := Option.bind_eq_some_iff.mp found
  exact literal_plistItems parsed (fun content within => literal_xmlTokens lexed (fun _ => rfl) within) member

theorem suffix_valueOf {key : String} {items rest : List PlistItem} (found : valueOf key items = some rest) : rest <:+ items := by
  induction items with
  | nil => cases found
  | cons item items ih =>
      cases item with
      | leaf name content =>
          rw [valueOf] at found
          split at found
          · obtain rfl := Option.some.inj found
            exact List.suffix_cons _ _
          · exact (ih found).trans (List.suffix_cons _ _)
      | mark tag => exact (ih found).trans (List.suffix_cons _ _)

theorem mem_arrayStrings {items : List PlistItem} {strings : List Text} (found : arrayStrings items = some strings) :
    ∀ content ∈ strings, ∃ name, .leaf name content ∈ items := by
  induction items generalizing strings with
  | nil => cases found
  | cons item items ih =>
      cases item with
      | leaf name content =>
          rw [arrayStrings] at found
          split at found
          · obtain ⟨more, foundMore, rfl⟩ := Option.map_eq_some_iff.mp found
            refine List.forall_mem_cons.mpr ⟨⟨name, List.mem_cons_self⟩, fun other member => ?_⟩
            obtain ⟨name', within⟩ := ih foundMore other member
            exact ⟨name', List.mem_cons_of_mem _ within⟩
          · cases found
      | mark tag =>
          rw [arrayStrings] at found
          split at found
          · obtain rfl := Option.some.inj found
            exact List.forall_mem_nil _
          · cases found

theorem mem_dictEntries {items : List PlistItem} {entries : List (String × String)} (found : dictEntries items = some entries) :
    ∀ entry ∈ entries, ∃ name name', .leaf name entry.1.toList ∈ items ∧ .leaf name' entry.2.toList ∈ items := by
  induction items using dictEntries.induct generalizing entries with
  | case1 first key second value rest known ih =>
      rw [dictEntries, if_pos known] at found
      obtain ⟨more, foundMore, rfl⟩ := Option.map_eq_some_iff.mp found
      refine List.forall_mem_cons.mpr ⟨⟨first, second, by simp, by simp⟩, fun entry member => ?_⟩
      obtain ⟨name, name', key_, value_⟩ := ih foundMore entry member
      exact ⟨name, name', by simp [key_], by simp [value_]⟩
  | case2 first key second value rest other =>
      rw [dictEntries, if_neg other] at found
      cases found
  | case3 rest =>
      rw [dictEntries, if_pos rfl] at found
      obtain rfl := Option.some.inj found
      exact List.forall_mem_nil _
  | case4 tag rest other =>
      rw [dictEntries, if_neg other] at found
      cases found
  | case5 items notPair notMark =>
      rw [dictEntries] at found
      · cases found
      · exact notPair
      · exact notMark

/-! ## Reading a property list back -/

theorem readArguments_some {items : List PlistItem} {words : List Text} (read : readArguments items = some words) :
    ∃ name command, .leaf name command ∈ items ∧ Shell.command command = some words := by
  rw [readArguments] at read
  split at read
  · rename_i tag rest found
    split at read
    · rename_i shell login flag command strings
      split at read
      · split at strings
        · obtain ⟨name, member⟩ := mem_arrayStrings strings command (by simp)
          exact ⟨name, command, (suffix_valueOf found).subset (List.mem_cons_of_mem _ member), read⟩
        · cases strings
      · cases read
    · cases read
  · cases read

theorem readVariables_some {items : List PlistItem} {entries : List (String × String)} (read : readVariables items = some entries) :
    ∀ entry ∈ entries, ∃ name name', .leaf name entry.1.toList ∈ items ∧ .leaf name' entry.2.toList ∈ items := by
  rw [readVariables] at read
  split at read
  · obtain rfl := Option.some.inj read
    exact List.forall_mem_nil _
  · rename_i tag rest found
    split at read
    · intro entry member
      obtain ⟨name, name', key, value⟩ := mem_dictEntries read entry member
      have inside := (suffix_valueOf found).subset
      exact ⟨name, name', inside (List.mem_cons_of_mem _ key), inside (List.mem_cons_of_mem _ value)⟩
    · cases read
  · cases read

theorem readPlist_iff {text : Text} : readPlist text = some spec ↔
    ∃ items, readItems text = some items ∧ readArguments items = some ("exec".toList :: spec.words) ∧
      spec.program.toList.head? ≠ some '-' ∧ readVariables items = some spec.env := by
  rw [readPlist]
  constructor
  · intro read
    obtain ⟨tokens, lexed, read⟩ := Option.bind_eq_some_iff.mp read
    obtain ⟨items, parsed, read⟩ := Option.bind_eq_some_iff.mp read
    obtain ⟨words, ran, read⟩ := Option.bind_eq_some_iff.mp read
    obtain ⟨env, assigned, read⟩ := Option.bind_eq_some_iff.mp read
    refine ⟨items, Option.bind_eq_some_iff.mpr ⟨tokens, lexed, parsed⟩, ?_⟩
    split at read
    · rename_i exec program args
      split at read
      · rename_i known
        obtain ⟨isExec, option⟩ := Bool.and_eq_true_iff.mp known
        obtain rfl := Option.some.inj read
        rw [of_decide_eq_true isExec] at ran
        exact ⟨by simpa [SpawnSpec.words] using ran, by simpa using option, assigned⟩
      · cases read
    · cases read
  · rintro ⟨items, found, ran, option, assigned⟩
    obtain ⟨tokens, lexed, parsed⟩ := Option.bind_eq_some_iff.mp found
    simp [lexed, parsed, ran, assigned, SpawnSpec.words, option]

theorem clean_of_readPlist {text : Text} {items : List PlistItem} (found : readItems text = some items)
    (ran : readArguments items = some ("exec".toList :: spec.words)) (assigned : readVariables items = some spec.env) :
    CleanSpec spec where
  words := by
    obtain ⟨name, command, member, ran⟩ := readArguments_some ran
    refine List.all_eq_true.mpr fun c within => ?_
    rcases mem_of_mem_intercalate within with separator | ⟨word, inWords, inside⟩
    · rw [List.mem_singleton.mp separator]
      decide
    · exact List.all_eq_true.mp (literal_readItems found member) c
        (Shell.mem_of_command ran (List.mem_cons_of_mem _ inWords) inside)
  env := by
    intro entry member
    obtain ⟨name, name', key, value⟩ := readVariables_some assigned entry member
    exact ⟨literal_readItems found key, literal_readItems found value⟩

theorem readArguments_launchdPlist (env : List PlistItem) :
    readArguments (plistFront svc username spec ++ env ++ plistBack) = Shell.command ("exec ".toList ++ Shell.joined spec.words) := rfl

theorem dictEntries_entryItems (env : List (String × String)) (rest : List PlistItem) :
    dictEntries (env.flatMap entryItems ++ .mark "/dict".toList :: rest) = some env := by
  induction env with
  | nil => rfl
  | cons entry env ih =>
      have pair : dictEntries (entryItems entry ++ (env.flatMap entryItems ++ .mark "/dict".toList :: rest)) =
          (dictEntries (env.flatMap entryItems ++ .mark "/dict".toList :: rest)).map fun entries =>
            (String.ofList entry.1.toList, String.ofList entry.2.toList) :: entries := rfl
      rw [List.flatMap_cons, List.append_assoc, pair, ih]
      simp

theorem readVariables_launchdPlist :
    readVariables (plistFront svc username spec ++ envItems spec.env ++ plistBack) = some spec.env := by
  have skipped (rest : List PlistItem) : valueOf "EnvironmentVariables" (plistFront svc username spec ++ rest) =
      valueOf "EnvironmentVariables" rest := rfl
  rw [readVariables, List.append_assoc, skipped, envItems]
  by_cases empty : spec.env = []
  · rw [if_pos empty, empty]
    rfl
  · have entries := dictEntries_entryItems spec.env plistBack
    rw [if_neg empty]
    have found : valueOf "EnvironmentVariables" (.leaf "key".toList "EnvironmentVariables".toList :: .mark "dict".toList ::
        (spec.env.flatMap entryItems ++ [.mark "/dict".toList]) ++ plistBack) =
        some (.mark "dict".toList :: (spec.env.flatMap entryItems ++ .mark "/dict".toList :: plistBack)) := by
      rw [List.cons_append, List.cons_append, List.append_assoc, List.singleton_append]
      rfl
    simp only [found, if_true, entries]

theorem command_exec {words : List Text} (nonempty : words ≠ []) :
    Shell.command ("exec ".toList ++ Shell.joined words) = some ("exec".toList :: words) ↔ ∀ word ∈ words, Shell.PlainWord word := by
  obtain ⟨first, rest, rfl⟩ := List.exists_cons_of_ne_nil nonempty
  have text : "exec ".toList ++ Shell.joined (first :: rest) = Shell.joined ("exec".toList :: first :: rest) := by
    rw [Shell.joined, Shell.joined, List.intercalate_cons_cons]
    rfl
  have plain : Shell.PlainWord "exec".toList := by
    have read : Shell.lex .bare none (Shell.joined ["exec".toList]) = some ["exec".toList] := by decide
    exact (Shell.lex_joined_iff (List.cons_ne_nil _ _)).mp read _ List.mem_cons_self
  rw [text, Shell.command_iff, Shell.lex_joined_iff (List.cons_ne_nil _ _), List.forall_mem_cons]
  exact ⟨fun found => found.1.2, fun all => ⟨⟨plain, all⟩, by decide, by decide⟩⟩

theorem readBack_macos_some {read : SpawnSpec} :
    readBack (.macos username) (generateUnitContents (.macos username) svc spec) = some read ↔
      (launchdPlist svc username spec).toList.contains '\r' = false ∧ readPlist (launchdPlist svc username spec).toList = some read := by
  rw [generateUnitContents]
  exact readBack_some

theorem readBack_macos_iff (tidy : Tidy (.macos username) svc) (clean : CleanSpec spec) {read : SpawnSpec} :
    readBack (.macos username) (generateUnitContents (.macos username) svc spec) = some read ↔
      Shell.command ("exec ".toList ++ Shell.joined spec.words) = some ("exec".toList :: read.words) ∧
        read.program.toList.head? ≠ some '-' ∧ spec.env = read.env := by
  have items := readItems_launchdPlist tidy clean
  have returns : (launchdPlist svc username spec).toList.contains '\r' = false := by
    obtain ⟨tokens, lexed, -⟩ := Option.bind_eq_some_iff.mp items
    rw [List.contains_eq_mem, decide_eq_false_iff_not]
    intro member
    exact absurd (isXmlChar_of_xmlTokens lexed _ member) (by decide)
  rw [readBack_macos_some, and_iff_right returns, readPlist_iff, items, ← readArguments_launchdPlist (envItems spec.env)]
  constructor
  · rintro ⟨items, found, ran, option, env⟩
    obtain rfl := Option.some.inj found
    exact ⟨ran, option, Option.some.inj (readVariables_launchdPlist.symm.trans env)⟩
  · rintro ⟨ran, option, env⟩
    exact ⟨_, rfl, ran, option, env ▸ readVariables_launchdPlist⟩

theorem plain_of_readBack_macos (tidy : Tidy (.macos username) svc) {read : SpawnSpec}
    (found : readBack (.macos username) (generateUnitContents (.macos username) svc spec) = some read) (same : read.Same spec) :
    PlainSpec (.macos username) spec := by
  have words := words_of_same same
  have clean : CleanSpec spec := by
    have readSpec := (readBack_macos_some.mp found).2
    obtain ⟨items, foundItems, ran, -, env⟩ := readPlist_iff.mp readSpec
    have cleanRead := clean_of_readPlist foundItems ran env
    exact ⟨words ▸ cleanRead.words, fun entry member => cleanRead.env entry (same.2.2.mem_iff.mpr member)⟩
  obtain ⟨ran, option, -⟩ := (readBack_macos_iff tidy clean).mp found
  rw [words] at ran
  have literal {text : Text} (all : text.all isLiteral = true) (c : Char) (member : c ∈ text) :=
    isLiteral_iff.mp (List.all_eq_true.mp all c member)
  refine ⟨(command_exec (words_ne_nil spec)).mp ran, same.1 ▸ option, fun c member => (literal clean.words c member).1,
    fun entry member c within => ?_⟩
  obtain ⟨key, value⟩ := clean.env entry member
  exact (List.mem_append.mp within).elim (literal key c) (literal value c)

theorem readBack_macos (tidy : Tidy (.macos username) svc) (plain : PlainSpec (.macos username) spec) :
    readBack (.macos username) (generateUnitContents (.macos username) svc spec) = some spec := by
  obtain ⟨words, option, allowed, entries⟩ := plain
  have clean : CleanSpec spec := by
    refine ⟨List.all_eq_true.mpr fun c member => isLiteral_iff.mpr ⟨allowed c member, ?_⟩, fun entry member => ?_⟩
    · have absent {c : Char} (operator : Shell.operators.contains c = true) (other : c ≠ ' ') : c ∉ Shell.joined spec.words :=
        notMem_joined other fun word within => operator_of_plain (words word within) operator
      constructor
      · rintro rfl
        exact absent (by decide) (by decide) member
      · rintro rfl
        exact absent (by decide) (by decide) member
    · have each (c : Char) (within : c ∈ entry.1.toList ++ entry.2.toList) := isLiteral_iff.mpr (entries entry member c within)
      exact ⟨List.all_eq_true.mpr fun c within => each c (List.mem_append_left _ within),
        List.all_eq_true.mpr fun c within => each c (List.mem_append_right _ within)⟩
  exact (readBack_macos_iff tidy clean).mpr ⟨(command_exec (words_ne_nil spec)).mpr words, option, rfl⟩

/-! ## Both platforms -/

variable {platform : Platform}

theorem plain_of_readBack (tidy : Tidy platform svc) {read : SpawnSpec}
    (found : readBack platform (generateUnitContents platform svc spec) = some read) (same : read.Same spec) :
    PlainSpec platform spec := by
  cases platform with
  | linux => exact plain_of_readBack_linux tidy found same
  | macos username => exact plain_of_readBack_macos tidy found same

theorem readBack_of_plain (tidy : Tidy platform svc) (plain : PlainSpec platform spec) :
    readBack platform (generateUnitContents platform svc spec) = some spec := by
  cases platform with
  | linux => exact readBack_linux tidy plain
  | macos username => exact readBack_macos tidy plain

theorem plain_same {other : SpawnSpec} (same : other.Same spec) (plain : PlainSpec platform spec) : PlainSpec platform other := by
  have words := words_of_same same
  cases platform with
  | linux =>
      obtain ⟨plainWords, special, rest, entries⟩ := plain
      exact ⟨words ▸ plainWords, same.1 ▸ special, words ▸ rest, fun entry member => entries entry (same.2.2.mem_iff.mp member)⟩
  | macos username =>
      obtain ⟨plainWords, option, rest, entries⟩ := plain
      exact ⟨words ▸ plainWords, same.1 ▸ option, words ▸ rest, fun entry member => entries entry (same.2.2.mem_iff.mp member)⟩

theorem same_swapped {first second : String × String} {rest : List (String × String)} (env : spec.env = first :: second :: rest) :
    SpawnSpec.Same { spec with env := second :: first :: rest } spec :=
  ⟨rfl, rfl, env ▸ List.Perm.swap first second rest⟩

def ollamaService : UnmanagedService := ⟨"ollama", .generatedUnit, "planai", "/home/planai"⟩

def ollamaSpec : SpawnSpec := ⟨"ollama", ["serve"], [("OLLAMA_HOST", "127.0.0.1:11434")]⟩

end MacMgmt.Proof.UnitFiles
