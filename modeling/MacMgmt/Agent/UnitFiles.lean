import MacMgmt.Agent.UnmanagedServices
import MacMgmt.Lib.ShellWords

/-!
# The text of a unit

`generate_unit_contents` and `launchd_plist` of `mac-mgmt-agent/src/unmanaged/unit_generator.rs`, and how systemd, launchd and the
shell read such a text.
-/

namespace MacMgmt.Agent.Unmanaged
open Lib

def plistLabel (svc : UnmanagedService) : String := "com.plan-ai." ++ svc.name

/-- `username` is `current_username()`, or `root`. -/
def launchdPlist (svc : UnmanagedService) (username : String) (spec : SpawnSpec) : String :=
  let label := plistLabel svc
  let exec := if spec.args = [] then spec.program else spec.program ++ " " ++ " ".intercalate spec.args
  let envDict := "\n".intercalate
    (spec.env.map fun entry => "        <key>" ++ entry.1 ++ "</key>\n        <string>" ++ entry.2 ++ "</string>")
  let envSection :=
    if envDict = "" then "" else "    <key>EnvironmentVariables</key>\n    <dict>\n" ++ envDict ++ "\n    </dict>"
  "\n".intercalate
    ["<?xml version=\"1.0\" encoding=\"UTF-8\"?>",
      "<!DOCTYPE plist PUBLIC \"-//Apple//DTD PLIST 1.0//EN\"",
      "  \"http://www.apple.com/DTDs/PropertyList-1.0.dtd\">",
      "<plist version=\"1.0\">",
      "<dict>",
      "    <key>Label</key>",
      "    <string>" ++ label ++ "</string>",
      "    <key>UserName</key>",
      "    <string>" ++ username ++ "</string>",
      "    <key>ProgramArguments</key>",
      "    <array>",
      "        <string>/bin/bash</string>",
      "        <string>-l</string>",
      "        <string>-c</string>",
      "        <string>exec " ++ exec ++ "</string>",
      "    </array>",
      "    <key>RunAtLoad</key>",
      "    <true/>",
      "    <key>KeepAlive</key>",
      "    <true/>",
      "    <key>StandardOutPath</key>",
      "    <string>/tmp/" ++ label ++ ".out.log</string>",
      "    <key>StandardErrorPath</key>",
      "    <string>/tmp/" ++ label ++ ".err.log</string>",
      envSection, "</dict>", "</plist>", ""]

inductive Platform where
  | linux
  | macos (username : String)

def generateUnitContents (platform : Platform) (svc : UnmanagedService) (spec : SpawnSpec) : String :=
  match platform with
  | .linux => systemdUnit svc spec
  | .macos username => launchdPlist svc username spec

/-! ## How a systemd unit is read

Escapes stand for less than they are long, so a text with one is not read as itself; specifiers and variables depend on the
machine. Such a text has no reading here. -/

abbrev Text := Shell.Text

def serviceLines (text : Text) : List Text :=
  (((text.splitOn '\n').dropWhile (· ≠ "[Service]".toList)).drop 1).takeWhile fun line => line.head? ≠ some '['

def settings (key : String) (lines : List Text) : List Text :=
  lines.filterMap fun line => if (key ++ "=").toList.isPrefixOf line then some (line.drop (key ++ "=").length) else none

def specifiers : List Char := "aAbBCdDEfgGhHiIjJlLmMnNopPqsStTuUvVwWyY%".toList

def hasSpecifier : Text → Bool
  | '%' :: c :: rest => specifiers.contains c || hasSpecifier (c :: rest)
  | _ :: rest => hasSpecifier rest
  | [] => false

/-- A variable inside an argument, or the escape of a dollar sign. -/
def hasVariable (text : Text) : Bool := Shell.occurs ['$', '$'] text || Shell.occurs ['$', '{'] text

inductive ItemMode where
  | between
  | bare (item : Text)
  | quoted (quote : Char) (item : Text)
  | closed (item : Text)

/-- The items of a list. One that begins with a quote ends with the next one of its kind. -/
def items (mode : ItemMode) (text : Text) : Option (List Text) :=
  match mode, text with
  | .between, [] => some []
  | .bare item, [] | .closed item, [] => some [item]
  | .quoted _ _, [] => none
  | .between, c :: rest =>
      if Shell.isBlank c then items .between rest
      else if c = Shell.apostrophe || c = Shell.quotationMark then items (.quoted c []) rest
      else items (.bare [c]) rest
  | .bare item, c :: rest =>
      if Shell.isBlank c then (items .between rest).map fun more => item :: more else items (.bare (item ++ [c])) rest
  | .quoted quote item, c :: rest =>
      if c = quote then items (.closed item) rest else items (.quoted quote (item ++ [c])) rest
  | .closed item, c :: rest =>
      if Shell.isBlank c then (items .between rest).map fun more => item :: more else none

/-- What `bash -lc` runs. Items after the command become parameters of it. -/
def readCommand (value : Text) : Option (List Text) :=
  if value.contains '\\' || hasSpecifier value || hasVariable value then none
  else
    match items .between value with
    | some (shell :: flag :: command :: _) =>
        if shell = "/bin/bash".toList && flag = "-lc".toList then Shell.command command else none
    | _ => none

def readAssignment (item : Text) : Option (String × String) :=
  let name := item.takeWhile (· ≠ '=')
  if Shell.isName name && item.contains '=' then
    some (String.ofList name, String.ofList (item.drop (name.length + 1)))
  else none

def readAssignments (value : Text) : Option (List (String × String)) :=
  if value.contains '\\' || hasSpecifier value then none
  else (items .between value).bind fun items => items.mapM readAssignment

/-- The home directory, which is set first, is not part of the specification. -/
def readSystemd (text : Text) : Option SpawnSpec :=
  let lines := serviceLines text
  match settings "ExecStart" lines with
  | [value] => do
      let words ← readCommand value
      let env ← ((settings "Environment" lines).drop 1).mapM readAssignments
      match words with
      | program :: args => some ⟨String.ofList program, args.map String.ofList, env.flatten⟩
      | [] => none
  | _ => none

/-! ## How a property list is read -/

inductive XmlToken where
  | tag (name : Text)
  | text (content : Text)

def isXmlChar (c : Char) : Bool :=
  c = '\t' || c = '\n' || (0x20 ≤ c.toNat && c.toNat ≠ 0xFFFE && c.toNat ≠ 0xFFFF)

def flush (read : Text) : List XmlToken := if read = [] then [] else [.text read]

/-- Tags and what is between them. A reference stands for less than it is long. -/
def xmlTokens (inTag : Bool) (read : Text) (text : Text) : Option (List XmlToken) :=
  match text with
  | [] => if inTag then none else some (flush read)
  | c :: rest =>
      if !isXmlChar c then none
      else if inTag then
        if c = '>' then (xmlTokens false [] rest).map fun tokens => .tag read :: tokens else xmlTokens true (read ++ [c]) rest
      else if c = '<' then (xmlTokens true [] rest).map fun tokens => flush read ++ tokens
      else if c = '&' then none
      else xmlTokens false (read ++ [c]) rest

inductive PlistItem where
  | leaf (name content : Text)
  | mark (tag : Text)

def isXmlSpace (c : Char) : Bool := c = ' ' || c = '\t' || c = '\n'

def textElements : List String := ["key", "string"]

/-- Elements that hold a text, and the tags of the other ones. -/
def plistItems : List XmlToken → Option (List PlistItem)
  | [] => some []
  | .text content :: rest => if content.all isXmlSpace then plistItems rest else none
  | .tag name :: rest =>
      if textElements.contains (String.ofList name) then
        match rest with
        | .tag close :: rest =>
            if close = '/' :: name then (plistItems rest).map fun items => .leaf name [] :: items else none
        | .text content :: .tag close :: rest =>
            if close = '/' :: name then (plistItems rest).map fun items => .leaf name content :: items else none
        | _ => none
      else (plistItems rest).map fun items => .mark name :: items

def valueOf (key : String) : List PlistItem → Option (List PlistItem)
  | [] => none
  | .leaf name content :: rest => if name = "key".toList && content = key.toList then some rest else valueOf key rest
  | .mark _ :: rest => valueOf key rest

def arrayStrings : List PlistItem → Option (List Text)
  | .leaf name content :: rest =>
      if name = "string".toList then (arrayStrings rest).map fun strings => content :: strings else none
  | .mark tag :: _ => if tag = "/array".toList then some [] else none
  | [] => none

def dictEntries : List PlistItem → Option (List (String × String))
  | .leaf first key :: .leaf second value :: rest =>
      if first = "key".toList && second = "string".toList then
        (dictEntries rest).map fun entries => (String.ofList key, String.ofList value) :: entries
      else none
  | .mark tag :: _ => if tag = "/dict".toList then some [] else none
  | _ => none

/-- What `bash -l -c` runs. -/
def readArguments (items : List PlistItem) : Option (List Text) :=
  match valueOf "ProgramArguments" items with
  | some (.mark tag :: rest) =>
      match if tag = "array".toList then arrayStrings rest else none with
      | some [shell, login, flag, command] =>
          if shell = "/bin/bash".toList && login = "-l".toList && flag = "-c".toList then Shell.command command else none
      | _ => none
  | _ => none

def readVariables (items : List PlistItem) : Option (List (String × String)) :=
  match valueOf "EnvironmentVariables" items with
  | none => some []
  | some (.mark tag :: rest) => if tag = "dict".toList then dictEntries rest else none
  | some _ => none

/-- What begins with a dash after `exec` is an option. -/
def readPlist (text : Text) : Option SpawnSpec := do
  let tokens ← xmlTokens false [] text
  let items ← plistItems tokens
  let words ← readArguments items
  let env ← readVariables items
  match words with
  | exec :: program :: args =>
      if exec = "exec".toList && program.head? ≠ some '-' then
        some ⟨String.ofList program, args.map String.ofList, env⟩
      else none
  | _ => none

def readBack (platform : Platform) (text : String) : Option SpawnSpec :=
  if text.toList.contains '\r' then none
  else
    match platform with
    | .linux => readSystemd text.toList
    | .macos _ => readPlist text.toList

/-! ## What is read back -/

/-- What the unit says besides the specification breaks no line and no element. -/
def Tidy (platform : Platform) (svc : UnmanagedService) : Prop :=
  match platform with
  | .linux => ∀ text ∈ [svc.name, svc.user, svc.home], ∀ c ∈ text.toList, c ∉ ['\n', '\r', '\\']
  | .macos username => ∀ text ∈ [svc.name, username], ∀ c ∈ text.toList, isXmlChar c = true ∧ c ≠ '<' ∧ c ≠ '&'

def SpawnSpec.words (spec : SpawnSpec) : List Text := (spec.program :: spec.args).map String.toList

def SpawnSpec.Same (spec other : SpawnSpec) : Prop :=
  spec.program = other.program ∧ spec.args = other.args ∧ spec.env.Perm other.env

/-- No text of the specification means something else to a reader. -/
def PlainSpec (platform : Platform) (spec : SpawnSpec) : Prop :=
  (∀ word ∈ spec.words, Shell.PlainWord word) ∧
    match platform with
    | .linux =>
        (Shell.reservedWords.contains spec.program = false ∧ Shell.isAssignment spec.program.toList = false) ∧
          ('\r' ∉ Shell.joined spec.words ∧ hasSpecifier (Shell.joined spec.words) = false) ∧
          ∀ entry ∈ spec.env, Shell.isName entry.1.toList = true ∧ hasSpecifier entry.2.toList = false ∧
            ∀ c ∈ entry.2.toList, Shell.isBlank c = false ∧ c ∉ ['\n', '\r', '\\']
    | .macos _ =>
        spec.program.toList.head? ≠ some '-' ∧ (∀ c ∈ Shell.joined spec.words, isXmlChar c = true) ∧
          ∀ entry ∈ spec.env, ∀ c ∈ entry.1.toList ++ entry.2.toList, isXmlChar c = true ∧ c ≠ '<' ∧ c ≠ '&'

end MacMgmt.Agent.Unmanaged
