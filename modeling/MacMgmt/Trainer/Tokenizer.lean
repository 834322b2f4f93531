import MacMgmt.Agent.ServerPush
import MacMgmt.Lib.Sorting
import MacMgmt.Lib.Table
import Mathlib.Data.List.DropRight

/-!
# The vocabulary of the trainer

`trainer/src/export/tokenizer.rs`. The order in which the map of frequencies is iterated is an argument; of an exported session
only the contents of its messages are read.
-/

namespace MacMgmt.Trainer
open Lib

/-- The tables of Unicode that the standard library has. -/
structure Unicode where
  toLowercase : List Char → List Char
  isAlphanumeric : Char → Bool
  ascii : ∀ c, c.toNat < 128 → isAlphanumeric c = c.isAlphanum

structure ExportedMessage where
  content : String

structure ExportedSession where
  messages : List ExportedMessage

def unk : Nat := 1

def specials : List String :=
  ["<pad>", "<unk>", "<cls>", "<sep>", "<system>", "<user>", "<assistant>", "<tool_result>", "<pin>", "<summary>", "<created>",
    "<initializing>", "<diagnosing>", "<remediating>", "<verifying>", "<done>", "<completed>", "<failed>", "<cancelled>",
    "<paused>", "<needs_human>"]

def toolNames : List String :=
  ["list_files", "read_file", "write_file", "run_command", "fetch_logs", "list_file_tunnels", "list_shell_commands",
    "fetch_cluster_logs", "run_cluster_command", "check_node_online", "wait_for_node", "pin", "staff_ping", "set_phase",
    "name_session", "get_probe_status", "get_inventory", "get_system_sample", "get_probe_history", "get_metrics", "use_skill",
    "list_builtin_skills", "read_doc", "list_docs", "wait", "request_assessment", "get_config", "patch_config", "set_config",
    "list_skills", "list_mcp_servers", "add_skill", "remove_skill", "add_mcp_server", "remove_mcp_server", "send_push",
    "get_version_info", "get_heartbeat", "get_cluster_instances", "get_service_state", "nix_check_upgrades"]

/-! ## Words -/

section Words
variable (unicode : Unicode)

def isEdge (c : Char) : Bool := !unicode.isAlphanumeric c && c ≠ '_' && c ≠ '-'

/-- `trim_matches` -/
def trimEdges (s : List Char) : List Char := (s.dropWhile (isEdge unicode)).rdropWhile (isEdge unicode)

def tokenizeText (text : String) : List String :=
  let pieces := (unicode.toLowercase text.toList).splitOnP fun c => Agent.isWhitespace c || c = '\n'
  let words := ((pieces.filter (· ≠ [])).take 256).map (trimEdges unicode)
  (words.filter (· ≠ [])).map String.ofList

def wordsOf (sessions : List ExportedSession) : List String :=
  sessions.flatMap fun session => session.messages.flatMap fun msg => tokenizeText unicode msg.content

end Words

def frequencies (words : List String) : Table String Nat :=
  words.foldl (fun freq word => freq.insert word ((freq.lookup word).getD 0 + 1)) ∅

/-! ## The vocabulary -/

structure Vocabulary where
  tokenToId : Table String Nat
  idToToken : List String

namespace Vocabulary

def empty : Vocabulary := ⟨∅, []⟩

/-- The next id is a `u32`. -/
def push (vocabulary : Vocabulary) (tok : String) : Vocabulary where
  tokenToId := vocabulary.tokenToId.insert tok (vocabulary.idToToken.length % 2 ^ 32)
  idToToken := vocabulary.idToToken ++ [tok]

def fixedTokens : List String := specials ++ toolNames.map fun name => s!"<tool:{name}>"

def maxVocab : Nat := 8192

/-- The words in the order of their frequencies, the highest first. -/
def ranked (reading : Reading (String × Nat)) (freq : Table String Nat) : List (String × Nat) :=
  orderBy (fun word => OrderDual.toDual word.2) (reading.read (freq.entries.map fun entry => (entry.1, entry.2)))

def pushNew (vocabulary : Vocabulary) (word : String) : Vocabulary :=
  if word ∈ vocabulary.tokenToId then vocabulary else vocabulary.push word

def buildFromSessions (unicode : Unicode) (reading : Reading (String × Nat)) (sessions : List ExportedSession) : Vocabulary :=
  let fixed := fixedTokens.foldl push empty
  let words := ranked reading (frequencies (wordsOf unicode sessions))
  ((words.take (maxVocab - fixed.idToToken.length)).map Prod.fst).foldl pushNew fixed

variable (vocabulary : Vocabulary)

def size : Nat := vocabulary.idToToken.length

def encode (token : String) : Nat := (vocabulary.tokenToId.lookup token).getD unk

def encodeText (unicode : Unicode) (text : String) : List Nat := (tokenizeText unicode text).map vocabulary.encode

end Vocabulary
end MacMgmt.Trainer
