import MacMgmt.Agent.FileTunnels
import MacMgmt.Lib.Base64

/-!
# Bodies, uploads and responses on tunnel streams

How a body goes from one side of a tunnel to the other: `body_placement` of `relay/src/proxy_handler.rs`, and the framing of
`mac_mgmt_common`, whose source is not part of the repository. A frame is what `read_tagged_frame` returns for it.
-/

namespace MacMgmt.Tunnel
open MacMgmt.Agent Lib

/-- How a stream that is cut shows at the reading end: as an end of file between two frames, or as an error. -/
inductive Ending where
  | closed
  | failed
deriving DecidableEq

def Ending.read : Ending → FrameRead
  | .closed => .closed
  | .failed => .failed

/-- What is read of the frames written, when the stream is cut after some number of them or not at all. -/
def arriving (frames : List FrameRead) : Option (Nat × Ending) → List FrameRead
  | none => frames
  | some (count, ending) => frames.take count ++ [ending.read]

/-- What the data stream of an HTTP body yields. A body without a failed chunk is whole. -/
structure BodyStream where
  full : List UInt8
  results : List (Except Unit (List UInt8))
  whole : (∀ result ∈ results, result.isOk = true) → (results.filterMap Except.toOption).flatten = full

def okChunks : List (Except Unit (List UInt8)) → List (List UInt8)
  | .ok bytes :: results => bytes :: okChunks results
  | .error _ :: _ | [] => []

/-! ## Requests with a body -/

def inlineBodyLimit : Nat := 256 * 1024

/-- The body in base64 inside the handshake, and whether it follows as frames instead. -/
def bodyPlacement (body : List UInt8) : Option (List Char) × Bool :=
  if body = [] then (none, false)
  else if inlineBodyLimit < body.length then (none, true)
  else (some (base64Encode body), false)

/-- `write_binary` and `read_binary_body` of `mac_mgmt_common::framing`; `none` is a reader that waits for a frame. A body
whose frames all arrive is read as it was written, unless it is longer than the reader admits. -/
structure Framing where
  writeBinary : List UInt8 → List FrameRead
  readBinaryBody : Nat → List FrameRead → Option (Except Unit (List UInt8))
  read_short : ∀ limit body, body.length ≤ limit → readBinaryBody limit (writeBinary body ++ [.end_]) = some (.ok body)
  read_long : ∀ limit body, limit < body.length → readBinaryBody limit (writeBinary body ++ [.end_]) = some (.error ())

def decodeInline (data : Option (List Char)) : List UInt8 := (data.bind base64Decode).getD []

theorem decodeInline_bodyPlacement {body : List UInt8} (inline : (bodyPlacement body).2 = false) :
    decodeInline (bodyPlacement body).1 = body := by
  unfold bodyPlacement at inline ⊢
  split
  next empty => exact empty.symm
  next occupied =>
    rw [if_neg occupied] at inline
    split
    next long =>
      rw [if_pos long] at inline
      cases inline
    next short => exact congrArg (Option.getD · []) (base64Decode_encode body)

/-! ## Uploads

`file_write` of `relay/src/proxy_handler.rs` with `handle_file_write_stream` of `mac-mgmt-agent/src/p2p/mod.rs`, and the
write sessions of `mac-mgmt-agent/src/file_tunnels.rs`, from the body that the client sends to the file on the daemon. -/

structure FileDaemon where
  framing : Framing
  glob : Glob
  validate : Validator → List UInt8 → Except String Unit
  registry : Table String FileTunnel
  tree : FileTree
  disk : Disk
  now : Nat

structure FileWriteQuery where
  tunnelName : String
  path : Option String
  expectedMtime : Option Int

structure FileWriteHandshake where
  query : FileWriteQuery
  data : Option (List Char)
  dataFrames : Bool

/-! ## The relay's side of a streamed upload -/

/-- The loop stops at a failed chunk and goes on with what it has. -/
def collectBody (client : BodyStream) : List UInt8 := (okChunks client.results).flatten

def fileWriteHandshake (query : FileWriteQuery) (body : List UInt8) : FileWriteHandshake :=
  ⟨query, (bodyPlacement body).1, (bodyPlacement body).2⟩

def bodyFrames (framing : Framing) (body : List UInt8) : List FrameRead :=
  if (bodyPlacement body).2 then framing.writeBinary body ++ [.end_] else []

/-! ## The daemon -/

namespace FileDaemon
variable (daemon : FileDaemon)

def write (tunnel : FileTunnel) (query : FileWriteQuery) (content : List UInt8) : WriteOutcome :=
  writeFile daemon.glob daemon.validate daemon.tree daemon.disk daemon.now tunnel query.path content query.expectedMtime

def handleFileWriteStream (handshake : FileWriteHandshake) (reads : List FrameRead) : Option WriteOutcome :=
  let content :=
    if handshake.dataFrames then daemon.framing.readBinaryBody maxFileSize reads
    else some (.ok (decodeInline handshake.data))
  match content with
  | none => none
  | some (.error _) => some ⟨.error (413, "file too large"), daemon.tree, []⟩
  | some (.ok content) =>
      match daemon.registry.lookup handshake.query.tunnelName with
      | none => some ⟨.error (404, "unknown file tunnel"), daemon.tree, []⟩
      | some tunnel => some (daemon.write tunnel handshake.query content)

def handleWriteSession (query : FileWriteQuery) (reads : List FrameRead) : Option WriteOutcome :=
  match daemon.registry.lookup query.tunnelName with
  | none => none
  | some tunnel =>
      handleUpload daemon.glob daemon.validate daemon.tree daemon.disk daemon.now tunnel query.path query.expectedMtime
        (.session reads)

end FileDaemon

/-! ## Both protocols -/

inductive FileUpload where
  | streamed (client : BodyStream)
  | session (pieces : List (List UInt8))

/-- What happens to the p2p stream: where the request is cut, and whether the answer gets back. -/
structure Transport where
  cut : Option (Nat × Ending)
  answered : Bool

namespace FileUpload

def full : FileUpload → List UInt8
  | .streamed client => client.full
  | .session pieces => pieces.flatten

/-- The first frame of a streamed upload is its handshake. -/
def outcome (daemon : FileDaemon) (query : FileWriteQuery) (transport : Transport) : FileUpload → Option WriteOutcome
  | .streamed client =>
      let body := collectBody client
      match arriving (.json :: bodyFrames daemon.framing body) transport.cut with
      | .json :: reads => daemon.handleFileWriteStream (fileWriteHandshake query body) reads
      | _ => none
  | .session pieces => daemon.handleWriteSession query (arriving (pieces.map .binary ++ [.end_]) transport.cut)

def treeAfter (daemon : FileDaemon) (query : FileWriteQuery) (transport : Transport) (upload : FileUpload) : FileTree :=
  match upload.outcome daemon query transport with
  | none => daemon.tree
  | some outcome => outcome.tree

def StreamFails (transport : Transport) : FileUpload → Prop
  | .streamed client => (∃ result ∈ client.results, result.isOk = false) ∨ transport.cut ≠ none ∨ transport.answered = false
  | .session _ => transport.cut ≠ none ∨ transport.answered = false

def Fails (daemon : FileDaemon) (query : FileWriteQuery) (transport : Transport) (upload : FileUpload) : Prop :=
  upload.StreamFails transport ∨
    ∀ outcome mtime, upload.outcome daemon query transport = some outcome → outcome.result ≠ .ok mtime

/-- The target has its old content, or all of the new one if nothing failed. -/
def Safe (daemon : FileDaemon) (query : FileWriteQuery) (transport : Transport) (upload : FileUpload) : Prop :=
  ∀ tunnel path before after, daemon.registry.lookup query.tunnelName = some tunnel →
    resolvePath daemon.tree tunnel query.path = .ok path → daemon.tree.node path = some before →
    (upload.treeAfter daemon query transport).node path = some after →
    (after.content = before.content ∨ after.content = .file upload.full) ∧
    (upload.Fails daemon query transport → after.content = before.content)

end FileUpload

/-! ## Failures that do no harm -/

/-- The content stands in the file when the write is over: no check refuses it, the disk works up to the rename, and it is
not taken back. -/
structure Stays (daemon : FileDaemon) (tunnel : FileTunnel) (query : FileWriteQuery) (path : FilePath) (content : List UInt8) :
    Prop where
  target : writeTarget daemon.glob daemon.tree tunnel query.path content query.expectedMtime = .ok path
  tempFile : daemon.disk.tempFile = true
  writeAll : daemon.disk.writeAll = true
  backup : daemon.disk.backup = true
  notDir : (daemon.tree.node path).any Node.isDir = false
  rename : daemon.disk.rename = true
  kept : ∀ validator message, findValidator daemon.glob tunnel path = some validator →
    daemon.validate validator content = .error message → daemon.disk.restore = false

def Accepted (daemon : FileDaemon) (tunnel : FileTunnel) (path : FilePath) (content : List UInt8) : Prop :=
  ∀ validator, findValidator daemon.glob tunnel path = some validator → daemon.validate validator content = .ok ()

def completeBody : Option (Except Unit (List UInt8)) → Option (List UInt8)
  | some (.ok content) => some content
  | some (.error _) | none => none

/-- The bytes that the daemon takes for the whole content. -/
def FileUpload.delivered (framing : Framing) : FileUpload → Option (Nat × Ending) → Option (List UInt8)
  | .streamed client, cut =>
      let body := collectBody client
      if cut.any (·.1 = 0) then none
      else if inlineBodyLimit < body.length then
        completeBody (framing.readBinaryBody maxFileSize
          (arriving (framing.writeBinary body ++ [.end_]) (cut.map fun at_ => (at_.1 - 1, at_.2))))
      else some body
  | .session pieces, none => some pieces.flatten
  | .session pieces, some (count, ending) =>
      if pieces.length < count ∨ ending = .closed then some (pieces.take count).flatten else none

/-- Content that stays is what the file held before, or comes of an upload in which nothing fails. -/
def FileUpload.Harmless (daemon : FileDaemon) (query : FileWriteQuery) (transport : Transport) (upload : FileUpload) : Prop :=
  ∀ tunnel path before content, daemon.registry.lookup query.tunnelName = some tunnel →
    daemon.tree.node path = some before → upload.delivered daemon.framing transport.cut = some content →
    Stays daemon tunnel query path content →
    before.content = .file content ∨ ¬ upload.StreamFails transport ∧ Accepted daemon tunnel path content

/-! ## Responses over a tunnel stream

The response loop of `handle_streamed_proxy` and `handle_file_read_stream` in `mac-mgmt-agent/src/p2p/mod.rs`, the readers of
`relay/src/tunnel_io.rs` and what `relay/src/proxy_handler.rs` makes of them for its HTTP client. A frame is what
`read_tagged_frame` of `mac_mgmt_common` returns for it; the header frame of a response is a JSON frame. -/

/-! ## The daemon -/

/-- The loop over the chunks: an error leaves it like the end of the body does. -/
def streamBody : List (Except Unit (List UInt8)) → List FrameRead
  | [] => [.end_]
  | .ok bytes :: results => .binary bytes :: streamBody results
  | .error _ :: _ => [.end_]

/-- `slice::chunks`. -/
def chunks (size : Nat) (content : List UInt8) : List (List UInt8) :=
  match content with
  | [] => []
  | byte :: rest =>
      have : (rest.drop (size - 1)).length < (byte :: rest).length := by
        rw [List.length_drop, List.length_cons]
        omega
      (byte :: rest.take (size - 1)) :: chunks size (rest.drop (size - 1))
termination_by content.length

def contentChunks (content : List UInt8) : List (List UInt8) := chunks (1024 * 1024) content

/-- A successful response of the daemon, with the bytes it stands for. -/
inductive Transfer where
  | proxy (upstream : BodyStream) (headers : List (String × String))
  | fileRead (content : List UInt8)

namespace Transfer

def full : Transfer → List UInt8
  | .proxy upstream _ => upstream.full
  | .fileRead content => content

def frames : Transfer → List FrameRead
  | .proxy upstream _ => .json :: streamBody upstream.results
  | .fileRead content => .json :: ((contentChunks content).map .binary ++ [.end_])

end Transfer

/-! ## The relay -/

inductive BodyEnd where
  | complete
  | broken
  | open_
deriving DecidableEq

def readBinaryChunksStream : List FrameRead → List UInt8 × BodyEnd
  | [] => ([], .open_)
  | .binary data :: reads => (data ++ (readBinaryChunksStream reads).1, (readBinaryChunksStream reads).2)
  | .end_ :: _ | .closed :: _ => ([], .complete)
  | .json :: reads => readBinaryChunksStream reads
  | .failed :: _ => ([], .broken)

/-- The body is handed on when the loop is left, whatever the reason; `none` while it waits for a frame. -/
def readBinaryBody (body : List UInt8) : List FrameRead → Option (List UInt8)
  | [] => none
  | .binary data :: reads => readBinaryBody (body ++ data) reads
  | .end_ :: _ | .closed :: _ | .json :: _ | .failed :: _ => some body

structure ClientResponse where
  headers : List (String × String)
  body : List UInt8
  ending : BodyEnd
deriving DecidableEq

def forwardResponseHeaders (headers : List (String × String)) : List (String × String) :=
  headers.filter fun header => header.1.toLower ≠ "transfer-encoding" ∧ header.1.toLower ≠ "content-length"

/-- The successful response to the client, if there is one: without the header frame it is an error. A file is sent once
its body is there. -/
def Transfer.respond (transfer : Transfer) : List FrameRead → Option ClientResponse
  | .json :: reads =>
      match transfer with
      | .proxy _ headers =>
          some ⟨forwardResponseHeaders headers, (readBinaryChunksStream reads).1, (readBinaryChunksStream reads).2⟩
      | .fileRead content =>
          (readBinaryBody [] reads).map fun body =>
            ⟨[("content-type", "application/octet-stream"), ("x-file-size", toString content.length)], body, .complete⟩
  | _ => none

/-- A body that ends, and has the length that is announced if one is. -/
def ClientResponse.ReportedComplete (response : ClientResponse) : Prop :=
  response.ending = .complete ∧ ∀ header ∈ response.headers, header.1.toLower = "content-length" →
    header.2 = toString response.body.length

/-- What the client is told is the whole body is the whole body. -/
def Transfer.Truthful (transfer : Transfer) (cut : Option (Nat × Ending)) : Prop :=
  ∀ response, transfer.respond (arriving transfer.frames cut) = some response → response.ReportedComplete →
    response.body = transfer.full

/-! ## Failures that do no harm -/

/-- A proxied body whose end marker arrives was read from the upstream to its last byte. A stream that ends without it
ends with an error, or has brought the whole body; for a file an error is no better than an end. The first frame is the
header. -/
def Transfer.ArrivesWhole : Transfer → Option (Nat × Ending) → Prop
  | .proxy upstream _, none => (okChunks upstream.results).flatten = upstream.full
  | .proxy upstream _, some (count, .failed) =>
      (okChunks upstream.results).length + 2 ≤ count → (okChunks upstream.results).flatten = upstream.full
  | .proxy upstream _, some (count, .closed) =>
      0 < count → ((okChunks upstream.results).take (count - 1)).flatten = upstream.full
  | .fileRead _, none => True
  | .fileRead content, some (count, _) => 0 < count → ((contentChunks content).take (count - 1)).flatten = content

end MacMgmt.Tunnel
