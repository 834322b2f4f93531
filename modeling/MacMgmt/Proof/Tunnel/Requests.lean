import MacMgmt.Lib.Replace
import MacMgmt.Proof.Tunnel.Uploads
import MacMgmt.Tunnel.Requests
import Mathlib.Data.List.DropRight

/-!
# Requests as the upstream sees them

Headers are followed name by name: every stage maps the values of a name in order, or drops the name.
-/

namespace MacMgmt.Proof.Tunnel
open MacMgmt.Tunnel MacMgmt.Agent MacMgmt.Relay Lib

/-! ## Values as texts -/

theorem toStr_eq_some {value : List UInt8} (visible : visibleAscii value = true) :
    toStr value = some (value.map fun byte => Char.ofNat byte.toNat) := if_pos visible

theorem toNat_ofNat_byte (byte : UInt8) : (Char.ofNat byte.toNat).toNat = byte.toNat := by
  have small := byte.toNat_lt
  unfold Char.ofNat
  rw [dif_pos (.inl (by omega))]
  rfl

theorem ofNat_toNat_char {c : Char} (small : c.toNat < 256) : Char.ofNat (UInt8.ofNat c.toNat).toNat = c := by
  rw [UInt8.toNat_ofNat_of_lt' (by simpa using small), Char.ofNat_toNat]

theorem headerValue_toStr {value : List UInt8} {text : List Char} (shown : toStr value = some text) :
    headerValue text = some value := by
  unfold toStr at shown
  split at shown
  case isFalse => cases shown
  case isTrue visible =>
    cases shown
    have back : (value.map fun byte => Char.ofNat byte.toNat).map (fun c => UInt8.ofNat c.toNat) = value := by
      rw [List.map_map]
      refine (List.map_congr_left fun byte _ => ?_).trans (List.map_id value)
      simp [toNat_ofNat_byte]
    unfold headerValue
    rw [back, if_pos]
    refine ⟨?_, visible⟩
    simp only [List.all_map, List.all_eq_true, Function.comp_apply, decide_eq_true_eq, toNat_ofNat_byte]
    exact fun byte _ => byte.toNat_lt

theorem toStr_headerValue {text : List Char} {value : List UInt8} (encoded : headerValue text = some value) :
    toStr value = some text := by
  unfold headerValue at encoded
  split at encoded
  case isFalse => cases encoded
  case isTrue fits =>
    cases encoded
    rw [toStr_eq_some fits.2, List.map_map]
    refine congrArg some ((List.map_congr_left fun c member => ?_).trans (List.map_id text))
    exact ofNat_toNat_char (by simpa using List.all_eq_true.mp fits.1 c member)

theorem eq_of_map_toStr {values others : List (List UInt8)} (same : values.map toStr = others.map toStr)
    (visible : ∀ value ∈ others, visibleAscii value = true) : values = others := by
  induction values generalizing others with
  | nil =>
      cases others with
      | nil => rfl
      | cons other others => cases same
  | cons value values ih =>
      cases others with
      | nil => cases same
      | cons other others =>
          obtain ⟨first, rest⟩ := List.cons.inj same
          have shown := toStr_eq_some (visible other List.mem_cons_self)
          have left := headerValue_toStr (first.trans shown)
          have right := headerValue_toStr shown
          rw [Option.some.inj (left.symm.trans right), ih rest fun value member => visible value (List.mem_cons_of_mem _ member)]

/-! ## Values under a name -/

theorem valuesOf_append {V : Type} (name : String) (headers others : List (String × V)) :
    valuesOf name (headers ++ others) = valuesOf name headers ++ valuesOf name others := List.filterMap_append

theorem mem_valuesOf {V : Type} {name : String} {headers : List (String × V)} {value : V} :
    value ∈ valuesOf name headers ↔ (name, value) ∈ headers := by
  simp only [valuesOf, List.mem_filterMap, Option.ite_none_right_eq_some, Option.some.injEq]
  constructor
  · rintro ⟨header, member, rfl, rfl⟩
    exact member
  · intro member
    exact ⟨(name, value), member, rfl, rfl⟩

theorem valuesOf_filterMap {V W : Type} {name : String} {headers : List (String × V)} {stage : String × V → Option (String × W)}
    (change : V → Option W)
    (named : ∀ header ∈ headers, header.1 = name → stage header = (change header.2).map (name, ·))
    (other : ∀ header ∈ headers, header.1 ≠ name → ∀ out, stage header = some out → out.1 ≠ name) :
    valuesOf name (headers.filterMap stage) = (valuesOf name headers).filterMap change := by
  induction headers with
  | nil => rfl
  | cons header headers ih =>
      have rest := ih (fun other member => named other (List.mem_cons_of_mem _ member))
        fun header member => other header (List.mem_cons_of_mem _ member)
      by_cases same : header.1 = name
      · have here := named header List.mem_cons_self same
        cases changed : change header.2 with
        | none =>
            rw [changed] at here
            simp only [valuesOf, List.filterMap_cons, here, Option.map_none, same, if_true, changed] at rest ⊢
            exact rest
        | some value =>
            rw [changed] at here
            simp only [valuesOf, List.filterMap_cons, here, Option.map_some, same, if_true, changed] at rest ⊢
            rw [rest]
      · cases out : stage header with
        | none =>
            simp only [valuesOf, List.filterMap_cons, out, if_neg same] at rest ⊢
            exact rest
        | some out_ =>
            have away := other header List.mem_cons_self same out_ out
            simp only [valuesOf, List.filterMap_cons, out, if_neg same, if_neg away] at rest ⊢
            exact rest

theorem valuesOf_mapM {name : String} {headers : List (String × List Char)} {encoded : List (String × List UInt8)}
    (built : (headers.mapM fun header => (headerValue header.2).map (header.1, ·)) = some encoded) :
    (valuesOf name encoded).map toStr = (valuesOf name headers).map some := by
  induction headers generalizing encoded with
  | nil =>
      cases built
      rfl
  | cons header headers ih =>
      rw [List.mapM_cons] at built
      simp only [Option.pure_def, Option.bind_eq_bind, Option.bind_eq_some_iff, Option.some.injEq] at built
      obtain ⟨first, made, rest, remaining, rfl⟩ := built
      obtain ⟨value, valid, rfl⟩ := Option.map_eq_some_iff.mp made
      have tail := ih remaining
      by_cases same : header.1 = name
      · simp only [valuesOf, List.filterMap_cons, same, if_true, List.map_cons, toStr_headerValue valid] at tail ⊢
        rw [tail]
      · simp only [valuesOf, List.filterMap_cons, if_neg same] at tail ⊢
        exact tail

/-! ## Cookies -/

theorem trim_eq (text : List Char) :
    trim text = (text.dropWhile Char.isWhitespace).rdropWhile Char.isWhitespace := rfl

theorem trim_trim (text : List Char) : trim (trim text) = trim text := by
  rw [trim_eq (trim text), trim_eq text, Lib.trim_idem]

theorem trim_space (text : List Char) : trim (' ' :: text) = trim text := rfl

theorem not_mem_trim {c : Char} {text : List Char} (absent : c ∉ text) : c ∉ trim text := by
  rw [trim_eq]
  exact fun member => absent ((List.dropWhile_suffix _).subset ((List.rdropWhile_prefix _ _).subset member))

theorem intercalate_pair (a b : Char) (piece : List Char) (pieces : List (List Char)) :
    [a, b].intercalate (piece :: pieces) = [a].intercalate (piece :: pieces.map (b :: ·)) := by
  induction pieces generalizing piece with
  | nil => simp
  | cons next pieces ih => simp [List.intercalate_cons_cons, ih]

theorem splitOn_joined {pieces : List (List Char)} (some : pieces ≠ []) (bare : ∀ piece ∈ pieces, ';' ∉ piece)
    (trimmed : ∀ piece ∈ pieces, trim piece = piece) :
    (("; ".toList.intercalate pieces).splitOn ';').map trim = pieces := by
  obtain ⟨first, rest, rfl⟩ := List.exists_cons_of_ne_nil some
  have separator : "; ".toList = [';', ' '] := rfl
  rw [separator, intercalate_pair, List.splitOn_intercalate]
  · rw [List.map_cons, trimmed first List.mem_cons_self, List.map_map]
    refine congrArg (first :: ·) ((List.map_congr_left fun piece member => ?_).trans (List.map_id rest))
    rw [Function.comp_apply, trim_space, trimmed piece (List.mem_cons_of_mem _ member)]
    rfl
  · intro piece member
    obtain rfl | member := List.mem_cons.mp member
    · exact bare piece List.mem_cons_self
    · obtain ⟨inner, within, rfl⟩ := List.mem_map.mp member
      simpa using bare inner (List.mem_cons_of_mem _ within)
  · exact List.cons_ne_nil _ _

theorem pieces_stripProxyCookie {text : List Char} (some : ((text.splitOn ';').map trim).filter keepsCookie ≠ []) :
    ((stripProxyCookie text).splitOn ';').map trim = ((text.splitOn ';').map trim).filter keepsCookie := by
  apply splitOn_joined some
  · intro piece member
    obtain ⟨source, within, rfl⟩ := List.mem_map.mp (List.mem_filter.mp member).1
    exact not_mem_trim (not_mem_of_mem_splitOn text source within)
  · intro piece member
    obtain ⟨source, _, rfl⟩ := List.mem_map.mp (List.mem_filter.mp member).1
    exact trim_trim source

theorem pairs_stripProxyCookie (text : List Char) :
    (((stripProxyCookie text).splitOn ';').map trim).filter (· ≠ []) =
      (((text.splitOn ';').map trim).filter (· ≠ [])).filter keepsCookie := by
  have swap : (((text.splitOn ';').map trim).filter (· ≠ [])).filter keepsCookie =
      (((text.splitOn ';').map trim).filter keepsCookie).filter (· ≠ []) := by
    rw [List.filter_filter, List.filter_filter]
    exact List.filter_congr fun piece _ => Bool.and_comm _ _
  rw [swap]
  by_cases none : ((text.splitOn ';').map trim).filter keepsCookie = []
  · rw [stripProxyCookie, none]
    rfl
  · rw [pieces_stripProxyCookie none]

theorem cookiePairs_eq {values : List (List UInt8)} {texts : List (List Char)} (same : values.map toStr = texts.map some) :
    cookiePairs values = texts.flatMap fun text => ((text.splitOn ';').map trim).filter (· ≠ []) := by
  induction values generalizing texts with
  | nil =>
      cases texts with
      | nil => rfl
      | cons text texts => cases same
  | cons value values ih =>
      cases texts with
      | nil => cases same
      | cons text texts =>
          obtain ⟨first, rest⟩ := List.cons.inj same
          have tail := ih rest
          rw [cookiePairs] at tail ⊢
          rw [List.flatMap_cons, List.flatMap_cons, tail, first]
          rfl

theorem pairs_stripped (texts : List (List Char)) :
    ((texts.filterMap fun text => if stripProxyCookie text = [] then none else some (stripProxyCookie text)).flatMap
        fun text => ((text.splitOn ';').map trim).filter (· ≠ [])) =
      (texts.flatMap fun text => ((text.splitOn ';').map trim).filter (· ≠ [])).filter keepsCookie := by
  induction texts with
  | nil => rfl
  | cons text texts ih =>
      rw [List.flatMap_cons, List.filter_append, ← ih, ← pairs_stripProxyCookie]
      by_cases gone : stripProxyCookie text = []
      · rw [List.filterMap_cons, if_pos gone, gone]
        rfl
      · rw [List.filterMap_cons, if_neg gone]
        rfl

/-! ## The relay's headers -/

theorem texts_of_visible {values : List (List UInt8)} (visible : ∀ value ∈ values, visibleAscii value = true) :
    values.map toStr = (values.map fun value => (toStr value).getD []).map some := by
  rw [List.map_map]
  refine List.map_congr_left fun value member => ?_
  rw [Function.comp_apply, toStr_eq_some (visible value member), Option.getD_some]

theorem forwardHeader_name {header : String × List UInt8} {out : String × List Char} (lower : header.1.toLower = header.1)
    (kept : forwardHeader header = some out) :
    out.1 = header.1 ∧ header.1 ∉ ["connection", "transfer-encoding", "x-proxy-token"] := by
  rw [forwardHeader, lower] at kept
  split at kept
  case isTrue => cases kept
  case isFalse forwarded =>
    refine ⟨?_, forwarded⟩
    split at kept
    next cookie =>
      dsimp only at kept
      split at kept
      · cases kept
      · cases kept
        exact cookie.symm
    next => cases kept; rfl

section Relay
variable (request : ClientRequest)

theorem valuesOf_forwarded {name : String} (plain : name ∉ ["connection", "transfer-encoding", "x-proxy-token", "cookie"]) :
    valuesOf name (request.headers.filterMap forwardHeader) =
      (valuesOf name request.headers).map fun value => (toStr value).getD [] := by
  rw [← List.filterMap_eq_map]
  refine valuesOf_filterMap _ (fun header member same => ?_) fun header member other out kept => ?_
  · subst same
    simp only [List.mem_cons, List.not_mem_nil, or_false, not_or] at plain
    simp [forwardHeader, request.lower header member, plain]
  · rw [(forwardHeader_name (request.lower header member) kept).1]
    exact other

theorem valuesOf_cookie :
    valuesOf "cookie" (request.headers.filterMap forwardHeader) =
      ((valuesOf "cookie" request.headers).map fun value => (toStr value).getD []).filterMap fun text =>
        if stripProxyCookie text = [] then none else some (stripProxyCookie text) := by
  rw [List.filterMap_map]
  refine valuesOf_filterMap _ (fun header member same => ?_) fun header member other out kept => ?_
  · rw [forwardHeader, request.lower header member, same, if_neg (by decide), if_pos rfl]
    dsimp only [Function.comp_apply]
    split <;> rfl
  · rw [(forwardHeader_name (request.lower header member) kept).1]
    exact other

theorem valuesOf_dropped {name : String} (dropped : name ∈ ["connection", "transfer-encoding", "x-proxy-token"]) :
    valuesOf name (request.headers.filterMap forwardHeader) = [] := by
  refine List.eq_nil_iff_forall_not_mem.mpr fun value member => ?_
  obtain ⟨header, within, kept⟩ := List.mem_filterMap.mp (mem_valuesOf.mp member)
  obtain ⟨same, forwarded⟩ := forwardHeader_name (request.lower header within) kept
  rw [← same] at forwarded
  exact forwarded dropped

theorem reverseProxyHeaders_name {added : String × List Char} (member : added ∈ reverseProxyHeaders request) :
    added.1 ∈ ["x-real-ip", "x-forwarded-for", "x-forwarded-proto"] := by
  simp only [reverseProxyHeaders, List.mem_cons, List.not_mem_nil, or_false] at member
  obtain rfl | rfl | rfl := member <;> simp

theorem valuesOf_reverseProxy {name : String} (plain : name ∉ ["x-real-ip", "x-forwarded-for", "x-forwarded-proto"]) :
    valuesOf name (reverseProxyHeaders request) = [] := by
  refine List.eq_nil_iff_forall_not_mem.mpr fun value member => ?_
  exact plain (reverseProxyHeaders_name request (mem_valuesOf.mp member))

theorem valuesOf_added {added : String × List Char} (member : added ∈ reverseProxyHeaders request) :
    valuesOf added.1 (reverseProxyHeaders request) = [added.2] := by
  simp only [reverseProxyHeaders, List.mem_cons, List.not_mem_nil, or_false] at member
  obtain rfl | rfl | rfl := member <;> rfl

theorem handshake_lower {tunnelName : String} {body : List UInt8} :
    ∀ header ∈ (proxyHandshake tunnelName request body).headers, header.1.toLower = header.1 := by
  intro header member
  obtain kept | added := List.mem_append.mp member
  · obtain ⟨source, within, forwarded⟩ := List.mem_filterMap.mp kept
    rw [(forwardHeader_name (request.lower source within) forwarded).1]
    exact request.lower source within
  · have constants : ∀ name ∈ ["x-real-ip", "x-forwarded-for", "x-forwarded-proto"], name.toLower = name := by
      simp only [toLower_eq_iff]
      decide +kernel
    exact constants header.1 (reverseProxyHeaders_name request added)

end Relay

/-! ## The daemon's headers -/

section Daemon
variable {daemon : ProxyDaemon} {upstream : TunnelTarget}

theorem applyHeader_name {header out : String × List Char} (kept : daemon.applyHeader upstream header = some out) :
    out.1 = header.1 := by
  unfold ProxyDaemon.applyHeader at kept
  dsimp only at kept
  split at kept
  · cases kept
  split at kept
  · split at kept
    · obtain ⟨value, _, rfl⟩ := Option.map_eq_some_iff.mp kept
      rfl
    · cases kept
  · cases kept
    rfl

theorem valuesOf_applied (name : String) (headers : List (String × List Char)) :
    valuesOf name (headers.filterMap (daemon.applyHeader upstream)) =
      (valuesOf name headers).filterMap fun value => (daemon.applyHeader upstream (name, value)).map Prod.snd := by
  refine valuesOf_filterMap _ (fun header _ same => ?_) fun header _ other out kept => ?_
  · subst same
    cases applied : daemon.applyHeader upstream header with
    | none => rfl
    | some out => rw [← applyHeader_name applied]; rfl
  · rw [applyHeader_name kept]
    exact other

theorem applyHeader_plain {name : String} (value : List Char) (lower : name.toLower = name)
    (plain : name ∉ ["connection", "transfer-encoding"]) (shown : ¬ (daemon.fakeOriginLocal ∧ name ∈ fakeOriginDropHeaders)) :
    daemon.applyHeader upstream (name, value) = some (name, value) := by
  simp only [List.mem_cons, List.not_mem_nil, or_false] at plain
  rw [ProxyDaemon.applyHeader]
  dsimp only
  rw [lower, if_neg plain, if_neg shown]

theorem lower_fakeOrigin : ∀ name ∈ fakeOriginDropHeaders, name.toLower = name ∧ name ∉ ["connection", "transfer-encoding"] := by
  simp only [toLower_eq_iff]
  decide +kernel

theorem applyHeader_origin {name : String} (value : List Char) (fake : daemon.fakeOriginLocal = true)
    (member : name ∈ fakeOriginDropHeaders) :
    daemon.applyHeader upstream (name, value) =
      if name ∈ ["origin", "referer"] then (daemon.rewriteUrlOrigin value upstream).map (name, ·) else none := by
  obtain ⟨lower, plain⟩ := lower_fakeOrigin name member
  simp only [List.mem_cons, List.not_mem_nil, or_false] at plain
  rw [ProxyDaemon.applyHeader]
  dsimp only
  rw [lower, if_neg plain, if_pos ⟨fake, member⟩]
  have same : (name = "referer" ∨ name = "origin") ↔ name ∈ ["origin", "referer"] := by simp [or_comm]
  simp only [same]

theorem valuesOf_requestHeaders {name : String} {headers : List (String × List Char)}
    (lower : ∀ header ∈ headers, header.1.toLower = header.1) (plain : name ∉ ["connection", "transfer-encoding"])
    (shown : ¬ (daemon.fakeOriginLocal ∧ name ∈ fakeOriginDropHeaders)) :
    valuesOf name (daemon.requestHeaders upstream headers) = valuesOf name headers := by
  have host : valuesOf name (if daemon.fakeOriginLocal then [("host", upstream.authority.toList)] else []) = [] := by
    split
    next fake =>
      refine List.eq_nil_iff_forall_not_mem.mpr fun value member => ?_
      have same := congrArg Prod.fst (List.mem_singleton.mp (mem_valuesOf.mp member))
      exact shown ⟨fake, by rw [show name = "host" from same]; decide⟩
    next => rfl
  rw [ProxyDaemon.requestHeaders, valuesOf_append, host, List.nil_append, valuesOf_applied]
  refine (List.filterMap_congr fun value member => ?_).trans List.filterMap_some
  rw [applyHeader_plain value (lower _ (mem_valuesOf.mp member)) plain shown]
  rfl

theorem valuesOf_requestHeaders_origin {name : String} {headers : List (String × List Char)}
    (fake : daemon.fakeOriginLocal = true) (member : name ∈ fakeOriginDropHeaders) :
    valuesOf name (daemon.requestHeaders upstream headers) =
      (if name = "host" then [upstream.authority.toList] else []) ++
        (valuesOf name headers).filterMap fun value =>
          if name ∈ ["origin", "referer"] then daemon.rewriteUrlOrigin value upstream else none := by
  rw [ProxyDaemon.requestHeaders, valuesOf_append, valuesOf_applied, if_pos fake]
  congr 1
  · by_cases host : name = "host"
    · subst host
      rfl
    · rw [if_neg host, valuesOf, List.filterMap_cons, if_neg (Ne.symm host)]
      rfl
  · refine List.filterMap_congr fun value _ => ?_
    rw [applyHeader_origin value fake member]
    split
    · cases daemon.rewriteUrlOrigin value upstream <;> rfl
    · rfl

theorem valuesOf_requestHeaders_nil {name : String} {headers : List (String × List Char)} (other : name ≠ "host")
    (none : valuesOf name headers = []) : valuesOf name (daemon.requestHeaders upstream headers) = [] := by
  rw [ProxyDaemon.requestHeaders, valuesOf_append, valuesOf_applied, none]
  split
  · rw [valuesOf, List.filterMap_cons, if_neg (Ne.symm other)]
    rfl
  · rfl

end Daemon

/-! ## One request -/

section Request
variable {daemon : ProxyDaemon} {tunnelName : String} {request : ClientRequest} {issued : UpstreamRequest}

theorem toBytes_eq_some {limit : Nat} {body whole : List UInt8} {results : List (Except Unit (List UInt8))}
    (fits : body.length ≤ limit) (read : toBytes limit body results = some whole) :
    whole.length ≤ limit ∧ whole = body ++ (results.filterMap Except.toOption).flatten ∧
      ∀ result ∈ results, result.isOk = true := by
  induction results generalizing body with
  | nil =>
      cases read
      exact ⟨fits, by simp, by simp⟩
  | cons result results ih =>
      cases result with
      | error failure => cases read
      | ok bytes =>
          rw [toBytes] at read
          split at read
          case isTrue => cases read
          case isFalse short =>
            obtain ⟨bounded, same, ok⟩ := ih (not_lt.mp short) read
            refine ⟨bounded, ?_, ?_⟩
            · rw [same, List.append_assoc]
              rfl
            · intro result member
              obtain rfl | later := List.mem_cons.mp member
              · rfl
              · exact ok result later

theorem handleStreamedProxy_issued {handshake : ProxyHandshake} {reads : List FrameRead}
    (handled : daemon.handleStreamedProxy handshake reads = some (.issued issued)) :
    ∃ body upstream,
      (if handshake.bodyFrames then daemon.framing.readBinaryBody maxProxyBody reads
        else some (.ok (applyBodyB64 handshake.body))) = some (.ok body) ∧
      daemon.tunnelDefs.lookup handshake.tunnelName = some upstream ∧
      daemon.build upstream handshake body = some issued := by
  unfold ProxyDaemon.handleStreamedProxy at handled
  split at handled
  · cases handled
  split at handled
  · split at handled <;> cases handled
  dsimp only at handled
  split at handled
  next => cases handled
  next => cases handled
  next body read =>
    refine ⟨body, ?_⟩
    split at handled
    next => cases handled
    next upstream found =>
      split at handled
      next => cases handled
      next =>
        split at handled
        next => cases handled
        next built =>
          cases handled
          exact ⟨upstream, read, found, built⟩

theorem build_eq_some {upstream : TunnelTarget} {handshake : ProxyHandshake} {body : List UInt8}
    (built : daemon.build upstream handshake body = some issued) :
    daemon.requestTarget ("http://" ++ upstream.authority ++ handshake.path) = some issued.target ∧
      ((daemon.requestHeaders upstream handshake.headers).mapM fun header =>
        (headerValue header.2).map (header.1, ·)) = some issued.headers ∧
      issued.method = proxyMethod handshake.method ∧ issued.body = body := by
  obtain ⟨path, parsed, made⟩ := Option.bind_eq_some_iff.mp built
  obtain ⟨headers, encoded, rfl⟩ := Option.map_eq_some_iff.mp made
  exact ⟨parsed, encoded, rfl, rfl⟩

theorem proxyMethod_of_mem {method : String} (member : method ∈ proxyMethods) : proxyMethod method = method := by
  have all : ∀ method ∈ proxyMethods, proxyMethod method = method := by decide
  exact all method member

theorem received_body {body received : List UInt8} (short : body.length ≤ maxRequestBody)
    (read : (if (bodyPlacement body).2 then
        daemon.framing.readBinaryBody maxProxyBody
          (if (bodyPlacement body).2 then daemon.framing.writeBinary body ++ [FrameRead.end_] else [])
      else some (.ok (applyBodyB64 (bodyPlacement body).1))) = some (.ok received)) : received = body := by
  cases framed : (bodyPlacement body).2 with
  | true =>
      rw [framed, if_pos rfl, if_pos rfl, daemon.framing.read_short maxProxyBody body short] at read
      cases read
      rfl
  | false =>
      rw [framed, if_neg Bool.false_ne_true] at read
      cases read
      exact decodeInline_bodyPlacement framed

end Request

/-! ## Requests that change -/

def webDaemon : ProxyDaemon where
  framing := oneFrame
  handshakeLength handshake := handshake.path.length
  tunnelDefs := (∅ : Table String TunnelTarget).insert "web" ⟨"127.0.0.1", 8080⟩
  tunnelOverrides := ∅
  fakeOriginLocal := false
  rewriteUrlOrigin _ _ := none
  requestTarget url := (url.toList.dropPrefix? "http://127.0.0.1:8080".toList).map String.ofList

def bareRequest (method : String) (name : String) (value : List UInt8) (lower : name.toLower = name) : ClientRequest where
  method := method
  path := "/"
  headers := [(name, value)]
  body := ⟨[], [], fun _ => rfl⟩
  ip := "10.0.0.1"
  lower _ member := by rw [List.mem_singleton.mp member]; exact lower

def issuedRequest (method : String) (headers : List (String × List UInt8)) : UpstreamRequest where
  method := method
  target := "/"
  headers := headers ++ [("x-real-ip", [49, 48, 46, 48, 46, 48, 46, 49]), ("x-forwarded-for", [49, 48, 46, 48, 46, 48, 46, 49]),
    ("x-forwarded-proto", [104, 116, 116, 112])]
  body := []

end MacMgmt.Proof.Tunnel
