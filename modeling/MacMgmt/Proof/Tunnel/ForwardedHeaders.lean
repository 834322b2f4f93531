import MacMgmt.Proof.Tunnel.Requests

/-!
# The header list that the relay forwards

What is stripped and what the relay reads as a credential agree: a forwarded list has no token in it.
-/

namespace MacMgmt.Proof.Tunnel
open MacMgmt.Tunnel MacMgmt.Relay Lib

def withHeaders (headers : List (String × List Char)) : Request where
  host := none
  authorization := none
  xProxyToken := (valuesOf "x-proxy-token" headers).head?.map String.ofList
  cookies := (valuesOf "cookie" headers).map String.ofList
  cert := none
  bodyLength := 0

def otherHeaders {V : Type} (headers : List (String × V)) : List (String × V) :=
  headers.filter fun header => decide (header.1 ∉ relayHeaders)

structure ForwardedHeaders (request : ClientRequest) (forwarded : List (String × List Char)) : Prop where
  noToken : extractToken (withHeaders forwarded) = none
  kept : List.Forall₂
    (fun sent out => out.1 = sent.1 ∧ (visibleAscii sent.2 = true → toStr sent.2 = some out.2))
    (otherHeaders request.headers) (otherHeaders forwarded)
  cookies : (∀ value ∈ valuesOf "cookie" request.headers, visibleAscii value = true) →
    ((valuesOf "cookie" forwarded).flatMap fun text => ((text.splitOn ';').map trim).filter (· ≠ [])) =
      (cookiePairs (valuesOf "cookie" request.headers)).filter keepsCookie
  added : ∃ own, forwarded = own ++ reverseProxyHeaders request
  single : ∀ header ∈ reverseProxyHeaders request, valuesOf header.1 request.headers = [] →
    valuesOf header.1 forwarded = [header.2]

/-! ## The token -/

theorem mem_stripped {text piece : List Char} (member : piece ∈ (stripProxyCookie text).splitOn ';') :
    keepsCookie (trim piece) = true := by
  by_cases none : ((text.splitOn ';').map trim).filter keepsCookie = []
  · rw [stripProxyCookie, none] at member
    cases List.mem_singleton.mp member
    rfl
  · have kept := List.mem_map_of_mem (f := trim) member
    rw [pieces_stripProxyCookie none] at kept
    exact (List.mem_filter.mp kept).2

theorem extractCookieToken_stripped {request : Request}
    (stripped : ∀ header ∈ request.cookies, ∃ text, header.toList = stripProxyCookie text) : extractCookieToken request = none := by
  unfold extractCookieToken
  rw [List.findSome?_eq_none_iff]
  intro pair member
  obtain ⟨header, within, piece⟩ := List.mem_flatMap.mp member
  obtain ⟨text, same⟩ := stripped header within
  rw [same] at piece
  have kept := mem_stripped piece
  unfold keepsCookie at kept
  cases split : splitOnce '=' (trim pair) with
  | none => rfl
  | some parts =>
      rw [split] at kept
      exact if_neg (of_decide_eq_true kept)

section
variable (request : ClientRequest) (tunnelName : String) (body : List UInt8)

theorem valuesOf_handshake (name : String) : valuesOf name (proxyHandshake tunnelName request body).headers =
    valuesOf name (request.headers.filterMap forwardHeader) ++ valuesOf name (reverseProxyHeaders request) := valuesOf_append name _ _

theorem handshake_noToken : extractToken (withHeaders (proxyHandshake tunnelName request body).headers) = none := by
  have noHeader : (withHeaders (proxyHandshake tunnelName request body).headers).xProxyToken = none := by
    rw [withHeaders, valuesOf_handshake, valuesOf_dropped request (by decide), valuesOf_reverseProxy request (by decide)]
    rfl
  unfold extractToken
  rw [noHeader]
  apply extractCookieToken_stripped
  intro header member
  obtain ⟨value, within, rfl⟩ := List.mem_map.mp member
  rw [valuesOf_handshake, valuesOf_cookie, valuesOf_reverseProxy request (by decide), List.append_nil] at within
  obtain ⟨text, -, stripped⟩ := List.mem_filterMap.mp within
  split at stripped
  · cases stripped
  · cases stripped
    exact ⟨text, String.toList_ofList⟩

/-! ## The rest -/

theorem forwardHeader_plain {header : String × List UInt8} (lower : header.1.toLower = header.1) (plain : header.1 ∉ relayHeaders) :
    forwardHeader header = some (header.1, (toStr header.2).getD []) := by
  simp only [relayHeaders, List.mem_cons, List.not_mem_nil, or_false, not_or] at plain
  simp [forwardHeader, lower, plain]

theorem otherHeaders_cons_of_not_mem {V : Type} {header : String × V} {headers : List (String × V)} (plain : header.1 ∉ relayHeaders) :
    otherHeaders (header :: headers) = header :: otherHeaders headers := List.filter_cons_of_pos (decide_eq_true plain)

theorem otherHeaders_cons_of_mem {V : Type} {header : String × V} {headers : List (String × V)} (own : header.1 ∈ relayHeaders) :
    otherHeaders (header :: headers) = otherHeaders headers := List.filter_cons_of_neg (by simpa using own)

theorem otherHeaders_append {V : Type} (headers others : List (String × V)) :
    otherHeaders (headers ++ others) = otherHeaders headers ++ otherHeaders others := List.filter_append _ _

theorem otherHeaders_own : otherHeaders (reverseProxyHeaders request) = [] := by
  have names : ∀ name ∈ ["x-real-ip", "x-forwarded-for", "x-forwarded-proto"], name ∈ relayHeaders := by decide
  unfold otherHeaders
  rw [List.filter_eq_nil_iff]
  intro header member
  simpa using names header.1 (reverseProxyHeaders_name request member)

theorem handshake_kept : List.Forall₂
    (fun sent out => out.1 = sent.1 ∧ (visibleAscii sent.2 = true → toStr sent.2 = some out.2))
    (otherHeaders request.headers) (otherHeaders (proxyHandshake tunnelName request body).headers) := by
  rw [proxyHandshake, otherHeaders_append, otherHeaders_own, List.append_nil]
  have lower := request.lower
  generalize request.headers = headers at lower
  induction headers with
  | nil => exact .nil
  | cons header headers ih =>
      have rest := ih fun other member => lower other (List.mem_cons_of_mem _ member)
      have here := lower header List.mem_cons_self
      by_cases own : header.1 ∈ relayHeaders
      · rw [otherHeaders_cons_of_mem own, List.filterMap_cons]
        cases kept : forwardHeader header with
        | none => exact rest
        | some out =>
            have named := (forwardHeader_name here kept).1
            dsimp only
            rw [otherHeaders_cons_of_mem (named ▸ own)]
            exact rest
      · rw [List.filterMap_cons, forwardHeader_plain here own]
        dsimp only
        rw [otherHeaders_cons_of_not_mem own, otherHeaders_cons_of_not_mem (show (header.1, (toStr header.2).getD []).1 ∉ relayHeaders from own)]
        refine .cons ⟨rfl, fun visible => ?_⟩ rest
        rw [toStr_eq_some visible, Option.getD_some]

theorem handshake_cookies (visible : ∀ value ∈ valuesOf "cookie" request.headers, visibleAscii value = true) :
    ((valuesOf "cookie" (proxyHandshake tunnelName request body).headers).flatMap fun text =>
        ((text.splitOn ';').map trim).filter (· ≠ [])) =
      (cookiePairs (valuesOf "cookie" request.headers)).filter keepsCookie := by
  rw [valuesOf_handshake, valuesOf_cookie, valuesOf_reverseProxy request (by decide), List.append_nil,
    cookiePairs_eq (texts_of_visible visible), pairs_stripped]

theorem handshake_single {header : String × List Char} (member : header ∈ reverseProxyHeaders request)
    (absent : valuesOf header.1 request.headers = []) :
    valuesOf header.1 (proxyHandshake tunnelName request body).headers = [header.2] := by
  have names : ∀ name ∈ ["x-real-ip", "x-forwarded-for", "x-forwarded-proto"],
      name ∉ ["connection", "transfer-encoding", "x-proxy-token", "cookie"] := by decide
  rw [valuesOf_handshake, valuesOf_forwarded request (names header.1 (reverseProxyHeaders_name request member)), absent,
    valuesOf_added request member]
  rfl

end

end MacMgmt.Proof.Tunnel
