import MacMgmt.Tunnel.Bodies

/-!
# Truncated responses

What the client sees of a transfer depends on the frames that arrive before the stream is cut, and on whether the cut looks
like an end.
-/

namespace MacMgmt.Proof.Tunnel
open MacMgmt.Tunnel MacMgmt.Agent

theorem chunks_flatten (size : Nat) (content : List UInt8) : (chunks size content).flatten = content := by
  fun_induction chunks size content with
  | case1 => rfl
  | case2 byte rest shorter ih => rw [List.flatten_cons, ih, List.cons_append, List.take_append_drop]

theorem contentChunks_flatten (content : List UInt8) : (contentChunks content).flatten = content :=
  chunks_flatten (1024 * 1024) content

theorem streamBody_eq (results : List (Except Unit (List UInt8))) :
    streamBody results = (okChunks results).map .binary ++ [FrameRead.end_] := by
  induction results with
  | nil => rfl
  | cons result results ih =>
      cases result with
      | error failure => rfl
      | ok bytes => rw [streamBody, ih, okChunks, List.map_cons, List.cons_append]

def bodyChunks : Transfer → List (List UInt8)
  | .proxy upstream _ => okChunks upstream.results
  | .fileRead content => contentChunks content

theorem frames_eq (transfer : Transfer) :
    transfer.frames = .json :: ((bodyChunks transfer).map .binary ++ [FrameRead.end_]) := by
  cases transfer with
  | proxy upstream headers => rw [Transfer.frames, streamBody_eq]; rfl
  | fileRead content => rfl

/-! ## What arrives -/

theorem take_frames (pieces : List (List UInt8)) (count : Nat) :
    (pieces.map FrameRead.binary ++ [FrameRead.end_]).take count =
      (pieces.take count).map .binary ++ if pieces.length < count then [FrameRead.end_] else [] := by
  rw [List.take_append, List.map_take, List.length_map]
  split
  next enough => rw [@List.take_of_length_le _ _ [FrameRead.end_] (by rw [List.length_singleton]; omega)]
  next short => rw [Nat.sub_eq_zero_of_le (by omega), List.take_zero]

theorem arriving_tail (pieces : List (List UInt8)) (count : Nat) (ending : Ending) :
    arriving (.json :: (pieces.map .binary ++ [FrameRead.end_])) (some (count + 1, ending)) =
      .json :: ((pieces.take count).map .binary ++
        ((if pieces.length < count then [FrameRead.end_] else []) ++ [ending.read])) := by
  rw [arriving, List.take_succ_cons, take_frames, List.cons_append, List.append_assoc]

theorem readBinaryChunksStream_binary (pieces : List (List UInt8)) (reads : List FrameRead) :
    readBinaryChunksStream (pieces.map .binary ++ reads) =
      (pieces.flatten ++ (readBinaryChunksStream reads).1, (readBinaryChunksStream reads).2) := by
  induction pieces with
  | nil => rfl
  | cons piece pieces ih =>
      rw [List.map_cons, List.cons_append, readBinaryChunksStream, ih, List.flatten_cons, List.append_assoc]

theorem readBinaryBody_binary (body : List UInt8) (pieces : List (List UInt8)) (reads : List FrameRead) :
    readBinaryBody body (pieces.map .binary ++ reads) = readBinaryBody (body ++ pieces.flatten) reads := by
  induction pieces generalizing body with
  | nil => rw [List.flatten_nil, List.append_nil]; rfl
  | cons piece pieces ih =>
      rw [List.map_cons, List.cons_append, readBinaryBody, ih, List.flatten_cons, List.append_assoc]

theorem readBinaryChunksStream_cut (pieces : List (List UInt8)) (count : Nat) (ending : Ending) :
    readBinaryChunksStream ((pieces.take count).map .binary ++
        ((if pieces.length < count then [FrameRead.end_] else []) ++ [ending.read])) =
      ((pieces.take count).flatten, if pieces.length < count ∨ ending = .closed then .complete else .broken) := by
  rw [readBinaryChunksStream_binary]
  by_cases all : pieces.length < count
  · simp [all, readBinaryChunksStream]
  · cases ending <;> simp [all, readBinaryChunksStream, Ending.read]

theorem readBinaryBody_cut (pieces : List (List UInt8)) (count : Nat) (ending : Ending) :
    readBinaryBody [] ((pieces.take count).map .binary ++
        ((if pieces.length < count then [FrameRead.end_] else []) ++ [ending.read])) = some (pieces.take count).flatten := by
  rw [readBinaryBody_binary, List.nil_append]
  by_cases all : pieces.length < count
  · rw [if_pos all]
    rfl
  · rw [if_neg all]
    cases ending <;> rfl

/-! ## What the client is told -/

theorem reportedComplete_forward {headers : List (String × String)} {body : List UInt8} {ending : BodyEnd} :
    (ClientResponse.mk (forwardResponseHeaders headers) body ending).ReportedComplete ↔ ending = .complete := by
  refine and_iff_left_of_imp fun _ header member announced => ?_
  have kept := (List.mem_filter.mp member).2
  simp only [decide_eq_true_eq] at kept
  exact absurd announced kept.2

theorem respond_proxy {upstream : BodyStream} {headers : List (String × String)} {reads : List FrameRead}
    {response : ClientResponse} (responded : (Transfer.proxy upstream headers).respond (.json :: reads) = some response) :
    response = ⟨forwardResponseHeaders headers, (readBinaryChunksStream reads).1, (readBinaryChunksStream reads).2⟩ :=
  (Option.some.inj responded).symm

theorem truthful_proxy_iff {upstream : BodyStream} {headers : List (String × String)} {cut : Option (Nat × Ending)}
    {reads : List FrameRead} (arrives : arriving (Transfer.proxy upstream headers).frames cut = .json :: reads) :
    (Transfer.proxy upstream headers).Truthful cut ↔
      ((readBinaryChunksStream reads).2 = .complete → (readBinaryChunksStream reads).1 = upstream.full) := by
  unfold Transfer.Truthful
  rw [arrives]
  constructor
  · intro truthful ended
    exact truthful _ rfl (reportedComplete_forward.mpr ended)
  · intro whole response responded reported
    rw [respond_proxy responded] at reported ⊢
    exact whole (reportedComplete_forward.mp reported)

theorem toLower_eq_iff {text lower : String} : text.toLower = lower ↔ text.toList.map Char.toLower = lower.toList := by
  rw [← String.toList_inj]
  change (text.map Char.toLower).toList = _ ↔ _
  rw [String.toList_map]

theorem truthful_file_iff {content : List UInt8} {cut : Option (Nat × Ending)} {reads : List FrameRead}
    (arrives : arriving (Transfer.fileRead content).frames cut = .json :: reads) :
    (Transfer.fileRead content).Truthful cut ↔ ∀ body, readBinaryBody [] reads = some body → body = content := by
  unfold Transfer.Truthful
  rw [arrives]
  constructor
  · intro truthful body received
    refine truthful _ (congrArg (Option.map _) received) ⟨rfl, fun header member announced => ?_⟩
    simp only [List.mem_cons, List.not_mem_nil, or_false] at member
    obtain rfl | rfl := member
    · have other : "content-type".toLower ≠ "content-length" := fun same => absurd (toLower_eq_iff.mp same) (by decide +kernel)
      exact absurd announced other
    · have other : "x-file-size".toLower ≠ "content-length" := fun same => absurd (toLower_eq_iff.mp same) (by decide +kernel)
      exact absurd announced other
  · intro whole response responded _
    obtain ⟨body, received, rfl⟩ := Option.map_eq_some_iff.mp responded
    exact whole body received

theorem truthful_of_no_header (transfer : Transfer) (ending : Ending) : transfer.Truthful (some (0, ending)) := by
  intro response responded
  cases ending <;> cases responded

theorem truthful_proxy_cut_iff (upstream : BodyStream) (headers : List (String × String)) (count : Nat)
    (ending : Ending) :
    (Transfer.proxy upstream headers).Truthful (some (count + 1, ending)) ↔
      (Transfer.proxy upstream headers).ArrivesWhole (some (count + 1, ending)) := by
  have arrives := arriving_tail (bodyChunks (.proxy upstream headers)) count ending
  rw [← frames_eq] at arrives
  rw [truthful_proxy_iff arrives, readBinaryChunksStream_cut]
  cases ending with
  | closed => simp [Transfer.ArrivesWhole, bodyChunks]
  | failed =>
      by_cases all : (okChunks upstream.results).length < count
      · have shorter : (okChunks upstream.results).length ≤ count := by omega
        simp [Transfer.ArrivesWhole, bodyChunks, all, Nat.succ_le_iff, List.take_of_length_le shorter]
      · simp [Transfer.ArrivesWhole, bodyChunks, all, Nat.succ_le_iff]

theorem truthful_file_cut_iff (content : List UInt8) (count : Nat) (ending : Ending) :
    (Transfer.fileRead content).Truthful (some (count + 1, ending)) ↔
      (Transfer.fileRead content).ArrivesWhole (some (count + 1, ending)) := by
  have arrives := arriving_tail (bodyChunks (.fileRead content)) count ending
  rw [← frames_eq] at arrives
  rw [truthful_file_iff arrives, readBinaryBody_cut]
  simp [Transfer.ArrivesWhole, bodyChunks]

theorem responses_truthful_iff (transfer : Transfer) (cut : Option (Nat × Ending)) :
    transfer.Truthful cut ↔ transfer.ArrivesWhole cut := by
  have uncut : arriving transfer.frames none = .json :: ((bodyChunks transfer).map .binary ++ [FrameRead.end_]) :=
    frames_eq transfer
  cases transfer with
  | proxy upstream headers =>
      match cut with
      | none =>
          rw [truthful_proxy_iff uncut, readBinaryChunksStream_binary]
          simp [readBinaryChunksStream, Transfer.ArrivesWhole, bodyChunks]
      | some (0, .closed) =>
          exact iff_of_true (truthful_of_no_header _ _) fun positive => absurd positive (Nat.lt_irrefl 0)
      | some (0, .failed) => exact iff_of_true (truthful_of_no_header _ _) fun enough => absurd enough (Nat.not_succ_le_zero _)
      | some (count + 1, ending) => exact truthful_proxy_cut_iff upstream headers count ending
  | fileRead content =>
      match cut with
      | none =>
          rw [truthful_file_iff uncut, readBinaryBody_binary]
          simp [readBinaryBody, Transfer.ArrivesWhole, bodyChunks, contentChunks_flatten]
      | some (0, ending) =>
          exact iff_of_true (truthful_of_no_header _ _) fun positive => absurd positive (Nat.lt_irrefl 0)
      | some (count + 1, ending) => exact truthful_file_cut_iff content count ending

def brokenUpstream : BodyStream where
  full := [1, 2]
  results := [.ok [1], .error ()]
  whole all := absurd (all (.error ()) (by simp)) (by decide)

/-- The daemon ends a body that broke off like a whole one, and the relay takes a lost stream for the end of a file. -/
theorem truncated_transfers_complete :
    ¬ (Transfer.proxy brokenUpstream [("content-length", "2")]).Truthful none ∧
    ¬ (Transfer.fileRead [1, 2]).Truthful (some (1, .failed)) := by
  constructor
  · intro truthful
    have same := truthful ⟨[], [1], .complete⟩ (by decide +kernel) ⟨rfl, fun _ member => by cases member⟩
    cases same
  · intro truthful
    have arrives : arriving (Transfer.fileRead [1, 2]).frames (some (1, .failed)) = [.json, .failed] := rfl
    rw [truthful_file_iff arrives] at truthful
    cases truthful [] rfl

end MacMgmt.Proof.Tunnel
