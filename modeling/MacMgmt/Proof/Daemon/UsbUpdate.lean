import MacMgmt.Daemon.SelfUpdate
import Mathlib.Data.List.DropRight
import Mathlib.Data.List.GetD
import Mathlib.Data.List.MinMax
import Mathlib.Order.PiLex

/-!
# The newest release

Versions are compared as their components followed by zeros. The release that is found is the newest of those that qualify,
unless a release has no tag.
-/

namespace MacMgmt.Proof.UsbUpdate
open Lib MacMgmt.Daemon.UsbUpdate

variable {current arch : String} {items : List JsonValue} {releases : JsonValue}

/-! ## The order of versions -/

def VersionKey : Type := Lex (ℕ → ℕ)

noncomputable instance : LinearOrder VersionKey := inferInstanceAs (LinearOrder (Lex (ℕ → ℕ)))

def padded (parts : List ℕ) : VersionKey := toLex fun i => parts.getD i 0

theorem padded_lt_iff (first second : List ℕ) :
    padded first < padded second ↔ ∃ i, (∀ j < i, first.getD j 0 = second.getD j 0) ∧ first.getD i 0 < second.getD i 0 :=
  Iff.rfl

def key (v : String) : VersionKey := padded (parts v)

theorem isNewer_iff (current candidate : String) : isNewer current candidate = true ↔ key current < key candidate := by
  rw [key, key, padded_lt_iff]
  unfold isNewer
  generalize parts current = c, parts candidate = n
  cases found : (List.range (max c.length n.length)).find? fun i => n.getD i 0 ≠ c.getD i 0 with
  | none =>
      have same : ∀ i, n.getD i 0 = c.getD i 0 := by
        intro i
        by_cases within : i < max c.length n.length
        · have equal := List.find?_eq_none.mp found i (List.mem_range.mpr within)
          simpa only [ne_eq, decide_not, Bool.not_eq_true', decide_eq_false_iff_not, not_not] using equal
        · have beyond : c.length ≤ i ∧ n.length ≤ i := max_le_iff.mp (not_lt.mp within)
          rw [List.getD_eq_default _ _ beyond.1, List.getD_eq_default _ _ beyond.2]
      simp only [same, lt_irrefl, and_false, exists_false, iff_false]
      split <;> simp
  | some first =>
      obtain ⟨differs, -, before⟩ := List.find?_range_eq_some.mp found
      simp only [ne_eq, decide_not, Bool.not_eq_true', decide_eq_false_iff_not, Bool.not_not, decide_eq_true_eq] at differs before
      simp only [found, gt_iff_lt, decide_eq_true_eq]
      constructor
      · intro newer
        exact ⟨first, fun i below => (before i below).symm, newer⟩
      · rintro ⟨i, same, newer⟩
        rcases lt_trichotomy i first with below | rfl | above
        · exact absurd (before i below).symm newer.ne
        · exact newer
        · exact absurd (same first above).symm differs

theorem not_isNewer_iff (current candidate : String) : isNewer current candidate = false ↔ key candidate ≤ key current := by
  rw [← not_lt, ← isNewer_iff, Bool.not_eq_true]

theorem strictWeakOrder : IsStrictWeakOrder String fun current candidate => isNewer current candidate = true where
  irrefl version := by simp [isNewer_iff]
  trans first second third := by
    simp only [isNewer_iff]
    exact lt_trans
  incomp_trans first second third := by
    simp only [isNewer_iff, not_lt]
    rintro ⟨below, above⟩ ⟨below', above'⟩
    exact ⟨below'.trans below, above.trans above'⟩

example : isNewer "v0.1.5" "0.1.6" = true ∧ isNewer "0.1.6" "0.1.6" = false ∧ isNewer "0.2.0" "0.1.9" = false := by decide

/-! ## One release -/

def published (name : String) (links : List JsonValue) : Option String :=
  (links.filter fun link => linkName link = name).getLast?.bind linkUrl

theorem published_concat (name : String) (links : List JsonValue) (link : JsonValue) :
    published name (links ++ [link]) = if linkName link = name then linkUrl link else published name links := by
  unfold published
  rw [List.filter_append]
  by_cases named : linkName link = name <;> simp [named]

theorem linkedUrls_eq (want : String) (links : List JsonValue) :
    linkedUrls want links = (published want links, published (want ++ ".sha256") links) := by
  have apart : want ≠ want ++ ".sha256" := by
    intro same
    simpa using congrArg String.length same
  induction links using List.reverseRecOn with
  | nil => rfl
  | append_singleton links link ih =>
      rw [published_concat, published_concat, linkedUrls, List.foldl_append, ← linkedUrls, ih]
      by_cases asset : linkName link = want
      · have checksum : linkName link ≠ want ++ ".sha256" := fun same => apart (asset.symm.trans same)
        simp [asset, apart]
      · by_cases checksum : linkName link = want ++ ".sha256" <;> simp [asset, checksum, apart.symm]

/-- The release is newer than the current version and publishes the asset. -/
structure Qualifies (current arch : String) (rel : JsonValue) (asset : ReleaseAsset) : Prop where
  tagged : ∃ tag, tagName rel = some tag ∧ isNewer current tag = true ∧ asset.version = withoutV tag
  linked : ∃ links, releaseLinks rel = some links ∧ published (assetName arch) links = some asset.url ∧
    asset.sha256Url = published (assetName arch ++ ".sha256") links

def offer (current arch : String) (rel : JsonValue) : Option ReleaseAsset :=
  (tagName rel).bind fun tag => candidate current arch tag rel

theorem offer_iff {rel : JsonValue} {asset : ReleaseAsset} :
    offer current arch rel = some asset ↔ Qualifies current arch rel asset := by
  constructor
  · intro offered
    obtain ⟨tag, tagged, found⟩ := Option.bind_eq_some_iff.mp offered
    unfold candidate at found
    split at found
    · next newer =>
        obtain ⟨links, listed, found⟩ := Option.bind_eq_some_iff.mp found
        obtain ⟨url, addressed, found⟩ := Option.bind_eq_some_iff.mp found
        obtain rfl := Option.some.inj found
        rw [linkedUrls_eq] at addressed
        exact ⟨⟨tag, tagged, newer, rfl⟩, links, listed, addressed, by rw [linkedUrls_eq]⟩
    · cases found
  · rintro ⟨⟨tag, tagged, newer, version⟩, links, listed, addressed, checksum⟩
    obtain ⟨version', url, sha256Url⟩ := asset
    obtain rfl : version' = withoutV tag := version
    obtain rfl : sha256Url = _ := checksum
    dsimp only at addressed
    simp [offer, tagged, candidate, newer, listed, linkedUrls_eq, addressed]

/-! ## The search -/

theorem foldl_keepNewer (offers : List ReleaseAsset) :
    offers.foldl keepNewer none = offers.argmax fun asset => key asset.version := by
  rw [List.argmax]
  congr 1
  funext best asset
  cases best with
  | none => rfl
  | some best => simp only [keepNewer, List.argAux, isNewer_iff]

theorem foldlM_consider (best : Option ReleaseAsset) :
    items.foldlM (consider current arch) best =
      if items.all fun rel => (tagName rel).isSome then some ((items.filterMap (offer current arch)).foldl keepNewer best)
      else none := by
  induction items generalizing best with
  | nil => rfl
  | cons rel rest ih =>
      cases tagged : tagName rel with
      | none => simp [consider, tagged]
      | some tag =>
          cases found : candidate current arch tag rel <;> simp [consider, offer, tagged, found, ih]

def entries (releases : JsonValue) : List JsonValue := releases.asArray.getD []

theorem parseBestRelease_eq (releases : JsonValue) (current arch : String) :
    parseBestRelease releases current arch =
      if (entries releases).all fun rel => (tagName rel).isSome then
        ((entries releases).filterMap (offer current arch)).argmax fun asset => key asset.version
      else none := by
  cases listed : releases.asArray with
  | none => simp [parseBestRelease, entries, listed]
  | some items =>
      simp only [parseBestRelease, entries, listed, Option.getD_some, Option.bind_eq_bind, Option.bind_some, foldlM_consider,
        foldl_keepNewer]
      split <;> rfl

theorem parseBestRelease_eq_none_iff :
    parseBestRelease releases current arch = none ↔
      (∃ rel ∈ entries releases, tagName rel = none) ∨ ∀ rel ∈ entries releases, ∀ asset, ¬Qualifies current arch rel asset := by
  rw [parseBestRelease_eq]
  split
  · next tagged =>
      have noneUntagged : ¬∃ rel ∈ entries releases, tagName rel = none := by
        rintro ⟨rel, member, untagged⟩
        simpa [untagged] using List.all_eq_true.mp tagged rel member
      rw [List.argmax_eq_none, List.filterMap_eq_nil_iff, or_iff_right noneUntagged]
      refine forall₂_congr fun rel _ => ?_
      rw [Option.eq_none_iff_forall_ne_some]
      exact forall_congr' fun asset => not_congr offer_iff
  · next untagged =>
      simp only [List.all_eq_true, not_forall, Option.not_isSome_iff_eq_none, exists_prop] at untagged
      exact iff_of_true rfl (.inl untagged)

theorem newest_of_parseBestRelease {asset : ReleaseAsset} (found : parseBestRelease releases current arch = some asset) :
    (∃ rel ∈ entries releases, Qualifies current arch rel asset) ∧
      ∀ rel ∈ entries releases, ∀ other, Qualifies current arch rel other → key other.version ≤ key asset.version := by
  rw [parseBestRelease_eq] at found
  split at found
  · obtain ⟨rel, member, offered⟩ := List.mem_filterMap.mp (List.argmax_mem found)
    refine ⟨⟨rel, member, offer_iff.mp offered⟩, fun rel member other qualifies => ?_⟩
    have offered := List.mem_filterMap.mpr ⟨rel, member, offer_iff.mpr qualifies⟩
    exact List.le_of_mem_argmax (f := fun asset : ReleaseAsset => key asset.version) offered found
  · cases found

/-! ## The newest release and nothing else -/

def SameVersion : Option ReleaseAsset → Option ReleaseAsset → Prop
  | none, none => True
  | some first, some second => isNewer first.version second.version = false ∧ isNewer second.version first.version = false
  | _, _ => False

def Malformed (rel : JsonValue) : Prop := tagName rel = none ∨ releaseLinks rel = none

theorem not_qualifies_of_malformed {rel : JsonValue} (malformed : Malformed rel) (asset : ReleaseAsset) :
    ¬Qualifies current arch rel asset := by
  rintro ⟨⟨tag, tagged, -⟩, links, listed, -⟩
  rcases malformed with untagged | unlisted
  · cases tagged.symm.trans untagged
  · cases listed.symm.trans unlisted

structure FindsNewest (releases : JsonValue) (current arch : String) : Prop where
  newest : ∀ asset, parseBestRelease releases current arch = some asset →
    (∃ rel ∈ entries releases, Qualifies current arch rel asset) ∧
      ∀ rel ∈ entries releases, ∀ other, Qualifies current arch rel other → isNewer asset.version other.version = false
  found : parseBestRelease releases current arch = none → ∀ rel ∈ entries releases, ∀ asset, ¬Qualifies current arch rel asset
  reordered : ∀ items : List JsonValue, items.Perm (entries releases) →
    SameVersion (parseBestRelease (.array items) current arch) (parseBestRelease releases current arch)
  undisturbed : ∀ keep : JsonValue → Bool, (∀ rel ∈ entries releases, keep rel = false → Malformed rel) →
    parseBestRelease (.array ((entries releases).filter keep)) current arch = parseBestRelease releases current arch

def Searchable (releases : JsonValue) (current arch : String) : Prop :=
  (∀ rel ∈ entries releases, (tagName rel).isSome = true) ∨
    ∀ rel ∈ entries releases, ∀ asset, ¬Qualifies current arch rel asset

theorem sameVersion_of_perm (perm : items.Perm (entries releases)) :
    SameVersion (parseBestRelease (.array items) current arch) (parseBestRelease releases current arch) := by
  have same : entries (.array items) = items := rfl
  have members := fun rel => perm.mem_iff (a := rel)
  have noneIff : parseBestRelease (.array items) current arch = none ↔ parseBestRelease releases current arch = none := by
    simp only [parseBestRelease_eq_none_iff, same, members]
  cases first : parseBestRelease (.array items) current arch with
  | none =>
      rw [noneIff.mp first]
      trivial
  | some asset =>
      cases second : parseBestRelease releases current arch with
      | none => cases first.symm.trans (noneIff.mpr second)
      | some other =>
          obtain ⟨⟨rel, member, qualifies⟩, above⟩ := newest_of_parseBestRelease first
          obtain ⟨⟨rel', member', qualifies'⟩, above'⟩ := newest_of_parseBestRelease second
          rw [same] at member above
          exact ⟨(not_isNewer_iff _ _).mpr (above rel' ((members rel').mpr member') other qualifies'),
            (not_isNewer_iff _ _).mpr (above' rel ((members rel).mp member) asset qualifies)⟩

theorem undisturbed (searchable : Searchable releases current arch) (keep : JsonValue → Bool)
    (malformed : ∀ rel ∈ entries releases, keep rel = false → Malformed rel) :
    parseBestRelease (.array ((entries releases).filter keep)) current arch = parseBestRelease releases current arch := by
  have same : entries (.array ((entries releases).filter keep)) = (entries releases).filter keep := rfl
  rcases searchable with tagged | unqualified
  · have offers : ((entries releases).filter keep).filterMap (offer current arch) =
        (entries releases).filterMap (offer current arch) := by
      rw [List.filterMap_filter]
      refine List.filterMap_congr fun rel member => ?_
      cases kept : keep rel with
      | true => rfl
      | false =>
          symm
          refine Option.eq_none_iff_forall_ne_some.mpr fun asset offered => ?_
          exact not_qualifies_of_malformed (malformed rel member kept) asset (offer_iff.mp offered)
    have all : (entries releases).all (fun rel => (tagName rel).isSome) = true := List.all_eq_true.mpr tagged
    have allKept : ((entries releases).filter keep).all (fun rel => (tagName rel).isSome) = true :=
      List.all_eq_true.mpr fun rel member => tagged rel (List.mem_of_mem_filter member)
    rw [parseBestRelease_eq, parseBestRelease_eq, same, offers, all, allKept]
  · rw [parseBestRelease_eq_none_iff.mpr (.inr unqualified)]
    exact parseBestRelease_eq_none_iff.mpr (.inr fun rel member => unqualified rel (List.mem_of_mem_filter member))

theorem finds_newest_iff (releases : JsonValue) (current arch : String) :
    (IsStrictWeakOrder String fun current candidate => isNewer current candidate = true) ∧ FindsNewest releases current arch ↔
      Searchable releases current arch := by
  constructor
  · rintro ⟨-, finds⟩
    by_cases tagged : ∀ rel ∈ entries releases, (tagName rel).isSome = true
    · exact .inl tagged
    · simp only [not_forall, Bool.not_eq_true, Option.isSome_eq_false_iff, Option.isNone_iff_eq_none, exists_prop] at tagged
      exact .inr (finds.found (parseBestRelease_eq_none_iff.mpr (.inl tagged)))
  · intro searchable
    refine ⟨strictWeakOrder, fun asset found => ?_, fun nothing => ?_, fun items perm => sameVersion_of_perm perm,
      undisturbed searchable⟩
    · obtain ⟨qualified, above⟩ := newest_of_parseBestRelease found
      exact ⟨qualified, fun rel member other qualifies => (not_isNewer_iff _ _).mpr (above rel member other qualifies)⟩
    · rcases parseBestRelease_eq_none_iff.mp nothing with ⟨rel, member, untagged⟩ | unqualified
      · rcases searchable with tagged | unqualified
        · simpa [untagged] using tagged rel member
        · exact unqualified
      · exact unqualified

/-- A release with the asset, after an entry without a tag. -/
theorem untagged_hides_release :
    ¬FindsNewest
      (.array [.object [],
        .object [("assets", .object [("links", .array [.object [("name", .string "mac-mgmt-usb-x86_64-linux.tar.gz"),
          ("url", .string "https://x/bin.tar.gz")]])]), ("tag_name", .string "v0.1.7")]])
      "0.1.5" "x86_64-linux" := by
  intro finds
  refine finds.found rfl _ (List.mem_cons_of_mem _ List.mem_cons_self) ⟨"0.1.7", "https://x/bin.tar.gz", none⟩ ?_
  refine ⟨⟨"v0.1.7", rfl, by decide, by decide⟩, _, rfl, by decide, by decide⟩

end MacMgmt.Proof.UsbUpdate
