import Mathlib.Data.List.Forall2
import Mathlib.Data.List.Infix
import ReleaseStaging.Proofs.Client.Endpoints
import ReleaseStaging.Proofs.Url.Percent

/-!
# Paths of requests

Identifiers become segments of the paths of requests. Below an address of the web exactly the empty
segment and the two dot segments are refused. Main statement: what is accepted stands in the path,
one segment for each text and in order, exactly if no text holds a tab or a line end. These are
dropped after the check, so that a text with them can name another thing, nothing, or what is above
the base.
-/

namespace ReleaseStaging

open Url (IsPlainSegment decode decodedText? encode inSegment isDoubleDot isDropped isSingleDot
  popEmpty pushSegment withoutRoot writtenSegment)

/-- An address of the web, with the segments of its path. -/
structure IsWeb (base : Url) (above : List String) : Prop where
  /-- Its scheme is one of the two of the web. -/
  scheme : base.scheme = "http" ∨ base.scheme = "https"
  /-- Its path consists of the segments. -/
  path : base.path = .rooted above
  /-- There is one at least. -/
  nonempty : above ≠ []

/-- Every address of the web that is read is one. -/
theorem isWeb_of_ofText {text : String} {base : Url} (h : Url.ofText text = .ok base)
    (hscheme : base.scheme = "http" ∨ base.scheme = "https") : ∃ above, IsWeb base above := by
  obtain ⟨-, above, hpath, hne⟩ := Url.server_of_ofText h hscheme
  exact ⟨above, hscheme, hpath, hne⟩

/-- So is every base address, and its path ends with a slash. -/
theorem IsBase.isWeb {base : Url} (h : IsBase base) : ∃ above, IsWeb base (above ++ [""]) := by
  obtain ⟨above, hpath⟩ := h.path
  exact ⟨above, h.scheme, hpath, List.concat_ne_nil _ _⟩

/-- A segment of a path that holds a text and nothing else. -/
structure StandsFor (written segment : String) : Prop where
  /-- It is not empty. -/
  nonempty : written ≠ ""
  /-- It does not stand for the segment before it. -/
  notDot : isSingleDot written.toList = false
  /-- It does not take back the segment before it. -/
  notDots : isDoubleDot written.toList = false
  /-- It ends neither the segment nor the path. -/
  single : ∀ c ∈ ['/', '\\', '?', '#'], c ∉ written.toList
  /-- Its bytes are those of the text. -/
  decoded : decodedText? written = some segment

/-- The segments of a path without an empty one at its end. -/
def opened (segments : List String) : List String :=
  if segments.getLast? = some "" then segments.dropLast else segments

/-- The segments of a path of the web; without any it is the root. -/
def rootIfEmpty (segments : List String) : List String :=
  if segments = [] then [""] else segments

/-- An address that differs from a base by its path only, which goes on with one segment for each
text and, for a folder, an empty one. -/
def Extends (base : Url) (above segments : List String) (isFolder : Bool) (url : Url) : Prop :=
  ∃ written, List.Forall₂ StandsFor written segments ∧
    url = base.withSegments
      (rootIfEmpty (opened above ++ written ++ if isFolder then [""] else []))

/-! ## What is written -/

/-- A plain segment is written as a segment that holds it. -/
theorem standsFor_writtenSegment {segment : String} (h : IsPlainSegment segment) :
    StandsFor (writtenSegment true segment) segment := by
  have hdecoded : decodedText? (writtenSegment true segment) = some segment := by
    rw [writtenSegment, Url.decodedText?_encode (by decide), String.ofList_toList]
  have husable := h.usable
  simp only [isUnusable, Bool.or_eq_false_iff, decide_eq_false_iff_not] at husable
  refine ⟨Url.writtenSegment_ne_empty h, ?_, ?_, ?_, hdecoded⟩
  · refine Bool.eq_false_iff.mpr fun hdot => husable.1.2 ?_
    rw [Url.decodedText?_of_decode (Url.decode_of_isSingleDot hdot)] at hdecoded
    exact (Option.some.inj hdecoded).symm
  · refine Bool.eq_false_iff.mpr fun hdots => husable.2 ?_
    rw [Url.decodedText?_of_decode (Url.decode_of_isDoubleDot hdots)] at hdecoded
    exact (Option.some.inj hdecoded).symm
  · intro c hc
    rw [writtenSegment, String.toList_ofList]
    have hmarks : ∀ c ∈ ['/', '\\', '?', '#'], inSegment true c = true ∧ c ≠ '%' ∧
        ∀ n < 16, Text.upperHexDigit n ≠ c := by decide
    obtain ⟨hreserved, hmark, hdigit⟩ := hmarks c hc
    exact Url.notMem_encode hreserved hmark hdigit _

/-- A text that was put into a path; what is dropped of it is not seen any more. -/
def IsPut (written : String) : Prop :=
  ∃ chars, (∀ c ∈ chars, isDropped c = false) ∧
    written = String.ofList (encode (inSegment true) chars)

/-- The empty segment may have been put into a path. -/
theorem isPut_empty : IsPut "" :=
  ⟨[], by simp, rfl⟩

/-- What was put into a path holds no text with a character that is dropped. -/
theorem IsPut.not_dropped {written segment : String} (h : IsPut written)
    (hstands : StandsFor written segment) : ∀ c ∈ segment.toList, isDropped c = false := by
  obtain ⟨chars, hchars, rfl⟩ := h
  have hdecoded := hstands.decoded
  rw [Url.decodedText?_encode (by decide), Option.some.injEq] at hdecoded
  rw [← hdecoded, String.toList_ofList]
  exact hchars

/-- Whatever is put below a path, the path keeps a part of its front and gets one segment. -/
theorem pushSegment_eq_append (path : List String) (segment : String) :
    ∃ front written, pushSegment true path segment = front ++ [written] ∧ front <+: path ∧
      IsPut written := by
  have hroot : withoutRoot path <+: path := by
    rw [withoutRoot]
    split
    · exact List.nil_prefix
    · exact List.prefix_refl _
  have hparent (segments : List String) : Url.parent segments <+: segments := by
    rw [Url.parent]
    split
    · exact List.nil_prefix
    · split
      · exact List.prefix_refl _
      · exact List.dropLast_prefix _
  simp only [pushSegment]
  rw [← withoutRoot]
  split
  · exact ⟨_, _, rfl, (hparent _).trans hroot, isPut_empty⟩
  · split
    · exact ⟨_, _, rfl, hroot, isPut_empty⟩
    · exact ⟨_, _, rfl, hroot, _, by simp, rfl⟩

/-- Behind the segments of a base there is only what was put there: one segment does not change
that. -/
theorem isPut_pushSegment {count : Nat} {path : List String}
    (h : ∀ written ∈ path.drop count, IsPut written) (segment : String) :
    ∀ written ∈ (pushSegment true path segment).drop count, IsPut written := by
  obtain ⟨front, last, hpush, hfront, hlast⟩ := pushSegment_eq_append path segment
  intro written hwritten
  rw [hpush, List.drop_append, List.mem_append] at hwritten
  rcases hwritten with hwritten | hwritten
  · exact h written ((hfront.drop count).subset hwritten)
  · rw [List.mem_singleton.mp (List.mem_of_mem_drop hwritten)]
    exact hlast

/-- Nor do several. -/
theorem isPut_foldl {count : Nat} (segments : List String) {path : List String}
    (h : ∀ written ∈ path.drop count, IsPut written) :
    ∀ written ∈ (segments.foldl (pushSegment true) path).drop count, IsPut written := by
  induction segments generalizing path with
  | nil => exact h
  | cons segment rest ih => exact ih (isPut_pushSegment h segment)

/-! ## Below an address of the web -/

/-- Without its final slash, a path of the web still has the root. -/
theorem popEmpty_eq {above : List String} (hne : above ≠ []) :
    popEmpty above = rootIfEmpty (opened above) := by
  by_cases hlast : above.getLast? = some ""
  · obtain ⟨front, rfl⟩ := List.getLast?_eq_some_iff.mp hlast
    rw [Url.popEmpty_concat, opened, if_pos hlast, List.dropLast_concat, rootIfEmpty]
  · rw [popEmpty, opened, if_neg (by simp [hlast]), if_neg hlast, rootIfEmpty, if_neg hne]

/-- Others are put below the segments without an empty one at the end. -/
theorem withoutRoot_popEmpty {above : List String} (hne : above ≠ [])
    (hfull : "" ∉ above.dropLast) : withoutRoot (popEmpty above) = opened above := by
  have hopened : opened above ≠ [""] := by
    rw [opened]
    split
    · rintro heq
      simp [heq] at hfull
    · rename_i hlast
      rintro rfl
      exact hlast rfl
  rw [popEmpty_eq hne, rootIfEmpty]
  split
  · rename_i hnil
    rw [hnil]
    rfl
  · exact Url.withoutRoot_of_ne hopened

namespace IsWeb

variable {base : Url} {above : List String}

/-- The address that usable segments make. -/
theorem below_eq (h : IsWeb base above) {segments : List String}
    (husable : ∀ segment ∈ segments, isUnusable segment = false) (isFolder : Bool) :
    below base segments isFolder = .ok (base.withSegments
      ((segments ++ if isFolder then [""] else []).foldl (pushSegment true) (popEmpty above))) := by
  have hspecial : Url.isSpecial base.scheme = true := by
    rcases h.scheme with hscheme | hscheme <;> rw [hscheme] <;> decide
  have hfind : segments.find? isUnusable = none := by
    rw [List.find?_eq_none]
    intro segment hsegment
    simp [husable segment hsegment]
  simp only [below, hfind, Url.segments?, h.path, hspecial]
  cases isFolder <;> simp

/-- Only unusable segments are refused. -/
theorem below_eq_error_iff (h : IsWeb base above) (segments : List String) (isFolder : Bool) :
    (∃ segment, below base segments isFolder = .error (.invalidSegment segment)) ↔
      ∃ segment ∈ segments, isUnusable segment = true := by
  constructor
  · rintro ⟨segment, herror⟩
    by_contra hnone
    rw [h.below_eq (by simpa using hnone)] at herror
    cases herror
  · rintro ⟨segment, hsegment, hunusable⟩
    obtain ⟨found, hfound⟩ := Option.isSome_iff_exists.mp
      (List.find?_isSome.mpr ⟨segment, hsegment, hunusable⟩)
    exact ⟨found, by simp only [below, hfound]⟩

/-- Plain segments extend the path. -/
theorem extends_of_plain (h : IsWeb base above) (hfull : "" ∉ above.dropLast)
    {segments : List String} (hplain : ∀ segment ∈ segments, IsPlainSegment segment)
    (isFolder : Bool) :
    Extends base above segments isFolder (base.withSegments
      ((segments ++ if isFolder then [""] else []).foldl (pushSegment true) (popEmpty above))) := by
  refine ⟨segments.map (writtenSegment true), ?_, congrArg base.withSegments ?_⟩
  · rw [List.forall₂_map_left_iff, List.forall₂_same]
    exact fun segment hsegment => standsFor_writtenSegment (hplain segment hsegment)
  · have habove := withoutRoot_popEmpty h.nonempty hfull
    rw [List.foldl_append]
    by_cases hnil : segments = []
    · subst hnil
      cases isFolder with
      | false => simpa using popEmpty_eq h.nonempty
      | true => simp [Url.pushSegment_empty, habove, rootIfEmpty]
    · have hne : opened above ++ segments.map (writtenSegment true) ++
          (if isFolder then [""] else []) ≠ [] := by simp [hnil]
      rw [Url.foldl_pushSegment hnil hplain, habove, rootIfEmpty, if_neg hne]
      cases isFolder with
      | false => simp
      | true => simp [Url.pushSegment_empty, Url.withoutRoot_append_map hnil hplain]

/-- A path that is extended has only segments without a character that is dropped. -/
theorem not_dropped_of_extends (hweb : IsWeb base above) {segments pushed : List String}
    {isFolder : Bool} (h : Extends base above segments isFolder
      (base.withSegments (pushed.foldl (pushSegment true) (popEmpty above)))) :
    ∀ segment ∈ segments, ∀ c ∈ segment.toList, isDropped c = false := by
  obtain ⟨written, hstands, hurl⟩ := h
  have hpath : pushed.foldl (pushSegment true) (popEmpty above) =
      rootIfEmpty (opened above ++ written ++ if isFolder then [""] else []) := by
    have hrooted := congrArg Url.path hurl
    exact Url.Path.rooted.inj hrooted
  have hput : ∀ text ∈ written, IsPut text := by
    have hstart : ∀ text ∈ (popEmpty above).drop (opened above).length, IsPut text := by
      rw [popEmpty_eq hweb.nonempty, rootIfEmpty]
      split
      · rename_i hnil
        simpa [hnil] using isPut_empty
      · simp
    have hend := isPut_foldl pushed hstart
    intro text htext
    have hne : opened above ++ written ++ (if isFolder then [""] else []) ≠ [] := by
      simp [List.ne_nil_of_mem htext]
    rw [hpath, rootIfEmpty, if_neg hne, List.append_assoc, List.drop_left] at hend
    exact hend text (List.mem_append_left _ htext)
  have hboth := (List.forall₂_and_left _ _).mpr ⟨hput, hstands⟩
  have hcounted : List.Forall₂ (fun segment written =>
      (∀ c ∈ segment.toList, isDropped c = false) ∧ StandsFor written segment) segments written :=
    hboth.flip.imp fun _ _ h => ⟨h.1.not_dropped h.2, h.2⟩
  exact ((List.forall₂_and_left _ _).mp hcounted).1

end IsWeb

/-- Below an address of the web whose path has no empty segment but perhaps the last one, exactly
the empty segment and the dot segments are refused; any other segments extend the path, one for
each text and in order, exactly if no tab and no line end is in them. -/
theorem below_extends_iff {base : Url} {above : List String} (hbase : IsWeb base above)
    (hfull : "" ∉ above.dropLast) (segments : List String) (isFolder : Bool) :
    ((∃ segment, below base segments isFolder = .error (.invalidSegment segment)) ↔
        "" ∈ segments ∨ "." ∈ segments ∨ ".." ∈ segments) ∧
      ("" ∉ segments ∧ "." ∉ segments ∧ ".." ∉ segments →
        ∃ url, below base segments isFolder = .ok url ∧
          (Extends base above segments isFolder url ↔
            ∀ segment ∈ segments, ∀ c ∈ ['\t', '\n', '\r'], c ∉ segment.toList)) := by
  have hunusable : (∃ segment ∈ segments, isUnusable segment = true) ↔
      "" ∈ segments ∨ "." ∈ segments ∨ ".." ∈ segments := by
    simp [isUnusable, exists_or, and_or_left, or_assoc]
  have hcounted (segment : String) : (∀ c ∈ segment.toList, isDropped c = false) ↔
      ∀ c ∈ ['\t', '\n', '\r'], c ∉ segment.toList := by
    have hdropped (c : Char) : isDropped c = true ↔ c ∈ ['\t', '\n', '\r'] := by
      simp [isDropped, or_assoc]
    constructor
    · intro h c hc hmem
      rw [← hdropped, h c hmem] at hc
      cases hc
    · exact fun h c hmem => Bool.eq_false_iff.mpr fun hc => h c ((hdropped c).mp hc) hmem
  refine ⟨(hbase.below_eq_error_iff segments isFolder).trans hunusable, fun hnone => ?_⟩
  have husable : ∀ segment ∈ segments, isUnusable segment = false := by
    intro segment hsegment
    refine Bool.eq_false_iff.mpr fun hbad => ?_
    have hsome := hunusable.mp ⟨segment, hsegment, hbad⟩
    tauto
  refine ⟨_, hbase.below_eq husable isFolder, fun h => ?_, fun h => ?_⟩
  · exact fun segment hsegment =>
      (hcounted segment).mp (hbase.not_dropped_of_extends h segment hsegment)
  · exact hbase.extends_of_plain hfull (fun segment hsegment =>
      ⟨husable segment hsegment, (hcounted segment).mpr (h segment hsegment)⟩) isFolder

/-- Texts that look like encoded dots or hold a slash stand in the path, and the query stays. -/
theorem below_extends_iff_encoded :
    ∃ base url, Url.ofText "https://nexus.test/a/../nexus/?q" = .ok base ∧
      IsWeb base ["nexus", ""] ∧ "" ∉ ["nexus", ""].dropLast ∧
      below base ["%2e%2e", "b/é"] true = .ok url ∧
      Extends base ["nexus", ""] ["%2e%2e", "b/é"] true url ∧
      url.text = "https://nexus.test/nexus/%252e%252e/b%2F%C3%A9/?q" := by
  have hread : Url.ofText "https://nexus.test/a/../nexus/?q" = .ok
      ⟨"https", some ⟨"", "", "nexus.test", none⟩, false, .rooted ["nexus", ""], some "q", none⟩ :=
    toOption_eq_some_iff.mp (by decide +kernel)
  have hweb : IsWeb ⟨"https", some ⟨"", "", "nexus.test", none⟩, false, .rooted ["nexus", ""],
      some "q", none⟩ ["nexus", ""] := ⟨.inr rfl, rfl, by decide⟩
  obtain ⟨url, hurl, hextends⟩ :=
    (below_extends_iff hweb (by decide) ["%2e%2e", "b/é"] true).2 (by decide)
  refine ⟨_, url, hread, hweb, by decide, hurl, hextends.mpr (by decide), ?_⟩
  rw [hweb.below_eq (by decide), Except.ok.injEq] at hurl
  rw [← hurl]
  decide +kernel

/-- A profile that is two dots behind a tab takes back a segment of the endpoint and leaves an empty
one. -/
theorem endpoint_climbs_behind_tab :
    ∃ base url, Url.ofText "https://nexus.example.com/nexus/" = .ok base ∧
      IsWeb base ["nexus", ""] ∧ "" ∉ ["nexus", ""].dropLast ∧
      Action.close.endpoint base ⟨"\t..", "test-001"⟩ = .ok url ∧
      url.text = "https://nexus.example.com/nexus/service/local/staging//finish" ∧
      ¬ Extends base ["nexus", ""] (Action.close.segments ⟨"\t..", "test-001"⟩) false url := by
  refine ⟨⟨"https", some ⟨"", "", "nexus.example.com", none⟩, false, .rooted ["nexus", ""], none,
      none⟩,
    ⟨"https", some ⟨"", "", "nexus.example.com", none⟩, false,
      .rooted ["nexus", "service", "local", "staging", "", "finish"], none, none⟩,
    toOption_eq_some_iff.mp (by decide +kernel), ⟨.inr rfl, rfl, by decide⟩, by decide,
    toOption_eq_some_iff.mp (by decide), by decide, ?_⟩
  rintro ⟨written, hstands, hurl⟩
  have hpath := congrArg Url.path hurl
  have hsix : written.length = 6 := hstands.length_eq
  rw [Url.withSegments, Url.Path.rooted.injEq, rootIfEmpty, if_neg (by simp [opened])] at hpath
  have hlength := congrArg List.length hpath
  simp [opened, hsix] at hlength

end ReleaseStaging
