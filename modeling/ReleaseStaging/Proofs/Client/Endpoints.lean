import ReleaseStaging.Proofs.Url.Segments

/-!
# Endpoints and the base address

A base address names a server of the web and a path that ends with a slash, and nothing after it.
There are two ways below it: fixed paths are joined to it, and segments are put below its path.
Both extend the text of the base address, except that segments take the place of a path that is
nothing but two slashes.
-/

namespace ReleaseStaging

open Url (IsPlainSegment Path withoutRoot writtenSegment)

/-- Only a success leaves a value. -/
theorem toOption_eq_some_iff {ε α : Type} {result : Except ε α} {value : α} :
    result.toOption = some value ↔ result = .ok value := by
  cases result <;> simp [Except.toOption]

namespace Action

variable (action : Action)

/-- The verb of a transition is put into a path as it stands. -/
theorem isPlainSegment_verb : IsPlainSegment action.verb := by
  cases action <;> decide

theorem writtenSegment_verb (isSpecial : Bool) :
    writtenSegment isSpecial action.verb = action.verb := by
  cases action <;> cases isSpecial <;> decide

theorem slash_notMem_verb : '/' ∉ action.verb.toList := by
  cases action <;> decide

end Action

/-- What a base address is made of. -/
structure IsBase (base : Url) : Prop where
  /-- It is an address of the web. -/
  scheme : base.scheme = "http" ∨ base.scheme = "https"
  /-- It names a server. -/
  server : ∃ authority, base.authority = some authority
  /-- Its path ends with a slash. -/
  path : ∃ above, base.path = .rooted (above ++ [""])
  /-- It has no query. -/
  query : base.query = none
  /-- It has no fragment. -/
  fragment : base.fragment = none

/-- Some segment is left when a path was read, if there was one. -/
theorem Url.readSegments_ne_nil {text : List (List Char)} (h : text ≠ [])
    (segments : List String) : readSegments segments text ≠ [] := by
  induction text generalizing segments with
  | nil => exact absurd rfl h
  | cons segment rest ih =>
    cases rest with
    | nil =>
      simp only [readSegments, readSegment, if_true]
      split
      · exact List.concat_ne_nil _ _
      · split <;> exact List.concat_ne_nil _ _
    | cons next rest => exact ih (List.cons_ne_nil _ _) _

/-- The path after a server of the web consists of one or more segments. -/
theorem Url.pathAfterServer_eq {scheme : String} (h : isSpecial scheme = true)
    (text : List Char) :
    ∃ segments, pathAfterServer scheme text = .rooted segments ∧ segments ≠ [] := by
  cases text with
  | nil => exact ⟨_, rfl, by simp [h]⟩
  | cons c rest => exact ⟨_, rfl, readSegments_ne_nil (Text.fields_ne_nil _ _) _⟩

/-- The parts of an address of the web are a server and a path of segments. -/
theorem Url.webParts_eq_ok {scheme : String} {isLast : Bool} {text : List Char}
    {found : Option Authority × Path} (hspecial : isSpecial scheme = true)
    (h : webParts scheme isLast text = .ok found) :
    ∃ authority segments, found = (some authority, .rooted segments) ∧ segments ≠ [] := by
  simp only [webParts, bind, Except.bind, pure, Except.pure] at h
  generalize cutBefore (isSlash true) (text.dropWhile (isSlash true)) = cut at h
  cases hnamed : authority? scheme (isLast && cut.2.isEmpty) cut.1 with
  | error fault => simp [hnamed] at h
  | ok named =>
    simp only [hnamed, Except.ok.injEq] at h
    obtain ⟨segments, hsegments, hne⟩ := pathAfterServer_eq hspecial (named.2 ++ cut.2)
    exact ⟨named.1, segments, by rw [← h, hsegments], hne⟩

/-- An address of the web that was read names a server and has a path of segments. -/
theorem Url.server_of_ofText {text : String} {url : Url} (h : ofText text = .ok url)
    (hscheme : url.scheme = "http" ∨ url.scheme = "https") :
    (∃ authority, url.authority = some authority) ∧
      ∃ segments, url.path = .rooted segments ∧ segments ≠ [] := by
  simp only [ofText, bind, Except.bind, pure, Except.pure] at h
  cases hread : scheme? (withoutOuter text.toList) with
  | none => simp [hread] at h
  | some read =>
    obtain ⟨scheme, rest⟩ := read
    simp only [hread] at h
    generalize cutAt '#' rest = front at h
    generalize cutAt '?' front.1 = path at h
    generalize (path.2.isNone && front.2.isNone) = isLast at h
    cases hparts : parts scheme isLast path.1 with
    | error fault => simp [hparts] at h
    | ok found =>
      simp only [hparts, Except.ok.injEq] at h
      subst h
      have hweb : isSpecial scheme = true ∧
          parts scheme isLast path.1 = webParts scheme isLast (counted path.1) := by
        rcases hscheme with hscheme | hscheme
        · rw [show scheme = "http" from hscheme]
          exact ⟨by decide, rfl⟩
        · rw [show scheme = "https" from hscheme]
          exact ⟨by decide, rfl⟩
      obtain ⟨authority, segments, rfl, hne⟩ := webParts_eq_ok hweb.1 (hweb.2 ▸ hparts)
      exact ⟨⟨authority, rfl⟩, segments, rfl, hne⟩

/-- What is accepted as a base address is one. -/
theorem isBase_of_baseUrl {given : String} {base : Url} (h : baseUrl given = .ok base) :
    IsBase base := by
  simp only [baseUrl] at h
  cases hread : Url.ofText (Text.trimmed given) with
  | error fault =>
    rw [hread] at h
    cases h
  | ok url =>
    simp only [hread] at h
    by_cases hscheme : url.scheme = "http" ∨ url.scheme = "https"
    · obtain ⟨hserver, segments, hpath, -⟩ := Url.server_of_ofText hread hscheme
      rw [if_pos (by simpa using hscheme)] at h
      cases h
      refine ⟨hscheme, hserver, ?_, rfl, rfl⟩
      have hsegments : url.segments?.getD [] = segments := by simp [Url.segments?, hpath]
      rw [hsegments]
      by_cases hlast : segments.getLast? = some ""
      · obtain ⟨above, rfl⟩ := List.getLast?_eq_some_iff.mp hlast
        exact ⟨above, by rw [if_pos hlast]; rfl⟩
      · exact ⟨segments, by rw [if_neg hlast]; rfl⟩
    · rw [if_neg (by simpa using hscheme)] at h
      cases h

namespace IsBase

variable {base : Url}

/-- The text of a base address is that of its server and its path. -/
theorem text_eq (h : IsBase base) :
    base.text = base.scheme ++ ":" ++ base.server ++ base.path.text := by
  simp [Url.text, h.query, h.fragment, Url.marked]

/-- Other segments change nothing but the path. -/
theorem text_withSegments (h : IsBase base) (segments : List String) :
    (base.withSegments segments).text =
      base.scheme ++ ":" ++ base.server ++ (Path.rooted segments).text := by
  obtain ⟨authority, hauthority⟩ := h.server
  simp [Url.text, Url.withSegments, Url.server, hauthority, h.query, h.fragment, Url.marked]

/-- The scheme of a base address is one whose backslashes are slashes. -/
theorem isSpecial (h : IsBase base) : Url.isSpecial base.scheme = true := by
  rcases h.scheme with hscheme | hscheme <;> rw [hscheme] <;> decide

/-- A path that is joined to a base address extends its text. -/
theorem text_join (h : IsBase base) {segments : List String} (hne : segments ≠ []) :
    (base.join segments).text = base.text ++ "/".intercalate segments := by
  obtain ⟨above, hpath⟩ := h.path
  have hjoin : base.join segments = base.withSegments (above ++ segments) := by
    simp [Url.join, Url.withSegments, Url.withoutQuery, Url.segments?, hpath, h.query, h.fragment]
  rw [hjoin, h.text_withSegments, h.text_eq, hpath, Path.text_append, Path.text_append,
    Path.text_rooted hne]
  simp only [String.append_assoc]
  rfl

end IsBase

/-- The text by which segments stand below a base address; a folder ends with a slash. -/
def writtenBelow (segments : List String) (isFolder : Bool) : String :=
  "/".intercalate (segments.map (writtenSegment true) ++ if isFolder then [""] else [])

/-- Without its final slash, a path with more than the root is its other segments. -/
theorem Url.popEmpty_concat (above : List String) :
    popEmpty (above ++ [""]) = if above = [] then [""] else above := by
  cases above with
  | nil => rfl
  | cons first rest =>
    rw [popEmpty, List.getLast?_concat, List.dropLast_concat]
    simp

/-- Plain segments are put below the path of a base address. -/
theorem below_eq_ok {base : Url} (hbase : IsBase base) {above segments : List String}
    (hpath : base.path = .rooted (above ++ [""])) (hne : segments ≠ [])
    (hplain : ∀ segment ∈ segments, IsPlainSegment segment) (isFolder : Bool) :
    below base segments isFolder = .ok (base.withSegments
      (withoutRoot above ++ (segments.map (writtenSegment true) ++
        if isFolder then [""] else []))) := by
  have hfind : segments.find? isUnusable = none := by
    rw [List.find?_eq_none]
    intro segment hsegment
    simp [(hplain segment hsegment).usable]
  have habove : withoutRoot (Url.popEmpty (above ++ [""])) = withoutRoot above := by
    rw [Url.popEmpty_concat]
    by_cases hroot : above = []
    · rw [if_pos hroot, hroot]
      rfl
    · rw [if_neg hroot]
  have hpushed := @Url.foldl_pushSegment true segments hne hplain (Url.popEmpty (above ++ [""]))
  simp only [below, hfind, Url.segments?, hpath, hbase.isSpecial, hpushed, habove]
  cases isFolder with
  | false => simp
  | true => simp [Url.pushSegment_empty, Url.withoutRoot_append_map hne hplain]

/-- Below a base address segments take the place of a path that is nothing but two slashes, and
extend the text of any other one. -/
theorem text_below_eq_iff {base url : Url} (hbase : IsBase base) {segments : List String}
    (hne : segments ≠ []) (hplain : ∀ segment ∈ segments, IsPlainSegment segment)
    {isFolder : Bool} (hbelow : below base segments isFolder = .ok url) :
    url.text = base.text ++ writtenBelow segments isFolder ↔ base.path.text ≠ "//" := by
  obtain ⟨above, hpath⟩ := hbase.path
  have hend : (Path.rooted [""]).text = "/" := by decide
  have hwritten : segments.map (writtenSegment true) ++ (if isFolder then [""] else []) ≠ [] := by
    simp [hne]
  have hbaseText : base.text ++ writtenBelow segments isFolder = base.scheme ++ ":" ++
      base.server ++ (Path.rooted above).text ++ ("/" ++ writtenBelow segments isFolder) := by
    rw [hbase.text_eq, hpath, Path.text_append, hend]
    simp only [String.append_assoc]
  have hurlText : url.text = base.scheme ++ ":" ++ base.server ++
      (Path.rooted (withoutRoot above)).text ++ ("/" ++ writtenBelow segments isFolder) := by
    rw [below_eq_ok hbase hpath hne hplain, Except.ok.injEq] at hbelow
    rw [← hbelow, hbase.text_withSegments, Path.text_append, Path.text_rooted hwritten,
      writtenBelow, ← String.append_assoc]
  have hpaths : base.path.text = "//" ↔ above = [""] := by
    have hslashes : ("//" : String) = "/" ++ "/" := by decide
    rw [hpath, Path.text_append, hend, hslashes, String.append_left_inj,
      Path.text_rooted_eq_slash_iff]
  rw [hurlText, hbaseText, ne_eq, hpaths, String.append_left_inj, String.append_right_inj]
  by_cases hroot : above = [""]
  · rw [hroot]
    decide
  · simp [Url.withoutRoot_of_ne hroot, hroot]

/-- Nothing put below a base address is the base address only if its path is the root. -/
theorem text_below_nil_eq_iff {base url : Url} (hbase : IsBase base)
    (hbelow : below base [] false = .ok url) : url.text = base.text ↔ base.path.text = "/" := by
  obtain ⟨above, hpath⟩ := hbase.path
  have hurl : base.withSegments (Url.popEmpty (above ++ [""])) = url := by
    simpa [below, Url.segments?, hpath] using hbelow
  rw [← hurl, hbase.text_withSegments, hbase.text_eq, String.append_right_inj, Url.popEmpty_concat,
    hpath, Path.text_rooted_eq_slash_iff, Path.text_append]
  by_cases hroot : above = []
  · rw [hroot]
    decide
  · have hend : (Path.rooted [""]).text = "/" := by decide
    rw [if_neg hroot, hend, ← String.toList_inj, String.toList_append]
    simp [hroot]

/-! ## Endpoints of fixed paths -/

/-- An address that is joined to a base address is told from any other one below it by the last
segment, or by the one before it. -/
theorem text_ne_join {base : Url} (hbase : IsBase base) {front above : List String}
    {parent child last : String} (hparent : '/' ∉ parent.toList) (hchild : '/' ∉ child.toList)
    (hlast : '/' ∉ last.toList)
    (h : last ≠ child ∨ ∃ before step, above = before ++ [step] ∧ '/' ∉ step.toList ∧
      step ≠ parent) :
    (base.withSegments (above ++ [last])).text ≠ (base.join (front ++ [parent, child])).text := by
  obtain ⟨rest, hpath⟩ := hbase.path
  have hjoin : base.join (front ++ [parent, child]) =
      base.withSegments (rest ++ front ++ [parent] ++ [child]) := by
    simp [Url.join, Url.withSegments, Url.withoutQuery, Url.segments?, hpath, hbase.query,
      hbase.fragment]
  intro heq
  rw [hjoin, hbase.text_withSegments, hbase.text_withSegments, String.append_right_inj] at heq
  obtain ⟨habove, hfinal⟩ := Path.eq_of_text_concat_eq hlast hchild heq
  rcases h with hne | ⟨before, step, rfl, hstep, hne⟩
  · exact hne hfinal
  · exact hne (Path.eq_of_text_concat_eq hstep hparent habove).2

/-- The status of a server is at a fixed place. -/
theorem text_statusEndpoint {base : Url} (hbase : IsBase base) :
    (statusEndpoint base).text = base.text ++ "service/local/status" :=
  hbase.text_join (List.cons_ne_nil _ _)

/-- So is the list of its repositories. -/
theorem text_listingEndpoint {base : Url} (hbase : IsBase base) :
    (listingEndpoint base).text = base.text ++ "service/local/staging/profile_repositories" :=
  hbase.text_join (List.cons_ne_nil _ _)

/-- The list of the repositories is not at the endpoint of the status. -/
theorem text_listingEndpoint_ne {base : Url} (hbase : IsBase base) :
    (listingEndpoint base).text ≠ (statusEndpoint base).text := by
  rw [text_listingEndpoint hbase, text_statusEndpoint hbase, ne_eq, String.append_right_inj]
  decide

/-- The last of some segments is put below what the others make. -/
theorem below_concat_eq {base url : Url} (hbase : IsBase base) {segments : List String}
    {segment : String} (h : below base (segments ++ [segment]) false = .ok url) :
    ∃ path, url = base.withSegments
      (Url.pushSegment true (segments.foldl (Url.pushSegment true) path) segment) := by
  obtain ⟨rest, hpath⟩ := hbase.path
  simp only [below, Url.segments?, hpath, hbase.isSpecial] at h
  split at h
  · cases h
  · cases h
  · rename_i hsegments
    cases hsegments
    simp only [Except.ok.injEq, List.foldl_append, List.foldl_cons, List.foldl_nil,
      Bool.false_eq_true, if_false] at h
    exact ⟨_, h.symm⟩

/-- Whatever the identifier of a stage is, its repository is not at the end of a fixed path. -/
theorem text_repositoryEndpoint_ne_join {base url : Url} (hbase : IsBase base) {stage : Stage}
    (h : repositoryEndpoint base stage none = .ok url) {front : List String}
    {parent child : String} (hparent : '/' ∉ parent.toList) (hchild : '/' ∉ child.toList)
    (hnot : parent ≠ "repository") (hnone : child ≠ "") :
    url.text ≠ (base.join (front ++ [parent, child])).text := by
  have hbelow : below base (["service", "local", "staging", "repository"] ++ [stage.stageId])
      false = .ok url := h
  obtain ⟨path, rfl⟩ := below_concat_eq hbase hbelow
  have hplain : ∀ segment ∈ ["service", "local", "staging", "repository"],
      IsPlainSegment segment := by decide
  have hpushed : ["service", "local", "staging", "repository"].foldl (Url.pushSegment true) path =
      withoutRoot path ++ ["service", "local", "staging"] ++ ["repository"] := by
    rw [Url.foldl_pushSegment (List.cons_ne_nil _ _) hplain]
    simp only [List.append_assoc]
    rfl
  have hroot : withoutRoot path ++ ["service", "local", "staging"] ++ ["repository"] ≠ [""] := by
    intro hroot
    simpa using congrArg List.length hroot
  rw [hpushed]
  obtain ⟨front, hdot⟩ | ⟨last, hwritten, hslash⟩ :=
    Url.pushSegment_eq_concat hroot stage.stageId
  · rw [hdot]
    exact text_ne_join hbase hparent hchild (by decide) (.inl hnone.symm)
  · rw [hwritten]
    exact text_ne_join hbase hparent hchild hslash (.inr ⟨_, _, rfl, by decide, hnot.symm⟩)

/-- Whatever the identifier of a stage is, its repository is neither the status nor the listing. -/
theorem text_repositoryEndpoint_ne {base url : Url} (hbase : IsBase base) {stage : Stage}
    (h : repositoryEndpoint base stage none = .ok url) :
    url.text ≠ (statusEndpoint base).text ∧ url.text ≠ (listingEndpoint base).text := by
  have hstatus : statusEndpoint base = base.join (["service"] ++ ["local", "status"]) := rfl
  have hlisting : listingEndpoint base =
      base.join (["service", "local"] ++ ["staging", "profile_repositories"]) := rfl
  rw [hstatus, hlisting]
  exact ⟨text_repositoryEndpoint_ne_join hbase h (by decide) (by decide) (by decide) (by decide),
    text_repositoryEndpoint_ne_join hbase h (by decide) (by decide) (by decide) (by decide)⟩

/-- Whatever the identifier of a stage is, its activity log is neither the status nor the
listing. -/
theorem text_activityEndpoint_ne {base url : Url} (hbase : IsBase base) {stage : Stage}
    (h : repositoryEndpoint base stage (some "activity") = .ok url) :
    url.text ≠ (statusEndpoint base).text ∧ url.text ≠ (listingEndpoint base).text := by
  have hbelow : below base
      (["service", "local", "staging", "repository", stage.stageId] ++ ["activity"])
      false = .ok url := h
  have hstatus : statusEndpoint base = base.join (["service"] ++ ["local", "status"]) := rfl
  have hlisting : listingEndpoint base =
      base.join (["service", "local"] ++ ["staging", "profile_repositories"]) := rfl
  obtain ⟨path, rfl⟩ := below_concat_eq hbase hbelow
  rw [Url.pushSegment_of_isPlain (by decide), hstatus, hlisting]
  exact ⟨text_ne_join hbase (by decide) (by decide) (by decide) (.inl (by decide)),
    text_ne_join hbase (by decide) (by decide) (by decide) (.inl (by decide))⟩

/-- Every accepted base address is an address of the web without query and fragment that ends with
a slash. The endpoints of fixed paths extend its text, and so do plain segments that are put below
it, unless its path is nothing but two slashes. -/
theorem endpoints_extend_base_iff {given : String} {base : Url} (h : baseUrl given = .ok base) :
    (base.scheme = "http" ∨ base.scheme = "https") ∧ base.query = none ∧ base.fragment = none ∧
      (∃ front, base.text = front ++ "/") ∧
      (statusEndpoint base).text = base.text ++ "service/local/status" ∧
      (listingEndpoint base).text = base.text ++ "service/local/staging/profile_repositories" ∧
      (∀ segments, segments ≠ [] → (∀ segment ∈ segments, IsPlainSegment segment) →
        ∀ isFolder, ∃ url, below base segments isFolder = .ok url ∧
          (url.text = base.text ++ writtenBelow segments isFolder ↔ base.path.text ≠ "//")) ∧
      ∃ url, below base [] false = .ok url ∧ (url.text = base.text ↔ base.path.text = "/") := by
  have hbase := isBase_of_baseUrl h
  obtain ⟨above, hpath⟩ := hbase.path
  refine ⟨hbase.scheme, hbase.query, hbase.fragment, ?_, text_statusEndpoint hbase,
    text_listingEndpoint hbase, ?_, ?_⟩
  · refine ⟨base.scheme ++ ":" ++ base.server ++ (Path.rooted above).text, ?_⟩
    rw [hbase.text_eq, hpath, Path.text_append, ← String.append_assoc]
    rfl
  · intro segments hne hplain isFolder
    have hbelow := below_eq_ok hbase hpath hne hplain isFolder
    exact ⟨_, hbelow, text_below_eq_iff hbase hne hplain hbelow⟩
  · have hbelow : below base [] false = .ok (base.withSegments (Url.popEmpty (above ++ [""]))) := by
      simp [below, Url.segments?, hpath]
    exact ⟨_, hbelow, text_below_nil_eq_iff hbase hbelow⟩

/-- A base address with a server of its own, whose path is cleaned, keeps everything below it. -/
theorem endpoints_extend_base_iff_cleaned :
    baseUrl " HTTP://u:p@h:80/a/..//b?q#f" = .ok
        ⟨"http", some ⟨"u", "p", "h", none⟩, false, .rooted ["", "b", ""], none, none⟩ ∧
      (∀ segment ∈ ["..a", "b/c"], IsPlainSegment segment) ∧
      ∃ url, below ⟨"http", some ⟨"u", "p", "h", none⟩, false, .rooted ["", "b", ""], none, none⟩
          ["..a", "b/c"] true = .ok url ∧
        (url.text = "http://u:p@h//b/" ++ "..a/b%2Fc/" ↔ "//b/" ≠ "//") := by
  have hbase : baseUrl " HTTP://u:p@h:80/a/..//b?q#f" = .ok
      ⟨"http", some ⟨"u", "p", "h", none⟩, false, .rooted ["", "b", ""], none, none⟩ := by
    exact toOption_eq_some_iff.mp (by decide +kernel)
  have hplain : ∀ segment ∈ ["..a", "b/c"], IsPlainSegment segment := by decide
  have hall := (endpoints_extend_base_iff hbase).2.2.2.2.2.2.1
  exact ⟨hbase, hplain, hall ["..a", "b/c"] (List.cons_ne_nil _ _) hplain true⟩

/-- Below a base address whose path is two slashes, the fixed endpoints keep both of them and the
endpoints of transitions one. -/
theorem endpoints_disagree_below_two_slashes :
    ∃ base close, baseUrl "http://h//" = .ok base ∧ base.text = "http://h//" ∧
      (statusEndpoint base).text = "http://h//service/local/status" ∧
      Action.close.endpoint base ⟨"p", "s"⟩ = .ok close ∧
      close.text = "http://h/service/local/staging/profiles/p/finish" ∧
      close.text ≠ base.text ++ writtenBelow (Action.close.segments ⟨"p", "s"⟩) false := by
  refine ⟨⟨"http", some ⟨"", "", "h", none⟩, false, .rooted ["", ""], none, none⟩,
    ⟨"http", some ⟨"", "", "h", none⟩, false,
      .rooted ["service", "local", "staging", "profiles", "p", "finish"], none, none⟩,
    toOption_eq_some_iff.mp (by decide +kernel), by decide, by decide,
    toOption_eq_some_iff.mp (by decide), by decide, by decide⟩

end ReleaseStaging
