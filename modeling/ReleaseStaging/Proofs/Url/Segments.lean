import ReleaseStaging.Endpoint

/-!
# Segments below a path

A segment that is not empty, no dot segment and without characters that are dropped is put below a
path as it stands, in its encoded form. Main statement: several such segments are put one after
another below the path; only the root, a lone empty segment, gives way to them.
-/

namespace ReleaseStaging.Url

/-- A segment that is put below a path as it stands. -/
structure IsPlainSegment (segment : String) : Prop where
  /-- It is neither empty nor a dot segment. -/
  usable : isUnusable segment = false
  /-- All its characters count. -/
  counted : ∀ c ∈ segment.toList, isDropped c = false

instance (segment : String) : Decidable (IsPlainSegment segment) :=
  decidable_of_iff
    (isUnusable segment = false ∧ segment.toList.all (fun c => !isDropped c) = true)
    ⟨fun h => ⟨h.1, by simpa using h.2⟩, fun h => ⟨h.usable, by simpa using h.counted⟩⟩

/-- A segment as it stands below a path. -/
def writtenSegment (isSpecial : Bool) (segment : String) : String :=
  String.ofList (encode (inSegment isSpecial) segment.toList)

/-- The segments of a path that stay when others are put below it. -/
def withoutRoot (segments : List String) : List String :=
  if segments = [""] then [] else segments

theorem withoutRoot_of_ne {segments : List String} (h : segments ≠ [""]) :
    withoutRoot segments = segments := if_neg h

/-- No character is encoded as nothing. -/
theorem encodeChar_ne_nil (reserved : Char → Bool) (c : Char) : encodeChar reserved c ≠ [] := by
  by_cases h : (c.toNat < 128 && !reserved c) = true
  · simp [encodeChar, h]
  · have hutf : String.utf8EncodeChar c ≠ [] := by
      have := c.utf8Size_pos
      rw [← List.length_pos_iff, String.length_utf8EncodeChar]
      exact this
    obtain ⟨byte, bytes, hbytes⟩ := List.exists_cons_of_ne_nil hutf
    simp [encodeChar, h, hbytes, percentByte]

/-- A reserved character is left in an encoded text only if encoding itself uses it. -/
theorem notMem_encode {reserved : Char → Bool} {c : Char} (hreserved : reserved c = true)
    (hmark : c ≠ '%') (hdigit : ∀ n < 16, Text.upperHexDigit n ≠ c) (text : List Char) :
    c ∉ encode reserved text := by
  have hbyte (byte : UInt8) : c ∉ percentByte byte := by
    have hhigh := hdigit (byte.toNat / 16) (by have := byte.toNat_lt; omega)
    have hlow := hdigit (byte.toNat % 16) (Nat.mod_lt _ (by omega))
    simp [percentByte, hmark, hhigh.symm, hlow.symm]
  intro hmem
  rw [encode, List.mem_flatMap] at hmem
  obtain ⟨d, -, hmem⟩ := hmem
  rw [encodeChar] at hmem
  split at hmem
  · rename_i hkept
    rw [← List.mem_singleton.mp hmem, hreserved] at hkept
    simp at hkept
  · obtain ⟨byte, -, hmem⟩ := List.mem_flatMap.mp hmem
    exact hbyte byte hmem

/-- No slash is left in an encoded segment. -/
theorem slash_notMem_encode (isSpecial : Bool) (text : List Char) :
    '/' ∉ encode (inSegment isSpecial) text :=
  notMem_encode (by simp [inSegment]) (by decide) (by decide) text

/-- A segment with a character is not written as nothing. -/
theorem writtenSegment_ne_empty {isSpecial : Bool} {segment : String}
    (h : IsPlainSegment segment) : writtenSegment isSpecial segment ≠ "" := by
  have hne : segment.toList ≠ [] := by
    intro hnil
    have hempty : segment = "" := by simpa using hnil
    have husable := h.usable
    rw [hempty] at husable
    exact absurd husable (by decide)
  obtain ⟨c, rest, hchars⟩ := List.exists_cons_of_ne_nil hne
  intro hwritten
  have hlist : encode (inSegment isSpecial) segment.toList = [] := by
    simpa [writtenSegment] using hwritten
  rw [hchars, encode, List.flatMap_cons] at hlist
  exact encodeChar_ne_nil _ c (List.append_eq_nil_iff.mp hlist).1

/-- A plain segment is put below a path in its encoded form. -/
theorem pushSegment_of_isPlain {isSpecial : Bool} {segment : String} (h : IsPlainSegment segment)
    (segments : List String) :
    pushSegment isSpecial segments segment =
      withoutRoot segments ++ [writtenSegment isSpecial segment] := by
  have hcounted : segment.toList.filter (fun c => !isDropped c) = segment.toList := by
    rw [List.filter_eq_self]
    intro c hc
    simp [h.counted c hc]
  have husable := h.usable
  simp only [isUnusable, Bool.or_eq_false_iff, decide_eq_false_iff_not] at husable
  have hdots : segment.toList ≠ ['.', '.'] := fun hlist =>
    husable.2 (String.toList_inj.mp (hlist.trans (by decide)))
  have hdot : segment.toList ≠ ['.'] := fun hlist =>
    husable.1.2 (String.toList_inj.mp (hlist.trans (by decide)))
  simp only [pushSegment, hcounted, if_neg hdots, if_neg hdot]
  rfl

/-- The empty segment ends a path with a slash. -/
theorem pushSegment_empty (isSpecial : Bool) (segments : List String) :
    pushSegment isSpecial segments "" = withoutRoot segments ++ [""] := by
  rfl

/-- Below what does not end in the root, there is no root. -/
theorem withoutRoot_append_writtenSegment {isSpecial : Bool} {segment : String}
    (h : IsPlainSegment segment) (above : List String) :
    withoutRoot (above ++ [writtenSegment isSpecial segment]) =
      above ++ [writtenSegment isSpecial segment] := by
  apply withoutRoot_of_ne
  intro hroot
  have hlast := congrArg List.getLast? hroot
  rw [List.getLast?_concat, List.getLast?_singleton] at hlast
  exact writtenSegment_ne_empty h (Option.some.inj hlast)

/-- Plain segments are put one after another below a path. -/
theorem foldl_pushSegment {isSpecial : Bool} {pushed : List String} (hne : pushed ≠ [])
    (h : ∀ segment ∈ pushed, IsPlainSegment segment) (segments : List String) :
    pushed.foldl (pushSegment isSpecial) segments =
      withoutRoot segments ++ pushed.map (writtenSegment isSpecial) := by
  induction pushed generalizing segments with
  | nil => exact absurd rfl hne
  | cons first rest ih =>
    have hfirst := h first List.mem_cons_self
    rw [List.foldl_cons, pushSegment_of_isPlain hfirst]
    cases rest with
    | nil => rfl
    | cons next rest =>
      rw [ih (List.cons_ne_nil next rest) fun segment hs => h segment (List.mem_cons_of_mem _ hs),
        withoutRoot_append_writtenSegment hfirst]
      simp

/-- Below plain segments there is no root. -/
theorem withoutRoot_append_map {isSpecial : Bool} {pushed : List String} (hne : pushed ≠ [])
    (h : ∀ segment ∈ pushed, IsPlainSegment segment) (above : List String) :
    withoutRoot (above ++ pushed.map (writtenSegment isSpecial)) =
      above ++ pushed.map (writtenSegment isSpecial) := by
  obtain ⟨front, last, rfl⟩ := List.eq_nil_or_concat pushed |>.resolve_left hne
  rw [List.concat_eq_append, List.map_append, ← List.append_assoc]
  exact withoutRoot_append_writtenSegment (h last (by simp)) _

/-- The last of some segments that are put below a path ends the path if it is plain. -/
theorem getLast?_foldl_pushSegment {isSpecial : Bool} {last : String} (h : IsPlainSegment last)
    (pushed segments : List String) :
    ((pushed ++ [last]).foldl (pushSegment isSpecial) segments).getLast? =
      some (writtenSegment isSpecial last) := by
  rw [List.foldl_append, List.foldl_cons, List.foldl_nil, pushSegment_of_isPlain h,
    List.getLast?_concat]

/-- A segment that is put below a path other than the root is written after it without a slash,
unless it is a dot segment, which leaves the path ending with a slash. -/
theorem pushSegment_eq_concat {isSpecial : Bool} {above : List String} (h : above ≠ [""])
    (segment : String) :
    (∃ front, pushSegment isSpecial above segment = front ++ [""]) ∨
      ∃ last, pushSegment isSpecial above segment = above ++ [last] ∧ '/' ∉ last.toList := by
  simp only [pushSegment, if_neg h]
  split
  · exact .inl ⟨_, rfl⟩
  · split
    · exact .inl ⟨_, rfl⟩
    · refine .inr ⟨_, rfl, ?_⟩
      rw [String.toList_ofList]
      exact slash_notMem_encode isSpecial _

/-! ## Texts -/

@[simp] theorem Path.text_append (above below : List String) :
    (Path.rooted (above ++ below)).text = (Path.rooted above).text ++ (Path.rooted below).text := by
  simp [Path.text]

/-- What stands behind the last slash of a text can be told from the text. -/
theorem eq_of_slash_append_eq {front other last final : String} (hlast : '/' ∉ last.toList)
    (hfinal : '/' ∉ final.toList) (h : front ++ "/" ++ last = other ++ "/" ++ final) :
    front = other ∧ last = final := by
  have hread (text segment : String) (hsegment : '/' ∉ segment.toList) :
      (text ++ "/" ++ segment).toList.reverse.takeWhile (· != '/') = segment.toList.reverse := by
    have hslash : ("/" : String).toList = ['/'] := by decide
    rw [String.toList_append, String.toList_append, hslash, List.reverse_append,
      List.reverse_append, List.takeWhile_append_of_pos]
    · simp
    · intro c hc
      rw [bne_iff_ne]
      rintro rfl
      exact hsegment (List.mem_reverse.mp hc)
  have hsame : last = final := by
    have htaken := hread front last hlast
    rw [h, hread _ _ hfinal] at htaken
    exact (String.toList_inj.mp (List.reverse_inj.mp htaken)).symm
  rw [hsame, String.append_left_inj, String.append_left_inj] at h
  exact ⟨h, hsame⟩

/-- One more segment is written behind a slash. -/
theorem Path.text_concat (above : List String) (last : String) :
    (Path.rooted (above ++ [last])).text = (Path.rooted above).text ++ "/" ++ last := by
  have hone : (Path.rooted [last]).text = "/" ++ last := by
    rw [Path.text]
    simp
  rw [Path.text_append, hone, String.append_assoc]

/-- The last segment of a path can be told from its text if there is no slash in it. -/
theorem Path.eq_of_text_concat_eq {above other : List String} {last final : String}
    (hlast : '/' ∉ last.toList) (hfinal : '/' ∉ final.toList)
    (h : (Path.rooted (above ++ [last])).text = (Path.rooted (other ++ [final])).text) :
    (Path.rooted above).text = (Path.rooted other).text ∧ last = final := by
  rw [Path.text_concat, Path.text_concat] at h
  exact eq_of_slash_append_eq hlast hfinal h

/-- A path with segments is a slash and its segments, a slash between any two. -/
theorem Path.text_rooted {segments : List String} (h : segments ≠ []) :
    (Path.rooted segments).text = "/" ++ "/".intercalate segments := by
  induction segments with
  | nil => exact absurd rfl h
  | cons segment rest ih =>
    have hcons : (Path.rooted (segment :: rest)).text =
        "/" ++ segment ++ (Path.rooted rest).text := by simp [Path.text]
    cases rest with
    | nil => simp [Path.text]
    | cons next rest =>
      rw [hcons, ih (List.cons_ne_nil next rest), String.intercalate_cons_cons]
      simp only [String.append_assoc]

/-- Only the root is written as one slash. -/
theorem Path.text_rooted_eq_slash_iff {segments : List String} :
    (Path.rooted segments).text = "/" ↔ segments = [""] := by
  constructor
  · intro h
    cases segments with
    | nil => exact absurd h (by decide)
    | cons segment rest =>
      rw [Path.text_rooted (List.cons_ne_nil segment rest)] at h
      have hnone : "/".intercalate (segment :: rest) = "" := by
        rw [← String.toList_inj] at h ⊢
        simpa using h
      cases rest with
      | nil => rw [String.intercalate_singleton] at hnone; rw [hnone]
      | cons next rest =>
        rw [String.intercalate_cons_cons] at hnone
        have hlength := congrArg String.length hnone
        simp at hlength
  · rintro rfl
    decide

end ReleaseStaging.Url
