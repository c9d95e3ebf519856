import ReleaseStaging.Proofs.Client.Paths
import ReleaseStaging.Proofs.Report.Reading
import ReleaseStaging.Proofs.Text.Fields

/-!
# Addresses below the base address

What a client asks for is told by an address, and which one that is can be said without the steps by
which it is put together: `Url.Leads` says where segments lead from a path, `IsBelow` which address
is below a base address at some segments, and `IsContentAddress`, `IsTransitionAddress` and
`IsRepositoryAddress` where a server is asked about a stage. Main statements: `below_eq_ok_iff` and
`below_eq_error_iff`, and for the endpoints `contentEndpoint_eq_ok_iff`,
`contentEndpoint_eq_error_iff`, `Action.endpoint_eq_ok_iff` and `repositoryEndpoint_eq_ok_iff`.
-/

namespace ReleaseStaging

open Url (IsPlainSegment counted encode inSegment parent popEmpty pushSegment withoutRoot)

/-! ## Where segments lead -/

/-- Where segments lead that are put below a path, one after another. Characters that are dropped
from addresses do not count, and only the root gives way to what is put below it. -/
inductive Url.Leads : List String → List String → List String → Prop
  /-- No segment is left. -/
  | arrived {path : List String} : Leads path [] path
  /-- A segment that is no dot segment is one step down, in its encoded form. -/
  | down {path segments target : List String} {segment : String}
      (name : counted segment.toList ≠ ['.'] ∧ counted segment.toList ≠ ['.', '.'])
      (rest : Leads
        (withoutRoot path ++ [String.ofList (encode (inSegment true) (counted segment.toList))])
        segments target) :
      Leads path (segment :: segments) target
  /-- One dot is no step, but what follows is put behind another slash. -/
  | stay {path segments target : List String} {segment : String}
      (dot : counted segment.toList = ['.'])
      (rest : Leads (withoutRoot path ++ [""]) segments target) :
      Leads path (segment :: segments) target
  /-- Two dots are one step up, and what follows is put behind another slash. -/
  | up {path segments target : List String} {segment : String}
      (dots : counted segment.toList = ['.', '.'])
      (rest : Leads (parent (withoutRoot path) ++ [""]) segments target) :
      Leads path (segment :: segments) target

/-- What is left of a segment decides where it is put; the root gives way. -/
theorem Url.pushSegment_eq (path : List String) (segment : String) :
    pushSegment true path segment =
      if counted segment.toList = ['.', '.'] then parent (withoutRoot path) ++ [""]
      else if counted segment.toList = ['.'] then withoutRoot path ++ [""]
      else withoutRoot path ++
        [String.ofList (encode (inSegment true) (counted segment.toList))] := rfl

/-- The first of some segments leads to where it is put. -/
theorem Url.leads_cons_iff {path segments target : List String} {segment : String} :
    Leads path (segment :: segments) target ↔
      Leads (pushSegment true path segment) segments target := by
  rw [pushSegment_eq]
  split
  next hdots =>
    constructor
    · rintro (_ | ⟨name, -⟩ | ⟨dot, -⟩ | ⟨-, rest⟩)
      · exact absurd hdots name.2
      · cases dot.symm.trans hdots
      · exact rest
    · exact .up hdots
  next hdots =>
    split
    next hdot =>
      constructor
      · rintro (_ | ⟨name, -⟩ | ⟨-, rest⟩ | ⟨dots, -⟩)
        · exact absurd hdot name.1
        · exact rest
        · exact absurd dots hdots
      · exact .stay hdot
    next hdot =>
      constructor
      · rintro (_ | ⟨-, rest⟩ | ⟨dot, -⟩ | ⟨dots, -⟩)
        · exact rest
        · exact absurd dot hdot
        · exact absurd dots hdots
      · exact .down ⟨hdot, hdots⟩

/-- Segments lead to where they are put one after another. -/
theorem Url.leads_iff {path segments target : List String} :
    Leads path segments target ↔ segments.foldl (pushSegment true) path = target := by
  induction segments generalizing path with
  | nil =>
    constructor
    · rintro ⟨⟩
      rfl
    · rintro rfl
      exact .arrived
  | cons segment segments ih => rw [leads_cons_iff, ih, List.foldl_cons]

/-- The root is no step. -/
theorem Url.foldl_pushSegment_withoutRoot {segments : List String} (h : segments ≠ [])
    (path : List String) : segments.foldl (pushSegment true) (withoutRoot path) =
      segments.foldl (pushSegment true) path := by
  obtain ⟨first, rest, rfl⟩ := List.exists_cons_of_ne_nil h
  have hroot : withoutRoot (withoutRoot path) = withoutRoot path := by
    by_cases hroot : path = [""]
    · rw [hroot]
      rfl
    · rw [withoutRoot_of_ne hroot, withoutRoot_of_ne hroot]
  rw [List.foldl_cons, List.foldl_cons, pushSegment_eq, hroot, ← pushSegment_eq]

/-! ## Addresses -/

/-- A text that cannot name a segment. -/
def IsNoName (segment : String) : Prop :=
  segment = "" ∨ segment = "." ∨ segment = ".."

theorem isUnusable_iff {segment : String} : isUnusable segment = true ↔ IsNoName segment := by
  simp [isUnusable, IsNoName, or_assoc]

/-- An address is below a base address at some segments. Each of them names something, nothing but
the path differs, and that is where the segments lead from the path of the base address without its
final slash. A folder ends with a slash. -/
structure IsBelow (base : Url) (segments : List String) (isFolder : Bool) (url : Url) : Prop where
  /-- There is no empty segment and no dot segment. -/
  named : ∀ segment ∈ segments, ¬IsNoName segment
  /-- The path goes on from that of the base address. -/
  leads : ∃ above path, base.path = .rooted (above ++ [""]) ∧
    Url.Leads above (segments ++ if isFolder then [""] else []) path ∧
    url = base.withSegments path

variable {base url : Url} {segments : List String} {isFolder : Bool}

/-- There is one address below a base address at some segments. -/
theorem IsBelow.unique {other : Url} (h : IsBelow base segments isFolder url)
    (hother : IsBelow base segments isFolder other) : url = other := by
  obtain ⟨-, above, path, habove, hleads, rfl⟩ := h
  obtain ⟨-, above', path', habove', hleads', rfl⟩ := hother
  obtain rfl : above = above' :=
    List.append_cancel_right (Url.Path.rooted.inj (habove.symm.trans habove'))
  rw [← Url.leads_iff.mp hleads, ← Url.leads_iff.mp hleads']

/-- Segments that each name something make the address below a base address. -/
theorem below_eq_ok_iff (hbase : IsBase base) (hne : segments ≠ []) :
    below base segments isFolder = .ok url ↔ IsBelow base segments isFolder url := by
  obtain ⟨above, hweb⟩ := hbase.isWeb
  -- The root gives way to the segments, so that it does not matter whether it is taken away.
  have hpopped : (segments ++ if isFolder then [""] else []).foldl (pushSegment true)
      (popEmpty (above ++ [""])) =
        (segments ++ if isFolder then [""] else []).foldl (pushSegment true) above := by
    have hnil : segments ++ (if isFolder then [""] else []) ≠ [] :=
      List.append_ne_nil_of_left_ne_nil hne _
    have hroot : withoutRoot (popEmpty (above ++ [""])) = withoutRoot above := by
      rw [Url.popEmpty_concat]
      by_cases habove : above = []
      · rw [if_pos habove, habove]
        rfl
      · rw [if_neg habove]
    rw [← Url.foldl_pushSegment_withoutRoot hnil, hroot, Url.foldl_pushSegment_withoutRoot hnil]
  constructor
  · intro h
    have husable : ∀ segment ∈ segments, ¬isUnusable segment = true := by
      intro segment hsegment hunusable
      obtain ⟨found, hfound⟩ :=
        (hweb.below_eq_error_iff segments isFolder).mpr ⟨segment, hsegment, hunusable⟩
      cases h.symm.trans hfound
    rw [hweb.below_eq (fun segment hsegment => Bool.eq_false_iff.mpr (husable segment hsegment)),
      hpopped, Except.ok.injEq] at h
    exact ⟨fun segment hsegment hnone => husable segment hsegment (isUnusable_iff.mpr hnone),
      above, _, hweb.path, Url.leads_iff.mpr rfl, h.symm⟩
  · rintro ⟨hnamed, above', path, habove, hleads, rfl⟩
    obtain rfl : above = above' :=
      List.append_cancel_right (Url.Path.rooted.inj (hweb.path.symm.trans habove))
    rw [hweb.below_eq fun segment hsegment =>
      Bool.eq_false_iff.mpr (mt isUnusable_iff.mp (hnamed segment hsegment)), hpopped,
      Url.leads_iff.mp hleads]

/-- Segments are refused for the first one that names nothing. -/
theorem below_eq_error_iff (hbase : IsBase base) {failure : Failure} :
    below base segments isFolder = .error failure ↔
      ∃ segment, IsFirst IsNoName segments segment ∧ failure = .invalidSegment segment := by
  obtain ⟨above, hpath⟩ := hbase.path
  have hfirst (segment : String) :
      segments.find? isUnusable = some segment ↔ IsFirst IsNoName segments segment := by
    rw [find?_eq_some_iff_isFirst]
    exact isFirst_congr fun _ _ => isUnusable_iff
  simp only [← hfirst, below, Url.segments?, hpath]
  cases segments.find? isUnusable with
  | none => simp
  | some segment => simp [eq_comm]

/-! ## Contents -/

/-- The segments of the folder in which a staging repository would hold an artifact: the parts of
the group, which dots divide, the artifact and, if one is given, the version. -/
def IsFolder (stage : Stage) (coordinates : Coordinates) (segments : List String) : Prop :=
  ∃ parts, Text.AreParts '.' coordinates.group parts ∧
    segments = ["service", "local", "repositories", stage.stageId, "content"] ++ parts ++
      [coordinates.artifact] ++ coordinates.version.toList

/-- An address is the one at which a server is asked whether a stage holds an artifact. -/
def IsContentAddress (base : Url) (stage : Stage) (coordinates : Coordinates) (url : Url) : Prop :=
  ∃ segments, IsFolder stage coordinates segments ∧ IsBelow base segments true url

variable {stage : Stage} {coordinates : Coordinates}

/-- An artifact has one folder in a staging repository. -/
theorem isFolder_iff : IsFolder stage coordinates segments ↔
    segments = ["service", "local", "repositories", stage.stageId, "content"] ++
      Text.fieldsOf '.' coordinates.group ++ [coordinates.artifact] ++
        coordinates.version.toList := by
  simp only [IsFolder, ← Text.fieldsOf_eq_iff, exists_eq_left']

theorem IsFolder.unique {others : List String} (h : IsFolder stage coordinates segments)
    (hothers : IsFolder stage coordinates others) : segments = others :=
  (isFolder_iff.mp h).trans (isFolder_iff.mp hothers).symm

/-- There is one address for an artifact in a staging repository. -/
theorem IsContentAddress.unique {other : Url} (h : IsContentAddress base stage coordinates url)
    (hother : IsContentAddress base stage coordinates other) : url = other := by
  obtain ⟨segments, hfolder, hbelow⟩ := h
  obtain ⟨others, hfolder', hbelow'⟩ := hother
  obtain rfl := hfolder.unique hfolder'
  exact hbelow.unique hbelow'

/-- The endpoint for an artifact is its address. -/
theorem contentEndpoint_eq_ok_iff (hbase : IsBase base) :
    contentEndpoint base stage coordinates = .ok url ↔
      IsContentAddress base stage coordinates url := by
  simp only [IsContentAddress, isFolder_iff, exists_eq_left]
  exact below_eq_ok_iff hbase (List.cons_ne_nil _ _)

/-- Where the segments of its folder are plain, an artifact has an address, and its text is that of
the base address and the folder, unless the path of the base address is nothing but two slashes. -/
theorem IsFolder.exists_isContentAddress (h : IsFolder stage coordinates segments)
    (hbase : IsBase base) (hplain : ∀ segment ∈ segments, IsPlainSegment segment) :
    ∃ url, IsContentAddress base stage coordinates url ∧
      (url.text = base.text ++ writtenBelow segments true ↔ base.path.text ≠ "//") := by
  have hne : segments ≠ [] := by
    obtain ⟨parts, -, rfl⟩ := h
    exact List.cons_ne_nil _ _
  obtain ⟨above, hpath⟩ := hbase.path
  have hbelow := below_eq_ok hbase hpath hne hplain true
  exact ⟨_, ⟨segments, h, (below_eq_ok_iff hbase hne).mp hbelow⟩,
    text_below_eq_iff hbase hne hplain hbelow⟩

/-- An artifact has no endpoint in a staging repository exactly if a segment of its folder names
nothing. -/
theorem contentEndpoint_eq_error_iff (hbase : IsBase base) {failure : Failure} :
    contentEndpoint base stage coordinates = .error failure ↔
      ∃ segments segment, IsFolder stage coordinates segments ∧
        IsFirst IsNoName segments segment ∧ failure = .invalidSegment segment := by
  simp only [isFolder_iff, exists_and_left, exists_eq_left]
  exact below_eq_error_iff hbase

/-! ## Stages -/

/-- An address is the one at which a transition of a stage is asked for, which has a verb. -/
def IsTransitionAddress (base : Url) (verb : String) (stage : Stage) (url : Url) : Prop :=
  IsBelow base ["service", "local", "staging", "profiles", stage.profileId, verb] false url

/-- An address is that of a staging repository, or of something it holds. -/
def IsRepositoryAddress (base : Url) (stage : Stage) (child : Option String) (url : Url) : Prop :=
  IsBelow base (["service", "local", "staging", "repository", stage.stageId] ++ child.toList) false
    url

/-- The endpoint of a transition is its address. -/
theorem Action.endpoint_eq_ok_iff (hbase : IsBase base) {action : Action} :
    action.endpoint base stage = .ok url ↔ IsTransitionAddress base action.verb stage url :=
  below_eq_ok_iff hbase (List.cons_ne_nil _ _)

/-- The endpoint of a staging repository is its address. -/
theorem repositoryEndpoint_eq_ok_iff (hbase : IsBase base) {child : Option String} :
    repositoryEndpoint base stage child = .ok url ↔ IsRepositoryAddress base stage child url :=
  below_eq_ok_iff hbase (List.cons_ne_nil _ _)

end ReleaseStaging
