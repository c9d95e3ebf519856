import Mathlib.Data.List.Forall2
import ReleaseStaging.Configuration.Document
import ReleaseStaging.Proofs.Json.Writing

/-!
# Reading members by their names

A reader that looks for certain names takes no notice of the order of the members and of members
with other names, and a member that is left out stands for a default. Main statement: it finds the
same values however the members of an object are varied in these ways.
-/

namespace ReleaseStaging.Json

/-- The members of an object stand under the texts of their names. -/
def AreNamed (members : List (List Char × Json)) (named : List (String × Json)) : Prop :=
  List.Forall₂ (fun member entry => unescape? member.1 = some entry.1.toList ∧
    member.2 = entry.2) members named

/-- The members of a document in another order, without some that hold their default, and with
others under names that the document does not use. -/
def Varies (defaults known named : List (String × Json)) : Prop :=
  ∃ kept omitted added, (kept ++ omitted).Perm known ∧ omitted ⊆ defaults ∧
    (∀ entry ∈ added, entry.1 ∉ known.map Prod.fst) ∧ named.Perm (kept ++ added)

/-- What is found under a name: the value that is known for it, or nothing if that is the
default. -/
def IsFound (defaults : List (String × Json)) (entry : String × Json) (found : Option Json) :
    Prop :=
  found = some entry.2 ∨ found = none ∧ entry ∈ defaults

/-- The members of a document that is written stand under their names. -/
theorem areNamed_escape (members : List (String × Json)) :
    AreNamed (members.map fun member => (escape member.1, member.2)) members := by
  rw [AreNamed, List.forall₂_map_left_iff, List.forall₂_same]
  exact fun member _ => ⟨unescape?_escape member.1, rfl⟩

/-- Members may stay as they are. -/
theorem varies_refl (defaults known : List (String × Json)) : Varies defaults known known :=
  ⟨known, [], [], by simp, List.nil_subset _, List.forall_mem_nil _, by simp⟩

variable {defaults known named : List (String × Json)}

/-- Looking up a name gives the first member under it. -/
theorem lookup_eq (name : String) (named : List (String × Json)) :
    named.lookup name = ((named.filter fun entry => entry.1 == name).head?).map Prod.snd := by
  induction named with
  | nil => rfl
  | cons entry rest ih =>
    obtain ⟨other, value⟩ := entry
    by_cases h : other = name
    · simp [h]
    · have hname : (name == other) = false := beq_eq_false_iff_ne.mpr (Ne.symm h)
      simp [List.lookup_cons, h, hname, ih]

/-- If no name stands twice, there is one member under each of them. -/
theorem filter_eq_singleton (hnodup : (known.map Prod.fst).Nodup) {entry : String × Json}
    (h : entry ∈ known) : known.filter (fun other => other.1 == entry.1) = [entry] := by
  induction known with
  | nil => simp at h
  | cons first rest ih =>
    rw [List.map_cons, List.nodup_cons] at hnodup
    obtain ⟨hfirst, hrest⟩ := hnodup
    rcases List.mem_cons.mp h with rfl | hmem
    · rw [List.filter_cons_of_pos (by simp), List.filter_eq_nil_iff.mpr]
      intro other hother heq
      exact hfirst (List.mem_map.mpr ⟨other, hother, by simpa using heq⟩)
    · have hne : first.1 ≠ entry.1 := by
        intro heq
        exact hfirst (heq ▸ List.mem_map_of_mem hmem)
      rw [List.filter_cons_of_neg (by simpa using hne), ih hrest hmem]

/-- Among varied members there is at most one under a known name, and none only if its value is
the default. -/
theorem filter_of_varies (h : Varies defaults known named) (hnodup : (known.map Prod.fst).Nodup)
    {entry : String × Json} (hentry : entry ∈ known) :
    named.filter (fun other => other.1 == entry.1) = [entry] ∨
      named.filter (fun other => other.1 == entry.1) = [] ∧ entry ∈ defaults := by
  obtain ⟨kept, omitted, added, hknown, homitted, hadded, hnamed⟩ := h
  have hnone : added.filter (fun other => other.1 == entry.1) = [] := by
    rw [List.filter_eq_nil_iff]
    intro other hother heq
    refine hadded other hother (List.mem_map.mpr ⟨entry, hentry, ?_⟩)
    exact (beq_iff_eq.mp heq).symm
  have hfound := hnamed.filter fun other => other.1 == entry.1
  rw [List.filter_append, hnone, List.append_nil] at hfound
  have hone := hknown.filter fun other => other.1 == entry.1
  rw [filter_eq_singleton hnodup hentry, List.filter_append, List.perm_singleton,
    List.append_eq_singleton_iff] at hone
  rcases hone with ⟨hkept, homit⟩ | ⟨hkept, -⟩
  · right
    rw [hkept, List.perm_nil] at hfound
    refine ⟨hfound, homitted ?_⟩
    have hmem : entry ∈ omitted.filter fun other => other.1 == entry.1 := by
      rw [homit]
      exact List.mem_cons_self
    exact List.mem_of_mem_filter hmem
  · rw [hkept, List.perm_singleton] at hfound
    exact .inl hfound

/-- The names of members are read one after another. -/
theorem mapM_of_areNamed {members : List (List Char × Json)} (h : AreNamed members named) :
    members.mapM (fun member => (unescape? member.1).bind fun name =>
      some (String.ofList name, member.2)) = some named := by
  induction h with
  | nil => rfl
  | cons hfirst _ ih =>
    rw [List.mapM_cons, hfirst.1, ih]
    simp [hfirst.2]

/-- Varied members give the known values under the known names. -/
theorem valuesOf?_of_varies {members : List (List Char × Json)} (hnames : AreNamed members named)
    (h : Varies defaults known named) (hnodup : (known.map Prod.fst).Nodup) :
    ∃ values, valuesOf? (known.map Prod.fst) (.object members) = some values ∧
      List.Forall₂ (IsFound defaults) known values := by
  have hsingle : ((known.map Prod.fst).any fun name =>
      1 < (named.filter fun member => member.1 == name).length) = false := by
    rw [List.any_eq_false]
    intro name hname
    obtain ⟨entry, hentry, rfl⟩ := List.mem_map.mp hname
    rcases filter_of_varies h hnodup hentry with hfound | ⟨hfound, -⟩
    · simp [hfound]
    · simp [hfound]
  refine ⟨(known.map Prod.fst).map fun name => named.lookup name, ?_, ?_⟩
  · simp only [valuesOf?, Option.bind_eq_bind, Option.pure_def, mapM_of_areNamed hnames,
      Option.bind_some, hsingle, Bool.false_eq_true, if_false]
  · rw [List.map_map, List.forall₂_map_right_iff, List.forall₂_same]
    intro entry hentry
    rw [Function.comp_apply, lookup_eq]
    rcases filter_of_varies h hnodup hentry with hfound | ⟨hfound, hdefault⟩
    · exact .inl (by rw [hfound]; rfl)
    · exact .inr ⟨by rw [hfound]; rfl, hdefault⟩

/-- A value that is found, or that is left out because it is the default, is read as what it
stands for. -/
theorem orDefault_of_isFound {α : Type} {standard value : α} {read : Json → Option α}
    {entry : String × Json} {found : Option Json} (hfound : IsFound defaults entry found)
    (hread : read entry.2 = some value)
    (hstandard : ∀ document, (entry.1, document) ∈ defaults → read document = some standard) :
    orDefault standard read found = some value := by
  rcases hfound with rfl | ⟨rfl, hdefault⟩
  · exact hread
  · rw [← hread, hstandard entry.2 hdefault]
    rfl

end ReleaseStaging.Json
