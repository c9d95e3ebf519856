import Mathlib.Data.List.Forall2
import ReleaseStaging.Proofs.Query.Order

/-!
# Reading in steps

What is read in steps, one after another or one for each element of a list, is read if every step
is, and else the failure is that of the first step that fails. Where the elements are all the sites
with a property, the first of them is the first one in document order.
-/

namespace ReleaseStaging

/-! ## The first element -/

/-- An element of a list is the first one with a property. -/
def IsFirst {α : Type} (property : α → Prop) (list : List α) (a : α) : Prop :=
  property a ∧ ∃ before after, list = before ++ a :: after ∧ ∀ other ∈ before, ¬ property other

/-- The first element with a property is found by looking for it. -/
theorem find?_eq_some_iff_isFirst {α : Type} {property : α → Bool} {list : List α} {a : α} :
    list.find? property = some a ↔ IsFirst (fun other => property other = true) list a := by
  simp only [IsFirst, List.find?_eq_some_iff_append, Bool.not_eq_true, Bool.not_eq_eq_eq_not,
    Bool.not_true]

/-- Only one element is the first one. -/
theorem IsFirst.unique {α : Type} {property : α → Prop} {list : List α} {a b : α}
    (ha : IsFirst property list a) (hb : IsFirst property list b) : a = b := by
  classical
  have hfind {c : α} (hc : IsFirst property list c) :
      list.find? (fun other => decide (property other)) = some c := by
    rw [find?_eq_some_iff_isFirst]
    simpa only [decide_eq_true_eq] using hc
  exact Option.some.inj ((hfind ha).symm.trans (hfind hb))

theorem not_isFirst_nil {α : Type} {property : α → Prop} {a : α} : ¬IsFirst property [] a := by
  rintro ⟨-, before, after, heq, -⟩
  cases before <;> cases heq

/-- The first element with a property is the head of a list, or else the first one of its tail. -/
theorem isFirst_cons_iff {α : Type} {property : α → Prop} {b : α} {list : List α} {a : α} :
    IsFirst property (b :: list) a ↔
      property b ∧ a = b ∨ ¬property b ∧ IsFirst property list a := by
  constructor
  · rintro ⟨ha, before, after, heq, hbefore⟩
    cases before with
    | nil =>
      obtain ⟨rfl, -⟩ := List.cons.inj heq
      exact .inl ⟨ha, rfl⟩
    | cons c before =>
      obtain ⟨rfl, hlist⟩ := List.cons.inj heq
      obtain ⟨hb, hbefore⟩ := List.forall_mem_cons.mp hbefore
      exact .inr ⟨hb, ha, before, after, hlist, hbefore⟩
  · rintro (⟨hb, rfl⟩ | ⟨hb, ha, before, after, rfl, hbefore⟩)
    · exact ⟨hb, [], list, rfl, nofun⟩
    · exact ⟨ha, b :: before, after, rfl, List.forall_mem_cons.mpr ⟨hb, hbefore⟩⟩

/-- Properties that agree on a list have the same first element there. -/
theorem isFirst_congr {α : Type} {property other : α → Prop} {list : List α} {a : α}
    (h : ∀ b ∈ list, property b ↔ other b) : IsFirst property list a ↔ IsFirst other list a := by
  induction list with
  | nil => exact iff_of_false not_isFirst_nil not_isFirst_nil
  | cons b list ih =>
    rw [isFirst_cons_iff, isFirst_cons_iff, h b List.mem_cons_self,
      ih fun c hc => h c (List.mem_cons_of_mem b hc)]

/-! ## Steps -/

section

variable {ε ε' α β γ : Type}

/-- A reading in two steps succeeds with what the second one reads after the first. -/
theorem bind_eq_ok_iff {first : Except ε α} {next : α → Except ε β} {b : β} :
    first >>= next = .ok b ↔ ∃ a, first = .ok a ∧ next a = .ok b := by
  cases first <;> simp [Bind.bind, Except.bind]

/-- A reading in two steps fails if the first one does or the second one after it. -/
theorem bind_eq_error_iff {first : Except ε α} {next : α → Except ε β} {failure : ε} :
    first >>= next = .error failure ↔
      first = .error failure ∨ ∃ a, first = .ok a ∧ next a = .error failure := by
  cases first <;> simp [Bind.bind, Except.bind]

theorem pure_eq_ok_iff {a b : α} : (pure a : Except ε α) = .ok b ↔ a = b := by
  simp [Pure.pure, Except.pure]

theorem mapError_pure (f : ε → ε') (a : α) :
    (pure a : Except ε α).mapError f = pure a := rfl

/-- The errors of two steps are those of each. -/
theorem mapError_bind (f : ε → ε') (first : Except ε α) (next : α → Except ε β) :
    (first >>= next).mapError f = first.mapError f >>= fun a => (next a).mapError f := by
  cases first <;> rfl

end

/-! ## Lists -/

section

variable {ε ε' α α' β γ : Type} {read : α → Except ε β} {list : List α}

/-- Every element of a list is read exactly if all that is read is a list. -/
theorem mapM_eq_ok_iff {values : List β} : list.mapM read = .ok values ↔
    List.Forall₂ (fun a value => read a = .ok value) list values := by
  induction list generalizing values with
  | nil => cases values <;> simp [pure, Except.pure]
  | cons a list ih =>
    simp only [List.mapM_cons, bind_eq_ok_iff, pure_eq_ok_iff, ih, List.forall₂_cons_left_iff]
    simp only [← exists_and_left, eq_comm]

/-- A list is read if each of its elements is. -/
theorem exists_mapM_eq_ok_iff :
    (∃ values, list.mapM read = .ok values) ↔ ∀ a ∈ list, ∃ value, read a = .ok value := by
  simp only [mapM_eq_ok_iff]
  induction list with
  | nil => exact iff_of_true ⟨[], .nil⟩ nofun
  | cons a list ih =>
    simp only [List.forall₂_cons_left_iff, List.forall_mem_cons, ← ih]
    constructor
    · rintro ⟨_, value, values, hvalue, hvalues, rfl⟩
      exact ⟨⟨value, hvalue⟩, values, hvalues⟩
    · rintro ⟨⟨value, hvalue⟩, values, hvalues⟩
      exact ⟨_, value, values, hvalue, hvalues, rfl⟩

/-- The failure of reading a list is that of the first element that is not read. -/
theorem mapM_eq_error_iff {failure : ε} :
    list.mapM read = .error failure ↔
      ∃ a, IsFirst (fun other => ∃ cause, read other = .error cause) list a ∧
        read a = .error failure := by
  induction list with
  | nil => exact iff_of_false nofun fun ⟨_, hfirst, _⟩ => not_isFirst_nil hfirst
  | cons b list ih =>
    rw [List.mapM_cons]
    simp only [isFirst_cons_iff]
    cases hread : read b with
    | error cause => simp [bind, Except.bind, hread]
    | ok value =>
      cases hrest : list.mapM read with
      | error cause => simpa [bind, Except.bind, hrest] using ih
      | ok values => simpa [bind, Except.bind, pure, Except.pure, hrest] using ih

/-- Elements that are read alike one by one are read alike together. -/
theorem mapM_eq_of_forall₂ {read' : α' → Except ε β} {list' : List α'}
    (h : List.Forall₂ (fun a b => read a = read' b) list list') :
    list.mapM read = list'.mapM read' := by
  induction h with
  | nil => rfl
  | cons hread _ ih => rw [List.mapM_cons, List.mapM_cons, hread, ih]

/-- Reading a list depends only on how its elements are read. -/
theorem mapM_congr {other : α → Except ε β} (h : ∀ a ∈ list, read a = other a) :
    list.mapM read = list.mapM other :=
  mapM_eq_of_forall₂ (List.forall₂_same.mpr h)

/-- If each element that is changed is read as a changed value, so is the list of all of them. -/
theorem mapM_map_eq_map {change : α' → α} {read' : α' → Except ε γ} {alter : γ → β}
    (h : ∀ a, read (change a) = alter <$> read' a) (list : List α') :
    (list.map change).mapM read = List.map alter <$> list.mapM read' := by
  induction list with
  | nil => rfl
  | cons a list ih =>
    rw [List.map_cons, List.mapM_cons, List.mapM_cons, h, ih]
    cases read' a with
    | error failure => rfl
    | ok value => cases list.mapM read' <;> rfl

/-- If each element of a list is read, so are all of them. -/
theorem mapM_map_eq_ok {node : γ → α} {value : γ → β} {list : List γ}
    (h : ∀ a ∈ list, read (node a) = .ok (value a)) :
    (list.map node).mapM read = .ok (list.map value) := by
  rw [mapM_eq_ok_iff, List.forall₂_map_left_iff, List.forall₂_map_right_iff]
  exact List.forall₂_same.mpr h

/-- The errors of reading a list are those of reading its elements. -/
theorem mapError_mapM (f : ε → ε') (read : α → Except ε β) (list : List α) :
    (list.mapM read).mapError f = list.mapM fun a => (read a).mapError f := by
  induction list with
  | nil => rfl
  | cons a list ih => simp only [List.mapM_cons, mapError_bind, mapError_pure, ih]

end

/-! ## Checks -/

section

variable {ε α : Type} {check : α → Except ε Unit} {list : List α}

/-- Checking a list is reading it and forgetting what was read. -/
theorem forM_eq_map_mapM :
    list.forM check = (list.mapM check).map fun _ => () := by
  induction list with
  | nil => rfl
  | cons a list ih =>
    rw [List.mapM_cons]
    change (check a >>= fun _ => list.forM check) = _
    rw [ih]
    cases check a with
    | error failure => rfl
    | ok => cases list.mapM check <;> rfl

/-- A list passes if each of its elements does. -/
theorem forM_eq_ok_iff :
    list.forM check = .ok () ↔ ∀ a ∈ list, check a = .ok () := by
  have hpasses : list.forM check = .ok () ↔ ∃ passed, list.mapM check = .ok passed := by
    rw [forM_eq_map_mapM]
    cases list.mapM check <;> simp [Except.map]
  rw [hpasses, exists_mapM_eq_ok_iff]
  exact forall₂_congr fun a _ => ⟨fun ⟨_, h⟩ => h, fun h => ⟨(), h⟩⟩

/-- A list fails with the failure of its first element that does not pass. -/
theorem forM_eq_error_iff {failure : ε} :
    list.forM check = .error failure ↔
      ∃ a, IsFirst (fun other => ∃ cause, check other = .error cause) list a ∧
        check a = .error failure := by
  rw [← mapM_eq_error_iff, forM_eq_map_mapM]
  cases list.mapM check <;> simp [Except.map]

/-- What comes after a failure is not looked at. -/
theorem forM_append_of_error {later : List α} {failure : ε}
    (h : list.forM check = .error failure) :
    (list ++ later).forM check = .error failure := by
  obtain ⟨a, ⟨hfails, before, after, rfl, hbefore⟩, ha⟩ := forM_eq_error_iff.mp h
  exact forM_eq_error_iff.mpr ⟨a, ⟨hfails, before, after ++ later, by simp, hbefore⟩, ha⟩

end

/-! ## Readings that fail in one way -/

section

variable {ε α β : Type}

/-- A reading fails exactly under a condition, and then with the given failure. -/
def FailsExactly (failure : ε) (condition : Prop) (reading : Except ε α) : Prop :=
  ∀ other, reading = .error other ↔ other = failure ∧ condition

theorem failsExactly_pure (failure : ε) (a : α) : FailsExactly failure False (pure a) := by
  intro other
  exact iff_of_false nofun nofun

/-- Two steps fail under the condition of either. -/
theorem FailsExactly.bind {failure : ε} {condition condition' : Prop} {first : Except ε α}
    {next : α → Except ε β} (hfirst : FailsExactly failure condition first)
    (hnext : ∀ a, FailsExactly failure condition' (next a)) :
    FailsExactly failure (condition ∨ condition') (first >>= next) := by
  intro other
  cases first with
  | error cause =>
    obtain ⟨rfl, hcondition⟩ := (hfirst cause).mp rfl
    have hfails : (Except.error cause >>= next) = .error other ↔ other = cause := by
      simp [Bind.bind, Except.bind, eq_comm]
    simp only [hfails, hcondition, true_or, and_true]
  | ok a =>
    have hnone : ¬ condition := fun hcondition => nomatch (hfirst failure).mpr ⟨rfl, hcondition⟩
    simp only [hnone, false_or]
    exact hnext a other

/-- A last step that makes something of what was read does not fail. -/
theorem FailsExactly.bind_pure {failure : ε} {condition : Prop} {first : Except ε α}
    (h : FailsExactly failure condition first) (make : α → β) :
    FailsExactly failure condition (first >>= fun a => pure (make a)) := by
  simpa only [or_false] using h.bind fun a => failsExactly_pure failure (make a)

/-- A list fails to be read if one of its elements does. -/
theorem FailsExactly.mapM {failure : ε} {condition : α → Prop} {read : α → Except ε β}
    (h : ∀ a, FailsExactly failure (condition a) (read a)) (list : List α) :
    FailsExactly failure (∃ a ∈ list, condition a) (list.mapM read) := by
  induction list with
  | nil => simpa using failsExactly_pure failure ([] : List β)
  | cons a list ih =>
    rw [List.mapM_cons]
    simp only [List.mem_cons, exists_eq_or_imp]
    exact (h a).bind fun value => ih.bind_pure (value :: ·)

end

/-! ## Sites -/

namespace Query.AreAll

variable {ε α : Type} {property condition : Site → Prop} {sites : List Site}

/-- All sites with a property are read exactly if each of them is. -/
theorem mapM_eq_ok_iff {read : Site → Except ε α} {values : List α} (h : AreAll property sites) :
    sites.mapM read = .ok values ↔ ∃ sites, AreAll property sites ∧
      List.Forall₂ (fun site value => read site = .ok value) sites values := by
  rw [ReleaseStaging.mapM_eq_ok_iff]
  constructor
  · intro hread
    exact ⟨sites, h, hread⟩
  · rintro ⟨others, hothers, hread⟩
    rwa [h.unique hothers]

/-- The first one in a list of all sites with a property for which a condition holds as well is the
first such site in document order. -/
theorem isFirst_iff {site : Site} (h : AreAll property sites) :
    IsFirst condition sites site ↔
      IsEarliest (fun other => property other ∧ condition other) site := by
  constructor
  · rintro ⟨hcondition, before, after, rfl, hbefore⟩
    obtain ⟨hordered, hmem⟩ := h
    refine ⟨⟨(hmem site).mp (by simp), hcondition⟩, ?_⟩
    rintro other ⟨hother, hcondition'⟩ hearlier
    rcases List.mem_append.mp ((hmem other).mpr hother) with hlisted | hlisted
    · exact hbefore other hlisted hcondition'
    · rcases List.mem_cons.mp hlisted with rfl | hlater
      · exact asymm hearlier hearlier
      · have hsite := (List.pairwise_cons.mp (List.pairwise_append.mp hordered).2.1).1
        exact asymm hearlier (hsite other hlater)
  · rintro ⟨⟨hproperty, hcondition⟩, hearliest⟩
    obtain ⟨before, after, rfl⟩ := List.append_of_mem ((h.mem_iff site).mpr hproperty)
    refine ⟨hcondition, before, after, rfl, ?_⟩
    intro other hother hcondition'
    have hlisted := (h.mem_iff other).mp (List.mem_append_left _ hother)
    have hbefore := (List.pairwise_append.mp h.ordered).2.2
    exact hearliest other ⟨hlisted, hcondition'⟩ (hbefore other hother site List.mem_cons_self)

/-- The head of a list of all sites with a property is the first such site in document order. -/
theorem head?_eq_some_iff {site : Site} (h : AreAll property sites) :
    sites.head? = some site ↔ IsEarliest property site := by
  have hfirst : sites.head? = some site ↔ IsFirst (fun _ => True) sites site := by
    cases sites with
    | nil => exact iff_of_false nofun not_isFirst_nil
    | cons first sites => simp [isFirst_cons_iff, eq_comm]
  rw [hfirst, h.isFirst_iff]
  simp only [and_true]

/-- All sites with a property are read unless one of them is not. -/
theorem failsExactly_mapM {failure : ε} {read : Site → Except ε α}
    (h : AreAll property sites)
    (hread : ∀ site, FailsExactly failure (condition site) (read site)) :
    FailsExactly failure (∃ site, property site ∧ condition site) (sites.mapM read) := by
  simpa only [h.mem_iff] using FailsExactly.mapM hread sites

end Query.AreAll

end ReleaseStaging
