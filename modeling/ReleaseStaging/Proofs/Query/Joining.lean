import ReleaseStaging.Proofs.Query.Meaning

/-!
# Joined expressions

Two expressions with a separator between them are one expression, whatever stands in their brackets
and quotes. It selects what the second one selects from the sites that the first one selects, or
from these and from all that lies below them. So putting sites in order and dropping repeated ones
after every step comes to the same as doing both once at the end.
Main statement: `select_joined`.
-/

namespace ReleaseStaging.Query

open ReleaseStaging.Xml

/-! ## The text -/

/-- Some steps, the first of them on another axis. -/
def startingOn (axis : Axis) : List Step → List Step
  | [] => []
  | first :: rest => { first with axis } :: rest

/-- The text of a step does not tell its axis. -/
theorem StepText.onAxis {axis : Axis} {text : List Char} {step : Step}
    (h : StepText axis text step) (other : Axis) :
    StepText other text { step with axis := other } := by
  cases h with
  | mk hname hpredicates => exact .mk hname hpredicates

/-- Neither does the text of steps tell the axis of the first one. -/
theorem StepsText.onAxis {axis : Axis} {text : List Char} {steps : List Step}
    (h : StepsText axis text steps) (other : Axis) :
    StepsText other text (startingOn other steps) := by
  cases h with
  | single hstep => exact .single (hstep.onAxis other)
  | cons hstep hrest => exact .cons (hstep.onAxis other) hrest

/-- The first of some steps is on the axis that is given for them. -/
theorem StepsText.startingOn_eq {axis : Axis} {text : List Char} {steps : List Step}
    (h : StepsText axis text steps) : startingOn axis steps = steps := by
  have haxis {text : List Char} {step : Step} (h : StepText axis text step) : step.axis = axis := by
    cases h
    rfl
  cases h with
  | single hstep => rw [startingOn, ← haxis hstep]
  | cons hstep _ => rw [startingOn, ← haxis hstep]

/-- Steps on both sides of a separator are steps. -/
theorem StepsText.append {axis next : Axis} {text rest : List Char} {steps more : List Step}
    (h : StepsText axis text steps) (hmore : StepsText next rest more) :
    StepsText axis (text ++ (next.text.toList ++ rest)) (steps ++ more) := by
  induction h with
  | single hstep => exact .cons hstep hmore
  | cons hstep _ ih =>
    simp only [List.append_assoc]
    exact .cons hstep ih

/-- Steps go on with a path. -/
theorem PathText.append {next : Axis} {text rest : List Char} {path : Path} {more : List Step}
    (h : PathText text path) (hmore : StepsText next rest more) :
    PathText (text ++ (next.text.toList ++ rest)) ⟨path.isAbsolute, path.steps ++ more⟩ := by
  cases h with
  | relative h => exact .relative (h.append hmore)
  | absolute h =>
    rw [List.append_assoc]
    exact .absolute (h.append hmore)

/-- A relative path consists of steps, the first of them to children. -/
theorem PathText.stepsText {text : List Char} {path : Path} (h : PathText text path)
    (hrelative : path.isAbsolute = false) : StepsText .child text path.steps := by
  cases h with
  | relative h => exact h
  | absolute h => cases hrelative

/-- Two expressions without white space around them are joined by a separator. -/
theorem compile_joined {expression further : String} {query next : Query}
    (htight : Text.trimmed expression = expression) (htight' : Text.trimmed further = further)
    (h : compile expression = .ok query) (hnext : compile further = .ok next)
    (hrelative : next.path.isAbsolute = false) (axis : Axis) :
    compile (expression ++ axis.text ++ further) = .ok ⟨expression ++ axis.text ++ further,
      query.path.isAbsolute, query.path.steps ++ startingOn axis next.path.steps⟩ := by
  have htrim {text : String} (h : Text.trimmed text = text) :
      Text.trim text.toList = text.toList := by
    rw [Text.trimmed] at h
    rw [← String.toList_ofList (l := Text.trim text.toList), h]
  have hpath := (compile_eq_ok_iff.mp h).2
  have hsteps := (compile_eq_ok_iff.mp hnext).2.stepsText hrelative
  rw [htrim htight] at hpath
  rw [htrim htight'] at hsteps
  have hjoined := hpath.append (hsteps.onAxis axis)
  refine compile_eq_ok_iff.mpr ⟨rfl, ?_⟩
  rw [String.toList_append, String.toList_append, List.append_assoc, hjoined.isTight.trim_eq]
  exact hjoined

/-! ## The meaning -/

/-- A step leads to what it leads to as a step to children from the parents that its axis
reaches. -/
theorem leads_onAxis {axis : Axis} {step : Step} {site target : Site} :
    ({ step with axis } : Step).Leads site target ↔ ∃ start, axis.Reaches site start ∧
      ({ step with axis := .child } : Step).Leads start target := by
  have hchild (start : Site) : ({ step with axis := .child } : Step).Leads start target ↔
      target ∈ step.picks start := by
    simp only [Step.Leads, Axis.Reaches, exists_eq_left]
    rfl
  simp only [hchild]
  rfl

/-- So do steps of which it is the first one. -/
theorem leadAlong_startingOn {axis : Axis} {steps : List Step} (hne : steps ≠ [])
    {site target : Site} : LeadAlong (startingOn axis steps) site target ↔
      ∃ start, axis.Reaches site start ∧ LeadAlong (startingOn .child steps) start target := by
  cases steps with
  | nil => exact absurd rfl hne
  | cons first rest =>
    simp only [startingOn, LeadAlong]
    constructor
    · rintro ⟨via, hleads, halong⟩
      obtain ⟨start, hreaches, hleads⟩ := leads_onAxis.mp hleads
      exact ⟨start, hreaches, via, hleads, halong⟩
    · rintro ⟨start, hreaches, via, hleads, halong⟩
      exact ⟨via, leads_onAxis.mpr ⟨start, hreaches, hleads⟩, halong⟩

/-- A path that goes on with the steps of a relative one selects what the latter selects from the
sites that the axis between them reaches from what the former selects. -/
theorem areAll_select_append {path next : Path} {text : List Char} (axis : Axis)
    (hnext : PathText text next) (hrelative : next.isAbsolute = false) (document : Document)
    (context : Site) :
    AreAll (fun site => ∃ via ∈ path.select document context, ∃ start, axis.Reaches via start ∧
        site ∈ next.select document start)
      (Path.select ⟨path.isAbsolute, path.steps ++ startingOn axis next.steps⟩ document
        context) := by
  have hfirst : startingOn .child next.steps = next.steps :=
    (hnext.stepsText hrelative).startingOn_eq
  have hselect (start site : Site) : site ∈ next.select document start ↔
      LeadAlong (startingOn .child next.steps) start site := by
    rw [mem_select, Path.Denotes, hrelative, hfirst]
    rfl
  refine ⟨pairwise_select _ _ _, fun site => ?_⟩
  have hvia (via : Site) : via ∈ path.select document context ↔ path.Denotes document context via :=
    mem_select
  simp only [hvia, hselect, ← leadAlong_startingOn hnext.steps.1]
  exact mem_select.trans leadAlong_append

/-- Two expressions without white space around them, the second of them a relative one, are joined
by either separator. With `/` they select exactly what the second selects from the sites that the
first selects, with `//` what it selects from these and from all that lies below them, each site
once and in document order. -/
theorem select_joined {expression further : String} {query next : Query}
    (htight : Text.trimmed expression = expression) (htight' : Text.trimmed further = further)
    (h : compile expression = .ok query) (hnext : compile further = .ok next)
    (hrelative : next.path.isAbsolute = false) :
    (∃ joined, compile (expression ++ "/" ++ further) = .ok joined ∧ ∀ document context,
      AreAll (fun site => ∃ via ∈ query.path.select document context,
          site ∈ next.path.select document via)
        (joined.path.select document context)) ∧
    ∃ joined, compile (expression ++ "//" ++ further) = .ok joined ∧ ∀ document context,
      AreAll (fun site => ∃ via ∈ query.path.select document context,
          ∃ start, via.IsWithin start ∧ site ∈ next.path.select document start)
        (joined.path.select document context) := by
  have hcompile := compile_joined htight htight' h hnext hrelative
  have hselect (axis : Axis) := @areAll_select_append query.path _ _ axis
    (compile_eq_ok_iff.mp hnext).2 hrelative
  refine ⟨⟨_, hcompile .child, fun document context => ?_⟩, _, hcompile .descendant,
    hselect .descendant⟩
  simpa only [Axis.Reaches, exists_eq_left] using hselect .child document context

/-- A separator in a literal does not divide the second expression, which selects below the context
from an element within the one that the first expression selects. -/
theorem select_joined_nested :
    Text.trimmed "//a" = "//a" ∧ Text.trimmed "b[c='//']" = "b[c='//']" ∧
      compile "//a" = .ok ⟨"//a", true, [⟨.descendant, some "a", []⟩]⟩ ∧
      compile "b[c='//']" =
        .ok ⟨"b[c='//']", false, [⟨.child, some "b", [.childEquals "c" "//"]⟩]⟩ ∧
      ∃ joined, compile "//a//b[c='//']" = .ok joined ∧
        ⟨[0, 0, 0], .element "b" [.element "c" [.text "//"]]⟩ ∈ joined.path.select
          ⟨[], "a", [.element "d" [.element "b" [.element "c" [.text "//"]]]], []⟩ ⟨[1], .text ""⟩ := by
  have hfirst : compile "//a" = .ok ⟨"//a", true, [⟨.descendant, some "a", []⟩]⟩ := by
    with_unfolding_all rfl
  have hsecond : compile "b[c='//']" =
      .ok ⟨"b[c='//']", false, [⟨.child, some "b", [.childEquals "c" "//"]⟩]⟩ := by
    with_unfolding_all rfl
  obtain ⟨joined, hcompile, hselect⟩ :=
    (select_joined (by decide) (by decide) hfirst hsecond rfl).2
  refine ⟨by decide, by decide, hfirst, hsecond, joined, hcompile, ?_⟩
  refine ((hselect _ _).mem_iff _).mpr
    ⟨⟨[0], .element "a" [.element "d" [.element "b" [.element "c" [.text "//"]]]]⟩, ?_,
      ⟨[0, 0], .element "d" [.element "b" [.element "c" [.text "//"]]]⟩, ?_, ?_⟩
  · exact mem_select.mpr ⟨_, ⟨_, .refl, List.mem_singleton.mpr rfl⟩, rfl⟩
  · exact .single ⟨0, rfl, rfl⟩
  · exact mem_select.mpr ⟨_, ⟨_, rfl, List.mem_singleton.mpr rfl⟩, rfl⟩

end ReleaseStaging.Query
