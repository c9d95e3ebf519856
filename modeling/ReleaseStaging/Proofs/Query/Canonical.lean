import ReleaseStaging.Proofs.Query.Reading
import ReleaseStaging.Report

/-!
# Expressions that compile

An expression compiles exactly if it is a path query when the white space around it is removed, and
then it compiles to the path it stands for. The canonical form of such a path is a path query for
the same path, so it compiles to that path again.
-/

namespace ReleaseStaging.Query

/-! ## The canonical form -/

/-- The canonical quote does not occur in a literal that was quoted. -/
theorem LiteralText.canonical {quoted : List Char} {literal : String}
    (h : LiteralText quoted literal) : LiteralText (literalText literal).toList literal := by
  cases h with
  | @quoted quote content hquote hcontent =>
    rw [literalText, String.toList_ofList]
    by_cases hsingle : '\'' ∈ content
    · have hdouble : '"' ∉ content := by
        rcases hquote with rfl | rfl
        · exact absurd hsingle hcontent
        · exact hcontent
      rw [if_pos (List.contains_iff_mem.mpr hsingle)]
      simpa using LiteralText.quoted (.inr rfl) hdouble
    · rw [if_neg (by simpa using hsingle)]
      simpa using LiteralText.quoted (.inl rfl) hsingle

/-- A condition without gaps in its brackets. -/
private theorem bracketed_condition {condition : List Char} {predicate : Predicate}
    (h : ConditionText condition predicate) :
    PredicateText ('[' :: (condition ++ [']'])) predicate := by
  exact .bracketed isGap_nil h isGap_nil

/-- The digits of a number in its canonical form stand for that position. -/
private theorem positionText {index : Nat} (hpos : 0 < index) (hlt : index < UInt64.size) :
    ConditionText (Nat.toDigits 10 index) (.position index) := by
  have hten : 0 < 10 := Nat.zero_lt_succ 9
  have hdigits : ∀ c ∈ Nat.toDigits 10 index, c.isDigit = true := by
    intro c hc
    exact Nat.isDigit_of_mem_toDigits hten (Nat.le_refl 10) hc
  have hvalue := Text.decimalValue_toDigits index
  have hrule := ConditionText.position hdigits (by rwa [hvalue]) (by rwa [hvalue])
  rwa [hvalue] at hrule

/-- The canonical form of a condition is derived for it. -/
theorem ConditionText.canonical {condition : List Char} {predicate : Predicate}
    (h : ConditionText condition predicate) : PredicateText predicate.text.toList predicate := by
  cases h with
  | position hdigits hpos hlt =>
    generalize Text.decimalValue condition = index at hpos hlt
    have htext : (Predicate.position index).text = "[" ++ index.repr ++ "]" := rfl
    rw [htext]
    simpa using bracketed_condition (positionText hpos hlt)
  | last => exact bracketed_condition (.last isGap_nil)
  | hasChild hname =>
    have htext (name : String) : (Predicate.hasChild name).text = "[" ++ name ++ "]" := rfl
    rw [htext]
    simpa using bracketed_condition (.hasChild hname)
  | childEquals hname _ _ hliteral =>
    have htext (name literal : String) : (Predicate.childEquals name literal).text =
        "[" ++ name ++ "=" ++ literalText literal ++ "]" := rfl
    rw [htext]
    simpa using bracketed_condition
      (.childEquals hname isGap_nil isGap_nil hliteral.canonical)

/-- The canonical form of a predicate is derived for it. -/
theorem PredicateText.canonical {text : List Char} {predicate : Predicate}
    (h : PredicateText text predicate) : PredicateText predicate.text.toList predicate := by
  cases h with
  | bracketed _ hcondition _ => exact hcondition.canonical

/-- The canonical form of the name that a step asks for is derived for it. -/
theorem NameTest.canonical {test : List Char} {name : Option String} (h : NameTest test name) :
    NameTest (name.getD "*").toList name := by
  cases h with
  | any => exact .any
  | named hname =>
    rw [Option.getD_some, String.toList_ofList]
    exact .named hname

/-- The canonical form of predicates is derived for them. -/
theorem PredicatesText.canonical {text : List Char} {predicates : List Predicate}
    (h : PredicatesText text predicates) :
    PredicatesText (String.join (predicates.map Predicate.text)).toList predicates := by
  induction h with
  | nil => exact .nil
  | cons hpredicate _ ih =>
    rw [List.map_cons, String.join_cons, String.toList_append]
    exact .cons hpredicate.canonical ih

/-- The canonical form of a step is derived for it. -/
theorem StepText.canonical {axis : Axis} {text : List Char} {step : Step}
    (h : StepText axis text step) : StepText axis step.text.toList step := by
  cases h with
  | mk hname hpredicates =>
    rw [Step.text, String.toList_append]
    exact .mk hname.canonical hpredicates.canonical

/-- The steps after the first one in their canonical form, each behind its separator. -/
def furtherText (steps : List Step) : String :=
  String.join (steps.map fun step => step.axis.text ++ step.text)

/-- The canonical form of steps is derived for them, and the given axis is that of the first. -/
theorem StepsText.canonical {axis : Axis} {text : List Char} {steps : List Step}
    (h : StepsText axis text steps) :
    ∃ first rest, steps = first :: rest ∧ first.axis = axis ∧
      StepsText axis (first.text.toList ++ (furtherText rest).toList) steps := by
  induction h with
  | @single axis text step hstep =>
    have haxis : step.axis = axis := by cases hstep; rfl
    refine ⟨step, [], rfl, haxis, ?_⟩
    simpa [furtherText] using StepsText.single hstep.canonical
  | @cons axis next text rest step steps hstep _ ih =>
    have haxis : step.axis = axis := by cases hstep; rfl
    obtain ⟨first, more, rfl, rfl, hmore⟩ := ih
    refine ⟨step, first :: more, rfl, haxis, ?_⟩
    simpa [furtherText] using StepsText.cons hstep.canonical hmore

/-- The canonical form of a path is derived for it. -/
theorem PathText.canonical {text : List Char} {path : Path} (h : PathText text path) :
    PathText path.text.toList path := by
  cases h with
  | relative h =>
    obtain ⟨first, rest, rfl, -, hcanonical⟩ := h.canonical
    simpa [Path.text, furtherText] using PathText.relative hcanonical
  | absolute h =>
    obtain ⟨first, rest, rfl, rfl, hcanonical⟩ := h.canonical
    simpa [Path.text, furtherText] using PathText.absolute hcanonical

/-! ## White space around an expression -/

/-- The name that a step asks for is written without white space. -/
theorem NameTest.isTight {test : List Char} {name : Option String} (h : NameTest test name) :
    Text.IsTight test := by
  cases h with
  | any => exact Text.isTight_singleton rfl
  | named hname =>
    exact Text.isTight_of_forall hname.1 fun c hc => isBlank_of_isNameChar (hname.2 c hc)

/-- Predicates start and end with brackets. -/
theorem PredicatesText.isTight {text : List Char} {predicates : List Predicate}
    (h : PredicatesText text predicates) : text = [] ∨ Text.IsTight text := by
  induction h with
  | nil => exact .inl rfl
  | @cons text rest _ _ hpredicate _ ih =>
    right
    have htight : Text.IsTight text := by
      cases hpredicate with
      | @bracketed before condition after =>
        have hbrackets : Text.IsTight ('[' :: ((before ++ (condition ++ after)) ++ [']'])) :=
          Text.isTight_between rfl rfl _
        simpa using hbrackets
    rcases ih with rfl | ih
    · rwa [List.append_nil]
    · exact htight.append ih

theorem StepText.isTight {axis : Axis} {text : List Char} {step : Step}
    (h : StepText axis text step) : Text.IsTight text := by
  cases h with
  | mk hname hpredicates =>
    rcases hpredicates.isTight with rfl | htight
    · rw [List.append_nil]
      exact hname.isTight
    · exact hname.isTight.append htight

private theorem Axis.isTight_text (axis : Axis) : Text.IsTight axis.text.toList := by
  cases axis with
  | child => exact Text.isTight_singleton rfl
  | descendant => exact Text.isTight_between rfl rfl []

theorem StepsText.isTight {axis : Axis} {text : List Char} {steps : List Step}
    (h : StepsText axis text steps) : Text.IsTight text := by
  induction h with
  | single hstep => exact hstep.isTight
  | @cons _ next _ _ _ _ hstep _ ih => exact hstep.isTight.append (next.isTight_text.append ih)

/-- A path query has no white space around it. -/
theorem PathText.isTight {text : List Char} {path : Path} (h : PathText text path) :
    Text.IsTight text := by
  cases h with
  | relative h => exact h.isTight
  | @absolute axis _ _ h => exact axis.isTight_text.append h.isTight

/-! ## Compiling -/

/-- An expression compiles exactly to the path that it stands for. -/
theorem compile_eq_ok_iff {expression : String} {query : Query} :
    compile expression = .ok query ↔
      query.expression = expression ∧ PathText (Text.trim expression.toList) query.path := by
  rw [← ofChars_eq_ok_iff, compile, Path.ofText]
  cases hread : Path.ofChars (Text.trim expression.toList) with
  | error fault => simp
  | ok path =>
    obtain ⟨text, other⟩ := query
    simp [eq_comm]

/-- An expression that does not compile is refused as an invalid query. -/
theorem invalidQuery_of_compile {expression : String} {failure : Failure}
    (h : compile expression = .error failure) :
    ∃ reason, failure = .invalidQuery expression reason := by
  rw [compile] at h
  split at h
  · simp at h
  · next fault _ =>
    injection h with h
    exact ⟨fault.message, h.symm⟩

/-- The canonical form of a compiled query compiles to the same path. -/
theorem compile_text {expression : String} {query : Query} (h : compile expression = .ok query) :
    compile query.path.text = .ok ⟨query.path.text, query.path⟩ := by
  have hcanonical := (compile_eq_ok_iff.mp h).2.canonical
  rw [compile_eq_ok_iff, hcanonical.isTight.trim_eq]
  exact ⟨rfl, hcanonical⟩

/-- Names one below the other make steps. -/
private theorem stepsText_toChild {names : List String} (hne : names ≠ [])
    (h : ∀ name ∈ names, IsName name.toList) :
    ∃ text, StepsText .child text (names.map Step.toChild) := by
  have hstep {name : String} (hname : IsName name.toList) :
      StepText .child (name.toList ++ []) (.toChild name) := by
    have htest := NameTest.named hname
    rw [String.ofList_toList] at htest
    exact .mk htest .nil
  induction names with
  | nil => exact absurd rfl hne
  | cons name names ih =>
    have hfirst := hstep (h name List.mem_cons_self)
    cases names with
    | nil => exact ⟨_, .single hfirst⟩
    | cons next names =>
      obtain ⟨text, htext⟩ := ih (List.cons_ne_nil next names)
        fun other hother => h other (List.mem_cons_of_mem name hother)
      exact ⟨_, .cons hfirst htext⟩

/-- The text of a plain path from the document compiles to the query for it. -/
theorem compile_fromTop {names : List String} (hne : names ≠ [])
    (h : ∀ name ∈ names, IsName name.toList) :
    compile (Path.fromTop names).text = .ok (.fromTop names) := by
  obtain ⟨text, htext⟩ := stepsText_toChild hne h
  have hpath : PathText (Axis.child.text.toList ++ text) (.fromTop names) := .absolute htext
  have hcanonical := hpath.canonical
  refine compile_eq_ok_iff.mpr ⟨rfl, ?_⟩
  rw [hcanonical.isTight.trim_eq]
  exact hcanonical

/-- Every expression either is a path query, stands for exactly one path and compiles to it, and so
does the canonical form of that path; or it is no path query and is refused as an invalid one. -/
theorem compile_follows_grammar (expression : String) :
    (∃ path, (∀ other, PathText (Text.trim expression.toList) other ↔ other = path) ∧
        compile expression = .ok ⟨expression, path⟩ ∧
        compile path.text = .ok ⟨path.text, path⟩) ∨
      (∀ path, ¬PathText (Text.trim expression.toList) path) ∧
        ∃ reason, compile expression = .error (.invalidQuery expression reason) := by
  cases hcompile : compile expression with
  | ok query =>
    left
    obtain ⟨hexpression, hpath⟩ := compile_eq_ok_iff.mp hcompile
    refine ⟨query.path, ?_, ?_, compile_text hcompile⟩
    · intro other
      constructor
      · exact fun hother => hother.unique hpath
      · rintro rfl
        exact hpath
    · rw [← hexpression]
  | error failure =>
    right
    obtain ⟨reason, rfl⟩ := invalidQuery_of_compile hcompile
    refine ⟨?_, reason, rfl⟩
    intro path hpath
    have hok : compile expression = .ok ⟨expression, path⟩ := compile_eq_ok_iff.mpr ⟨rfl, hpath⟩
    rw [hcompile] at hok
    injection hok

end ReleaseStaging.Query
