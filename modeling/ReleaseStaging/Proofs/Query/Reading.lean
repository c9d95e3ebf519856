import ReleaseStaging.Proofs.Query.Grammar

/-!
# The reader of path queries follows the grammar

Each reader is compared with the rule it stands for in both directions: what it takes is derived
by the rule, and what the rule derives is taken whole from in front of anything that may follow
it. So the expressions that are read are exactly the path queries, and no expression stands for two
paths.
-/

namespace ReleaseStaging.Query

/-! ## Characters that may follow -/

private theorem isNameChar_slash : isNameChar '/' = false := by decide +kernel

private theorem isNameChar_open : isNameChar '[' = false := by decide +kernel

private theorem isNameChar_close : isNameChar ']' = false := by decide +kernel

private theorem isNameChar_paren : isNameChar '(' = false := by decide +kernel

private theorem isNameChar_equals : isNameChar '=' = false := by decide +kernel

private theorem isNameChar_star : isNameChar '*' = false := by decide +kernel

/-- A gap does not continue a name. -/
private theorem stops_gap {gap rest : List Char} (hgap : IsGap gap)
    (hrest : Text.Stops isNameChar rest) : Text.Stops isNameChar (gap ++ rest) := by
  cases gap with
  | nil => exact hrest
  | cons c gap => exact Text.stops_cons.mpr (isNameChar_of_isBlank (hgap c List.mem_cons_self))

/-- What does not continue a name does not continue a run of digits. -/
private theorem stops_isDigit {rest : List Char} (hrest : Text.Stops isNameChar rest) :
    Text.Stops Char.isDigit rest := by
  intro c hc
  cases hdigit : c.isDigit with
  | false => rfl
  | true =>
    have hname := isNameChar_of_isDigit hdigit
    rw [hrest c hc] at hname
    exact hname.symm

/-- No quote is a blank character. -/
private theorem stops_literal {quoted rest : List Char} {literal : String}
    (h : LiteralText quoted literal) : Text.Stops Text.isBlank (quoted ++ rest) := by
  cases h with
  | quoted hquote _ =>
    apply Text.stops_cons.mpr
    rcases hquote with rfl | rfl <;> rfl

/-- A gap is dropped from in front of what is not blank. -/
private theorem dropWhile_gap {gap rest : List Char} (hgap : IsGap gap)
    (hrest : Text.Stops Text.isBlank rest) : (gap ++ rest).dropWhile Text.isBlank = rest :=
  Text.dropWhile_append hgap hrest

/-! ## Names and literals -/

/-- What is taken as a name is a name, and nothing after it continues the name. -/
theorem name_of_takeName {total : Nat} {text rest : List Char} {name : String}
    (h : takeName total text = .ok (name, rest)) :
    ∃ run, IsName run ∧ text = run ++ rest ∧ name = String.ofList run ∧
      Text.Stops isNameChar rest := by
  simp only [takeName] at h
  split at h
  · simp at h
  · next hne =>
    obtain ⟨rfl, rfl⟩ : String.ofList (text.takeWhile isNameChar) = name ∧
        text.dropWhile isNameChar = rest := by simpa using h
    refine ⟨text.takeWhile isNameChar, ⟨by simpa using hne, ?_⟩, ?_, rfl,
      Text.stops_dropWhile isNameChar text⟩
    · exact List.all_eq_true.mp List.all_takeWhile
    · exact List.takeWhile_append_dropWhile.symm

/-- A name is taken whole. -/
theorem takeName_append {run rest : List Char} (hrun : IsName run)
    (hrest : Text.Stops isNameChar rest) (total : Nat) :
    takeName total (run ++ rest) = .ok (String.ofList run, rest) := by
  simp [takeName, Text.takeWhile_append hrun.2 hrest, Text.dropWhile_append hrun.2 hrest, hrun.1]

/-- What is taken as a literal is a literal. -/
theorem literal_of_takeLiteral {text rest : List Char} {literal : String}
    (h : takeLiteral text = .ok (literal, rest)) :
    ∃ quoted, LiteralText quoted literal ∧ text = quoted ++ rest := by
  cases text with
  | nil => simp [takeLiteral] at h
  | cons quote text =>
    simp only [takeLiteral] at h
    split at h
    · next hquote =>
      split at h
      · next content r hcut =>
        obtain ⟨rfl, rfl⟩ : String.ofList content = literal ∧ r = rest := by simpa using h
        refine ⟨quote :: (content ++ [quote]), .quoted (by simpa using hquote) ?_, ?_⟩
        · exact Text.not_mem_of_upTo_singleton hcut
        · simp [Text.eq_of_upTo hcut]
      · simp at h
    · simp at h

/-- A literal is taken whole. -/
theorem takeLiteral_append {quoted : List Char} {literal : String}
    (h : LiteralText quoted literal) (rest : List Char) :
    takeLiteral (quoted ++ rest) = .ok (literal, rest) := by
  cases h with
  | @quoted quote content hquote hcontent =>
    have hcut : Text.upTo (fun _ => true) [quote] (content ++ quote :: rest) =
        some (content, rest) := Text.upTo_singleton (fun _ _ => rfl) hcontent
    simp [takeLiteral, hquote, hcut]

/-! ## Conditions -/

/-- What is taken as a position is a position. -/
theorem condition_of_takePosition {text rest : List Char} {predicate : Predicate}
    (h : takePosition text = .ok (predicate, rest)) :
    ∃ condition, ConditionText condition predicate ∧ text = condition ++ rest := by
  simp only [takePosition] at h
  split at h
  · next hbounds =>
    obtain ⟨rfl, rfl⟩ : Predicate.position (Text.decimalValue (text.takeWhile Char.isDigit)) =
        predicate ∧ text.dropWhile Char.isDigit = rest := by simpa using h
    obtain ⟨hpos, hlt⟩ : 0 < Text.decimalValue (text.takeWhile Char.isDigit) ∧
        Text.decimalValue (text.takeWhile Char.isDigit) < UInt64.size := by simpa using hbounds
    have hdigits := List.all_eq_true.mp (List.all_takeWhile (p := Char.isDigit) (l := text))
    exact ⟨_, .position hdigits hpos hlt, List.takeWhile_append_dropWhile.symm⟩
  · simp at h

/-- What is taken where a name must stand is a condition and perhaps the gap after it. -/
theorem condition_of_takeNamed {total : Nat} {text rest : List Char} {predicate : Predicate}
    (hdigit : Text.Stops Char.isDigit text)
    (h : takeNamed total text = .ok (predicate, rest)) :
    ∃ condition gap, ConditionText condition predicate ∧ IsGap gap ∧
      text = condition ++ (gap ++ rest) := by
  rw [takeNamed] at h
  split at h
  · simp at h
  · next name r hname =>
    obtain ⟨run, hrun, rfl, rfl, -⟩ := name_of_takeName hname
    obtain ⟨gap, hr, hgap⟩ := Text.exists_run Text.isBlank r
    have hchild : IsChildName run := by
      refine ⟨hrun, ?_⟩
      cases run with
      | nil => exact absurd rfl hrun.1
      | cons c run => exact Text.stops_cons.mpr (Text.stops_cons.mp hdigit)
    split at h
    · next r' heq =>
      rw [heq] at hr
      split at h
      · next hlast =>
        split at h
        · next r'' =>
          obtain ⟨rfl, rfl⟩ : Predicate.last = predicate ∧ r'' = rest := by simpa using h
          obtain rfl : run = ['l', 'a', 's', 't'] := by
            simpa using congrArg String.toList hlast
          exact ⟨_, [], .last hgap, isGap_nil, by simp [hr]⟩
        · simp at h
      · obtain ⟨rfl, rfl⟩ : Predicate.hasChild (String.ofList run) = predicate ∧
            '(' :: r' = rest := by simpa using h
        exact ⟨run, gap, .hasChild hchild, hgap, by rw [← hr]⟩
    · next r' heq =>
      rw [heq] at hr
      obtain ⟨after, hr', hafter⟩ := Text.exists_run Text.isBlank r'
      cases hliteral : takeLiteral (r'.dropWhile Text.isBlank) with
      | error fault => simp [hliteral, Except.map] at h
      | ok taken =>
        obtain ⟨literal, r''⟩ := taken
        obtain ⟨quoted, hquoted, heq'⟩ := literal_of_takeLiteral hliteral
        obtain ⟨rfl, rfl⟩ : Predicate.childEquals (String.ofList run) literal = predicate ∧
            r'' = rest := by simpa [hliteral, Except.map] using h
        rw [heq'] at hr'
        exact ⟨_, [], .childEquals hchild hgap hafter hquoted, isGap_nil, by simp [hr, ← hr']⟩
    · obtain ⟨rfl, rfl⟩ : Predicate.hasChild (String.ofList run) = predicate ∧
          r.dropWhile Text.isBlank = rest := by simpa using h
      exact ⟨run, gap, .hasChild hchild, hgap, by rw [← hr]⟩

/-- What is taken as a condition is a condition and perhaps the gap after it. -/
theorem condition_of_takeCondition {total : Nat} {text rest : List Char} {predicate : Predicate}
    (h : takeCondition total text = .ok (predicate, rest)) :
    ∃ condition gap, ConditionText condition predicate ∧ IsGap gap ∧
      text = condition ++ (gap ++ rest) := by
  cases text with
  | nil => simp [takeCondition] at h
  | cons c text =>
    simp only [takeCondition] at h
    split at h
    · obtain ⟨condition, hcondition, heq⟩ := condition_of_takePosition h
      exact ⟨condition, [], hcondition, isGap_nil, heq⟩
    · next hdigit => exact condition_of_takeNamed (by simpa using hdigit) h

/-- A condition does not start with a blank character. -/
private theorem stops_condition {condition rest : List Char} {predicate : Predicate}
    (h : ConditionText condition predicate) :
    Text.Stops Text.isBlank (condition ++ rest) := by
  have hname (name tail : List Char) (hname : IsName name) :
      Text.Stops Text.isBlank (name ++ tail) := by
    cases name with
    | nil => exact absurd rfl hname.1
    | cons c name =>
      exact Text.stops_cons.mpr (isBlank_of_isNameChar (hname.2 c List.mem_cons_self))
  cases h with
  | position hdigits hpos _ =>
    refine hname condition rest ⟨?_, fun c hc => isNameChar_of_isDigit (hdigits c hc)⟩
    rintro rfl
    simp at hpos
  | last => exact Text.stops_cons.mpr rfl
  | hasChild h => exact hname condition rest h.1
  | childEquals h =>
    rw [List.append_assoc]
    exact hname _ _ h.1

/-- What starts with a digit is taken as a position. -/
private theorem takeCondition_position {digits rest : List Char}
    (hdigits : ∀ c ∈ digits, c.isDigit = true) (hpos : 0 < Text.decimalValue digits)
    (hlt : Text.decimalValue digits < UInt64.size) (hrest : Text.Stops Char.isDigit rest)
    (total : Nat) : takeCondition total (digits ++ rest) =
      .ok (.position (Text.decimalValue digits), rest) := by
  have htake := Text.takeWhile_append hdigits hrest
  have hleft := Text.dropWhile_append hdigits hrest
  have hposition : takePosition (digits ++ rest) =
      .ok (.position (Text.decimalValue digits), rest) := by
    simp [takePosition, htake, hleft, hpos, hlt]
  cases digits with
  | nil => simp at hpos
  | cons c digits =>
    have hc : c.isDigit = true := hdigits c List.mem_cons_self
    rw [List.cons_append] at hposition ⊢
    rw [takeCondition, if_pos hc, hposition]

/-- What starts with a name of a child is taken by its name. -/
private theorem takeCondition_name {name : List Char} (h : IsChildName name) (total : Nat)
    (rest : List Char) :
    takeCondition total (name ++ rest) = takeNamed total (name ++ rest) := by
  cases name with
  | nil => exact absurd rfl h.1.1
  | cons c name =>
    have hc : c.isDigit = false := Text.stops_cons.mp h.2
    simp [takeCondition, hc]

private theorem isChildName_last : IsChildName ['l', 'a', 's', 't'] :=
  ⟨by decide +kernel, Text.stops_cons.mpr rfl⟩

/-- A condition is taken whole, up to the gap before the closing bracket. -/
theorem takeCondition_append {condition : List Char} {predicate : Predicate}
    (h : ConditionText condition predicate) {after : List Char} (hafter : IsGap after)
    (total : Nat) (rest : List Char) :
    ∃ left, takeCondition total (condition ++ (after ++ ']' :: rest)) = .ok (predicate, left) ∧
      left.dropWhile Text.isBlank = ']' :: rest := by
  have hclose : Text.Stops isNameChar (after ++ ']' :: rest) :=
    stops_gap hafter (Text.stops_cons.mpr isNameChar_close)
  have hdrop : (after ++ ']' :: rest).dropWhile Text.isBlank = ']' :: rest :=
    dropWhile_gap hafter (Text.stops_cons.mpr rfl)
  cases h with
  | position hdigits hpos hlt =>
    exact ⟨_, takeCondition_position hdigits hpos hlt (stops_isDigit hclose) total, hdrop⟩
  | @last gap hgap =>
    refine ⟨after ++ ']' :: rest, ?_, hdrop⟩
    have hopen : Text.Stops isNameChar (gap ++ '(' :: ')' :: (after ++ ']' :: rest)) :=
      stops_gap hgap (Text.stops_cons.mpr isNameChar_paren)
    have htake := takeName_append isChildName_last.1 hopen total
    have hparen : (gap ++ '(' :: ')' :: (after ++ ']' :: rest)).dropWhile Text.isBlank =
        '(' :: ')' :: (after ++ ']' :: rest) := dropWhile_gap hgap (Text.stops_cons.mpr rfl)
    have hlast : String.ofList ['l', 'a', 's', 't'] = "last" := rfl
    rw [List.append_assoc, takeCondition_name isChildName_last, takeNamed, List.append_assoc]
    simp only [List.cons_append, List.nil_append] at htake ⊢
    simp [htake, hparen, hlast]
  | hasChild hname =>
    refine ⟨']' :: rest, ?_, List.dropWhile_cons_of_neg (by decide)⟩
    have htake := takeName_append hname.1 hclose total
    rw [takeCondition_name hname]
    simp [takeNamed, htake, hdrop]
  | @childEquals name before gap quoted literal hname hbefore hgap hliteral =>
    refine ⟨after ++ ']' :: rest, ?_, hdrop⟩
    have hequals : Text.Stops isNameChar
        (before ++ '=' :: (gap ++ (quoted ++ (after ++ ']' :: rest)))) :=
      stops_gap hbefore (Text.stops_cons.mpr isNameChar_equals)
    have htake := takeName_append hname.1 hequals total
    have hsign : (before ++ '=' :: (gap ++ (quoted ++ (after ++ ']' :: rest)))).dropWhile
        Text.isBlank = '=' :: (gap ++ (quoted ++ (after ++ ']' :: rest))) :=
      dropWhile_gap hbefore (Text.stops_cons.mpr rfl)
    have hquote : (gap ++ (quoted ++ (after ++ ']' :: rest))).dropWhile Text.isBlank =
        quoted ++ (after ++ ']' :: rest) := dropWhile_gap hgap (stops_literal hliteral)
    rw [List.append_assoc, takeCondition_name hname]
    simp [takeNamed, htake, hsign, hquote, takeLiteral_append hliteral, Except.map]

/-! ## Predicates -/

/-- What is taken as a predicate is a predicate, its opening bracket put back. -/
theorem predicate_of_takePredicate {total : Nat} {text rest : List Char} {predicate : Predicate}
    (h : takePredicate total text = .ok (predicate, rest)) :
    ∃ read, PredicateText read predicate ∧ '[' :: text = read ++ rest := by
  rw [takePredicate] at h
  split at h
  · simp at h
  · next taken r hcondition =>
    split at h
    · next r' hclose =>
      obtain ⟨rfl, rfl⟩ : taken = predicate ∧ r' = rest := by simpa using h
      obtain ⟨before, htext, hbefore⟩ := Text.exists_run Text.isBlank text
      obtain ⟨condition, gap, hrule, hgap, heq⟩ := condition_of_takeCondition hcondition
      obtain ⟨after, hr, hafter⟩ := Text.exists_run Text.isBlank r
      have hboth : IsGap (gap ++ after) := by
        intro c hc
        rcases List.mem_append.mp hc with hc | hc
        · exact hgap c hc
        · exact hafter c hc
      refine ⟨_, .bracketed hbefore hrule hboth, ?_⟩
      rw [htext, heq, hr, hclose]
      simp
    · simp at h

/-- A predicate is taken whole after its opening bracket. -/
theorem takePredicate_append {read : List Char} {predicate : Predicate}
    (h : PredicateText read predicate) (total : Nat) (rest : List Char) :
    ∃ text, read ++ rest = '[' :: text ∧ takePredicate total text = .ok (predicate, rest) := by
  cases h with
  | @bracketed before condition after _ hbefore hcondition hafter =>
    refine ⟨before ++ (condition ++ (after ++ ']' :: rest)), by simp, ?_⟩
    obtain ⟨left, htake, hleft⟩ := takeCondition_append hcondition hafter total rest
    have hfirst : Text.Stops Text.isBlank (condition ++ (after ++ ']' :: rest)) :=
      stops_condition hcondition
    rw [takePredicate, dropWhile_gap hbefore hfirst, htake]
    simp [hleft]

/-- What is taken as predicates is predicates. -/
theorem predicates_of_takePredicates {total : Nat} {text rest : List Char}
    {predicates : List Predicate} (h : takePredicates total text = .ok (predicates, rest)) :
    ∃ read, PredicatesText read predicates ∧ text = read ++ rest := by
  fun_induction takePredicates total text generalizing predicates rest with
  | case1 => simp at h
  | case2 inner predicate r hr ih =>
    cases hmore : takePredicates total r with
    | error fault => simp [hmore, Except.map] at h
    | ok taken =>
      obtain ⟨more, r'⟩ := taken
      obtain ⟨rfl, rfl⟩ : predicate :: more = predicates ∧ r' = rest := by
        simpa [hmore, Except.map] using h
      obtain ⟨first, hfirst, hinner⟩ := predicate_of_takePredicate hr
      obtain ⟨read, hread, rfl⟩ := ih hmore
      exact ⟨first ++ read, .cons hfirst hread, by rw [hinner, List.append_assoc]⟩
  | case3 text =>
    obtain ⟨rfl, rfl⟩ : [] = predicates ∧ text = rest := by simpa using h
    exact ⟨[], .nil, rfl⟩

/-- Predicates are taken whole from in front of anything but another bracket. -/
theorem takePredicates_append {read : List Char} {predicates : List Predicate}
    (h : PredicatesText read predicates) {rest : List Char} (hrest : Text.Stops (· == '[') rest)
    (total : Nat) : takePredicates total (read ++ rest) = .ok (predicates, rest) := by
  induction h with
  | nil =>
    rw [List.nil_append, takePredicates.eq_def]
    split
    · exact absurd (Text.stops_cons.mp hrest) (by decide)
    · rfl
  | @cons text more predicate predicates hpredicate _ ih =>
    obtain ⟨inner, heq, htake⟩ := takePredicate_append hpredicate total (more ++ rest)
    rw [List.append_assoc, heq, takePredicates]
    split
    · next hfault => simp [htake] at hfault
    · next taken left htaken =>
      obtain ⟨rfl, rfl⟩ : predicate = taken ∧ more ++ rest = left := by
        simpa [htake] using htaken
      simp [ih, Except.map]

/-- Predicates do not continue a name, and neither does what may follow them. -/
private theorem stops_predicates {read rest : List Char} {predicates : List Predicate}
    (h : PredicatesText read predicates) (hrest : Text.Stops isNameChar rest) :
    Text.Stops isNameChar (read ++ rest) := by
  cases h with
  | nil => exact hrest
  | cons hpredicate _ =>
    cases hpredicate with
    | bracketed => exact Text.stops_cons.mpr isNameChar_open

/-! ## Steps -/

/-- Whether a step ends here: at the end of the expression or at a separator. -/
def EndsStep (rest : List Char) : Prop := Text.Stops (· != '/') rest

private theorem EndsStep.stops {rest : List Char} (h : EndsStep rest) {p : Char → Bool}
    (hp : p '/' = false) : Text.Stops p rest := by
  cases rest with
  | nil => exact Text.stops_nil p
  | cons c rest =>
    obtain rfl : c = '/' := by simpa using Text.stops_cons.mp h
    exact Text.stops_cons.mpr hp

theorem endsStep_separator (axis : Axis) (rest : List Char) :
    EndsStep (axis.text.toList ++ rest) := by
  cases axis <;> exact Text.stops_cons.mpr rfl

/-- What is taken as the name of a step is one. -/
theorem nameTest_of_takeStepName {total : Nat} {text rest : List Char} {name : Option String}
    (h : takeStepName total text = .ok (name, rest)) :
    ∃ test, NameTest test name ∧ text = test ++ rest := by
  rw [takeStepName.eq_def] at h
  split at h
  · next r =>
    obtain ⟨rfl, rfl⟩ : none = name ∧ r = rest := by simpa using h
    exact ⟨['*'], .any, rfl⟩
  · cases htaken : takeName total text with
    | error fault => simp [htaken, Except.map] at h
    | ok taken =>
      obtain ⟨base, r⟩ := taken
      obtain ⟨rfl, rfl⟩ : some base = name ∧ r = rest := by simpa [htaken, Except.map] using h
      obtain ⟨run, hrun, heq, rfl, -⟩ := name_of_takeName htaken
      exact ⟨run, .named hrun, heq⟩

/-- The name of a step is taken whole. -/
theorem takeStepName_append {test rest : List Char} {name : Option String}
    (h : NameTest test name) (hrest : Text.Stops isNameChar rest) (total : Nat) :
    takeStepName total (test ++ rest) = .ok (name, rest) := by
  cases h with
  | any => rfl
  | named hname =>
    rw [takeStepName.eq_def]
    split
    · next r heq =>
      cases test with
      | nil => exact absurd rfl hname.1
      | cons c name =>
        obtain ⟨rfl, -⟩ : c = '*' ∧ name ++ rest = r := by simpa using heq
        have hstar := hname.2 '*' List.mem_cons_self
        rw [isNameChar_star] at hstar
        exact absurd hstar Bool.false_ne_true
    · rw [takeName_append hname hrest total]
      rfl

/-- What is taken as a step is a step. -/
theorem step_of_takeStep {total : Nat} {axis : Axis} {text rest : List Char} {step : Step}
    (h : takeStep total axis text = .ok (step, rest)) :
    ∃ read, StepText axis read step ∧ text = read ++ rest := by
  rw [takeStep] at h
  split at h
  · simp at h
  · next name r hname =>
    obtain ⟨test, htest, rfl⟩ := nameTest_of_takeStepName hname
    cases hmore : takePredicates total r with
    | error fault => simp [hmore, Except.map] at h
    | ok taken =>
      obtain ⟨predicates, r'⟩ := taken
      obtain ⟨rfl, rfl⟩ : Step.mk axis name predicates = step ∧ r' = rest := by
        simpa [hmore, Except.map] using h
      obtain ⟨read, hread, rfl⟩ := predicates_of_takePredicates hmore
      exact ⟨test ++ read, .mk htest hread, by rw [List.append_assoc]⟩

/-- A step is taken whole from in front of a separator or of nothing. -/
theorem takeStep_append {axis : Axis} {read rest : List Char} {step : Step}
    (h : StepText axis read step) (hrest : EndsStep rest) (total : Nat) :
    takeStep total axis (read ++ rest) = .ok (step, rest) := by
  cases h with
  | @mk test text name predicates hname hpredicates =>
    have hstop := stops_predicates hpredicates (hrest.stops isNameChar_slash)
    rw [List.append_assoc, takeStep, takeStepName_append hname hstop total]
    simp only [takePredicates_append hpredicates (hrest.stops rfl) total]
    rfl

/-- A step starts with a star or with a character of names. -/
private theorem StepText.stops_slash {axis : Axis} {read : List Char} {step : Step}
    (h : StepText axis read step) (rest : List Char) :
    ∃ c tail, read ++ rest = c :: tail ∧ c ≠ '/' := by
  cases h with
  | @mk test text name predicates hname _ =>
    cases hname with
    | any => exact ⟨'*', text ++ rest, rfl, by decide⟩
    | named hname =>
      cases test with
      | nil => exact absurd rfl hname.1
      | cons c tail =>
        refine ⟨c, tail ++ text ++ rest, rfl, ?_⟩
        rintro rfl
        have hslash := hname.2 '/' List.mem_cons_self
        rw [isNameChar_slash] at hslash
        exact Bool.false_ne_true hslash

/-- A separator is found where steps follow it. -/
private theorem takeSeparator?_append {first axis : Axis} {read rest : List Char} {step : Step}
    (h : StepText first read step) :
    takeSeparator? (axis.text.toList ++ (read ++ rest)) = some (axis, read ++ rest) := by
  obtain ⟨c, tail, heq, hc⟩ := h.stops_slash rest
  rw [heq]
  cases axis with
  | child =>
    change takeSeparator? ('/' :: c :: tail) = some (.child, c :: tail)
    rw [takeSeparator?.eq_def]
    split
    · next r hr => exact absurd (by simpa using hr : c = '/' ∧ tail = r).1 hc
    · next r _ hr => rw [(by simpa using hr : c :: tail = r)]
    · next hnone => exact absurd rfl (hnone _)
  | descendant => rfl

/-- A separator that is found stands at the start. -/
private theorem eq_of_takeSeparator? {text rest : List Char} {axis : Axis}
    (h : takeSeparator? text = some (axis, rest)) : text = axis.text.toList ++ rest := by
  rw [takeSeparator?.eq_def] at h
  split at h
  · next r =>
    obtain ⟨rfl, rfl⟩ : Axis.descendant = axis ∧ r = rest := by simpa using h
    rfl
  · next r _ =>
    obtain ⟨rfl, rfl⟩ : Axis.child = axis ∧ r = rest := by simpa using h
    rfl
  · simp at h

/-- Steps start like their first one. -/
private theorem StepsText.starts {axis : Axis} {text : List Char} {steps : List Step}
    (h : StepsText axis text steps) :
    ∃ read rest step, text = read ++ rest ∧ StepText axis read step := by
  cases h with
  | single hstep => exact ⟨text, [], _, by simp, hstep⟩
  | cons hstep _ => exact ⟨_, _, _, rfl, hstep⟩

/-- A separator is found in front of steps. -/
private theorem StepsText.takeSeparator?_eq {first axis : Axis} {text : List Char}
    {steps : List Step} (h : StepsText first text steps) :
    takeSeparator? (axis.text.toList ++ text) = some (axis, text) := by
  obtain ⟨read, rest, step, rfl, hstep⟩ := h.starts
  exact takeSeparator?_append hstep

/-- Steps do not start with a separator. -/
private theorem StepsText.starts_with {axis : Axis} {text : List Char} {steps : List Step}
    (h : StepsText axis text steps) : ∃ c tail, text = c :: tail ∧ c ≠ '/' := by
  obtain ⟨read, rest, step, rfl, hstep⟩ := h.starts
  exact hstep.stops_slash rest

/-- What is taken as the steps of a whole expression is steps. -/
theorem steps_of_takeSteps {total : Nat} {axis : Axis} {text : List Char} {steps : List Step}
    (h : takeSteps total axis text = .ok steps) : StepsText axis text steps := by
  fun_induction takeSteps total axis text generalizing steps with
  | case1 | case3 | case4 => simp at h
  | case2 axis text step hstep =>
    obtain ⟨read, hread, rfl⟩ := step_of_takeStep hstep
    obtain rfl : [step] = steps := by simpa using h
    rw [List.append_nil]
    exact .single hread
  | case5 axis text step rest _ hstep next rest' _ hseparator ih =>
    obtain ⟨read, hread, rfl⟩ := step_of_takeStep hstep
    cases hmore : takeSteps total next rest' with
    | error fault => simp [hmore, Except.map] at h
    | ok more =>
      obtain rfl : step :: more = steps := by simpa [hmore, Except.map] using h
      rw [eq_of_takeSeparator? hseparator]
      exact .cons hread (ih hmore)

/-- Steps are taken whole. -/
theorem takeSteps_eq {axis : Axis} {text : List Char} {steps : List Step}
    (h : StepsText axis text steps) (total : Nat) : takeSteps total axis text = .ok steps := by
  induction h with
  | @single axis text step hstep =>
    have htake := takeStep_append hstep (Text.stops_nil _) total
    rw [List.append_nil] at htake
    rw [takeSteps]
    split <;> simp_all
  | @cons axis next text rest step steps hstep hrest ih =>
    have htake := takeStep_append hstep (endsStep_separator next rest) total
    have hseparator : takeSeparator? (next.text.toList ++ rest) = some (next, rest) :=
      hrest.takeSeparator?_eq
    obtain ⟨c, tail, hstart, -⟩ := hrest.starts_with
    rw [takeSteps]
    split
    · next hfault => simp [htake] at hfault
    · next hend =>
      have hnil : next.text.toList ++ rest = [] := by
        injection htake.symm.trans hend with hpair
        exact congrArg Prod.snd hpair
      simp [hstart] at hnil
    · next taken left _ htaken =>
      obtain ⟨rfl, rfl⟩ : step = taken ∧ next.text.toList ++ rest = left := by
        simpa [htake] using htaken
      split
      · next hnone => simp [hseparator] at hnone
      · next axis' hend =>
        obtain ⟨-, rfl⟩ : next = axis' ∧ rest = [] := by simpa [hseparator] using hend
        exact absurd hstart (by simp)
      · next axis' rest' _ hfound =>
        obtain ⟨rfl, rfl⟩ : next = axis' ∧ rest = rest' := by simpa [hseparator] using hfound
        rw [ih]
        rfl

/-! ## Whole expressions -/

/-- The expressions without white space around them that are read are the path queries, each as
the path it stands for. -/
theorem ofChars_eq_ok_iff {text : List Char} {path : Path} :
    Path.ofChars text = .ok path ↔ PathText text path := by
  constructor
  · intro h
    rw [Path.ofChars] at h
    split at h
    · simp at h
    · split at h
      · next axis rest hseparator =>
        cases hsteps : takeSteps text.length axis rest with
        | error fault => simp [hsteps, Except.map] at h
        | ok steps =>
          obtain rfl : Path.mk true steps = path := by simpa [hsteps, Except.map] using h
          rw [eq_of_takeSeparator? hseparator]
          exact .absolute (steps_of_takeSteps hsteps)
      · cases hsteps : takeSteps text.length .child text with
        | error fault => simp [hsteps, Except.map] at h
        | ok steps =>
          obtain rfl : Path.mk false steps = path := by simpa [hsteps, Except.map] using h
          exact .relative (steps_of_takeSteps hsteps)
  · intro h
    cases h with
    | relative h =>
      obtain ⟨c, tail, rfl, hc⟩ := h.starts_with
      have hnone : takeSeparator? (c :: tail) = none := by
        rw [takeSeparator?.eq_def]
        split <;> simp_all
      rw [Path.ofChars, hnone]
      simp [takeSteps_eq h, Except.map]
    | @absolute axis text steps h =>
      have hne : (axis.text.toList ++ text).isEmpty = false := by cases axis <;> rfl
      rw [Path.ofChars, h.takeSeparator?_eq, hne]
      simp [takeSteps_eq h, Except.map]

/-- An expression stands for one path at most. -/
theorem PathText.unique {text : List Char} {path other : Path} (h : PathText text path)
    (hother : PathText text other) : path = other := by
  have heq := (ofChars_eq_ok_iff.mpr h).symm.trans (ofChars_eq_ok_iff.mpr hother)
  injection heq

end ReleaseStaging.Query
