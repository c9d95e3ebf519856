import ReleaseStaging.Query.Path
import ReleaseStaging.Text.Alphanumeric
import ReleaseStaging.Text.Blank
import ReleaseStaging.Text.Number

/-!
# Reading path queries

`Path.ofText` reads an expression of the query language:

* a query is steps separated by `/` or `//`; one of them may also stand in front and anchors the
  query at the document;
* a step is a name or `*`, and then predicates in brackets;
* a predicate is a position, `last()`, a name, or a name, `=` and a literal in quotes; white space
  may stand just inside the brackets, around `=`, and between `last` and its parenthesis.

Positions in faults count characters of the expression without the white space around it.
-/

namespace ReleaseStaging.Query

/-- Why an expression is no path query. -/
inductive Fault where
  /-- Nothing but white space. -/
  | empty
  /-- No name where one must stand. -/
  | nameExpected (position : Nat)
  /-- Something other than a separator after a step. -/
  | unexpectedCharacter (position : Nat)
  /-- A separator at the end. -/
  | trailingSeparator
  /-- A position that is zero or does not fit into 64 bits. -/
  | invalidPosition (digits : String)
  /-- No closing parenthesis after `last(`. -/
  | lastUnclosed
  /-- The expression ends inside a bracket. -/
  | unterminatedPredicate
  /-- No closing bracket after a predicate. -/
  | bracketExpected
  /-- No quote where a literal must stand. -/
  | literalExpected
  /-- A literal without its closing quote. -/
  | unterminatedLiteral
  deriving DecidableEq, Repr

/-- The wording of a fault. -/
def Fault.message : Fault → String
  | empty => "empty expression"
  | nameExpected position => s!"expected a name at {position}"
  | unexpectedCharacter position => s!"unexpected character at {position}"
  | trailingSeparator => "trailing separator"
  | invalidPosition digits => s!"invalid position '{digits}'"
  | lastUnclosed => "expected ')' after 'last('"
  | unterminatedPredicate => "unterminated predicate"
  | bracketExpected => "expected ']'"
  | literalExpected => "expected a quoted literal"
  | unterminatedLiteral => "unterminated literal"

/-- The characters of a name. -/
def isNameChar (c : Char) : Bool :=
  Text.isAlphanumeric c || c = '_' || c = '-' || c = '.' || c = ':'

/-- The name at the start of the characters; `total` is the length of the whole expression. -/
def takeName (total : Nat) (text : List Char) : Except Fault (String × List Char) :=
  let name := text.takeWhile isNameChar
  if name.isEmpty then .error (.nameExpected (total - text.length))
  else .ok (String.ofList name, text.dropWhile isNameChar)

/-- The literal at the start of the characters. -/
def takeLiteral (text : List Char) : Except Fault (String × List Char) :=
  match text with
  | quote :: text =>
    if quote = '\'' || quote = '"' then
      match Text.upTo (fun _ => true) [quote] text with
      | some (literal, rest) => .ok (String.ofList literal, rest)
      | none => .error .unterminatedLiteral
    else .error .literalExpected
  | [] => .error .literalExpected

/-- The position at the start of the characters. -/
def takePosition (text : List Char) : Except Fault (Predicate × List Char) :=
  let digits := text.takeWhile Char.isDigit
  let index := Text.decimalValue digits
  if 0 < index && index < UInt64.size then .ok (.position index, text.dropWhile Char.isDigit)
  else .error (.invalidPosition (String.ofList digits))

/-- The condition that starts with a name. -/
def takeNamed (total : Nat) (text : List Char) : Except Fault (Predicate × List Char) :=
  match takeName total text with
  | .error fault => .error fault
  | .ok (name, rest) =>
    match rest.dropWhile Text.isBlank with
    | '(' :: rest =>
      if name = "last" then
        match rest with
        | ')' :: rest => .ok (.last, rest)
        | _ => .error .lastUnclosed
      else .ok (.hasChild name, '(' :: rest)
    | '=' :: rest =>
      (takeLiteral (rest.dropWhile Text.isBlank)).map fun (literal, rest) =>
        (.childEquals name literal, rest)
    | rest => .ok (.hasChild name, rest)

/-- The condition inside a bracket. -/
def takeCondition (total : Nat) (text : List Char) : Except Fault (Predicate × List Char) :=
  match text with
  | [] => .error .unterminatedPredicate
  | c :: _ => if c.isDigit then takePosition text else takeNamed total text

/-- The predicate after an opening bracket, with its closing bracket. -/
def takePredicate (total : Nat) (text : List Char) : Except Fault (Predicate × List Char) :=
  match takeCondition total (text.dropWhile Text.isBlank) with
  | .error fault => .error fault
  | .ok (predicate, rest) =>
    match rest.dropWhile Text.isBlank with
    | ']' :: rest => .ok (predicate, rest)
    | _ => .error .bracketExpected

/-! ## What is taken leaves fewer characters -/

theorem length_lt_of_takeName {total : Nat} {text rest : List Char} {name : String}
    (h : takeName total text = .ok (name, rest)) : rest.length < text.length := by
  simp only [takeName] at h
  split at h
  · simp at h
  · next hne =>
    obtain ⟨_, rfl⟩ : _ ∧ text.dropWhile isNameChar = rest := by simpa using h
    exact Text.length_dropWhile_lt (by simpa using hne)

theorem length_lt_of_takeLiteral {text rest : List Char} {literal : String}
    (h : takeLiteral text = .ok (literal, rest)) : rest.length < text.length := by
  cases text with
  | nil => simp [takeLiteral] at h
  | cons quote text =>
    simp only [takeLiteral] at h
    split at h
    · split at h
      · next _ r hcut =>
        obtain ⟨_, rfl⟩ : _ ∧ r = rest := by simpa using h
        have := Text.length_lt_of_upTo (by simp) hcut
        simp only [List.length_cons]
        omega
      · simp at h
    · simp at h

theorem length_le_of_takePosition {text rest : List Char} {predicate : Predicate}
    (h : takePosition text = .ok (predicate, rest)) : rest.length ≤ text.length := by
  simp only [takePosition] at h
  split at h
  · obtain ⟨_, rfl⟩ : _ ∧ text.dropWhile Char.isDigit = rest := by simpa using h
    exact Text.length_dropWhile_le _ _
  · simp at h

theorem length_le_of_takeNamed {total : Nat} {text rest : List Char} {predicate : Predicate}
    (h : takeNamed total text = .ok (predicate, rest)) : rest.length ≤ text.length := by
  rw [takeNamed] at h
  split at h
  · simp at h
  · next name r hname =>
    have hr := length_lt_of_takeName hname
    have hle := Text.length_dropWhile_le Text.isBlank r
    split at h
    · next r' heq =>
      rw [heq, List.length_cons] at hle
      split at h
      · split at h
        · next r'' =>
          obtain ⟨_, rfl⟩ : _ ∧ r'' = rest := by simpa using h
          simp only [List.length_cons] at hle
          omega
        · simp at h
      · obtain ⟨_, rfl⟩ : _ ∧ '(' :: r' = rest := by simpa using h
        simp only [List.length_cons]
        omega
    · next r' heq =>
      rw [heq, List.length_cons] at hle
      have hblank := Text.length_dropWhile_le Text.isBlank r'
      cases hliteral : takeLiteral (r'.dropWhile Text.isBlank) with
      | error fault => simp [hliteral, Except.map] at h
      | ok taken =>
        obtain ⟨literal, r''⟩ := taken
        have := length_lt_of_takeLiteral hliteral
        obtain ⟨_, rfl⟩ : _ ∧ r'' = rest := by simpa [hliteral, Except.map] using h
        omega
    · obtain ⟨_, rfl⟩ : _ ∧ r.dropWhile Text.isBlank = rest := by simpa using h
      omega

theorem length_lt_of_takePredicate {total : Nat} {text rest : List Char} {predicate : Predicate}
    (h : takePredicate total text = .ok (predicate, rest)) : rest.length < text.length := by
  rw [takePredicate] at h
  split at h
  · simp at h
  · next taken r htaken =>
    have hblank := Text.length_dropWhile_le Text.isBlank text
    have hle := Text.length_dropWhile_le Text.isBlank r
    have hr : r.length ≤ (text.dropWhile Text.isBlank).length := by
      rw [takeCondition.eq_def] at htaken
      split at htaken
      · simp at htaken
      · split at htaken
        · exact length_le_of_takePosition htaken
        · exact length_le_of_takeNamed htaken
    split at h
    · next r' heq =>
      rw [heq, List.length_cons] at hle
      obtain ⟨_, rfl⟩ : _ ∧ r' = rest := by simpa using h
      omega
    · simp at h

/-! ## Steps -/

/-- The predicates at the start of the characters. -/
def takePredicates (total : Nat) (text : List Char) :
    Except Fault (List Predicate × List Char) :=
  match text with
  | '[' :: inner =>
    match _h : takePredicate total inner with
    | .error fault => .error fault
    | .ok (predicate, rest) =>
      (takePredicates total rest).map fun (more, rest) => (predicate :: more, rest)
  | _ => .ok ([], text)
termination_by text.length
decreasing_by
  have := length_lt_of_takePredicate _h
  simp only [List.length_cons]
  omega

theorem length_le_of_takePredicates {total : Nat} {text rest : List Char}
    {predicates : List Predicate} (h : takePredicates total text = .ok (predicates, rest)) :
    rest.length ≤ text.length := by
  fun_induction takePredicates total text generalizing predicates rest with
  | case1 => simp at h
  | case2 inner predicate r hr ih =>
    cases hmore : takePredicates total r with
    | error fault => simp [hmore, Except.map] at h
    | ok taken =>
      obtain ⟨more, r'⟩ := taken
      have hle := ih hmore
      have hlt := length_lt_of_takePredicate hr
      obtain ⟨_, rfl⟩ : _ ∧ r' = rest := by simpa [hmore, Except.map] using h
      simp only [List.length_cons]
      omega
  | case3 text =>
    obtain ⟨_, rfl⟩ : _ ∧ text = rest := by simpa using h
    exact Nat.le_refl _

/-- The name of a step; none stands for any name. -/
def takeStepName (total : Nat) (text : List Char) : Except Fault (Option String × List Char) :=
  match text with
  | '*' :: rest => .ok (none, rest)
  | _ => (takeName total text).map fun (name, rest) => (some name, rest)

/-- The step at the start of the characters, on the given axis. -/
def takeStep (total : Nat) (axis : Axis) (text : List Char) : Except Fault (Step × List Char) :=
  match takeStepName total text with
  | .error fault => .error fault
  | .ok (name, rest) =>
    (takePredicates total rest).map fun (predicates, rest) => (⟨axis, name, predicates⟩, rest)

theorem length_lt_of_takeStep {total : Nat} {axis : Axis} {text rest : List Char} {step : Step}
    (h : takeStep total axis text = .ok (step, rest)) : rest.length < text.length := by
  rw [takeStep] at h
  split at h
  · simp at h
  · next name r hname =>
    have hr : r.length < text.length := by
      rw [takeStepName.eq_def] at hname
      split at hname
      · next r' =>
        obtain ⟨_, rfl⟩ : _ ∧ r' = r := by simpa using hname
        simp
      · cases htaken : takeName total text with
        | error fault => simp [htaken, Except.map] at hname
        | ok taken =>
          obtain ⟨base, r'⟩ := taken
          obtain ⟨_, rfl⟩ : _ ∧ r' = r := by simpa [htaken, Except.map] using hname
          exact length_lt_of_takeName htaken
    cases hmore : takePredicates total r with
    | error fault => simp [hmore, Except.map] at h
    | ok taken =>
      obtain ⟨predicates, r'⟩ := taken
      have hle := length_le_of_takePredicates hmore
      obtain ⟨_, rfl⟩ : _ ∧ r' = rest := by simpa [hmore, Except.map] using h
      omega

/-- The separator at the start of the characters, if there is one. -/
def takeSeparator? : List Char → Option (Axis × List Char)
  | '/' :: '/' :: rest => some (.descendant, rest)
  | '/' :: rest => some (.child, rest)
  | _ => none

theorem length_lt_of_takeSeparator? {text rest : List Char} {axis : Axis}
    (h : takeSeparator? text = some (axis, rest)) : rest.length < text.length := by
  rw [takeSeparator?.eq_def] at h
  split at h
  · next r =>
    obtain ⟨_, rfl⟩ : _ ∧ r = rest := by simpa using h
    simp only [List.length_cons]
    omega
  · next r _ =>
    obtain ⟨_, rfl⟩ : _ ∧ r = rest := by simpa using h
    simp
  · simp at h

/-- The steps of a whole expression, the first one on the given axis. -/
def takeSteps (total : Nat) (axis : Axis) (text : List Char) : Except Fault (List Step) :=
  match _h : takeStep total axis text with
  | .error fault => .error fault
  | .ok (step, []) => .ok [step]
  | .ok (step, rest) =>
    match _hs : takeSeparator? rest with
    | none => .error (.unexpectedCharacter (total - rest.length))
    | some (_, []) => .error .trailingSeparator
    | some (axis, rest') => (takeSteps total axis rest').map (step :: ·)
termination_by text.length
decreasing_by
  have := length_lt_of_takeStep _h
  have := length_lt_of_takeSeparator? _hs
  omega

/-- The path that an expression without white space around it holds. -/
def Path.ofChars (text : List Char) : Except Fault Path :=
  if text.isEmpty then .error .empty
  else match takeSeparator? text with
    | some (axis, rest) => (takeSteps text.length axis rest).map fun steps => ⟨true, steps⟩
    | none => (takeSteps text.length .child text).map fun steps => ⟨false, steps⟩

/-- The path that an expression holds. -/
def Path.ofText (expression : String) : Except Fault Path :=
  ofChars (Text.trim expression.toList)

end ReleaseStaging.Query
