import ReleaseStaging.Proofs.Text.Scanning
import ReleaseStaging.Query.Reader

/-!
# The grammar of path queries

Which expressions are path queries, and which path each of them stands for, by rules that know
nothing of a reader:

```text
query     := ["/" | "//"] step (("/" | "//") step)*
step      := (name | "*") predicate*
predicate := "[" gap (position | "last" gap "()" | name | name gap "=" gap literal) gap "]"
literal   := "'" chars "'" | '"' chars '"'
```

A name is a run of letters, numbers and the marks `_ - . :`, and one in a predicate does not start
with an ASCII digit; a position is a run of ASCII digits whose value is positive and fits into 64
bits; a gap is white space or nothing.
-/

namespace ReleaseStaging.Query

/-- White space, or nothing. -/
def IsGap (text : List Char) : Prop := ∀ c ∈ text, Text.isBlank c = true

theorem isGap_nil : IsGap [] := fun _ hc => absurd hc List.not_mem_nil

/-- A run of characters of names. -/
def IsName (text : List Char) : Prop := text ≠ [] ∧ ∀ c ∈ text, isNameChar c = true

instance (text : List Char) : Decidable (IsName text) :=
  decidable_of_iff (text ≠ [] ∧ text.all isNameChar = true)
    (and_congr_right fun _ => List.all_eq_true)

/-- A name in a predicate, where a digit would start a position. -/
def IsChildName (text : List Char) : Prop :=
  IsName text ∧ Text.Stops Char.isDigit text

/-- A quoted literal; its quote does not occur in it. -/
inductive LiteralText : List Char → String → Prop
  | quoted {quote : Char} {content : List Char} (hquote : quote = '\'' ∨ quote = '"')
      (hcontent : quote ∉ content) :
      LiteralText (quote :: (content ++ [quote])) (String.ofList content)

/-- What stands in the brackets of a predicate, without the gaps at its ends. -/
inductive ConditionText : List Char → Predicate → Prop
  | position {digits : List Char} (hdigits : ∀ c ∈ digits, c.isDigit = true)
      (hpos : 0 < Text.decimalValue digits) (hlt : Text.decimalValue digits < UInt64.size) :
      ConditionText digits (.position (Text.decimalValue digits))
  | last {gap : List Char} (hgap : IsGap gap) :
      ConditionText (['l', 'a', 's', 't'] ++ (gap ++ ['(', ')'])) .last
  | hasChild {name : List Char} (hname : IsChildName name) :
      ConditionText name (.hasChild (String.ofList name))
  | childEquals {name before after quoted : List Char} {literal : String}
      (hname : IsChildName name) (hbefore : IsGap before) (hafter : IsGap after)
      (hliteral : LiteralText quoted literal) :
      ConditionText (name ++ (before ++ '=' :: (after ++ quoted)))
        (.childEquals (String.ofList name) literal)

/-- A predicate in its brackets. -/
inductive PredicateText : List Char → Predicate → Prop
  | bracketed {before condition after : List Char} {predicate : Predicate} (hbefore : IsGap before)
      (hcondition : ConditionText condition predicate) (hafter : IsGap after) :
      PredicateText ('[' :: (before ++ (condition ++ (after ++ [']'])))) predicate

/-- Predicates one after another. -/
inductive PredicatesText : List Char → List Predicate → Prop
  | nil : PredicatesText [] []
  | cons {text rest : List Char} {predicate : Predicate} {predicates : List Predicate}
      (h : PredicateText text predicate) (hrest : PredicatesText rest predicates) :
      PredicatesText (text ++ rest) (predicate :: predicates)

/-- The name that a step asks for. -/
inductive NameTest : List Char → Option String → Prop
  | any : NameTest ['*'] none
  | named {name : List Char} (hname : IsName name) : NameTest name (some (String.ofList name))

/-- A step without its separator. -/
inductive StepText (axis : Axis) : List Char → Step → Prop
  | mk {test text : List Char} {name : Option String} {predicates : List Predicate}
      (hname : NameTest test name) (hpredicates : PredicatesText text predicates) :
      StepText axis (test ++ text) ⟨axis, name, predicates⟩

/-- Steps with the separators between them; the axis of the first one is given. -/
inductive StepsText : Axis → List Char → List Step → Prop
  | single {axis : Axis} {text : List Char} {step : Step} (h : StepText axis text step) :
      StepsText axis text [step]
  | cons {axis next : Axis} {text rest : List Char} {step : Step} {steps : List Step}
      (h : StepText axis text step) (hrest : StepsText next rest steps) :
      StepsText axis (text ++ (next.text.toList ++ rest)) (step :: steps)

/-- The expression of a path, without white space around it. -/
inductive PathText : List Char → Path → Prop
  | relative {text : List Char} {steps : List Step} (h : StepsText .child text steps) :
      PathText text ⟨false, steps⟩
  | absolute {axis : Axis} {text : List Char} {steps : List Step} (h : StepsText axis text steps) :
      PathText (axis.text.toList ++ text) ⟨true, steps⟩

/-! ## Characters -/

/-- The code points of white space. -/
private def blankCodes : List Nat :=
  [9, 10, 11, 12, 13, 32, 0x85, 0xA0, 0x1680, 0x2000, 0x2001, 0x2002, 0x2003, 0x2004, 0x2005,
    0x2006, 0x2007, 0x2008, 0x2009, 0x200A, 0x2028, 0x2029, 0x202F, 0x205F, 0x3000]

private theorem isNameChar_blankCodes :
    ∀ n ∈ blankCodes, isNameChar (Char.ofNat n) = false := by
  decide +kernel

/-- White space stands in no name. -/
theorem isNameChar_of_isBlank {c : Char} (h : Text.isBlank c = true) : isNameChar c = false := by
  have hmem : c.toNat ∈ blankCodes := by
    simp only [Text.isBlank, Bool.or_eq_true, Bool.and_eq_true, decide_eq_true_eq] at h
    simp only [blankCodes, List.mem_cons, List.not_mem_nil, or_false]
    omega
  simpa using isNameChar_blankCodes c.toNat hmem

theorem isBlank_of_isNameChar {c : Char} (h : isNameChar c = true) : Text.isBlank c = false := by
  cases hblank : Text.isBlank c with
  | false => rfl
  | true => rw [isNameChar_of_isBlank hblank] at h; exact h.symm

/-- A digit may stand in a name. -/
theorem isNameChar_of_isDigit {c : Char} (h : c.isDigit = true) : isNameChar c = true := by
  have hdigit := h
  simp only [Char.isDigit, Bool.and_eq_true, decide_eq_true_eq] at hdigit
  have hascii : c.toNat < 128 := Nat.lt_of_le_of_lt hdigit.2 (by decide)
  simp [isNameChar, Text.isAlphanumeric, hascii, Char.isAlphanum, h]

end ReleaseStaging.Query
