import ReleaseStaging.Proofs.Report.Content

/-!
# What elements and documents say

The documents of the server say things by children of given names. `Says` and `Lacks` speak of the
first child of a name and of its text, and reading a text from a report is finding what the element
says, or that it lacks the child. `Tells` speaks in the same way of the first element that names
lead to from the document, where truth values are read.
-/

namespace ReleaseStaging

open Query (Site)

/-! ## What elements say -/

namespace Xml.Node

/-- The first child of a name has a text, not counting the white space around it. -/
def Says (node : Node) (name text : String) : Prop :=
  ∃ child, IsFirst (fun child => child.isNamed name = true) node.children child ∧
    Text.trimmed child.stringValue = text

/-- There is no child of a name. -/
def Lacks (node : Node) (name : String) : Prop :=
  ∀ child ∈ node.children, ¬ child.isNamed name = true

/-- The first child of a name says a time; a text that is no time says none. -/
def SaysTime (node : Node) (name : String) (time : Option Calendar.Instant) : Prop :=
  ∀ instant, time = some instant ↔
    ∃ text, node.Says name text ∧ Calendar.instant? text = some instant

variable {node : Node} {name : String}

theorem text?_eq_some_iff {text : String} : node.text? name = some text ↔ node.Says name text := by
  rw [text?, childrenNamed, List.head?_filter, Option.map_eq_some_iff]
  simp only [find?_eq_some_iff_isFirst, Says]

theorem text?_eq_none_iff : node.text? name = none ↔ node.Lacks name := by
  simp [text?, childrenNamed, Lacks]

/-- Something is said, or there is no child to say it. -/
theorem exists_says_iff : (∃ text, node.Says name text) ↔ ¬node.Lacks name := by
  simp only [← text?_eq_some_iff, ← text?_eq_none_iff, Option.ne_none_iff_exists']

/-- The text of a child that may be missing. -/
theorem getD_text?_eq_iff {text : String} :
    (node.text? name).getD "" = text ↔ node.Says name text ∨ node.Lacks name ∧ text = "" := by
  rw [← text?_eq_some_iff, ← text?_eq_none_iff]
  cases node.text? name <;> simp [eq_comm]

theorem time?_eq_iff {time : Option Calendar.Instant} :
    node.time? name = time ↔ node.SaysTime name time := by
  have hsome (instant : Calendar.Instant) : node.time? name = some instant ↔
      ∃ text, node.Says name text ∧ Calendar.instant? text = some instant := by
    rw [time?, Option.bind_eq_some_iff]
    simp only [text?_eq_some_iff]
  rw [Option.ext_iff, SaysTime]
  simp only [hsome]
  exact forall_congr' fun instant => iff_comm

end Xml.Node

/-! ## What documents say -/

namespace Xml.Document

/-- The first element that names lead to from a document has a text, not counting the white space
around it. -/
def Tells (document : Document) (names : List String) (text : String) : Prop :=
  ∃ site, Query.IsEarliest ((Site.ofDocument document).Reaches names) site ∧
    Text.trimmed site.node.stringValue = text

end Xml.Document

/-! ## What is read -/

namespace Report

variable (report : Report) {site : Site} {name : String}

theorem requiredText_eq_ok_iff {text : String} :
    report.requiredText site (.below [name]) = .ok text ↔ site.node.Says name text := by
  rw [requiredText, text?_below, ← Xml.Node.text?_eq_some_iff]
  cases site.node.text? name <;> simp

/-- A text that is required is missing if there is no child of its name. -/
theorem failsExactly_requiredText : FailsExactly (report.missing (.below [name]))
    (site.node.Lacks name) (report.requiredText site (.below [name])) := by
  intro failure
  rw [requiredText, text?_below, ← Xml.Node.text?_eq_none_iff]
  cases site.node.text? name <;> simp [eq_comm]

variable {report} {names : List String}

/-- The text that names lead to is what the document tells there. -/
theorem text?_fromTop_eq_some_iff {text : String} :
    report.text? report.root (.fromTop names) = some text ↔ report.document.Tells names text := by
  have hall : Query.AreAll ((Site.ofDocument report.document).Reaches names)
      (report.select report.root (.fromTop names)) := Query.areAll_select_fromTop _ _ _
  simp only [text?, rawText?, Option.map_map, Option.map_eq_some_iff, hall.head?_eq_some_iff]
  rfl

/-- A truth value is read where the document tells one of the two words. -/
theorem requiredBool_fromTop_eq_ok_iff {value : Bool} :
    report.requiredBool (.fromTop names) = .ok value ↔
      report.document.Tells names (if value then "true" else "false") := by
  rw [requiredBool, requiredText, ← text?_fromTop_eq_some_iff]
  cases report.text? report.root (.fromTop names) with
  | none => simp
  | some text =>
    by_cases htrue : text = "true"
    · subst htrue
      cases value <;> simp
    · by_cases hfalse : text = "false"
      · subst hfalse
        cases value <;> simp
      · cases value <;> simp [htrue, hfalse]

end Report

end ReleaseStaging
