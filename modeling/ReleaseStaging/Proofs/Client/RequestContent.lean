import ReleaseStaging.Proofs.Client.RequestBody
import ReleaseStaging.Proofs.Xml.Outline

/-!
# What a request holds

Whatever the name of a stage and a description say, and whatever markup they hold, the request is
one and the same tree of elements around them, and each is read back with its line ends read.
Main statement: `request_holds_its_texts`.
-/

namespace ReleaseStaging

open Xml

/-- A text that was quoted comes back with its line ends read, and so as it is exactly if it holds
no carriage return. -/
structure ComesBack (text read : String) : Prop where
  /-- Only the line ends are read. -/
  lineEnds : ReadsLineEnds text.toList read.toList
  /-- Without a carriage return nothing changes. -/
  verbatim : read = text ↔ '\r' ∉ text.toList

/-- A text, or none, is what a body holds at an expression. -/
def HoldsAt (body expression : String) (text : Option String) : Prop :=
  ∃ read, textAt body expression = .ok read ∧ Option.Rel ComesBack text read

theorem comesBack_lineEnds (text : String) :
    ComesBack text (String.ofList (lineEnds text.toList)) := by
  constructor
  · rw [String.toList_ofList]
    exact readsLineEnds_lineEnds text.toList
  · exact ofList_lineEnds_eq_iff

/-- The outline of a request document, for any texts. -/
theorem outlines_requestDocument (stageId : String) (description : Option String) :
    Node.outlines (requestDocument stageId description).topNodes =
      [.element "promoteRequest" [.element "data" (.element "stagedRepositoryId" [] ::
        description.toList.map fun _ => .element "description" [])]] := by
  have hquoted (text : List Char) : Node.outlines (quotedNodes text) = [] := by
    rw [quotedNodes, ← Node.outlines_texts ((sections text).map fun content =>
      String.ofList (lineEnds content)), List.map_map]
    rfl
  cases description with
  | none =>
    simp [Document.topNodes, Document.root, requestDocument, requestFields, Node.outlines,
      Node.outline, hquoted]
  | some text =>
    simp [Document.topNodes, Document.root, requestDocument, requestFields, Node.outlines,
      Node.outline, hquoted]

/-- The body of a transition is a document exactly if its texts hold characters of XML 1.0 only.
Then its elements are the same for all texts, the one for the description being there if there is
one, and both texts are read back with their line ends read. -/
theorem request_holds_its_texts (stageId : String) (description : Option String) :
    (IsDocument (promoteRequest stageId description) ↔
      ∀ text ∈ requestTexts stageId description, ∀ c ∈ text.toList, IsDocumentChar c) ∧
    ∀ document, Document.ofString? (promoteRequest stageId description) = some document →
      Node.outlines document.topNodes =
        [.element "promoteRequest" [.element "data" (.element "stagedRepositoryId" [] ::
          description.toList.map fun _ => .element "description" [])]] ∧
      HoldsAt (promoteRequest stageId description) "/promoteRequest/data/stagedRepositoryId"
        (some stageId) ∧
      HoldsAt (promoteRequest stageId description) "/promoteRequest/data/description"
        description := by
  constructor
  · simp only [isDocument_promoteRequest_iff, isXmlChar_iff]
  · intro document hdocument
    rw [ofString?_promoteRequest] at hdocument
    by_cases hreadable : areReadable stageId description = true
    · rw [if_pos hreadable, Option.some.injEq] at hdocument
      subst hdocument
      refine ⟨outlines_requestDocument stageId description, ?_, ?_⟩
      · exact ⟨_, textAt_stagedRepositoryId hreadable, .some (comesBack_lineEnds stageId)⟩
      · refine ⟨_, textAt_description hreadable, ?_⟩
        cases description with
        | none => exact .none
        | some text => exact .some (comesBack_lineEnds text)
    · rw [if_neg hreadable] at hdocument
      cases hdocument

/-- Texts that hold the end of a section, an element and both kinds of line ends do not change what
the request is made of. -/
theorem request_holds_its_texts_marked :
    ∃ document, Document.ofString? (promoteRequest "]]>\r" (some "<data/>\r\n")) = some document ∧
      Node.outlines document.topNodes =
        [.element "promoteRequest" [.element "data" [.element "stagedRepositoryId" [],
          .element "description" []]]] ∧
      HoldsAt (promoteRequest "]]>\r" (some "<data/>\r\n"))
        "/promoteRequest/data/stagedRepositoryId" (some "]]>\r") ∧
      HoldsAt (promoteRequest "]]>\r" (some "<data/>\r\n")) "/promoteRequest/data/description"
        (some "<data/>\r\n") := by
  have hchars : ∀ text ∈ requestTexts "]]>\r" (some "<data/>\r\n"),
      ∀ c ∈ text.toList, IsDocumentChar c := by
    have hall : (requestTexts "]]>\r" (some "<data/>\r\n")).all
        (fun text => text.toList.all isXmlChar) = true := by decide
    simpa only [List.all_eq_true, isXmlChar_iff] using hall
  obtain ⟨hdocument, hholds⟩ := request_holds_its_texts "]]>\r" (some "<data/>\r\n")
  obtain ⟨document, hread⟩ := hdocument.mpr hchars
  exact ⟨document, hread, hholds document hread⟩

end ReleaseStaging
