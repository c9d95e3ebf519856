import ReleaseStaging.PromoteRequest
import ReleaseStaging.Proofs.Query.Plain
import ReleaseStaging.Proofs.Xml.Markup

/-!
# The request document

The document that requests a transition names the stage and perhaps describes the transition, each
as quoted text in an element. It can be read exactly if all characters of both texts may stand in a
document, and then it is always the same tree around the two texts. What is read at one of the
elements is its text with the line ends read.
-/

namespace ReleaseStaging

open Xml

/-! ## The document -/

/-- The elements that the body of a transition holds, with their texts. -/
def requestFields (stageId : String) (description : Option String) :
    List (List Char × List Char) :=
  ("stagedRepositoryId".toList, stageId.toList) ::
    (description.toList.map fun text => ("description".toList, text.toList))

/-- The body of a transition after its XML declaration. -/
private def requestMarkup (stageId : String) (description : Option String) : List Char :=
  '\n' :: elementText "promoteRequest".toList (elementText "data".toList
    ((requestFields stageId description).flatMap fun field =>
      elementText field.1 (quotations field.2)))

/-- The document that the body of a transition holds. -/
def requestDocument (stageId : String) (description : Option String) : Document :=
  ⟨[], "promoteRequest", [.element "data" ((requestFields stageId description).map fun field =>
    .element (String.ofList field.1) (quotedNodes field.2))], []⟩

/-- The XML declaration. -/
private def declaration : List Char := "<?xml version=\"1.0\" encoding=\"UTF-8\"?>".toList

/-- Everything before the text that names the stage. -/
private def requestHead : String :=
  "<?xml version=\"1.0\" encoding=\"UTF-8\"?>\n<promoteRequest><data><stagedRepositoryId>"

/-- Everything after the last field. -/
private def requestEnd : String := "</data></promoteRequest>"

private theorem body?_declaration (rest : List Char) : body? (declaration ++ rest) = some rest :=
  rfl

private theorem toList_requestHead : requestHead.toList =
    declaration ++ '\n' :: '<' :: ("promoteRequest".toList ++ '>' :: '<' :: ("data".toList ++
      '>' :: '<' :: ("stagedRepositoryId".toList ++ ['>']))) := by
  decide

private theorem toList_requestEnd : requestEnd.toList =
    '<' :: '/' :: ("data".toList ++ '>' :: '<' :: '/' :: ("promoteRequest".toList ++ ['>'])) := by
  decide

/-- The element of a field as a text. -/
private theorem toList_field (openTag closeTag : String) {name : List Char} (text : String)
    (hopen : openTag.toList = '<' :: (name ++ ['>']))
    (hclose : closeTag.toList = '<' :: '/' :: (name ++ ['>'])) :
    (openTag ++ quoted text ++ closeTag).toList = elementText name (quotations text.toList) := by
  rw [String.toList_append, String.toList_append, hopen, hclose, quoted, String.toList_ofList]
  simp [elementText]

/-- The body of a transition is its XML declaration and the elements that hold its fields. -/
private theorem toList_promoteRequest (stageId : String) (description : Option String) :
    (promoteRequest stageId description).toList =
      declaration ++ requestMarkup stageId description := by
  have hdescribed (text : String) :
      ("<description>" ++ quoted text ++ "</description>").toList =
        elementText "description".toList (quotations text.toList) :=
    toList_field _ _ text (by decide) (by decide)
  have hclose : "</stagedRepositoryId>".toList =
      '<' :: '/' :: ("stagedRepositoryId".toList ++ ['>']) := by decide
  cases description with
  | none =>
    change (requestHead ++ quoted stageId ++ "</stagedRepositoryId>" ++ "" ++ requestEnd).toList = _
    simp only [String.toList_append, toList_requestHead, toList_requestEnd, hclose, quoted,
      String.toList_ofList, String.toList_empty, requestMarkup, requestFields, elementText,
      Option.toList_none, List.map_nil, List.flatMap_cons, List.flatMap_nil, List.append_assoc,
      List.cons_append, List.nil_append]
  | some text =>
    change (requestHead ++ quoted stageId ++ "</stagedRepositoryId>" ++
      ("<description>" ++ quoted text ++ "</description>") ++ requestEnd).toList = _
    rw [String.toList_append, String.toList_append, hdescribed]
    simp only [String.toList_append, toList_requestHead, toList_requestEnd, hclose, quoted,
      String.toList_ofList, requestMarkup, requestFields, elementText,
      Option.toList_some, List.map_cons, List.map_nil, List.flatMap_cons, List.flatMap_nil,
      List.append_assoc, List.cons_append, List.nil_append]

/-- The pieces of markup of the body of a transition. -/
private def requestTokens (stageId : String) (description : Option String) : List Token :=
  .text ['\n'] :: .startTag ⟨[], "promoteRequest".toList⟩ [] false ::
    .startTag ⟨[], "data".toList⟩ [] false ::
      (((requestFields stageId description).flatMap fun field => quotedTokens field.1 field.2) ++
        [.endTag ⟨[], "data".toList⟩, .endTag ⟨[], "promoteRequest".toList⟩])

/-- Whether all characters of the texts of a transition may stand in a document. -/
def areReadable (stageId : String) (description : Option String) : Bool :=
  (requestFields stageId description).all fun field => field.2.all isXmlChar

private theorem isPlainName_promoteRequest : IsPlainName "promoteRequest".toList :=
  ⟨by decide, by decide, by decide⟩

private theorem isPlainName_data : IsPlainName "data".toList :=
  ⟨by decide, by decide, by decide⟩

private theorem isPlainName_requestFields {stageId : String} {description : Option String} :
    ∀ field ∈ requestFields stageId description, IsPlainName field.1 := by
  have hstage : IsPlainName "stagedRepositoryId".toList := ⟨by decide, by decide, by decide⟩
  have hdescription : IsPlainName "description".toList := ⟨by decide, by decide, by decide⟩
  intro field hfield
  rcases List.mem_cons.mp hfield with rfl | hfield
  · exact hstage
  · obtain ⟨text, -, rfl⟩ := List.mem_map.mp hfield
    exact hdescription

private theorem ofChars?_requestMarkup (stageId : String) (description : Option String) :
    Token.ofChars? (requestMarkup stageId description) =
      if areReadable stageId description then some (requestTokens stageId description)
      else none := by
  have hline (rest : List Char) : Token.next? ('\n' :: '<' :: rest) =
      some (.text ['\n'], '<' :: rest) := rfl
  have hshape : requestMarkup stageId description =
      '\n' :: '<' :: ("promoteRequest".toList ++ '>' :: '<' :: ("data".toList ++ '>' ::
        (((requestFields stageId description).flatMap fun field =>
          elementText field.1 (quotations field.2)) ++
          '<' :: '/' :: ("data".toList ++ '>' :: '<' :: '/' ::
            ("promoteRequest".toList ++ '>' :: []))))) := by
    simp [requestMarkup, elementText]
  rw [hshape, Token.ofChars?_of_next? (hline _),
    Token.ofChars?_startTag isPlainName_promoteRequest, Token.ofChars?_startTag isPlainName_data,
    ofChars?_quotedElements isPlainName_requestFields, Token.ofChars?_endTag isPlainName_data,
    Token.ofChars?_endTag isPlainName_promoteRequest, Token.ofChars?_nil, areReadable]
  split
  · rfl
  · rfl

private theorem ofTokens?_requestTokens (stageId : String) (description : Option String) :
    Document.ofTokens? (requestTokens stageId description) =
      some (requestDocument stageId description) := by
  have hopen (rest : List Token) :
      (.text ['\n'] :: .startTag ⟨[], "promoteRequest".toList⟩ [] false ::
        .startTag ⟨[], "data".toList⟩ [] false :: rest).foldlM Partial.add? (.prolog []) =
        rest.foldlM Partial.add? (.inside [] ⟨⟨[], "data".toList⟩, [], []⟩
          [⟨⟨[], "promoteRequest".toList⟩, [], []⟩]) := rfl
  have hclose (inner outer : List Char) (content : List Node) :
      [Token.endTag ⟨[], inner⟩, .endTag ⟨[], outer⟩].foldlM Partial.add?
          (.inside [] ⟨⟨[], inner⟩, [], content⟩ [⟨⟨[], outer⟩, [], []⟩]) =
        some (.epilog [] (String.ofList outer)
          [.element (String.ofList inner) content.reverse] []) := by
    simp [Partial.add?, Partial.closeElement, OpenElement.close, OpenElement.push]
  rw [Document.ofTokens?, requestTokens, hopen, Partial.foldlM_quotedElements, hclose,
    Option.bind_some, Partial.finish?, String.ofList_toList, String.ofList_toList,
    List.append_nil, List.reverse_reverse]
  rfl

/-- The body of a transition is a document exactly if all characters of its texts may stand in
one. -/
theorem ofString?_promoteRequest (stageId : String) (description : Option String) :
    Document.ofString? (promoteRequest stageId description) =
      if areReadable stageId description then some (requestDocument stageId description)
      else none := by
  rw [Document.ofString?, Document.ofChars?, toList_promoteRequest, body?_declaration,
    Option.bind_some, ofChars?_requestMarkup]
  split
  · exact ofTokens?_requestTokens stageId description
  · rfl

/-! ## What is read back -/

/-- What the body says of the stage is its name with the line ends read. -/
theorem rawText?_stagedRepositoryId (source stageId : String) (description : Option String)
    (context : Query.Site) :
    Report.rawText? ⟨source, requestDocument stageId description⟩ context
        (.fromTop ["promoteRequest", "data", "stagedRepositoryId"]) =
      some (String.ofList (lineEnds stageId.toList)) := by
  have hnodes : Query.nodesBelow ["promoteRequest", "data", "stagedRepositoryId"]
      [(Query.Site.ofDocument (requestDocument stageId description)).node] =
        [.element "stagedRepositoryId" (quotedNodes stageId.toList)] := by
    cases description with
    | none => rfl
    | some text => rfl
  rw [Report.rawText?_fromTop, hnodes, List.head?_cons, Option.map_some, Node.stringValue,
    stringValues_quotedNodes]

/-- What the body says of the transition is its description with the line ends read. -/
theorem rawText?_description (source stageId : String) (description : Option String)
    (context : Query.Site) :
    Report.rawText? ⟨source, requestDocument stageId description⟩ context
        (.fromTop ["promoteRequest", "data", "description"]) =
      description.map fun text => String.ofList (lineEnds text.toList) := by
  rw [Report.rawText?_fromTop]
  cases description with
  | none => rfl
  | some text =>
    have hnodes : Query.nodesBelow ["promoteRequest", "data", "description"]
        [(Query.Site.ofDocument (requestDocument stageId (some text))).node] =
          [.element "description" (quotedNodes text.toList)] := rfl
    rw [hnodes, List.head?_cons, Option.map_some, Option.map_some, Node.stringValue,
      stringValues_quotedNodes]

end ReleaseStaging
