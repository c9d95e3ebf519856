import ReleaseStaging.Xml.Letter

/-!
# Quoting text

Text stands in a document without any change inside a quoted section. Such a section ends at the
first `]]>`, so a text that holds these characters is spread over two sections.
-/

namespace ReleaseStaging.Xml

/-- The opening of a quoted section. -/
def quotationOpen : List Char := "<![CDATA[".toList

/-- The end of a quoted section. -/
def quotationClose : List Char := "]]>".toList

/-- The text with a break between two sections in every end of a section. -/
def splitQuotations : List Char → List Char
  | ']' :: ']' :: '>' :: text =>
    [']', ']'] ++ quotationClose ++ quotationOpen ++ '>' :: splitQuotations text
  | c :: text => c :: splitQuotations text
  | [] => []

/-- The quoted sections that hold a text. -/
def quotations (text : List Char) : List Char :=
  quotationOpen ++ splitQuotations text ++ quotationClose

/-- The quoted sections that hold a text. -/
def quoted (text : String) : String :=
  String.ofList (quotations text.toList)

end ReleaseStaging.Xml
