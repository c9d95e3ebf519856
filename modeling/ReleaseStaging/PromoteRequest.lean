import ReleaseStaging.Xml.Quotation

/-!
# The request document

Every transition is requested with one document that names the staging repository and may describe
the transition.
-/

namespace ReleaseStaging

/-- The document that requests a transition; without a description it holds none. -/
def promoteRequest (stageId : String) (description : Option String) : String :=
  let described := match description with
    | none => ""
    | some text => "<description>" ++ Xml.quoted text ++ "</description>"
  "<?xml version=\"1.0\" encoding=\"UTF-8\"?>\n<promoteRequest><data><stagedRepositoryId>" ++
    Xml.quoted stageId ++ "</stagedRepositoryId>" ++ described ++ "</data></promoteRequest>"

end ReleaseStaging
