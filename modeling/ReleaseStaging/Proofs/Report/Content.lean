import ReleaseStaging.Activity.Outcome
import ReleaseStaging.Proofs.Client.Discovery
import ReleaseStaging.Proofs.Query.Plain
import ReleaseStaging.Proofs.Xml.Outline

/-!
# Reading nodes

Listings and activity logs are read from nodes with their places. The places only put the nodes in
order, so all that is read from a report can be read from the nodes of its document, which are in
order already. A query that finds nothing is the error there, and the report adds where it came
from.
-/

namespace ReleaseStaging

open Query (Site nodesBelow)

/-! ## What nodes say -/

namespace Xml.Node

/-- The text of the first child of a name, without white space around it. -/
def text? (name : String) (node : Node) : Option String :=
  (node.childrenNamed name).head?.map fun child => Text.trimmed child.stringValue

/-- The text of the first child of a name; there must be one. -/
def requiredText (name : String) (node : Node) : Except Query String :=
  match node.text? name with
  | some found => .ok found
  | none => .error (.below [name])

/-- The time in the first child of a name. -/
def time? (name : String) (node : Node) : Option Calendar.Instant :=
  (node.text? name).bind Calendar.instant?

/-- Whether an element of a listing describes an open repository. -/
def isOpenRepository (node : Node) : Bool :=
  node.isNamed "stagingProfileRepository" &&
    (node.childrenNamed "type").any fun child => Text.trimmed child.stringValue == "open"

/-- The stage that an element of a listing describes. -/
def stage (node : Node) : Except Query Stage := do
  let profileId ← node.requiredText "profileId"
  let stageId ← node.requiredText "repositoryId"
  return ⟨profileId, stageId⟩

/-- The open stages that are described at and below a node. -/
def openStages (node : Node) : Except Query (List Stage) :=
  (node.elements.filter isOpenRepository).mapM stage

/-- A property of an event. -/
def eventProperty (node : Node) : Except Query (String × String) := do
  let name ← node.requiredText "name"
  return (name, (node.text? "value").getD "")

/-- An event of an activity. -/
def event (node : Node) : Except Query ActivityEvent := do
  let properties ← (nodesBelow ["properties", "stagingProperty"] [node]).mapM eventProperty
  let name ← node.requiredText "name"
  return ⟨name, node.time? "timestamp", properties⟩

/-- An activity of a log. -/
def activity (node : Node) : Except Query Activity := do
  let events ← (nodesBelow ["events", "stagingActivityEvent"] [node]).mapM event
  let name ← node.requiredText "name"
  return ⟨name, node.time? "started", node.time? "stopped", events⟩

/-- The activities of the log below a node. -/
def activities (node : Node) : Except Query (List Activity) :=
  (nodesBelow ["list", "stagingActivity"] [node]).mapM activity

mutual

/-- The sites of the elements hold the elements. -/
theorem map_node_elementsAt (place : List Nat) (node : Node) :
    (Site.elementsAt place node).map Site.node = node.elements := by
  match node with
  | element name children =>
    rw [Site.elementsAt, elements, List.map_cons, map_node_elementsAmong]
  | text _ => rfl
  | comment _ => rfl
  | instruction _ _ => rfl

/-- The sites of the elements among some siblings hold these elements. -/
theorem map_node_elementsAmong (place : List Nat) (position : Nat) (nodes : List Node) :
    (Site.elementsAmong place position nodes).map Site.node = elementsAmong nodes := by
  match nodes with
  | [] => rfl
  | node :: nodes =>
    rw [Site.elementsAmong, elementsAmong, List.map_append, map_node_elementsAt,
      map_node_elementsAmong]

end

end Xml.Node

/-! ## What reports say -/

/-- The node that stands for a document. -/
def Xml.Document.node (document : Xml.Document) : Xml.Node :=
  (Site.ofDocument document).node

namespace Report

variable (report : Report)

/-- Reading sites is reading their nodes, if that is so for each. -/
theorem mapM_eq_mapError {α : Type} {read : Site → Except Failure α}
    {readNode : Xml.Node → Except Query α}
    (h : ∀ site, read site = (readNode site.node).mapError report.missing) (sites : List Site) :
    sites.mapM read = ((sites.map Site.node).mapM readNode).mapError report.missing := by
  rw [mapError_mapM, List.mapM_map]
  exact congrArg (List.mapM · sites) (funext h)

theorem text?_below (site : Site) (name : String) :
    report.text? site (.below [name]) = site.node.text? name := by
  have hnodes := Query.map_node_select_below [name] report.document site
  have hselect : report.select site (.below [name]) =
      (Query.Path.below [name]).select report.document site := rfl
  rw [text?, rawText?, hselect, Option.map_map, Xml.Node.text?]
  have hchildren : nodesBelow [name] [site.node] = site.node.childrenNamed name :=
    List.flatMap_singleton ..
  rw [← hchildren, ← hnodes, List.head?_map, Option.map_map]
  rfl

theorem requiredText_below (site : Site) (name : String) :
    report.requiredText site (.below [name]) =
      (site.node.requiredText name).mapError report.missing := by
  rw [requiredText, text?_below, Xml.Node.requiredText]
  cases site.node.text? name <;> rfl

theorem timeAt_eq (site : Site) (name : String) :
    Activity.timeAt report site name = site.node.time? name := by
  rw [Activity.timeAt, text?_below, Xml.Node.time?]

theorem stageAt_eq (site : Site) :
    stageAt report site = site.node.stage.mapError report.missing := by
  simp only [stageAt, Xml.Node.stage, requiredText_below, mapError_bind, mapError_pure]

theorem propertyAt_eq (site : Site) :
    Activity.propertyAt report site = site.node.eventProperty.mapError report.missing := by
  simp only [Activity.propertyAt, Xml.Node.eventProperty, requiredText_below, text?_below,
    mapError_bind, mapError_pure]

theorem map_node_select_below (site : Site) (names : List String) :
    (report.select site (.below names)).map Site.node = nodesBelow names [site.node] :=
  Query.map_node_select_below names report.document site

theorem eventAt_eq (site : Site) :
    Activity.eventAt report site = site.node.event.mapError report.missing := by
  simp only [Activity.eventAt, Xml.Node.event, requiredText_below, timeAt_eq,
    report.mapM_eq_mapError report.propertyAt_eq, map_node_select_below, mapError_bind,
    mapError_pure]

theorem activityAt_eq (site : Site) :
    Activity.activityAt report site = site.node.activity.mapError report.missing := by
  simp only [Activity.activityAt, Xml.Node.activity, requiredText_below, timeAt_eq,
    report.mapM_eq_mapError report.eventAt_eq, map_node_select_below, mapError_bind,
    mapError_pure]

/-- The activities of a log are read from its nodes. -/
theorem activities_eq :
    Activity.ofReport report = report.document.node.activities.mapError report.missing := by
  have hnodes : (report.select report.root (.fromTop ["list", "stagingActivity"])).map Site.node =
      nodesBelow ["list", "stagingActivity"] [report.document.node] :=
    Query.map_node_select_fromTop ["list", "stagingActivity"] report.document report.root
  rw [Activity.ofReport, report.mapM_eq_mapError report.activityAt_eq, hnodes, Xml.Node.activities]

/-- A site is an open repository if it lies in the document and its node says so; the document
itself is none. -/
theorem isOpenRepository_iff {document : Xml.Document} {site : Site} :
    IsOpenRepository document site ↔
      site ∈ (Site.ofDocument document).elements.filter fun site => site.node.isOpenRepository := by
  have hopen : site.node.isOpenRepository = true ↔
      site.node.isNamed "stagingProfileRepository" = true ∧
        ∃ child ∈ site.node.children, child.isNamed "type" = true ∧
          Text.trimmed child.stringValue = "open" := by
    simp [Xml.Node.isOpenRepository, Xml.Node.childrenNamed]
  rw [List.mem_filter, Site.mem_elements, hopen]
  constructor
  · rintro ⟨hbelow, hnamed, hisOpen⟩
    exact ⟨⟨hbelow.to_reflTransGen, Xml.Node.isElement_of_isNamed hnamed⟩, hnamed, hisOpen⟩
  · rintro ⟨⟨hwithin, -⟩, hnamed, hisOpen⟩
    refine ⟨?_, hnamed, hisOpen⟩
    -- The elements are listed from the document on, which has no name of its own.
    rcases Relation.reflTransGen_iff_eq_or_transGen.mp hwithin with rfl | hbelow
    · have hname : some "" = some "stagingProfileRepository" := of_decide_eq_true hnamed
      exact absurd hname (by decide)
    · exact hbelow

/-- The open repositories of a listing are found among its elements. -/
theorem map_node_select_openRepositories :
    (report.select report.root openRepositories).map Site.node =
      report.document.node.elements.filter Xml.Node.isOpenRepository := by
  -- Both lists are all open repositories in document order, so they are the same list.
  have hlisted := (Site.pairwise_elements (.ofDocument report.document)).filter
    fun site => site.node.isOpenRepository
  have hsites := (areAll_openRepositories report).unique
    ⟨hlisted, fun site => isOpenRepository_iff.symm⟩
  have hnodes : (Site.ofDocument report.document).elements.map Site.node =
      report.document.node.elements := Xml.Node.map_node_elementsAt ..
  rw [hsites, ← hnodes, List.filter_map]
  rfl

/-- The open stages of a listing are read from its nodes. -/
theorem openStages_eq :
    openStagesOf report = report.document.node.openStages.mapError report.missing := by
  rw [openStagesOf, report.mapM_eq_mapError report.stageAt_eq, map_node_select_openRepositories,
    Xml.Node.openStages]

end Report

/-! ## What answers say -/

/-- An answer with status 200 reports the document that it holds. -/
theorem report_answered {text : String} {document : Xml.Document}
    (h : Xml.Document.ofString? text = some document) (request : Request) :
    Exchange.report ⟨request, .ok ⟨200, text⟩⟩ = .ok ⟨request.url.text, document⟩ := by
  simp only [Exchange.report, Reply.response, if_true, Report.ofText, h]

/-- A server answers a request for a document with status 200 and a text that holds it. -/
def World.Serves {σ : Type} (environment : Environment σ) (world : World σ) (url : Url)
    (document : Xml.Document) : Prop :=
  ∃ text, (world.exchange environment (.get url)).reply = .ok ⟨200, text⟩ ∧
    Xml.Document.ofString? text = some document

/-- What a server serves is the document of its answer. -/
theorem World.Serves.report {σ : Type} {environment : Environment σ} {world : World σ} {url : Url}
    {document : Xml.Document} (h : world.Serves environment url document) :
    (world.exchange environment (.get url)).report = .ok ⟨url.text, document⟩ := by
  obtain ⟨text, hreply, htext⟩ := h
  have hexchange : world.exchange environment (.get url) = ⟨.get url, .ok ⟨200, text⟩⟩ :=
    congrArg (Exchange.mk _) hreply
  rw [hexchange, report_answered htext]
  rfl

/-- An answer lists the open stages of its document. -/
theorem openStages_answered {text : String} {document : Xml.Document}
    (h : Xml.Document.ofString? text = some document) (request : Request) :
    Exchange.openStages ⟨request, .ok ⟨200, text⟩⟩ =
      document.node.openStages.mapError fun query =>
        .missingNode request.url.text query.expression := by
  rw [Exchange.openStages, report_answered h]
  exact Report.openStages_eq ⟨request.url.text, document⟩

/-- The activities of a text are those of its document. -/
theorem activities_answered {text : String} {document : Xml.Document}
    (h : Xml.Document.ofString? text = some document) (source : String) :
    (Report.ofText source text >>= Activity.ofReport) =
      document.node.activities.mapError fun query => .missingNode source query.expression := by
  rw [Report.ofText, h]
  exact Report.activities_eq ⟨source, document⟩

/-- An answer tells how the last close of its document ended. -/
theorem closeOutcome_answered {text : String} {document : Xml.Document}
    (h : Xml.Document.ofString? text = some document) (request : Request) :
    Exchange.closeOutcome ⟨request, .ok ⟨200, text⟩⟩ =
      (CloseOutcome.ofLog <$> document.node.activities).mapError fun query =>
        .missingNode request.url.text query.expression := by
  have hactivities := Report.activities_eq ⟨request.url.text, document⟩
  rw [Exchange.closeOutcome, report_answered h]
  simp only [bind, Except.bind, hactivities]
  cases document.node.activities <;> rfl

/-- The open stages are what the answer lists. -/
theorem result_openStages {σ : Type} (client : Client) (environment : Environment σ)
    (world : World σ) :
    (client.openStages.runIn environment world).result =
      some (world.exchange environment (.get (listingEndpoint client.base))).openStages := by
  suffices client.openStages.Yields environment world fun result _ _ => result =
      some (world.exchange environment (.get (listingEndpoint client.base))).openStages from this
  simp only [Client.openStages, Operation.yields_bind, Client.yields_fetchReport,
    Operation.yields_liftM, Exchange.openStages]
  cases (world.exchange environment (.get (listingEndpoint client.base))).report <;> rfl

/-- Whoever gets a text as the answer to a request for the listing gets the open stages of its
document. -/
theorem result_openStages_answered {text : String} {document : Xml.Document}
    (h : Xml.Document.ofString? text = some document) {σ : Type} {environment : Environment σ}
    {world : World σ} {client : Client}
    (hreply : (world.exchange environment (.get (listingEndpoint client.base))).reply =
      .ok ⟨200, text⟩) :
    (client.openStages.runIn environment world).result =
      some (document.node.openStages.mapError fun query =>
        .missingNode (listingEndpoint client.base).text query.expression) := by
  have hexchange : world.exchange environment (.get (listingEndpoint client.base)) =
      ⟨.get (listingEndpoint client.base), .ok ⟨200, text⟩⟩ :=
    congrArg (Exchange.mk _) hreply
  rw [result_openStages, hexchange, openStages_answered h]
  rfl

end ReleaseStaging
