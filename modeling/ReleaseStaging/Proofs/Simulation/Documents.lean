import Mathlib.Data.List.Induction
import ReleaseStaging.Proofs.Report.Content
import ReleaseStaging.Proofs.Xml.Composition
import ReleaseStaging.Simulation.Documents

/-!
# What the documents of a scripted server say

The documents of a scripted server are made of texts, and the client reads these texts back from
them, as long as they mean nothing in a document and have no white space around them.
Main statement: the version of a status, the open entries of a listing and the activities of a log
are read as they were put in.
-/

namespace ReleaseStaging.Simulation

open Xml (IsPlainName IsPlainText Node ReadsAs textNodes)

/-! ## Markup -/

/-- A text that can be put into a document and read back as it is. -/
structure IsInert (text : String) : Prop where
  /-- It stands for itself. -/
  plain : IsPlainText text.toList
  /-- There is no white space around it. -/
  trimmed : Text.trimmed text = text

instance (text : String) : Decidable (IsInert text) :=
  decidable_of_iff (_ ∧ _) ⟨fun h => ⟨h.1, h.2⟩, fun h => ⟨h.plain, h.trimmed⟩⟩

/-- An element that holds a text. -/
def textElement (name text : String) : Node :=
  .element name (textNodes text.toList)

theorem toList_tagged (name content : String) :
    (tagged name content).toList = Xml.elementText name.toList content.toList := by
  have hopen : "<".toList = ['<'] := rfl
  have hclose : ">".toList = ['>'] := rfl
  have hend : "</".toList = ['<', '/'] := rfl
  simp [tagged, Xml.elementText, hopen, hclose, hend]

variable {name content text markup more : String} {nodes others : List Node}

theorem readsAs_tagged (name : String) (h : ReadsAs content.toList nodes)
    (hname : IsPlainName name.toList := by decide) :
    ReadsAs (tagged name content).toList [.element name nodes] := by
  have helement := ReadsAs.element hname h
  rwa [String.ofList_toList, ← toList_tagged] at helement

theorem readsAs_taggedText (name : String) (h : IsPlainText text.toList)
    (hname : IsPlainName name.toList := by decide) :
    ReadsAs (tagged name text).toList [textElement name text] := by
  have helement := ReadsAs.textElement hname h
  rwa [String.ofList_toList, ← toList_tagged] at helement

theorem readsAs_append (h : ReadsAs markup.toList nodes) (hmore : ReadsAs more.toList others) :
    ReadsAs (markup ++ more).toList (nodes ++ others) := by
  rw [String.toList_append]
  exact h.append hmore

theorem readsAs_join {α : Type} {list : List α} {markup : α → String} {node : α → Node}
    (h : ∀ a ∈ list, ReadsAs (markup a).toList [node a]) :
    ReadsAs (String.join (list.map markup)).toList (list.map node) := by
  rw [String.toList_join, List.flatMap_map, List.map_eq_flatMap]
  exact ReadsAs.flatMap h

theorem ofString?_tagged (name : String) (h : ReadsAs content.toList nodes)
    (hname : IsPlainName name.toList := by decide) :
    Xml.Document.ofString? (tagged name content) = some ⟨[], name, nodes, []⟩ := by
  have hdocument := ReadsAs.document hname h
  rwa [String.ofList_toList, ← toList_tagged] at hdocument

/-! ## Texts that are read back -/

theorem trimmed_stringValue_textElement (h : Text.trimmed text = text) :
    Text.trimmed (textElement name text).stringValue = text := by
  rw [textElement, Node.stringValue, Xml.stringValues_textNodes, String.ofList_toList, h]

/-- A text that is put into a child of a node is read there. -/
theorem text?_eq_some {node : Node} (hchildren : node.childrenNamed name = [textElement name text])
    (h : Text.trimmed text = text) : node.text? name = some text := by
  rw [Node.text?, hchildren, List.head?_cons, Option.map_some, trimmed_stringValue_textElement h]

theorem requiredText_eq_ok {node : Node}
    (hchildren : node.childrenNamed name = [textElement name text])
    (h : Text.trimmed text = text) : node.requiredText name = .ok text := by
  rw [Node.requiredText, text?_eq_some hchildren h]

/-- Nodes that all have a name are all children of that name. -/
theorem filter_isNamed_map {α : Type} (list : List α) {node : α → Node}
    (h : ∀ a, (node a).isNamed name = true) :
    (list.map node).filter (Node.isNamed name) = list.map node := by
  rw [List.filter_eq_self]
  intro child hchild
  obtain ⟨a, -, rfl⟩ := List.mem_map.mp hchild
  exact h a

/-! ## Status -/

/-- The node of a permission. -/
def permissionNode (permission : String × Nat) : Node :=
  .element "permission" [textElement "id" permission.1,
    textElement "value" (toString permission.2)]

/-- The document of a status. -/
def statusTree (version : String) (permissions : List (String × Nat)) : Xml.Document :=
  ⟨[], "status", [.element "data" [textElement "appName" "Nexus Repository Manager",
    textElement "version" version, .element "clientPermissions" [textElement "loggedIn" "true",
      .element "permissions" (permissions.map permissionNode)]]], []⟩

/-- Numbers stand for themselves. -/
private theorem isPlainText_toString (n : Nat) : IsPlainText (toString n).toList := by
  have hdigits : (toString n).toList = Nat.toDigits 10 n := Nat.toList_repr
  have hdigit : ∀ c ∈ (toString n).toList, '0'.toNat ≤ c.toNat ∧ c.toNat ≤ '9'.toNat := by
    intro c hc
    rw [hdigits] at hc
    have hisDigit := Nat.isDigit_of_mem_toDigits (Nat.succ_pos 9) (Nat.le_refl 10) hc
    simpa [Char.isDigit, UInt32.le_iff_toNat_le] using hisDigit
  have habsent {c : Char} (h : ¬('0'.toNat ≤ c.toNat ∧ c.toNat ≤ '9'.toNat)) :
      c ∉ (toString n).toList :=
    fun hc => h (hdigit c hc)
  refine ⟨?_, habsent (by decide), habsent (by decide), habsent (by decide), ?_⟩
  · intro c hc
    have hzero : '0'.toNat = 0x30 := rfl
    have hnine : '9'.toNat = 0x39 := rfl
    have hrange := hdigit c hc
    rw [Xml.IsDocumentChar]
    omega
  · intro hclose
    have hmem : ']' ∈ (toString n).toList := hclose.subset (by decide)
    exact habsent (by decide) hmem

private theorem readsAs_permission {permission : String × Nat}
    (h : IsPlainText permission.1.toList) :
    ReadsAs (tagged "permission"
      (tagged "id" permission.1 ++ tagged "value" (toString permission.2))).toList
      [permissionNode permission] := by
  have hid := readsAs_taggedText "id" h
  have hvalue := readsAs_taggedText "value" (isPlainText_toString permission.2)
  exact readsAs_tagged "permission" (readsAs_append hid hvalue)

theorem ofString?_statusDocument {version : String} {permissions : List (String × Nat)}
    (hversion : IsPlainText version.toList)
    (hpermissions : ∀ permission ∈ permissions, IsPlainText permission.1.toList) :
    Xml.Document.ofString? (statusDocument version permissions) =
      some (statusTree version permissions) := by
  have happ : IsPlainText "Nexus Repository Manager".toList := by decide
  have htrue : IsPlainText "true".toList := by decide
  have hlisted := readsAs_tagged "permissions" (readsAs_join fun permission hmem =>
    readsAs_permission (hpermissions permission hmem))
  have hgranted := readsAs_tagged "clientPermissions"
    (readsAs_append (readsAs_taggedText "loggedIn" htrue) hlisted)
  have hfields := readsAs_append (readsAs_append (readsAs_taggedText "appName" happ)
    (readsAs_taggedText "version" hversion)) hgranted
  exact ofString?_tagged "status" (readsAs_tagged "data" hfields)

/-- The version is read from a status as it was put in. -/
theorem requiredText_version (source : String) {version : String}
    (permissions : List (String × Nat)) (h : Text.trimmed version = version) :
    let report : Report := ⟨source, statusTree version permissions⟩
    report.requiredText report.root (.fromTop ["status", "data", "version"]) = .ok version := by
  intro report
  have hnodes : Query.nodesBelow ["status", "data", "version"]
      [(Query.Site.ofDocument report.document).node] = [textElement "version" version] := rfl
  have htext : report.text? report.root (.fromTop ["status", "data", "version"]) =
      some version := by
    rw [Report.text?, Report.rawText?_fromTop, hnodes, List.head?_cons, Option.map_some,
      Option.map_some, trimmed_stringValue_textElement h]
  rw [Report.requiredText, htext]

/-! ## Repositories -/

/-- Whoever gets the document of a repository learns whether it is transitioning. -/
theorem isTransitioning_repositoryDocument {repositoryId : String}
    (h : IsPlainText repositoryId.toList) (transitioning : Bool) (request : Request) :
    Exchange.isTransitioning ⟨request, .ok ⟨200, repositoryDocument repositoryId transitioning⟩⟩ =
      .ok transitioning := by
  have hplain : IsPlainText (toString transitioning).toList := by cases transitioning <;> decide
  have htrimmed : Text.trimmed (toString transitioning) = toString transitioning := by
    cases transitioning <;> decide
  have hopen : IsPlainText "open".toList := by decide
  have hfields := readsAs_append
    (readsAs_append (readsAs_taggedText "repositoryId" h) (readsAs_taggedText "type" hopen))
    (readsAs_taggedText "transitioning" hplain)
  have hreport := report_answered (ofString?_tagged "stagingProfileRepository" hfields) request
  rw [Exchange.isTransitioning, repositoryDocument, hreport]
  generalize hroot : Report.mk _ _ = report
  have hnodes : Query.nodesBelow ["stagingProfileRepository", "transitioning"]
      [(Query.Site.ofDocument report.document).node] =
        [textElement "transitioning" (toString transitioning)] := by
    rw [← hroot]
    rfl
  have htext : report.text? report.root transitioningQuery = some (toString transitioning) := by
    rw [Report.text?, transitioningQuery, Report.rawText?_fromTop, hnodes, List.head?_cons,
      Option.map_some, Option.map_some, trimmed_stringValue_textElement htrimmed]
  change report.requiredBool transitioningQuery = .ok transitioning
  rw [Report.requiredBool, Report.requiredText, htext]
  cases transitioning <;> rfl

/-! ## Listings -/

/-- The node of an entry. -/
def ListingEntry.node (entry : ListingEntry) : Node :=
  .element "stagingProfileRepository" [textElement "profileId" entry.profileId,
    textElement "profileName" "release", textElement "repositoryId" entry.repositoryId,
    textElement "type" entry.state]

/-- The document of a listing. -/
def listingTree (entries : List ListingEntry) : Xml.Document :=
  ⟨[], "stagingRepositories", [.element "data" (entries.map ListingEntry.node)], []⟩

/-- The texts of an entry can be read back. -/
structure ListingEntry.IsInert (entry : ListingEntry) : Prop where
  /-- That of the profile. -/
  profileId : Simulation.IsInert entry.profileId
  /-- That of the repository. -/
  repositoryId : Simulation.IsInert entry.repositoryId
  /-- That of the state. -/
  state : Simulation.IsInert entry.state

instance (entry : ListingEntry) : Decidable entry.IsInert :=
  decidable_of_iff (_ ∧ _ ∧ _)
    ⟨fun h => ⟨h.1, h.2.1, h.2.2⟩, fun h => ⟨h.profileId, h.repositoryId, h.state⟩⟩

private theorem readsAs_entry {entry : ListingEntry} (h : entry.IsInert) :
    ReadsAs (tagged "stagingProfileRepository" (tagged "profileId" entry.profileId ++
      tagged "profileName" "release" ++ tagged "repositoryId" entry.repositoryId ++
      tagged "type" entry.state)).toList [entry.node] := by
  have hrelease : IsPlainText "release".toList := by decide
  have hprofile := readsAs_append (readsAs_taggedText "profileId" h.profileId.plain)
    (readsAs_taggedText "profileName" hrelease)
  have hrepository := readsAs_append hprofile
    (readsAs_taggedText "repositoryId" h.repositoryId.plain)
  exact readsAs_tagged "stagingProfileRepository"
    (readsAs_append hrepository (readsAs_taggedText "type" h.state.plain))

theorem ofString?_listingDocument {entries : List ListingEntry}
    (h : ∀ entry ∈ entries, entry.IsInert) :
    Xml.Document.ofString? (listingDocument entries) = some (listingTree entries) := by
  have hentries := readsAs_join fun entry hmem => readsAs_entry (h entry hmem)
  exact ofString?_tagged "stagingRepositories" (readsAs_tagged "data" hentries)

/-- The state of an entry tells whether it is open. -/
theorem isOpenRepository_node {entry : ListingEntry} (h : entry.IsInert) :
    entry.node.isOpenRepository = (entry.state == "open") := by
  have hnamed : entry.node.isNamed "stagingProfileRepository" = true := rfl
  have htype : entry.node.childrenNamed "type" = [textElement "type" entry.state] := rfl
  rw [Node.isOpenRepository, hnamed, htype, Bool.true_and, List.any_cons, List.any_nil,
    Bool.or_false, trimmed_stringValue_textElement h.state.trimmed]

/-- The stage of an entry is read as it was put in. -/
theorem stage_node {entry : ListingEntry} (h : entry.IsInert) :
    entry.node.stage = .ok ⟨entry.profileId, entry.repositoryId⟩ := by
  have hprofile : entry.node.requiredText "profileId" = .ok entry.profileId :=
    requiredText_eq_ok rfl h.profileId.trimmed
  have hrepository : entry.node.requiredText "repositoryId" = .ok entry.repositoryId :=
    requiredText_eq_ok rfl h.repositoryId.trimmed
  rw [Node.stage, hprofile, hrepository]
  rfl

theorem elements_textElement (name text : String) :
    (textElement name text).elements = [textElement name text] := by
  have hnone : Node.elementsAmong (textNodes text.toList) = [] := by
    rw [textNodes]
    split <;> rfl
  rw [textElement, Node.elements, hnone]

/-- Within an entry, no other element is a repository. -/
theorem filter_elements_node {entry : ListingEntry} (h : entry.IsInert) :
    entry.node.elements.filter Node.isOpenRepository =
      if entry.state == "open" then [entry.node] else [] := by
  have helements : entry.node.elements = entry.node :: [textElement "profileId" entry.profileId,
      textElement "profileName" "release", textElement "repositoryId" entry.repositoryId,
      textElement "type" entry.state] := by
    simp only [ListingEntry.node, Node.elements, Node.elementsAmong, elements_textElement,
      List.append_nil, List.singleton_append]
  rw [helements, List.filter_cons, isOpenRepository_node h]
  rfl

/-- The open repositories of a listing are its open entries. -/
theorem filter_elements_listing {entries : List ListingEntry}
    (h : ∀ entry ∈ entries, entry.IsInert) :
    (listingTree entries).node.elements.filter Node.isOpenRepository =
      (entries.filter fun entry => entry.state == "open").map ListingEntry.node := by
  have hentries : (Node.elementsAmong (entries.map ListingEntry.node)).filter
      Node.isOpenRepository =
        (entries.filter fun entry => entry.state == "open").map ListingEntry.node := by
    induction entries with
    | nil => rfl
    | cons entry entries ih =>
      have hmore := ih fun other hother => h other (List.mem_cons_of_mem entry hother)
      rw [List.map_cons, Node.elementsAmong, List.filter_append,
        filter_elements_node (h entry List.mem_cons_self), hmore, List.filter_cons]
      cases entry.state == "open" <;> rfl
  rw [← hentries]
  have hdocument : (listingTree entries).node.elements =
      (listingTree entries).node :: (listingTree entries).root ::
        .element "data" (entries.map ListingEntry.node) ::
          Node.elementsAmong (entries.map ListingEntry.node) := by
    simp only [Xml.Document.node, Query.Site.ofDocument, Xml.Document.topNodes, Xml.Document.root,
      listingTree, List.nil_append, Node.elements, Node.elementsAmong, List.append_nil]
  rw [hdocument]
  rfl

/-- The open entries of a listing are read as they were put in, in their order. -/
theorem openStages_listing {entries : List ListingEntry}
    (h : ∀ entry ∈ entries, entry.IsInert) :
    (listingTree entries).node.openStages =
      .ok ((entries.filter fun entry => entry.state == "open").map fun entry =>
        ⟨entry.profileId, entry.repositoryId⟩) := by
  rw [Node.openStages, filter_elements_listing h]
  exact mapM_map_eq_ok fun entry hmem => stage_node (h entry (List.mem_filter.mp hmem).1)

/-! ## Activity logs -/

/-- A step in which a log is made. -/
inductive LogStep where
  /-- An activity is started. -/
  | activity (name : String)
  /-- An event is added to the most recent activity. -/
  | event (name : String) (properties : List (String × String))

/-- The texts of a step can be read back. -/
def LogStep.IsInert : LogStep → Prop
  | activity name => Simulation.IsInert name
  | event name properties => Simulation.IsInert name ∧
      ∀ property ∈ properties, Simulation.IsInert property.1 ∧ Simulation.IsInert property.2

instance : (step : LogStep) → Decidable step.IsInert
  | .activity _ => inferInstanceAs (Decidable (Simulation.IsInert _))
  | .event _ _ => inferInstanceAs (Decidable (_ ∧ _))

namespace ActivityLog

/-- The log after a step. -/
def after (log : ActivityLog) : LogStep → ActivityLog
  | .activity name => log.activity name
  | .event name properties => log.event name properties

/-- The log that some steps make. -/
def ofSteps (steps : List LogStep) : ActivityLog :=
  steps.foldl after empty

end ActivityLog

/-- The events that are added before another activity is started. -/
def leadingEvents : List LogStep → List LoggedEvent
  | .event name properties :: steps => ⟨name, properties⟩ :: leadingEvents steps
  | _ => []

/-- The activities that are started, each with the events that are added before the next one. -/
def startedActivities : List LogStep → List LoggedActivity
  | .activity name :: steps => ⟨name, leadingEvents steps⟩ :: startedActivities steps
  | .event _ _ :: steps => startedActivities steps
  | [] => []

theorem leadingEvents_concat_activity (steps : List LogStep) (name : String) :
    leadingEvents (steps ++ [.activity name]) = leadingEvents steps := by
  induction steps with
  | nil => rfl
  | cons step steps ih =>
    cases step with
    | activity _ => rfl
    | event _ _ => rw [List.cons_append, leadingEvents, leadingEvents, ih]

/-- A new activity comes last, without events. -/
theorem startedActivities_concat_activity (steps : List LogStep) (name : String) :
    startedActivities (steps ++ [.activity name]) = startedActivities steps ++ [⟨name, []⟩] := by
  induction steps with
  | nil => rfl
  | cons step steps ih =>
    cases step with
    | activity other =>
      rw [List.cons_append, startedActivities, startedActivities, ih,
        leadingEvents_concat_activity, List.cons_append]
    | event _ _ => rw [List.cons_append, startedActivities, startedActivities, ih]

/-- As long as no activity is started, another event is a leading one. -/
theorem leadingEvents_concat_event (steps : List LogStep) (event : LoggedEvent) :
    leadingEvents (steps ++ [.event event.name event.properties]) =
      if startedActivities steps = [] then leadingEvents steps ++ [event]
      else leadingEvents steps := by
  induction steps with
  | nil => rfl
  | cons step steps ih =>
    cases step with
    | activity _ => rfl
    | event _ _ =>
      rw [List.cons_append, leadingEvents, ih, leadingEvents, startedActivities]
      split <;> rfl

/-- A new event goes to the activity that was started last. -/
theorem startedActivities_concat_event (steps : List LogStep) (event : LoggedEvent) :
    startedActivities (steps ++ [.event event.name event.properties]) =
      ActivityLog.addToLast event (startedActivities steps) := by
  induction steps with
  | nil => rfl
  | cons step steps ih =>
    cases step with
    | activity name =>
      rw [List.cons_append, startedActivities, startedActivities, ih, leadingEvents_concat_event]
      -- The event belongs to this activity only if no other one was started after it.
      cases hstarted : startedActivities steps with
      | nil => rfl
      | cons first others => rfl
    | event _ _ => rw [List.cons_append, startedActivities, startedActivities, ih]

/-- The steps that make a log start its activities. -/
theorem activities_ofSteps (steps : List LogStep) :
    (ActivityLog.ofSteps steps).activities = startedActivities steps := by
  -- A log grows at its end, so the induction is on the last step.
  induction steps using List.reverseRecOn with
  | nil => rfl
  | append_singleton steps step ih =>
    rw [ActivityLog.ofSteps, List.foldl_append, List.foldl_cons, List.foldl_nil]
    change ((ActivityLog.ofSteps steps).after step).activities = _
    cases step with
    | activity name =>
      rw [startedActivities_concat_activity, ← ih]
      rfl
    | event name properties =>
      rw [startedActivities_concat_event steps ⟨name, properties⟩, ← ih]
      rfl

/-- When an event is recorded in the document of a log. -/
def eventTime : Calendar.Instant := ⟨1360762250, 134000000⟩

/-- When an activity starts in the document of a log. -/
def activityTime : Calendar.Instant := ⟨1360762249, 725000000⟩

/-- What is read of an event of a log. -/
def LoggedEvent.read (event : LoggedEvent) : ActivityEvent :=
  ⟨event.name, some eventTime, event.properties⟩

/-- What is read of an activity of a log. -/
def LoggedActivity.read (activity : LoggedActivity) : Activity :=
  ⟨activity.name, some activityTime, none, activity.events.map LoggedEvent.read⟩

/-- The texts of an event can be read back. -/
structure LoggedEvent.IsInert (event : LoggedEvent) : Prop where
  /-- Its name. -/
  name : Simulation.IsInert event.name
  /-- The names and values of its properties. -/
  properties : ∀ property ∈ event.properties,
    Simulation.IsInert property.1 ∧ Simulation.IsInert property.2

/-- The texts of an activity can be read back. -/
structure LoggedActivity.IsInert (activity : LoggedActivity) : Prop where
  /-- Its name. -/
  name : Simulation.IsInert activity.name
  /-- The texts of its events. -/
  events : ∀ event ∈ activity.events, event.IsInert

/-- The node of a property. -/
def propertyNode (property : String × String) : Node :=
  .element "stagingProperty" [textElement "name" property.1, textElement "value" property.2]

/-- The node of an event. -/
def LoggedEvent.node (event : LoggedEvent) : Node :=
  .element "stagingActivityEvent" [textElement "timestamp" "2013-02-13T13:30:50.134Z",
    textElement "name" event.name, textElement "severity" "0",
    .element "properties" (event.properties.map propertyNode)]

/-- The node of an activity. -/
def LoggedActivity.node (activity : LoggedActivity) : Node :=
  .element "stagingActivity" [textElement "name" activity.name,
    .element "events" (activity.events.map LoggedEvent.node),
    textElement "started" "2013-02-13T13:30:49.725Z"]

/-- The document of a log. -/
def logTree (log : ActivityLog) : Xml.Document :=
  ⟨[], "list", log.activities.map LoggedActivity.node, []⟩

private theorem readsAs_property {property : String × String}
    (h : IsPlainText property.1.toList ∧ IsPlainText property.2.toList) :
    ReadsAs (tagged "stagingProperty"
      (tagged "name" property.1 ++ tagged "value" property.2)).toList [propertyNode property] :=
  readsAs_tagged "stagingProperty"
    (readsAs_append (readsAs_taggedText "name" h.1) (readsAs_taggedText "value" h.2))

private theorem readsAs_event {event : LoggedEvent} (h : event.IsInert) :
    ReadsAs (ActivityLog.eventElement event).toList [event.node] := by
  have htime : IsPlainText "2013-02-13T13:30:50.134Z".toList := by decide
  have hzero : IsPlainText "0".toList := by decide
  have hproperties := readsAs_tagged "properties" (readsAs_join fun property hmem =>
    readsAs_property ((h.properties property hmem).imp IsInert.plain IsInert.plain))
  have hname := readsAs_append (readsAs_taggedText "timestamp" htime)
    (readsAs_taggedText "name" h.name.plain)
  exact readsAs_tagged "stagingActivityEvent"
    (readsAs_append (readsAs_append hname (readsAs_taggedText "severity" hzero)) hproperties)

private theorem readsAs_activity {activity : LoggedActivity} (h : activity.IsInert) :
    ReadsAs (ActivityLog.activityElement activity).toList [activity.node] := by
  have htime : IsPlainText "2013-02-13T13:30:49.725Z".toList := by decide
  have hevents := readsAs_tagged "events" (readsAs_join fun event hmem =>
    readsAs_event (h.events event hmem))
  exact readsAs_tagged "stagingActivity" (readsAs_append
    (readsAs_append (readsAs_taggedText "name" h.name.plain) hevents)
    (readsAs_taggedText "started" htime))

theorem ofString?_document {log : ActivityLog} (h : ∀ activity ∈ log.activities, activity.IsInert) :
    Xml.Document.ofString? log.document = some (logTree log) :=
  ofString?_tagged "list" (readsAs_join fun activity hmem =>
    readsAs_activity (h activity hmem))

/-- Nodes of one name are found below an element that holds nothing else. -/
private theorem nodesBelow_map {α : Type} {outer inner : String} {node : Node} (list : List α)
    {made : α → Node} (houter : node.childrenNamed outer = [.element outer (list.map made)])
    (hinner : ∀ a, (made a).isNamed inner = true) :
    Query.nodesBelow [outer, inner] [node] = list.map made := by
  have hchildren : (Node.element outer (list.map made)).childrenNamed inner = list.map made :=
    filter_isNamed_map list hinner
  rw [Query.nodesBelow, List.foldl_cons, List.foldl_cons, List.foldl_nil, List.flatMap_singleton,
    houter, List.flatMap_singleton, hchildren]

theorem eventProperty_node {property : String × String}
    (h : IsInert property.1 ∧ IsInert property.2) :
    (propertyNode property).eventProperty = .ok property := by
  have hname : (propertyNode property).requiredText "name" = .ok property.1 :=
    requiredText_eq_ok rfl h.1.trimmed
  have hvalue : (propertyNode property).text? "value" = some property.2 :=
    text?_eq_some rfl h.2.trimmed
  rw [Node.eventProperty, hname, hvalue]
  rfl

/-- An event is read as it was put in. -/
theorem event_node {event : LoggedEvent} (h : event.IsInert) :
    event.node.event = .ok event.read := by
  have hproperties : (Query.nodesBelow ["properties", "stagingProperty"] [event.node]).mapM
      Node.eventProperty = .ok event.properties := by
    rw [nodesBelow_map event.properties rfl fun _ => rfl,
      mapM_map_eq_ok fun property hmem => eventProperty_node (h.properties property hmem),
      List.map_id']
  have hname : event.node.requiredText "name" = .ok event.name :=
    requiredText_eq_ok rfl h.name.trimmed
  have htime : event.node.time? "timestamp" = some eventTime := by
    have htext : event.node.text? "timestamp" = some "2013-02-13T13:30:50.134Z" :=
      text?_eq_some rfl (by decide)
    rw [Node.time?, htext, Option.bind_some]
    decide
  rw [Node.event, hproperties, hname, htime]
  rfl

/-- An activity is read as it was put in. -/
theorem activity_node {activity : LoggedActivity} (h : activity.IsInert) :
    activity.node.activity = .ok activity.read := by
  have hevents : (Query.nodesBelow ["events", "stagingActivityEvent"] [activity.node]).mapM
      Node.event = .ok (activity.events.map LoggedEvent.read) := by
    rw [nodesBelow_map activity.events rfl fun _ => rfl,
      mapM_map_eq_ok fun event hmem => event_node (h.events event hmem)]
  have hname : activity.node.requiredText "name" = .ok activity.name :=
    requiredText_eq_ok rfl h.name.trimmed
  have hstarted : activity.node.time? "started" = some activityTime := by
    have htext : activity.node.text? "started" = some "2013-02-13T13:30:49.725Z" :=
      text?_eq_some rfl (by decide)
    rw [Node.time?, htext, Option.bind_some]
    decide
  have hstopped : activity.node.time? "stopped" = none := rfl
  rw [Node.activity, hevents, hname, hstarted, hstopped]
  rfl

/-- The activities of a log are read as they were put in, in their order. -/
theorem activities_log {log : ActivityLog} (h : ∀ activity ∈ log.activities, activity.IsInert) :
    (logTree log).node.activities = .ok (log.activities.map LoggedActivity.read) := by
  have hnodes : Query.nodesBelow ["list", "stagingActivity"] [(logTree log).node] =
      log.activities.map LoggedActivity.node :=
    nodesBelow_map log.activities rfl fun _ => rfl
  rw [Node.activities, hnodes]
  exact mapM_map_eq_ok fun activity hmem => activity_node (h activity hmem)

/-- If the texts of all steps can be read back, so can those of the log that they make. -/
theorem isInert_of_mem_startedActivities {steps : List LogStep} (h : ∀ step ∈ steps, step.IsInert) :
    (∀ event ∈ leadingEvents steps, event.IsInert) ∧
      ∀ activity ∈ startedActivities steps, activity.IsInert := by
  induction steps with
  | nil => exact ⟨nofun, nofun⟩
  | cons step steps ih =>
    obtain ⟨hevents, hactivities⟩ := ih fun other hmem => h other (List.mem_cons_of_mem step hmem)
    have hstep := h step List.mem_cons_self
    cases step with
    | activity name =>
      refine ⟨nofun, ?_⟩
      intro activity hactivity
      rcases List.mem_cons.mp hactivity with rfl | hlater
      · exact ⟨hstep, hevents⟩
      · exact hactivities activity hlater
    | event name properties =>
      refine ⟨?_, hactivities⟩
      intro event hevent
      rcases List.mem_cons.mp hevent with rfl | hlater
      · exact ⟨hstep.1, hstep.2⟩
      · exact hevents event hlater

/-! ## What is read back -/

/-- The documents of a scripted server say what they were made from. The version is read from a
status, whatever the permissions. Whoever gets a listing gets its open entries, in their order and
as often as they stand there. The activities of a log are those that were started, each with the
events that were added until the next one was; events before the first activity are lost. -/
theorem documents_read_back :
    (∀ (version : String) (permissions : List (String × Nat)), IsInert version →
      (∀ permission ∈ permissions, IsInert permission.1) → ∀ source,
        (do
          let query ← Query.compile "/status/data/version"
          let report ← Report.ofText source (statusDocument version permissions)
          report.requiredText report.root query) = .ok version) ∧
    (∀ entries : List ListingEntry, (∀ entry ∈ entries, entry.IsInert) →
      ∀ (σ : Type) (environment : Environment σ) (world : World σ) (client : Client),
        (world.exchange environment (.get (listingEndpoint client.base))).reply =
          .ok ⟨200, listingDocument entries⟩ →
        (client.openStages.runIn environment world).result =
          some (.ok ((entries.filter fun entry => entry.state == "open").map fun entry =>
            ⟨entry.profileId, entry.repositoryId⟩))) ∧
    ∀ steps : List LogStep, (∀ step ∈ steps, step.IsInert) → ∀ source,
      (Report.ofText source (ActivityLog.ofSteps steps).document >>= Activity.ofReport) =
        .ok ((startedActivities steps).map LoggedActivity.read) := by
  refine ⟨?_, ?_, ?_⟩
  · intro version permissions hversion hpermissions source
    have hquery : Query.compile "/status/data/version" =
        .ok (.fromTop ["status", "data", "version"]) := by
      with_unfolding_all rfl
    have hdocument := ofString?_statusDocument hversion.plain fun permission hmem =>
      (hpermissions permission hmem).plain
    rw [hquery, Report.ofText, hdocument]
    exact requiredText_version source permissions hversion.trimmed
  · intro entries hentries σ environment world client hreply
    rw [result_openStages_answered (ofString?_listingDocument hentries) hreply,
      openStages_listing hentries]
    rfl
  · intro steps hsteps source
    have hactivities : ∀ activity ∈ (ActivityLog.ofSteps steps).activities, activity.IsInert := by
      rw [activities_ofSteps]
      exact (isInert_of_mem_startedActivities hsteps).2
    rw [activities_answered (ofString?_document hactivities), activities_log hactivities,
      activities_ofSteps]
    rfl

/-- A status with one permission, a listing of an open and a closed repository, and a log with an
event before its only activity and one in it. -/
theorem documents_read_back_close :
    (do
      let query ← Query.compile "/status/data/version"
      let report ← Report.ofText "status" (statusDocument "2.6.0" [("nexus:stagingdrop", 15)])
      report.requiredText report.root query) = .ok "2.6.0" ∧
    (∀ client : Client,
      let listing := listingDocument [⟨"p", "p-1", "open"⟩, ⟨"p", "p-2", "closed"⟩]
      let environment : Environment Unit :=
        ⟨fun state _ => (.ok ⟨200, listing⟩, none, state), fun state _ => (none, state)⟩
      (client.openStages.runIn environment (.fresh ())).result = some (.ok [⟨"p", "p-1"⟩])) ∧
    (Report.ofText "log" (ActivityLog.ofSteps [.event "lost" [], .activity "close",
        .event "ruleFailed" [("failureMessage", "No sources")]]).document >>= Activity.ofReport) =
      .ok [⟨"close", some activityTime, none,
        [⟨"ruleFailed", some eventTime, [("failureMessage", "No sources")]⟩]⟩] := by
  obtain ⟨hstatus, hlisting, hlog⟩ := documents_read_back
  refine ⟨hstatus _ _ (by decide) (by decide) _, ?_, ?_⟩
  · intro client listing environment
    exact hlisting _ (by decide) Unit environment (.fresh ()) client rfl
  · exact hlog _ (by decide) _

end ReleaseStaging.Simulation
