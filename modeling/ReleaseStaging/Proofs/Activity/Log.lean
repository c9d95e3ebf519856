import ReleaseStaging.Proofs.Report.Saying

/-!
# What a log holds

A log is read element by element: its activities, the events of each activity and the properties of
each event, down three levels of the document. `IsLog` says which activities a document holds by
where the elements stand and what their children say, and `LacksName` that some of them has no name.
Reading tells the former, or fails exactly in the latter case.
Main statement: `log_tells_its_activities`.
-/

namespace ReleaseStaging

open Query (Site AreAll)

/-! ## What a log holds -/

/-- A site is an activity of a log. -/
def Xml.Document.HasActivity (document : Xml.Document) (activity : Site) : Prop :=
  (Site.ofDocument document).Reaches ["list", "stagingActivity"] activity

namespace Query.Site

/-- A site is an event of an activity. -/
def HasEvent (activity event : Site) : Prop :=
  activity.Reaches ["events", "stagingActivityEvent"] event

/-- A site is a property of an event. -/
def HasProperty (event property : Site) : Prop :=
  event.Reaches ["properties", "stagingProperty"] property

end Query.Site

/-- A site holds a property: its name, and its value or nothing. -/
structure IsProperty (site : Site) (property : String × String) : Prop where
  /-- It is named. -/
  name : site.node.Says "name" property.1
  /-- An absent value is empty. -/
  value : site.node.Says "value" property.2 ∨ site.node.Lacks "value" ∧ property.2 = ""

/-- A site holds an event with all its properties. -/
structure IsEvent (site : Site) (event : ActivityEvent) : Prop where
  /-- It is named. -/
  name : site.node.Says "name" event.name
  /-- It may say when it was recorded. -/
  timestamp : site.node.SaysTime "timestamp" event.timestamp
  /-- Each of its properties is there once, in order. -/
  properties : ∃ sites, AreAll site.HasProperty sites ∧
    List.Forall₂ IsProperty sites event.properties

/-- A site holds an activity with all its events. -/
structure IsActivity (site : Site) (activity : Activity) : Prop where
  /-- It is named. -/
  name : site.node.Says "name" activity.name
  /-- It may say when it started. -/
  started : site.node.SaysTime "started" activity.started
  /-- It may say when it ended. -/
  stopped : site.node.SaysTime "stopped" activity.stopped
  /-- Each of its events is there once, in order. -/
  events : ∃ sites, AreAll site.HasEvent sites ∧ List.Forall₂ IsEvent sites activity.events

/-- A document holds some activities: each is there once, in order. -/
def IsLog (document : Xml.Document) (activities : List Activity) : Prop :=
  ∃ sites, AreAll document.HasActivity sites ∧ List.Forall₂ IsActivity sites activities

/-- Something in a log has no name. -/
inductive LacksName (document : Xml.Document) : Prop
  /-- An activity has none. -/
  | activity {activity : Site} (hactivity : document.HasActivity activity)
      (hname : activity.node.Lacks "name")
  /-- An event of an activity has none. -/
  | event {activity event : Site} (hactivity : document.HasActivity activity)
      (hevent : activity.HasEvent event) (hname : event.node.Lacks "name")
  /-- A property of an event has none. -/
  | property {activity event property : Site} (hactivity : document.HasActivity activity)
      (hevent : activity.HasEvent event) (hproperty : event.HasProperty property)
      (hname : property.node.Lacks "name")

/-! ## What is read -/

namespace Activity

variable (report : Report) {site : Site}

/-- The properties of an event are selected. -/
theorem areAll_properties : AreAll site.HasProperty
    (report.select site (.below ["properties", "stagingProperty"])) :=
  Query.areAll_select_below _ _ _

/-- The events of an activity are selected. -/
theorem areAll_events : AreAll site.HasEvent
    (report.select site (.below ["events", "stagingActivityEvent"])) :=
  Query.areAll_select_below _ _ _

/-- The activities of a log are selected. -/
theorem areAll_activities : AreAll report.document.HasActivity
    (report.select report.root (.fromTop ["list", "stagingActivity"])) :=
  Query.areAll_select_fromTop _ _ _

theorem propertyAt_eq_ok_iff {property : String × String} :
    propertyAt report site = .ok property ↔ IsProperty site property := by
  obtain ⟨name, value⟩ := property
  simp only [propertyAt, bind_eq_ok_iff, pure_eq_ok_iff, Report.requiredText_eq_ok_iff,
    Report.text?_below, Prod.mk.injEq, Xml.Node.getD_text?_eq_iff]
  constructor
  · rintro ⟨_, hname, rfl, hvalue⟩
    exact ⟨hname, hvalue⟩
  · rintro ⟨hname, hvalue⟩
    exact ⟨name, hname, rfl, hvalue⟩

theorem eventAt_eq_ok_iff {event : ActivityEvent} :
    eventAt report site = .ok event ↔ IsEvent site event := by
  obtain ⟨name, timestamp, properties⟩ := event
  simp only [eventAt, bind_eq_ok_iff, pure_eq_ok_iff, Report.requiredText_eq_ok_iff,
    Report.timeAt_eq, (areAll_properties report).mapM_eq_ok_iff, propertyAt_eq_ok_iff,
    ActivityEvent.mk.injEq, Xml.Node.time?_eq_iff]
  constructor
  · rintro ⟨_, hproperties, _, hname, rfl, htimestamp, rfl⟩
    exact ⟨hname, htimestamp, hproperties⟩
  · rintro ⟨hname, htimestamp, hproperties⟩
    exact ⟨properties, hproperties, name, hname, rfl, htimestamp, rfl⟩

theorem activityAt_eq_ok_iff {activity : Activity} :
    activityAt report site = .ok activity ↔ IsActivity site activity := by
  obtain ⟨name, started, stopped, events⟩ := activity
  simp only [activityAt, bind_eq_ok_iff, pure_eq_ok_iff, Report.requiredText_eq_ok_iff,
    Report.timeAt_eq, (areAll_events report).mapM_eq_ok_iff, eventAt_eq_ok_iff, Activity.mk.injEq,
    Xml.Node.time?_eq_iff]
  constructor
  · rintro ⟨_, hevents, _, hname, rfl, hstarted, hstopped, rfl⟩
    exact ⟨hname, hstarted, hstopped, hevents⟩
  · rintro ⟨hname, hstarted, hstopped, hevents⟩
    exact ⟨events, hevents, name, hname, rfl, hstarted, hstopped, rfl⟩

/-- The activities that are read are those that the document holds. -/
theorem ofReport_eq_ok_iff {activities : List Activity} :
    ofReport report = .ok activities ↔ IsLog report.document activities := by
  simp only [ofReport, (areAll_activities report).mapM_eq_ok_iff, activityAt_eq_ok_iff, IsLog]

/-! ## What is not read -/

variable (site)

/-- A property is read unless its name is missing. -/
theorem failsExactly_propertyAt : FailsExactly (report.missing (.below ["name"]))
    (site.node.Lacks "name") (propertyAt report site) :=
  report.failsExactly_requiredText.bind_pure _

/-- An event is read unless a name is missing in it. -/
theorem failsExactly_eventAt : FailsExactly (report.missing (.below ["name"]))
    ((∃ property, site.HasProperty property ∧ property.node.Lacks "name") ∨
      site.node.Lacks "name") (eventAt report site) :=
  ((areAll_properties report).failsExactly_mapM (failsExactly_propertyAt report)).bind
    fun _ => report.failsExactly_requiredText.bind_pure _

/-- An activity is read unless a name is missing in it. -/
theorem failsExactly_activityAt : FailsExactly (report.missing (.below ["name"]))
    ((∃ event, site.HasEvent event ∧
        ((∃ property, event.HasProperty property ∧ property.node.Lacks "name") ∨
          event.node.Lacks "name")) ∨
      site.node.Lacks "name") (activityAt report site) :=
  ((areAll_events report).failsExactly_mapM (failsExactly_eventAt report)).bind
    fun _ => report.failsExactly_requiredText.bind_pure _

/-- A log is read unless a name is missing in it. -/
theorem failsExactly_ofReport : FailsExactly (report.missing (.below ["name"]))
    (LacksName report.document) (ofReport report) := by
  have hread := (areAll_activities report).failsExactly_mapM
    (failsExactly_activityAt report)
  intro failure
  rw [ofReport, hread failure]
  refine and_congr_right fun _ => ⟨?_, ?_⟩
  · rintro ⟨activity, hactivity, ⟨event, hevent, ⟨property, hproperty, hname⟩ | hname⟩ | hname⟩
    · exact .property hactivity hevent hproperty hname
    · exact .event hactivity hevent hname
    · exact .activity hactivity hname
  · rintro (⟨hactivity, hname⟩ | ⟨hactivity, hevent, hname⟩ |
      ⟨hactivity, hevent, hproperty, hname⟩)
    · exact ⟨_, hactivity, .inr hname⟩
    · exact ⟨_, hactivity, .inl ⟨_, hevent, .inr hname⟩⟩
    · exact ⟨_, hactivity, .inl ⟨_, hevent, .inl ⟨_, hproperty, hname⟩⟩⟩

end Activity

/-- A log tells its activities. They are read exactly as the document holds them: one for each
element of an activity, in it one event for each element of its events, in those one property for
each element of their properties, all in document order. Reading fails exactly if one of these
elements has no name, and the failure says so; no other text that is missing or means nothing makes
it fail. No event belongs to two activities and no property to two events. -/
theorem log_tells_its_activities (report : Report) :
    (∀ activities, Activity.ofReport report = .ok activities ↔
      IsLog report.document activities) ∧
    (∀ failure, Activity.ofReport report = .error failure ↔
      failure = .missingNode report.source "name" ∧ LacksName report.document) ∧
    (∀ activity other event, report.document.HasActivity activity →
      report.document.HasActivity other → activity.HasEvent event → other.HasEvent event →
      activity = other) ∧
    ∀ activity other event event' property, report.document.HasActivity activity →
      report.document.HasActivity other → activity.HasEvent event → other.HasEvent event' →
      event.HasProperty property → event'.HasProperty property → event = event' := by
  refine ⟨fun activities => Activity.ofReport_eq_ok_iff report,
    Activity.failsExactly_ofReport report, ?_, ?_⟩
  · intro activity other event hactivity hother hevent hevent'
    exact hevent.unique hactivity.isWithin hother.isWithin hevent'
  · intro activity other event event' property hactivity hother hevent hevent' hproperty hproperty'
    exact hproperty.unique (hactivity.isWithin.trans hevent.isWithin)
      (hother.isWithin.trans hevent'.isWithin) hproperty'

end ReleaseStaging
