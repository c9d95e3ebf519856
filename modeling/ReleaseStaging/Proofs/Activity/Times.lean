import ReleaseStaging.Proofs.Report.Content

/-!
# Times make no difference

A log tells when its activities started and stopped and when its events were recorded. Nothing else
is read from the elements of these times: emptying them before a log is read comes to the same as
reading it and forgetting the times. So two logs that differ only within these elements are read
alike, and the same close ended in the same way, whatever stands for a time.
Main statement: `outcome_ignores_times`.
-/

namespace ReleaseStaging

open Query (nodesBelow)

/-! ## Forgetting times -/

/-- An event whose time is not told. -/
def ActivityEvent.withoutTimes (event : ActivityEvent) : ActivityEvent :=
  { event with timestamp := none }

/-- An activity whose times are not told, and neither are those of its events. -/
def Activity.withoutTimes (activity : Activity) : Activity :=
  { activity with
    started := none
    stopped := none
    events := activity.events.map ActivityEvent.withoutTimes }

namespace Activity

variable (activity : Activity) (name : String)

theorem event?_withoutTimes : activity.withoutTimes.event? name =
    (activity.event? name).map ActivityEvent.withoutTimes :=
  List.find?_map ..

theorem eventsNamed_withoutTimes : activity.withoutTimes.eventsNamed name =
    (activity.eventsNamed name).map ActivityEvent.withoutTimes :=
  List.filter_map ..

end Activity

/-- How a close ended does not depend on times. -/
theorem CloseOutcome.ofActivity_withoutTimes (activity : Activity) :
    ofActivity activity.withoutTimes = ofActivity activity := by
  rw [ofActivity, ofActivity, Activity.event?_withoutTimes, Activity.event?_withoutTimes,
    Activity.eventsNamed_withoutTimes, Option.isSome_map, List.filterMap_map]
  cases activity.event? repositoryCloseFailed <;> rfl

/-- Neither does the outcome that a log records. -/
theorem CloseOutcome.ofLog_withoutTimes (log : List Activity) :
    ofLog (log.map Activity.withoutTimes) = ofLog log := by
  have hname : (fun activity : Activity => activity.name == "close") ∘ Activity.withoutTimes =
      fun activity => activity.name == "close" := rfl
  rw [ofLog, ofLog, ← List.map_reverse, List.find?_map, hname]
  cases log.reverse.find? fun activity => activity.name == "close" with
  | none => rfl
  | some activity => exact ofActivity_withoutTimes activity

/-! ## Emptying elements -/

namespace Xml.Node

/-- A node with its children of a name changed. -/
def mapNamed (name : String) (change : Node → Node) : Node → Node
  | element own children =>
    element own (children.map fun child => if child.isNamed name then change child else child)
  | node => node

/-- An element without its content. -/
def emptied : Node → Node
  | element name _ => element name []
  | node => node

/-- An event with nothing in the elements of its time. -/
def eventWithoutTimes (event : Node) : Node :=
  event.mapNamed "timestamp" emptied

/-- An activity with nothing in the elements of its times, and neither in those of its events. -/
def activityWithoutTimes (activity : Node) : Node :=
  ((activity.mapNamed "started" emptied).mapNamed "stopped" emptied).mapNamed "events"
    (mapNamed "stagingActivityEvent" eventWithoutTimes)

/-- A log with nothing in the elements of its times. -/
def logWithoutTimes (document : Node) : Node :=
  document.mapNamed "list" (mapNamed "stagingActivity" activityWithoutTimes)

variable {name other : String} {change : Node → Node} (node : Node)

theorem name?_emptied : node.emptied.name? = node.name? := by
  cases node <;> rfl

theorem name?_mapNamed : (node.mapNamed name change).name? = node.name? := by
  cases node <;> rfl

theorem name?_activityWithoutTimes : node.activityWithoutTimes.name? = node.name? := by
  simp only [activityWithoutTimes, name?_mapNamed]

/-- The children of any name are those that were there, some of them changed. -/
theorem childrenNamed_mapNamed (h : ∀ node, (change node).name? = node.name?) :
    (node.mapNamed name change).childrenNamed other = (node.childrenNamed other).map fun child =>
      if child.isNamed name then change child else child := by
  have hsame (child : Node) :
      (if child.isNamed name then change child else child).isNamed other = child.isNamed other := by
    split
    · rw [isNamed, isNamed, h]
    · rfl
  cases node with
  | element own children =>
    rw [mapNamed, childrenNamed, Node.children, List.filter_map]
    simp only [Function.comp_def, hsame]
    rfl
  | text _ => rfl
  | comment _ => rfl
  | instruction _ _ => rfl

/-- The children of the name are all changed. -/
theorem childrenNamed_mapNamed_self (h : ∀ node, (change node).name? = node.name?) :
    (node.mapNamed name change).childrenNamed name = (node.childrenNamed name).map change := by
  rw [childrenNamed_mapNamed node h]
  exact List.map_congr_left fun child hchild => if_pos (List.mem_filter.mp hchild).2

/-- The children of another name are left. -/
theorem childrenNamed_mapNamed_of_ne (h : ∀ node, (change node).name? = node.name?)
    (hne : other ≠ name) :
    (node.mapNamed name change).childrenNamed other = node.childrenNamed other := by
  rw [childrenNamed_mapNamed node h]
  refine (List.map_congr_left fun child hchild => if_neg fun hnamed => hne ?_).trans
    (List.map_id' _)
  have hother : child.isNamed other = true := (List.mem_filter.mp hchild).2
  rw [isNamed, beq_iff_eq] at hnamed hother
  exact Option.some.inj (hother.symm.trans hnamed)

/-- What is said in children of another name is left. -/
theorem text?_mapNamed_of_ne (h : ∀ node, (change node).name? = node.name?) (hne : other ≠ name) :
    (node.mapNamed name change).text? other = node.text? other := by
  rw [text?, text?, childrenNamed_mapNamed_of_ne node h hne]

theorem requiredText_mapNamed_of_ne (h : ∀ node, (change node).name? = node.name?)
    (hne : other ≠ name) :
    (node.mapNamed name change).requiredText other = node.requiredText other := by
  rw [requiredText, requiredText, text?_mapNamed_of_ne node h hne]

theorem time?_mapNamed_of_ne (h : ∀ node, (change node).name? = node.name?) (hne : other ≠ name) :
    (node.mapNamed name change).time? other = node.time? other := by
  rw [time?, time?, text?_mapNamed_of_ne node h hne]

/-- An empty element tells no time. -/
theorem time?_mapNamed_emptied : (node.mapNamed name emptied).time? name = none := by
  rw [time?, text?, childrenNamed_mapNamed_self node name?_emptied, List.head?_map]
  cases hfirst : (node.childrenNamed name).head? with
  | none => rfl
  | some child =>
    have hnamed : child.isNamed name = true :=
      (List.mem_filter.mp (List.mem_of_head? hfirst)).2
    have hempty : child.emptied.stringValue = "" := by
      cases child with
      | element _ _ => rfl
      | text _ => cases hnamed
      | comment _ => rfl
      | instruction _ _ => rfl
    simp only [Option.map_some, hempty, Option.bind_some]
    decide

/-! ## What is found in a log without its times -/

/-- Two levels of children below a node. -/
theorem nodesBelow_pair (first second : String) :
    nodesBelow [first, second] [node] =
      (node.childrenNamed first).flatMap (childrenNamed second) := by
  simp [nodesBelow]

theorem nodesBelow_mapNamed_of_ne (h : ∀ node, (change node).name? = node.name?) {second : String}
    (hne : other ≠ name) : nodesBelow [other, second] [node.mapNamed name change] =
      nodesBelow [other, second] [node] := by
  rw [nodesBelow_pair, nodesBelow_pair, childrenNamed_mapNamed_of_ne node h hne]

/-- Changing nodes two levels below changes what is found there. -/
theorem nodesBelow_mapNamed_self (h : ∀ node, (change node).name? = node.name?) :
    nodesBelow [other, name] [node.mapNamed other (mapNamed name change)] =
      (nodesBelow [other, name] [node]).map change := by
  rw [nodesBelow_pair, nodesBelow_pair, childrenNamed_mapNamed_self node fun _ => name?_mapNamed _,
    List.flatMap_map, List.map_flatMap]
  exact congrArg (List.flatMap · _) (funext fun child => childrenNamed_mapNamed_self child h)

/-- An event without its times is the event with its times forgotten. -/
theorem event_eventWithoutTimes :
    node.eventWithoutTimes.event = ActivityEvent.withoutTimes <$> node.event := by
  simp only [event, eventWithoutTimes, time?_mapNamed_emptied,
    nodesBelow_mapNamed_of_ne node name?_emptied (show "properties" ≠ "timestamp" by decide),
    requiredText_mapNamed_of_ne node name?_emptied (show "name" ≠ "timestamp" by decide), map_bind]
  rfl

/-- An activity without its times is the activity with its times forgotten. -/
theorem activity_activityWithoutTimes :
    node.activityWithoutTimes.activity = Activity.withoutTimes <$> node.activity := by
  have hkeeps (node : Node) :
      (mapNamed "stagingActivityEvent" eventWithoutTimes node).name? = node.name? :=
    name?_mapNamed node
  have hkeeps' (node : Node) : node.eventWithoutTimes.name? = node.name? := name?_mapNamed node
  have hevents : nodesBelow ["events", "stagingActivityEvent"] [node.activityWithoutTimes] =
      (nodesBelow ["events", "stagingActivityEvent"] [node]).map eventWithoutTimes := by
    rw [activityWithoutTimes, nodesBelow_mapNamed_self _ hkeeps',
      nodesBelow_mapNamed_of_ne _ name?_emptied (by decide),
      nodesBelow_mapNamed_of_ne _ name?_emptied (by decide)]
  have hname : node.activityWithoutTimes.requiredText "name" = node.requiredText "name" := by
    rw [activityWithoutTimes, requiredText_mapNamed_of_ne _ hkeeps (by decide),
      requiredText_mapNamed_of_ne _ name?_emptied (by decide),
      requiredText_mapNamed_of_ne _ name?_emptied (by decide)]
  have hstarted : node.activityWithoutTimes.time? "started" = none := by
    rw [activityWithoutTimes, time?_mapNamed_of_ne _ hkeeps (by decide),
      time?_mapNamed_of_ne _ name?_emptied (by decide), time?_mapNamed_emptied]
  have hstopped : node.activityWithoutTimes.time? "stopped" = none := by
    rw [activityWithoutTimes, time?_mapNamed_of_ne _ hkeeps (by decide), time?_mapNamed_emptied]
  simp only [activity, hevents, hname, hstarted, hstopped,
    mapM_map_eq_map event_eventWithoutTimes, map_bind, bind_map_left]
  rfl

/-- A log without its times is the log with the times of its activities forgotten. -/
theorem activities_logWithoutTimes :
    node.logWithoutTimes.activities = List.map Activity.withoutTimes <$> node.activities := by
  rw [activities, logWithoutTimes, nodesBelow_mapNamed_self node name?_activityWithoutTimes,
    mapM_map_eq_map activity_activityWithoutTimes]
  rfl

/-- Logs that differ in their times only lack the same name, or tell activities that differ in their
times only. -/
theorem activities_of_logWithoutTimes_eq {first second : Node}
    (h : first.logWithoutTimes = second.logWithoutTimes) :
    (∃ query, first.activities = .error query ∧ second.activities = .error query) ∨
      ∃ log log', first.activities = .ok log ∧ second.activities = .ok log' ∧
        log.map Activity.withoutTimes = log'.map Activity.withoutTimes := by
  have hread : List.map Activity.withoutTimes <$> first.activities =
      List.map Activity.withoutTimes <$> second.activities := by
    rw [← activities_logWithoutTimes, ← activities_logWithoutTimes, h]
  cases hfirst : first.activities with
  | error query =>
    cases hsecond : second.activities with
    | error query' =>
      rw [hfirst, hsecond] at hread
      obtain rfl : query = query' := Except.error.inj hread
      exact .inl ⟨query, rfl, rfl⟩
    | ok log' =>
      rw [hfirst, hsecond] at hread
      cases hread
  | ok log =>
    cases hsecond : second.activities with
    | error query =>
      rw [hfirst, hsecond] at hread
      cases hread
    | ok log' =>
      rw [hfirst, hsecond] at hread
      exact .inr ⟨log, log', rfl, rfl, Except.ok.inj hread⟩

end Xml.Node

/-! ## Two logs -/

/-- Activities that differ in their times only record the same outcome. -/
theorem CloseOutcome.ofLog_congr {log log' : List Activity}
    (h : log.map Activity.withoutTimes = log'.map Activity.withoutTimes) :
    ofLog log = ofLog log' := by
  rw [← ofLog_withoutTimes log, h, ofLog_withoutTimes]

/-- Two documents may differ in what stands within the elements of the times of activities and
events, and nowhere else. Then both fail to be read as logs with the same failure, or they tell
activities that differ in their times only and record the same outcome of a close. So whatever a
server writes for a time, its answer means the same for the close. -/
theorem outcome_ignores_times {first second : Xml.Document}
    (h : first.node.logWithoutTimes = second.node.logWithoutTimes) :
    (∀ source,
      (∃ failure, Activity.ofReport ⟨source, first⟩ = .error failure ∧
          Activity.ofReport ⟨source, second⟩ = .error failure) ∨
        ∃ log log', Activity.ofReport ⟨source, first⟩ = .ok log ∧
          Activity.ofReport ⟨source, second⟩ = .ok log' ∧
          log.map Activity.withoutTimes = log'.map Activity.withoutTimes ∧
          CloseOutcome.ofLog log = CloseOutcome.ofLog log') ∧
    ∀ text other, Xml.Document.ofString? text = some first →
      Xml.Document.ofString? other = some second → ∀ request,
        Exchange.closeOutcome ⟨request, .ok ⟨200, text⟩⟩ =
          Exchange.closeOutcome ⟨request, .ok ⟨200, other⟩⟩ := by
  have hread := Xml.Node.activities_of_logWithoutTimes_eq h
  constructor
  · intro source
    rw [Report.activities_eq, Report.activities_eq]
    rcases hread with ⟨query, hfirst, hsecond⟩ | ⟨log, log', hfirst, hsecond, htimes⟩
    · left
      exact ⟨.missingNode source query.expression, by rw [hfirst]; rfl, by rw [hsecond]; rfl⟩
    · right
      exact ⟨log, log', by rw [hfirst]; rfl, by rw [hsecond]; rfl, htimes,
        CloseOutcome.ofLog_congr htimes⟩
  · intro text other htext hother request
    rw [closeOutcome_answered htext, closeOutcome_answered hother]
    rcases hread with ⟨query, hfirst, hsecond⟩ | ⟨log, log', hfirst, hsecond, htimes⟩
    · rw [hfirst, hsecond]
    · have houtcome : CloseOutcome.ofLog <$> (.ok log : Except Query (List Activity)) =
          CloseOutcome.ofLog <$> .ok log' := congrArg Except.ok (CloseOutcome.ofLog_congr htimes)
      rw [hfirst, hsecond, houtcome]

/-- The document of a log of one close that succeeded, with the given texts as its times. -/
def closedLog (started recorded : String) : Xml.Document where
  before := []
  rootName := "list"
  rootChildren := [.element "stagingActivity" [.element "name" [.text "close"],
    .element "started" [.text started], .element "events" [.element "stagingActivityEvent"
      [.element "timestamp" [.text recorded], .element "name" [.text "repositoryClosed"]]]]]
  after := []

/-- Whether the times are well written or not, the close is read alike. -/
theorem outcome_ignores_times_malformed :
    (closedLog "2013-02-13T13:30:49.725Z" "noon").node.logWithoutTimes =
        (closedLog "yesterday" "2013-02-13T13:30:50Z").node.logWithoutTimes ∧
      ((∃ failure,
          Activity.ofReport ⟨"log", closedLog "2013-02-13T13:30:49.725Z" "noon"⟩ =
            .error failure ∧
          Activity.ofReport ⟨"log", closedLog "yesterday" "2013-02-13T13:30:50Z"⟩ =
            .error failure) ∨
        ∃ log log',
          Activity.ofReport ⟨"log", closedLog "2013-02-13T13:30:49.725Z" "noon"⟩ = .ok log ∧
          Activity.ofReport ⟨"log", closedLog "yesterday" "2013-02-13T13:30:50Z"⟩ = .ok log' ∧
          log.map Activity.withoutTimes = log'.map Activity.withoutTimes ∧
          CloseOutcome.ofLog log = CloseOutcome.ofLog log') := by
  have hsame : (closedLog "2013-02-13T13:30:49.725Z" "noon").node.logWithoutTimes =
      (closedLog "yesterday" "2013-02-13T13:30:50Z").node.logWithoutTimes := rfl
  exact ⟨hsame, (outcome_ignores_times hsame).1 "log"⟩

end ReleaseStaging
