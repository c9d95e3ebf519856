import ReleaseStaging.Calendar.Reader
import ReleaseStaging.Report

/-!
# The activity log

The server records every action on a staging repository as an activity with a list of events. How
a close ended is visible only there.
-/

namespace ReleaseStaging

/-- An event within an activity. -/
structure ActivityEvent where
  /-- The name of the event. -/
  name : String
  /-- When it was recorded, if the log tells. -/
  timestamp : Option Calendar.Instant
  /-- Names and values, in the order of the log. -/
  properties : List (String × String)
  deriving DecidableEq, Repr

/-- The value of the first property of the given name. -/
def ActivityEvent.property? (event : ActivityEvent) (name : String) : Option String :=
  event.properties.lookup name

/-- An action on a staging repository. -/
structure Activity where
  /-- The name of the action. -/
  name : String
  /-- When it started, if the log tells. -/
  started : Option Calendar.Instant
  /-- When it ended, if the log tells. -/
  stopped : Option Calendar.Instant
  /-- Its events in the order of the log. -/
  events : List ActivityEvent
  deriving DecidableEq, Repr

namespace Activity

/-- The events of the given name. -/
def eventsNamed (activity : Activity) (name : String) : List ActivityEvent :=
  activity.events.filter fun event => event.name == name

/-- The first event of the given name. -/
def event? (activity : Activity) (name : String) : Option ActivityEvent :=
  activity.events.find? fun event => event.name == name

/-- The first event of a name is the first of all events of that name. -/
theorem head?_eventsNamed (activity : Activity) (name : String) :
    (activity.eventsNamed name).head? = activity.event? name := by
  simp [eventsNamed, event?, List.head?_filter]

/-! ## Reading the log -/

open Query (Site)

/-- The time in the first child of the given name; a text that is no time is dropped. -/
def timeAt (report : Report) (site : Site) (name : String) : Option Calendar.Instant :=
  (report.text? site (.below [name])).bind Calendar.instant?

/-- A property of an event; a value that is absent is empty. -/
def propertyAt (report : Report) (site : Site) : Except Failure (String × String) := do
  let name ← report.requiredText site (.below ["name"])
  return (name, (report.text? site (.below ["value"])).getD "")

/-- An event of an activity. -/
def eventAt (report : Report) (site : Site) : Except Failure ActivityEvent := do
  let properties ←
    (report.select site (.below ["properties", "stagingProperty"])).mapM (propertyAt report)
  let name ← report.requiredText site (.below ["name"])
  return ⟨name, timeAt report site "timestamp", properties⟩

/-- An activity of the log. -/
def activityAt (report : Report) (site : Site) : Except Failure Activity := do
  let events ←
    (report.select site (.below ["events", "stagingActivityEvent"])).mapM (eventAt report)
  let name ← report.requiredText site (.below ["name"])
  return ⟨name, timeAt report site "started", timeAt report site "stopped", events⟩

/-- The activities of a log, in order. -/
def ofReport (report : Report) : Except Failure (List Activity) :=
  (report.select report.root (.fromTop ["list", "stagingActivity"])).mapM (activityAt report)

end Activity

end ReleaseStaging
