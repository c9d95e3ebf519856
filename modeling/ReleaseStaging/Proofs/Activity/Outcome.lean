import ReleaseStaging.Activity.Outcome
import ReleaseStaging.Proofs.Client.Discovery

/-!
# What a log tells about a close

The last activity of a log that is a close tells how the close ended: by the event of its success,
or else by the first event of its failure together with the failed rules. `Activity.Tells` and
`Records` say this by what the log holds, without saying how it is looked for, and everything that
the log holds besides makes no difference.
Main statement: `last_close_decides`.
-/

namespace ReleaseStaging

/-- An element of a list is the last one with a property. -/
def IsLast {α : Type} (property : α → Prop) (list : List α) (a : α) : Prop :=
  property a ∧ ∃ before after, list = before ++ a :: after ∧ ∀ other ∈ after, ¬ property other

/-- The last element with a property is the first one from the end. -/
theorem isFirst_reverse_iff {α : Type} {property : α → Prop} {list : List α} {a : α} :
    IsFirst property list.reverse a ↔ IsLast property list a := by
  refine and_congr_right fun _ => ⟨?_, ?_⟩
  · rintro ⟨before, after, hlist, hnone⟩
    refine ⟨after.reverse, before.reverse, ?_, fun other h => hnone other (List.mem_reverse.mp h)⟩
    rw [← List.reverse_reverse list, hlist]
    simp
  · rintro ⟨before, after, rfl, hnone⟩
    refine ⟨after.reverse, before.reverse, by simp, fun other h => ?_⟩
    exact hnone other (List.mem_reverse.mp h)

/-! ## What a close tells -/

/-- The value of a property is that of the first one of its name. -/
def ActivityEvent.Says (event : ActivityEvent) (name value : String) : Prop :=
  IsFirst (fun property => property.1 = name) event.properties (name, value)

/-- The messages of the rules that failed: of each such event its first message, if it has one. -/
inductive Complains : List ActivityEvent → List String → Prop
  /-- Without events there are no messages. -/
  | nil : Complains [] []
  /-- An event with a message of a failed rule comes first. -/
  | message {event : ActivityEvent} {events : List ActivityEvent} {message : String}
      {messages : List String} (hname : event.name = ruleFailed)
      (hmessage : event.Says "failureMessage" message) (hrest : Complains events messages) :
      Complains (event :: events) (message :: messages)
  /-- Another event comes first. -/
  | other {event : ActivityEvent} {events : List ActivityEvent} {messages : List String}
      (hnone : event.name = ruleFailed → ∀ message, ¬ event.Says "failureMessage" message)
      (hrest : Complains events messages) : Complains (event :: events) messages

/-- How a close ended, by its events. -/
inductive Activity.Tells (close : Activity) : CloseOutcome → Prop
  /-- The event of success is there, whatever else is. -/
  | closed {event : ActivityEvent} (hevent : event ∈ close.events)
      (hname : event.name = repositoryClosed) : close.Tells .closed
  /-- The event of success is not there, but that of the failure is. The first one names the cause,
  if any. -/
  | failed {event : ActivityEvent} {failure : CloseFailure}
      (hopen : ∀ event ∈ close.events, event.name ≠ repositoryClosed)
      (hevent : IsFirst (fun event => event.name = repositoryCloseFailed) close.events event)
      (hcause : ∀ cause, failure.cause = some cause ↔ event.Says "cause" cause)
      (hrules : Complains close.events failure.failedRules) : close.Tells (.failed failure)
  /-- Neither is there. -/
  | neither (hnone : ∀ event ∈ close.events,
      event.name ≠ repositoryClosed ∧ event.name ≠ repositoryCloseFailed) : close.Tells .unrecorded

/-- How the last close of a log ended. -/
inductive Records (log : List Activity) : CloseOutcome → Prop
  /-- There is no close. -/
  | none (hnone : ∀ activity ∈ log, activity.name ≠ "close") : Records log .unrecorded
  /-- The last close tells. -/
  | last {close : Activity} {outcome : CloseOutcome}
      (hlast : IsLast (fun activity => activity.name = "close") log close)
      (htells : close.Tells outcome) : Records log outcome

/-! ## What is looked for is found -/

theorem ActivityEvent.property?_eq_some_iff {event : ActivityEvent} {name value : String} :
    event.property? name = some value ↔ event.Says name value := by
  have hother (property : String × String) :
      (name != property.1) = true ↔ ¬ property.1 = name := by rw [bne_iff_ne, ne_comm]
  simp only [property?, List.lookup_eq_some_iff, Says, IsFirst, hother, true_and]

namespace Activity

variable {activity : Activity} {name : String}

theorem event?_eq_some_iff {event : ActivityEvent} :
    activity.event? name = some event ↔
      IsFirst (fun event => event.name = name) activity.events event := by
  rw [event?, find?_eq_some_iff_isFirst]
  simp only [beq_iff_eq]

theorem event?_eq_none_iff :
    activity.event? name = none ↔ ∀ event ∈ activity.events, event.name ≠ name := by
  simp [event?]

end Activity

/-- The messages of the rules that failed are those that their events say. -/
theorem filterMap_filter_eq_iff_complains {events : List ActivityEvent} {messages : List String} :
    ((events.filter fun event => event.name == ruleFailed).filterMap fun rule =>
      rule.property? "failureMessage") = messages ↔ Complains events messages := by
  constructor
  · rintro rfl
    induction events with
    | nil => exact .nil
    | cons event events ih =>
      by_cases hname : event.name = ruleFailed
      · cases hmessage : event.property? "failureMessage" with
        | none =>
          rw [List.filter_cons_of_pos (by simpa using hname)]
          simp only [List.filterMap_cons, hmessage]
          refine .other (fun _ message hsays => ?_) ih
          rw [ActivityEvent.property?_eq_some_iff.mpr hsays] at hmessage
          cases hmessage
        | some message =>
          rw [List.filter_cons_of_pos (by simpa using hname)]
          simp only [List.filterMap_cons, hmessage]
          exact .message hname (ActivityEvent.property?_eq_some_iff.mp hmessage) ih
      · rw [List.filter_cons_of_neg (by simpa using hname)]
        exact .other (fun h => absurd h hname) ih
  · intro h
    induction h with
    | nil => rfl
    | message hname hmessage _ ih =>
      simp [hname, ActivityEvent.property?_eq_some_iff.mpr hmessage, ih]
    | @other event _ _ hnone _ ih =>
      by_cases hname : event.name = ruleFailed
      · have hmessage : event.property? "failureMessage" = none :=
          Option.eq_none_iff_forall_ne_some.mpr fun message h =>
            hnone hname message (ActivityEvent.property?_eq_some_iff.mp h)
        simp [hname, hmessage, ih]
      · simp [hname, ih]

/-- How a close ended is what it tells. -/
theorem ofActivity_eq_iff_tells {close : Activity} {outcome : CloseOutcome} :
    CloseOutcome.ofActivity close = outcome ↔ close.Tells outcome := by
  rw [CloseOutcome.ofActivity]
  constructor
  · rintro rfl
    cases hclosed : close.event? repositoryClosed with
    | some event =>
      obtain ⟨hname, before, after, hevents, -⟩ := Activity.event?_eq_some_iff.mp hclosed
      exact .closed (hevents ▸ List.mem_append_cons_self) hname
    | none =>
      have hopen := Activity.event?_eq_none_iff.mp hclosed
      cases hfailed : close.event? repositoryCloseFailed with
      | none =>
        have hnone := Activity.event?_eq_none_iff.mp hfailed
        exact .neither fun event hevent => ⟨hopen event hevent, hnone event hevent⟩
      | some event =>
        exact .failed hopen (Activity.event?_eq_some_iff.mp hfailed)
          (fun cause => ActivityEvent.property?_eq_some_iff)
          (filterMap_filter_eq_iff_complains.mp rfl)
  · intro h
    cases h with
    | @closed event hevent hname =>
      have hclosed : (close.event? repositoryClosed).isSome = true :=
        List.find?_isSome.mpr ⟨event, hevent, by simpa using hname⟩
      rw [if_pos hclosed]
    | @failed event failure hopen hevent hcause hrules =>
      have hreason : event.property? "cause" = failure.cause := by
        apply Option.ext
        intro cause
        rw [hcause]
        exact ActivityEvent.property?_eq_some_iff
      have hmessages := filterMap_filter_eq_iff_complains.mpr hrules
      rw [Activity.event?_eq_none_iff.mpr hopen, Activity.event?_eq_some_iff.mpr hevent]
      simp only [Option.isSome_none, Bool.false_eq_true, if_false, hreason, Activity.eventsNamed,
        hmessages]
    | neither hnone =>
      rw [Activity.event?_eq_none_iff.mpr fun event hevent => (hnone event hevent).1,
        Activity.event?_eq_none_iff.mpr fun event hevent => (hnone event hevent).2]
      rfl

/-- The close that is looked for is the last one. -/
theorem find?_reverse_eq_some_iff {log : List Activity} {close : Activity} :
    (log.reverse.find? fun activity => activity.name == "close") = some close ↔
      IsLast (fun activity => activity.name = "close") log close := by
  rw [find?_eq_some_iff_isFirst, ← isFirst_reverse_iff]
  simp only [beq_iff_eq]

/-- How the last close of a log ended is what the log records. -/
theorem ofLog_eq_iff_records {log : List Activity} {outcome : CloseOutcome} :
    CloseOutcome.ofLog log = outcome ↔ Records log outcome := by
  rw [CloseOutcome.ofLog]
  constructor
  · rintro rfl
    cases hfind : log.reverse.find? fun activity => activity.name == "close" with
    | none => exact .none (by simpa using hfind)
    | some close =>
      exact .last (find?_reverse_eq_some_iff.mp hfind) (ofActivity_eq_iff_tells.mp rfl)
  · intro h
    cases h with
    | none hnone =>
      have hfind : (log.reverse.find? fun activity => activity.name == "close") = none := by
        simpa using hnone
      rw [hfind]
    | last hlast htells =>
      rw [find?_reverse_eq_some_iff.mpr hlast]
      exact ofActivity_eq_iff_tells.mpr htells

/-! ## What makes no difference -/

/-- Whether an event tells how a close ended. -/
def ActivityEvent.isTelling (event : ActivityEvent) : Bool :=
  [repositoryClosed, repositoryCloseFailed, ruleFailed].contains event.name

variable {close other : Activity} {name : String}

/-- The events of a name that tells are among those that tell. -/
theorem eventsNamed_congr
    (h : close.events.filter ActivityEvent.isTelling = other.events.filter ActivityEvent.isTelling)
    (hname : [repositoryClosed, repositoryCloseFailed, ruleFailed].contains name = true) :
    close.eventsNamed name = other.eventsNamed name := by
  have hnamed (activity : Activity) : activity.eventsNamed name =
      (activity.events.filter ActivityEvent.isTelling).filter fun event => event.name == name := by
    rw [Activity.eventsNamed, List.filter_filter]
    refine List.filter_congr fun event _ => ?_
    cases heq : event.name == name with
    | false => rfl
    | true =>
      obtain rfl : event.name = name := by simpa using heq
      exact hname.symm
  rw [hnamed, hnamed, h]

/-- How a close ended depends only on its events that tell. -/
theorem ofActivity_congr (h : close.events.filter ActivityEvent.isTelling =
      other.events.filter ActivityEvent.isTelling) :
    CloseOutcome.ofActivity close = CloseOutcome.ofActivity other := by
  have hclosed : close.eventsNamed repositoryClosed = other.eventsNamed repositoryClosed :=
    eventsNamed_congr h rfl
  have hfailed :
      close.eventsNamed repositoryCloseFailed = other.eventsNamed repositoryCloseFailed :=
    eventsNamed_congr h rfl
  have hrules : close.eventsNamed ruleFailed = other.eventsNamed ruleFailed :=
    eventsNamed_congr h rfl
  simp only [CloseOutcome.ofActivity, ← Activity.head?_eventsNamed, hclosed, hfailed, hrules]

/-- After a close, activities that are no closes make no difference, and neither does what comes
before it. -/
theorem ofLog_append_cons (earlier : List Activity) {later : List Activity}
    (hname : close.name = "close") (hlater : ∀ activity ∈ later, activity.name ≠ "close") :
    CloseOutcome.ofLog (earlier ++ close :: later) = CloseOutcome.ofActivity close :=
  ofLog_eq_iff_records.mpr
    (.last ⟨hname, earlier, later, rfl, hlater⟩ (ofActivity_eq_iff_tells.mp rfl))

/-- Activities that are no closes make no difference at the end of a log. -/
theorem ofLog_append {log later : List Activity}
    (hlater : ∀ activity ∈ later, activity.name ≠ "close") :
    CloseOutcome.ofLog (log ++ later) = CloseOutcome.ofLog log := by
  have hnone : (later.reverse.find? fun activity => activity.name == "close") = none := by
    simpa using hlater
  rw [CloseOutcome.ofLog, CloseOutcome.ofLog, List.reverse_append, List.find?_append, hnone,
    Option.none_or]

/-! ## The message of a failure -/

/-- The message of a failed close is a header, and after it the cause and the messages of the rules
in order, each once and on a line of its own. -/
theorem toList_message (failure : CloseFailure) (stage : Stage) :
    (failure.message stage).toList = s!"Closing stage {stage.stageId} failed.".toList ++
      (failure.cause.toList ++ failure.failedRules).flatMap fun reason =>
        '\n' :: '\t' :: reason.toList := by
  have hlines (reasons : List String) :
      (String.join (reasons.map fun line => "\n\t" ++ line)).toList =
        reasons.flatMap fun reason => '\n' :: '\t' :: reason.toList := by
    induction reasons with
    | nil => rfl
    | cons reason reasons ih => simp [ih]
  have hmessage : failure.message stage = s!"Closing stage {stage.stageId} failed." ++
      String.join ((failure.cause.toList ++ failure.failedRules).map fun line => "\n\t" ++ line) :=
    rfl
  rw [hmessage, String.toList_append, hlines]

/-- The last close of a log decides how it ended. The log records what its last close tells: success
if the event of success is there, else failure with the first cause of the first failure event and
the first message of each failed rule that has one, in order, else neither; without a close it
records neither. Nothing else makes a difference: no activities of other names after the last close,
no activities before it, and no other events of the close. The message of the failure has all its
reasons in order. -/
theorem last_close_decides (log : List Activity) :
    (∀ outcome, CloseOutcome.ofLog log = outcome ↔ Records log outcome) ∧
    (∀ later : List Activity, (∀ activity ∈ later, activity.name ≠ "close") →
      CloseOutcome.ofLog (log ++ later) = CloseOutcome.ofLog log) ∧
    (∀ (earlier later : List Activity) (close other : Activity),
      close.name = "close" → other.name = "close" →
      (∀ activity ∈ later, activity.name ≠ "close") →
      close.events.filter ActivityEvent.isTelling = other.events.filter ActivityEvent.isTelling →
      CloseOutcome.ofLog (log ++ close :: later) = CloseOutcome.ofLog (earlier ++ other :: later)) ∧
    ∀ (failure : CloseFailure) (stage : Stage), (failure.message stage).toList =
      s!"Closing stage {stage.stageId} failed.".toList ++
        (failure.cause.toList ++ failure.failedRules).flatMap fun reason =>
          '\n' :: '\t' :: reason.toList := by
  refine ⟨fun outcome => ofLog_eq_iff_records, fun later => ofLog_append, ?_, toList_message⟩
  intro earlier later close other hclose hother hlater htelling
  rw [ofLog_append_cons log hclose hlater, ofLog_append_cons earlier hother hlater,
    ofActivity_congr htelling]

end ReleaseStaging
