import ReleaseStaging.Proofs.Client.Polling

/-!
# The course of a transition

Closing, dropping or releasing a stage is a conversation with the server in at most four parts:
learning what the server is able to do, requesting the transition, polling the repository and
reading the activity log. Each part is either not reached, or it is made as planned after
everything before it went well; and it is not left out without a cause. The last theorem says this
of the three operations, in every world, and from which answers alone success follows.
-/

namespace ReleaseStaging

/-- The server is able to do something, as remembered or as the detection told. -/
def Knows (memo : Option Capability) (detection : List Exchange) (capability : Capability) : Prop :=
  memo = some capability ∨
    memo = none ∧ ∃ answer ∈ detection, answer.capability = .ok capability

/-- The request for a transition was answered with status 201. -/
def IsAccepted (requesting : List Exchange) : Prop :=
  ∃ answer ∈ requesting, answer.status? = some 201

/-- The activity log was read and records that the last close succeeded. -/
def IsConfirmed (reading : List Exchange) : Prop :=
  ∃ answer ∈ reading, answer.closeOutcome = .ok .closed

/-- The exchanges of a transition, by what they are for. -/
structure Course where
  /-- Learning what the server is able to do. -/
  detection : List Exchange
  /-- Requesting the transition. -/
  requesting : List Exchange
  /-- Polling the repository. -/
  polls : List Exchange
  /-- Reading the activity log. -/
  reading : List Exchange

namespace Course

/-- All exchanges, in order. -/
def exchanges (course : Course) : List Exchange :=
  course.detection ++ course.requesting ++ course.polls ++ course.reading

/-- Each part of a course asks what is planned for it, and is reached only after everything before
it went well. -/
structure Follows (client : Client) (action : Action) (stage : Stage)
    (description : Option String) (memo : Option Capability) (course : Course) : Prop where
  /-- The status is asked for once if nothing is remembered of the server. -/
  detection : course.detection.map Exchange.request =
    if memo.isSome then [] else [.get (statusEndpoint client.base)]
  /-- The transition is requested once, of a server that is known. -/
  requesting : course.requesting = [] ∨
    (∃ capability, Knows memo course.detection capability) ∧
      ∃ endpoint, action.endpoint client.base stage = .ok endpoint ∧
        course.requesting.map Exchange.request =
          [.post endpoint (promoteRequest stage.stageId description)]
  /-- The repository is polled if the request was accepted by a server that works in the
  background. -/
  polls : course.polls = [] ∨
    (IsAccepted course.requesting ∧
      ∃ capability, Knows memo course.detection capability ∧ capability.asyncActions = true) ∧
      ∃ endpoint, repositoryEndpoint client.base stage none = .ok endpoint ∧
        ArePolls endpoint course.polls
  /-- The activity log is read once, to confirm a close whose last poll told that it is over. -/
  reading : course.reading = [] ∨
    (action = .close ∧ HasSettled course.polls) ∧
      ∃ endpoint, repositoryEndpoint client.base stage (some "activity") = .ok endpoint ∧
        course.reading.map Exchange.request = [.get endpoint]

/-- The polls of a wait are left out for a cause: they have no address, none is followed, or the
wait was cancelled before the first one. -/
def IsUnpolled (client : Client) (stage : Stage) (result : Option (Except Failure Unit)) : Prop :=
  (∃ failure, repositoryEndpoint client.base stage none = .error failure) ∨ client.horizon = 0 ∨
    ∃ reason, result = some (.error (.interrupted stage reason))

/-- No part of a course is left out without a cause. -/
structure StopsForCause (client : Client) (action : Action) (stage : Stage)
    (memo : Option Capability) (result : Option (Except Failure Unit)) (course : Course) :
    Prop where
  /-- The transition is requested of a server that is known, where it has an address. -/
  requesting : course.requesting = [] →
    (∀ capability, ¬Knows memo course.detection capability) ∨
      ∃ failure, action.endpoint client.base stage = .error failure
  /-- The repository is polled after an acceptance by a server that works in the background. -/
  polls : IsAccepted course.requesting →
    (∃ capability, Knows memo course.detection capability ∧ capability.asyncActions = true) →
    course.polls = [] → IsUnpolled client stage result
  /-- The activity log is read after a close that is over. -/
  reading : action = .close → HasSettled course.polls → course.reading = [] →
    ∃ failure, repositoryEndpoint client.base stage (some "activity") = .error failure

/-- An accepted request is one for the transition. -/
theorem Follows.exists_accepted {client : Client} {action : Action} {stage : Stage}
    {description : Option String} {memo : Option Capability} {course : Course}
    (h : course.Follows client action stage description memo)
    (haccepted : IsAccepted course.requesting) :
    ∃ exchange ∈ course.exchanges, exchange.status? = some 201 ∧
      ∃ endpoint, action.endpoint client.base stage = .ok endpoint ∧
        exchange.request = .post endpoint (promoteRequest stage.stageId description) := by
  obtain ⟨answer, hanswer, hstatus⟩ := haccepted
  rcases h.requesting with hnone | ⟨-, endpoint, hendpoint, hrequests⟩
  · rw [hnone] at hanswer
    cases hanswer
  · have hrequest := List.mem_map_of_mem (f := Exchange.request) hanswer
    rw [hrequests, List.mem_singleton] at hrequest
    exact ⟨answer, by simp [exchanges, hanswer], hstatus, endpoint, hendpoint, hrequest⟩

end Course

namespace Client

open Operation

variable {σ : Type} {environment : Environment σ}

/-- Only one capability is known after the detection, and whether the server works in the
background is read from it; if the detection fails, none is known. -/
theorem yields_isAsync (client : Client) (world : World σ) :
    client.isAsync.Yields environment world fun result trace _ =>
      (exchangesOf trace).map Exchange.request =
        (if world.memo.isSome then [] else [.get (statusEndpoint client.base)]) ∧
      (∀ failure : Option Failure, result = failure.map .error →
        ∀ capability, ¬Knows world.memo (exchangesOf trace) capability) ∧
      ∀ inBackground, result = some (.ok inBackground) →
        ∃ capability, capability.asyncActions = inBackground ∧
          ∀ other, Knows world.memo (exchangesOf trace) other ↔ other = capability := by
  rw [isAsync]
  cases hmemo : world.memo with
  | some known =>
    rw [yields_capability_bind_of_known hmemo, yields_pure]
    refine ⟨rfl, ?_, ?_⟩
    · rintro (_ | _) ⟨⟩
    · rintro _ ⟨⟩
      exact ⟨known, rfl, by simp [Knows, eq_comm]⟩
  | none =>
    simp only [yields_capability_bind hmemo]
    generalize hanswer : world.exchange environment (.get (statusEndpoint client.base)) = answer
    have hrequest : answer.request = .get (statusEndpoint client.base) :=
      hanswer ▸ rfl
    cases hcapability : answer.capability with
    | error failure => simp [hanswer, hrequest, Knows, hcapability]
    | ok known =>
      simp only [yields_pure, exchangesOf_append, exchangesOf_noted, exchangesOf_nil,
        World.exchangesOf_sendingEvents, hanswer, List.append_nil]
      refine ⟨by simp [hrequest], ?_, ?_⟩
      · rintro (_ | _) ⟨⟩
      · rintro _ ⟨⟩
        exact ⟨known, rfl, by simp [Knows, hcapability, eq_comm]⟩

/-- A wait polls the repository unless there is a cause not to, and succeeds exactly if its last
poll told that the transition is over. -/
theorem yields_waitForTransition (client : Client) (stage : Stage) (world : World σ) :
    (client.waitForTransition stage).Yields environment world fun result trace _ =>
      (exchangesOf trace = [] ∨
        ∃ endpoint, repositoryEndpoint client.base stage none = .ok endpoint ∧
          ArePolls endpoint (exchangesOf trace)) ∧
      (exchangesOf trace = [] → Course.IsUnpolled client stage result) ∧
      (result = some (.ok ()) ↔ HasSettled (exchangesOf trace)) := by
  rw [waitForTransition, yields_bind, yields_liftM]
  cases hendpoint : repositoryEndpoint client.base stage none with
  | error failure => simp [not_hasSettled_nil, Course.IsUnpolled, hendpoint]
  | ok endpoint =>
    apply ((client.yields_pollFrom stage endpoint client.horizon 0 world).and
      (client.yields_pollFrom_unasked stage endpoint client.horizon 0 world)).mono
    rintro result trace _ ⟨⟨hpolls, hresult⟩, hunasked⟩
    exact ⟨Or.inr ⟨endpoint, rfl, hpolls⟩, fun hnone => Or.inr (hunasked hnone), hresult⟩

/-- A confirmation reads the activity log if it has an address, and succeeds exactly if it records a
close. -/
theorem yields_confirmation (client : Client) (stage : Stage) (world : World σ) :
    (client.confirmClosed stage).Yields environment world fun result trace _ =>
      (exchangesOf trace = [] ∨
        ∃ endpoint, repositoryEndpoint client.base stage (some "activity") = .ok endpoint ∧
          (exchangesOf trace).map Exchange.request = [.get endpoint]) ∧
      (exchangesOf trace = [] →
        ∃ failure, repositoryEndpoint client.base stage (some "activity") = .error failure) ∧
      (result = some (.ok ()) ↔ IsConfirmed (exchangesOf trace)) := by
  rw [yields_confirmClosed]
  cases hendpoint : repositoryEndpoint client.base stage (some "activity") with
  | error failure => simp [IsConfirmed]
  | ok endpoint =>
    have hrequest := world.request_exchange environment (.get endpoint)
    generalize hanswer : world.exchange environment (.get endpoint) = answer at hrequest ⊢
    cases houtcome : answer.closeOutcome with
    | error failure => simp [hanswer, hrequest, IsConfirmed, houtcome]
    | ok outcome => cases outcome <;> simp [hanswer, hrequest, IsConfirmed, houtcome]

/-- What follows the request of a transition makes the last two parts of its course: polls if the
server works in the background, and the activity log after them, both unless there is a cause not
to. -/
def Concludes (environment : Environment σ) (client : Client) (action : Action) (stage : Stage)
    (inBackground : Bool) (next : Operation Unit)
    (IsDone : List Exchange → List Exchange → Prop) : Prop :=
  ∀ world, next.Yields environment world fun result trace _ =>
    ∃ polls reading, exchangesOf trace = polls ++ reading ∧
      (polls = [] ∨ inBackground = true ∧
        ∃ endpoint, repositoryEndpoint client.base stage none = .ok endpoint ∧
          ArePolls endpoint polls) ∧
      (reading = [] ∨ (action = .close ∧ HasSettled polls) ∧
        ∃ endpoint, repositoryEndpoint client.base stage (some "activity") = .ok endpoint ∧
          reading.map Exchange.request = [.get endpoint]) ∧
      (inBackground = true → polls = [] → Course.IsUnpolled client stage result) ∧
      (action = .close → HasSettled polls → reading = [] →
        ∃ failure, repositoryEndpoint client.base stage (some "activity") = .error failure) ∧
      (result = some (.ok ()) ↔ IsDone polls reading)

/-- A transition that is requested of a known server follows its course and stops only for a cause,
whatever concludes it. -/
theorem yields_course {client : Client} {action : Action} {stage : Stage}
    {description : Option String} {event : LogEvent} {next : Bool → Operation Unit}
    {IsDone : Bool → List Exchange → List Exchange → Prop}
    (hnext : ∀ inBackground, Concludes environment client action stage inBackground
      (next inBackground) (IsDone inBackground)) (world : World σ) :
    Yields environment (do
        let inBackground ← client.isAsync
        note event
        client.request action stage description
        next inBackground) world
      fun result trace _ => ∃ course : Course, exchangesOf trace = course.exchanges ∧
        course.Follows client action stage description world.memo ∧
        course.StopsForCause client action stage world.memo result ∧
        (result = some (.ok ()) ↔ IsAccepted course.requesting ∧
          ∃ capability, Knows world.memo course.detection capability ∧
            IsDone capability.asyncActions course.polls course.reading) := by
  have hunaccepted : ¬IsAccepted [] := by simp [IsAccepted]
  refine (client.yields_isAsync world).bind ?_ ?_
  · rintro failure detected _ ⟨hplanned, hfailed, -⟩
    exact ⟨⟨exchangesOf detected, [], [], []⟩, by simp [Course.exchanges],
      ⟨hplanned, Or.inl rfl, Or.inl rfl, Or.inl rfl⟩,
      ⟨fun _ => Or.inl (hfailed failure rfl), fun haccepted => absurd haccepted hunaccepted,
        fun _ hsettled => absurd hsettled not_hasSettled_nil⟩,
      by cases failure <;> simp [IsAccepted]⟩
  rintro inBackground detected after ⟨hplanned, -, hknown⟩
  obtain ⟨known, rfl, hknows⟩ := hknown inBackground rfl
  simp only [yields_bind, yields_note, yields_request]
  cases hendpoint : action.endpoint client.base stage with
  | error failure =>
    exact ⟨⟨exchangesOf detected, [], [], []⟩, by simp [Course.exchanges],
      ⟨hplanned, Or.inl rfl, Or.inl rfl, Or.inl rfl⟩,
      ⟨fun _ => Or.inr ⟨failure, hendpoint⟩, fun haccepted => absurd haccepted hunaccepted,
        fun _ hsettled => absurd hsettled not_hasSettled_nil⟩, by simp [IsAccepted]⟩
  | ok endpoint =>
    dsimp only
    have hrequest := after.request_exchange environment
      (.post endpoint (promoteRequest stage.stageId description))
    generalize hanswer : after.exchange environment
      (.post endpoint (promoteRequest stage.stageId description)) = answer at hrequest ⊢
    have hrequesting : (∃ capability, Knows world.memo (exchangesOf detected) capability) ∧
        ∃ endpoint, action.endpoint client.base stage = .ok endpoint ∧
          [answer].map Exchange.request =
            [.post endpoint (promoteRequest stage.stageId description)] :=
      ⟨⟨known, (hknows known).mpr rfl⟩, endpoint, hendpoint, by simp [hrequest]⟩
    have hmade : [answer] ≠ [] := List.cons_ne_nil answer []
    cases hacceptance : answer.acceptance action stage with
    | error failure =>
      have hrejected : answer.status? ≠ some 201 := by
        rw [ne_eq, ← answer.acceptance_eq_ok_iff action stage, hacceptance]
        intro hok
        injection hok
      have hunaccepted' : ¬IsAccepted [answer] := by simp [IsAccepted, hrejected]
      exact ⟨⟨exchangesOf detected, [answer], [], []⟩, by simp [Course.exchanges, hanswer],
        ⟨hplanned, Or.inr hrequesting, Or.inl rfl, Or.inl rfl⟩,
        ⟨fun hnone => absurd hnone hmade, fun haccepted => absurd haccepted hunaccepted',
          fun _ hsettled => absurd hsettled not_hasSettled_nil⟩, by simp [hunaccepted']⟩
    | ok accepted =>
      have haccepted : IsAccepted [answer] :=
        ⟨answer, List.mem_singleton_self answer,
          (answer.acceptance_eq_ok_iff action stage).mp hacceptance⟩
      apply (hnext known.asyncActions _).mono
      rintro result trace _ ⟨polls, reading, htrace, hpolls, hreading, hunpolled, hunread, hresult⟩
      refine ⟨⟨exchangesOf detected, [answer], polls, reading⟩,
        by simp [Course.exchanges, hanswer, htrace],
        ⟨hplanned, Or.inr hrequesting, ?_, hreading⟩,
        ⟨fun hnone => absurd hnone hmade, ?_, hunread⟩, ?_⟩
      · rcases hpolls with hnone | ⟨hbackground, hasked⟩
        · exact Or.inl hnone
        · exact Or.inr ⟨⟨haccepted, known, (hknows known).mpr rfl, hbackground⟩, hasked⟩
      · rintro - ⟨capability, hcapability, hbackground⟩
        obtain rfl := (hknows capability).mp hcapability
        exact hunpolled hbackground
      · simp only [hresult, haccepted, true_and, hknows, exists_eq_left]

/-- A close on a server that works in the background is waited for and confirmed. -/
theorem concludes_close (client : Client) (stage : Stage) (inBackground : Bool) :
    Concludes environment client .close stage inBackground
      (if inBackground then do
        client.waitForTransition stage
        client.confirmClosed stage
      else pure ())
      fun polls reading => inBackground = false ∨ HasSettled polls ∧ IsConfirmed reading := by
  intro world
  cases inBackground with
  | false =>
    exact ⟨[], [], rfl, Or.inl rfl, Or.inl rfl, nofun,
      fun _ hsettled => absurd hsettled not_hasSettled_nil, by simp; rfl⟩
  | true =>
    refine (client.yields_waitForTransition stage world).bind ?_ ?_
    · rintro failure waited _ ⟨hpolls, hunpolled, hresult⟩
      have hunsettled : ¬HasSettled (exchangesOf waited) := by
        rw [← hresult]
        cases failure <;> simp
      exact ⟨exchangesOf waited, [], by simp, hpolls.imp_right fun h => ⟨rfl, h⟩, Or.inl rfl,
        fun _ => hunpolled, fun _ hsettled => absurd hsettled hunsettled,
        by cases failure <;> simp [IsConfirmed]⟩
    · rintro _ waited after ⟨hpolls, -, hresult⟩
      have hsettled := hresult.mp rfl
      apply (client.yields_confirmation stage after).mono
      rintro result trace _ ⟨hreading, hunread, hconfirmed⟩
      refine ⟨exchangesOf waited, exchangesOf trace, by simp,
        hpolls.imp_right fun h => ⟨rfl, h⟩, hreading.imp_right fun h => ⟨⟨rfl, hsettled⟩, h⟩,
        ?_, fun _ _ => hunread, by simp [hconfirmed, hsettled]⟩
      intro _ hnone
      rw [hnone] at hsettled
      exact absurd hsettled not_hasSettled_nil

/-- A release on a server that works in the background is waited for. -/
theorem concludes_release (client : Client) (stage : Stage) (inBackground : Bool) :
    Concludes environment client .release stage inBackground
      (do
        if inBackground then client.waitForTransition stage
        note (.released stage))
      fun polls _ => inBackground = false ∨ HasSettled polls := by
  intro world
  cases inBackground with
  | false => exact ⟨[], [], rfl, Or.inl rfl, Or.inl rfl, nofun, nofun, by simp; rfl⟩
  | true =>
    refine (client.yields_waitForTransition stage world).bind ?_ ?_
    · rintro failure waited _ ⟨hpolls, hunpolled, hresult⟩
      exact ⟨exchangesOf waited, [], by simp, hpolls.imp_right fun h => ⟨rfl, h⟩, Or.inl rfl,
        fun _ => hunpolled, nofun, by simp [← hresult]⟩
    · rintro _ waited after ⟨hpolls, -, hresult⟩
      rw [yields_note]
      refine ⟨exchangesOf waited, [], by simp, hpolls.imp_right fun h => ⟨rfl, h⟩, Or.inl rfl,
        ?_, nofun, by simp [← hresult]⟩
      intro _ hnone
      have hsettled := hresult.mp rfl
      rw [hnone] at hsettled
      exact absurd hsettled not_hasSettled_nil

end Client

/-- In every world, closing, releasing and dropping a stage follow their course, and stop only for a
cause. A close succeeds exactly if it was accepted and either the server does not work in the
background or the last poll told that the transition is over and the activity log read after it
records a close; for a release no log is read, and a drop is one request that was accepted. -/
theorem transitions_follow_course {σ : Type} (environment : Environment σ) (client : Client)
    (stage : Stage) (description : String) (world : World σ) :
    ((client.closeStage stage description).Yields environment world fun result trace _ =>
      ∃ course : Course, exchangesOf trace = course.exchanges ∧
        course.Follows client .close stage (some description) world.memo ∧
        course.StopsForCause client .close stage world.memo result ∧
        (result = some (.ok ()) ↔ IsAccepted course.requesting ∧
          ∃ capability, Knows world.memo course.detection capability ∧
            (capability.asyncActions = false ∨
              HasSettled course.polls ∧ IsConfirmed course.reading))) ∧
    ((client.releaseStage stage description).Yields environment world fun result trace _ =>
      ∃ course : Course, exchangesOf trace = course.exchanges ∧ course.reading = [] ∧
        course.Follows client .release stage (some description) world.memo ∧
        course.StopsForCause client .release stage world.memo result ∧
        (result = some (.ok ()) ↔ IsAccepted course.requesting ∧
          ∃ capability, Knows world.memo course.detection capability ∧
            (capability.asyncActions = false ∨ HasSettled course.polls))) ∧
    ((client.dropStage stage).Yields environment world fun result trace _ =>
      (exchangesOf trace = [] ∧
          (∃ failure, Action.drop.endpoint client.base stage = .error failure) ∨
        ∃ exchange endpoint, exchangesOf trace = [exchange] ∧
          Action.drop.endpoint client.base stage = .ok endpoint ∧
          exchange.request = .post endpoint (promoteRequest stage.stageId none)) ∧
      (result = some (.ok ()) ↔
        ∃ exchange, exchangesOf trace = [exchange] ∧ exchange.status? = some 201)) := by
  refine ⟨Client.yields_course (client.concludes_close stage) world, ?_, ?_⟩
  · apply (Client.yields_course (client.concludes_release stage) world).mono
    rintro result trace _ ⟨course, htrace, hfollows, hresult⟩
    exact ⟨course, htrace, hfollows.reading.resolve_right (by simp), hfollows, hresult⟩
  · rw [Client.dropStage, Operation.yields_bind, Operation.yields_note]
    simp only [Client.yields_request]
    cases hendpoint : Action.drop.endpoint client.base stage with
    | error failure => simp
    | ok endpoint =>
      dsimp only
      have hrequest := world.request_exchange environment
        (.post endpoint (promoteRequest stage.stageId none))
      generalize hanswer : world.exchange environment
        (.post endpoint (promoteRequest stage.stageId none)) = answer at hrequest ⊢
      simp [hanswer, hrequest, Exchange.acceptance_eq_ok_iff]

end ReleaseStaging
