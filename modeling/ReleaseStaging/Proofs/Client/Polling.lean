import ReleaseStaging.Proofs.Client.Answers
import ReleaseStaging.Proofs.Report.Saying

/-!
# Polls of one wait

A wait for a transition is a sequence of polls. As long as the answers tell of a transition that is
going on, another poll may follow; any other answer is the last one. The wait succeeds exactly if
its last poll was answered that the transition is over, whatever the limit, the pauses and the
moment of a cancellation are. What a poll was answered can be told from the document in the answer:
`Exchange.TellsTransitioning` says so, and `Exchange.isTransitioning_eq_ok_iff` that this is what is
read.
-/

namespace ReleaseStaging

namespace Exchange

variable {exchange : Exchange}

/-- An answer with status 200 tells whether a transition is going on: its body is a document with an
element that says so by one of two words. -/
def TellsTransitioning (exchange : Exchange) (isGoing : Bool) : Prop :=
  ∃ body document, exchange.reply = .ok ⟨200, body⟩ ∧
    Xml.Document.ofString? body = some document ∧
    document.Tells ["stagingProfileRepository", "transitioning"]
      (if isGoing then "true" else "false")

/-- The report of an exchange is the document of an answer with status 200. -/
theorem report_eq_ok_iff {report : Report} : exchange.report = .ok report ↔
    ∃ body document, exchange.reply = .ok ⟨200, body⟩ ∧
      Xml.Document.ofString? body = some document ∧
      report = ⟨exchange.request.url.text, document⟩ := by
  obtain ⟨request, reply⟩ := exchange
  cases reply with
  | error fault => simp [Exchange.report, Reply.response]
  | ok response =>
    obtain ⟨status, body⟩ := response
    by_cases hstatus : status = 200
    · subst hstatus
      cases hdocument : Xml.Document.ofString? body with
      | none => simp [Exchange.report, Reply.response, Report.ofText, hdocument]
      | some document =>
        simp [Exchange.report, Reply.response, Report.ofText, hdocument, eq_comm]
    · simp [Exchange.report, Reply.response, hstatus]

/-- Whether a transition is going on is what the answer tells. -/
theorem isTransitioning_eq_ok_iff {isGoing : Bool} :
    exchange.isTransitioning = .ok isGoing ↔ exchange.TellsTransitioning isGoing := by
  simp only [isTransitioning, bind_eq_ok_iff, report_eq_ok_iff, transitioningQuery,
    Report.requiredBool_fromTop_eq_ok_iff, TellsTransitioning]
  constructor
  · rintro ⟨_, ⟨body, document, hreply, hdocument, rfl⟩, htells⟩
    exact ⟨body, document, hreply, hdocument, htells⟩
  · rintro ⟨body, document, hreply, hdocument, htells⟩
    exact ⟨_, ⟨body, document, hreply, hdocument, rfl⟩, htells⟩

end Exchange

/-- The exchanges ask one endpoint again and again, each after an answer that the transition is
going on. -/
structure ArePolls (endpoint : Url) (polls : List Exchange) : Prop where
  /-- Nothing else is asked. -/
  asked : ∀ poll ∈ polls, poll.request = .get endpoint
  /-- Only the last answer can be another one. -/
  goesOn : ∀ poll ∈ polls.dropLast, poll.isTransitioning = .ok true

/-- The last poll was answered that the transition is over. -/
def HasSettled (polls : List Exchange) : Prop :=
  ∃ last, polls.getLast? = some last ∧ last.isTransitioning = .ok false

theorem arePolls_nil (endpoint : Url) : ArePolls endpoint [] :=
  ⟨by simp, by simp⟩

theorem arePolls_singleton {endpoint : Url} {poll : Exchange}
    (h : poll.request = .get endpoint) : ArePolls endpoint [poll] :=
  ⟨by simpa using h, by simp⟩

/-- Another poll stands in front of polls only if its answer lets them follow. -/
theorem ArePolls.cons {endpoint : Url} {poll : Exchange} {polls : List Exchange}
    (h : ArePolls endpoint polls) (hasked : poll.request = .get endpoint)
    (hgoes : poll.isTransitioning = .ok true) : ArePolls endpoint (poll :: polls) := by
  constructor
  · intro other hother
    rcases List.mem_cons.mp hother with rfl | hother
    · exact hasked
    · exact h.asked other hother
  · intro other hother
    cases polls with
    | nil => simp at hother
    | cons next polls =>
      rcases List.mem_cons.mp hother with rfl | hother
      · exact hgoes
      · exact h.goesOn other hother

theorem not_hasSettled_nil : ¬ HasSettled [] := by
  rintro ⟨last, hlast, _⟩
  simp at hlast

@[simp] theorem hasSettled_singleton {poll : Exchange} :
    HasSettled [poll] ↔ poll.isTransitioning = .ok false := by
  simp [HasSettled]

/-- A poll that found the transition going on settles nothing. -/
theorem hasSettled_cons {poll : Exchange} {polls : List Exchange}
    (h : poll.isTransitioning = .ok true) : HasSettled (poll :: polls) ↔ HasSettled polls := by
  cases polls with
  | nil => simp [h, not_hasSettled_nil]
  | cons next polls => simp [HasSettled]

namespace Client

open Operation

variable {σ : Type} {environment : Environment σ} {world : World σ}

/-- However many polls are followed, they are polls of the endpoint, and the wait succeeds exactly
if the last one was answered that the transition is over. -/
theorem yields_pollFrom (client : Client) (stage : Stage) (endpoint : Url) (horizon : Nat)
    (attempts : UInt32) (world : World σ) :
    (client.pollFrom stage endpoint horizon attempts).Yields environment world
      fun result trace _ => ArePolls endpoint (exchangesOf trace) ∧
        (result = some (.ok ()) ↔ HasSettled (exchangesOf trace)) := by
  induction horizon generalizing attempts world with
  | zero =>
    rw [pollFrom, yields_unfinished]
    exact ⟨arePolls_nil endpoint, by simp [not_hasSettled_nil]⟩
  | succ horizon ih =>
    rw [pollFrom, yields_bind, yields_cancellation]
    cases world.token.reason with
    | some reason => simp [not_hasSettled_nil, arePolls_nil]
    | none =>
      simp only [yields_bind, yields_isTransitioning]
      have hfirst := arePolls_singleton (world.request_exchange environment (.get endpoint))
      generalize hpoll : world.exchange environment (.get endpoint) = poll at hfirst ⊢
      cases hanswer : poll.isTransitioning with
      | error failure => simpa [hpoll, hanswer] using hfirst
      | ok isGoing =>
        cases isGoing with
        | false => simpa [hpoll, hanswer] using hfirst
        | true =>
          -- The limit decides before the pause whether there is another poll.
          by_cases hlimit : client.poll.isExhausted (attempts + 1) = true
          · simpa [hlimit, hpoll, hanswer, yields_bind] using hfirst
          · simp only [if_true, if_neg hlimit]
            rw [yields_bind]
            apply Yields.mono yields_pause
            rintro _ waited after ⟨⟨reason, rfl⟩, hwaited, _⟩
            cases reason with
            | some reason => simpa [hwaited, hpoll, hanswer] using hfirst
            | none =>
              apply (ih (attempts + 1) after).mono
              rintro result trace _ ⟨hpolls, hresult⟩
              simp only [exchangesOf_append, World.exchangesOf_sendingEvents, hwaited, hpoll,
                List.nil_append, List.singleton_append, hasSettled_cons hanswer]
              exact ⟨hpolls.cons (hfirst.asked poll (List.mem_singleton_self poll)) hanswer,
                hresult⟩

/-- A wait without a poll followed none, or it was cancelled before the first one. -/
theorem yields_pollFrom_unasked (client : Client) (stage : Stage) (endpoint : Url) (horizon : Nat)
    (attempts : UInt32) (world : World σ) :
    (client.pollFrom stage endpoint horizon attempts).Yields environment world
      fun result trace _ => exchangesOf trace = [] →
        horizon = 0 ∨ ∃ reason, result = some (.error (.interrupted stage reason)) := by
  cases horizon with
  | zero =>
    rw [pollFrom, yields_unfinished]
    exact fun _ => .inl rfl
  | succ horizon =>
    rw [pollFrom, yields_bind, yields_cancellation]
    cases world.token.reason with
    | some reason => exact fun _ => .inr ⟨reason, rfl⟩
    | none =>
      simp only [yields_bind, yields_isTransitioning]
      cases (world.exchange environment (.get endpoint)).isTransitioning with
      | error failure => simp
      -- There is a poll, whatever follows it.
      | ok isGoing => simp [Yields]

end Client

end ReleaseStaging
