import ReleaseStaging.Proofs.Client.Endpoints
import ReleaseStaging.Proofs.Client.Polling
import ReleaseStaging.Simulation.Rehearsal

/-!
# What ends a wait

A poll may decide a wait by itself: its answer tells that the transition is over, or it cannot be
read, or it was the last poll allowed. A wait goes on until the first poll that decides, with one
pause after each poll that does not, unless someone cancels: then no other poll follows, and the
wait is interrupted if the poll on its way does not decide. `Waits` says how a wait can go from any
number of polls on, and the facts about a whole wait are read off it.
Main statement: `wait_ends_with_first_verdict`.
-/

namespace ReleaseStaging

/-- Whether a transition is going on is read from an answer with status 200 only. -/
theorem Exchange.status?_of_isTransitioning {exchange : Exchange} {isGoing : Bool}
    (h : exchange.isTransitioning = .ok isGoing) : exchange.status? = some 200 := by
  obtain ⟨body, document, hreply, -, -⟩ := isTransitioning_eq_ok_iff.mp h
  simp [status?, hreply, Except.toOption]

/-! ## The limit and the counter of polls -/

namespace PollSettings

/-- The largest number of polls, if there is one; one poll is always made. -/
def limit? (settings : PollSettings) : Option Nat :=
  settings.maxAttempts.map fun attempts => max 1 attempts.toNat

/-- A counter tells the number of polls, and there are fewer than allowed; without a limit it may
have wrapped around. -/
def Counts (settings : PollSettings) (attempts : UInt32) (count : Nat) : Prop :=
  ∀ limit, settings.limit? = some limit → attempts.toNat = count ∧ count < limit

/-- Before the first poll no polls are counted. -/
theorem counts_zero (settings : PollSettings) : settings.Counts 0 0 := by
  intro limit hlimit
  obtain ⟨attempts, -, rfl⟩ := Option.map_eq_some_iff.mp hlimit
  exact ⟨rfl, Nat.lt_of_lt_of_le Nat.zero_lt_one (Nat.le_max_left 1 attempts.toNat)⟩

variable {settings : PollSettings} {attempts : UInt32} {count : Nat}

/-- As long as polls are left, the counter does not wrap around. -/
theorem Counts.toNat_add_one (h : settings.Counts attempts count) {limit : Nat}
    (hlimit : settings.limit? = some limit) : (attempts + 1).toNat = count + 1 := by
  obtain ⟨hattempts, hleft⟩ := h limit hlimit
  obtain ⟨most, -, rfl⟩ := Option.map_eq_some_iff.mp hlimit
  have hmost := UInt32.toNat_lt most
  have hone : (1 : UInt32).toNat = 1 := rfl
  rw [UInt32.toNat_add, hattempts, hone, Nat.mod_eq_of_lt (by omega)]

/-- The counter finds the limit reached exactly by the last poll allowed. -/
theorem Counts.isExhausted_iff (h : settings.Counts attempts count) :
    settings.isExhausted (attempts + 1) = true ↔ settings.limit? = some (count + 1) := by
  cases hmost : settings.maxAttempts with
  | none => simp [isExhausted, limit?, hmost]
  | some most =>
    have hlimit : settings.limit? = some (max 1 most.toNat) := by rw [limit?, hmost]; rfl
    have hnext := h.toNat_add_one hlimit
    have hleft := (h _ hlimit).2
    have hreached : settings.isExhausted (attempts + 1) = true ↔ most.toNat ≤ count + 1 := by
      simp [isExhausted, hmost, UInt32.le_iff_toNat_le, hnext]
    rw [hreached, hlimit, Option.some.injEq]
    omega

/-- Another poll that was not the last one allowed is counted. -/
theorem Counts.next (h : settings.Counts attempts count)
    (hmore : settings.limit? ≠ some (count + 1)) : settings.Counts (attempts + 1) (count + 1) := by
  intro limit hlimit
  obtain ⟨-, hleft⟩ := h limit hlimit
  refine ⟨h.toNat_add_one hlimit, ?_⟩
  rw [hlimit, ne_eq, Option.some.injEq] at hmore
  omega

/-- What the poll with a number decides about a wait by itself: that the transition is over, that
the answer does not tell, or that no more polls are allowed. -/
def verdict? (settings : PollSettings) (stage : Stage) (number : Nat) (poll : Exchange) :
    Option (Except Failure Unit) :=
  match poll.isTransitioning with
  | .error failure => some (.error failure)
  | .ok false => some (.ok ())
  | .ok true =>
    if settings.limit? = some number then some (.error (.pollLimitReached stage number)) else none

/-- A poll decides nothing if the transition is going on and another poll is allowed. -/
theorem verdict?_eq_none_iff {stage : Stage} {number : Nat} {poll : Exchange} :
    settings.verdict? stage number poll = none ↔
      poll.isTransitioning = .ok true ∧ settings.limit? ≠ some number := by
  rw [verdict?]
  cases poll.isTransitioning with
  | error failure => simp
  | ok isGoing => cases isGoing <;> simp

/-- What the last of some polls decides, which are numbered from the one after a count on. -/
def lastVerdict? (settings : PollSettings) (stage : Stage) (count : Nat) (polls : List Exchange) :
    Option (Except Failure Unit) :=
  polls.getLast?.bind (settings.verdict? stage (count + polls.length))

/-- Before other polls it does not matter what a poll that decides nothing was answered. -/
theorem lastVerdict?_cons {stage : Stage} {poll : Exchange}
    (h : settings.verdict? stage (count + 1) poll = none) (polls : List Exchange) :
    settings.lastVerdict? stage count (poll :: polls) =
      settings.lastVerdict? stage (count + 1) polls := by
  cases polls with
  | nil => exact h
  | cons next polls =>
    have hnumber : count + (poll :: next :: polls).length =
        count + 1 + (next :: polls).length := by
      simp only [List.length_cons]
      omega
    rw [lastVerdict?, lastVerdict?, hnumber, List.getLast?_cons_cons]

end PollSettings

/-! ## What happens during a wait -/

/-- The pause that an event is, unless it is something else. -/
def Event.pause? : Event → Option Nat
  | .paused millis => some millis
  | _ => none

/-- The pauses among some events, in order. -/
def pausesOf (trace : List Event) : List Nat := trace.filterMap Event.pause?

/-- The reason of the cancellation that an event is, unless it is something else. -/
def Event.cancellation? : Event → Option String
  | .cancelled reason => some reason
  | _ => none

/-- The reason of the first cancellation: of an earlier one if there was one, or of the first one
among some events. -/
def firstReason (earlier : Option String) (trace : List Event) : Option String :=
  earlier.or (trace.findSome? Event.cancellation?)

/-- An exchange as an event. -/
def Exchange.event (exchange : Exchange) : Event := .sent exchange.request exchange.reply

section

variable (poll : Exchange) (millis : Nat) (reason : String) (earlier cancelled : Option String)
  (trace : List Event)

@[simp] theorem exchangesOf_event :
    exchangesOf (poll.event :: trace) = poll :: exchangesOf trace := rfl

@[simp] theorem exchangesOf_cancellation :
    exchangesOf (cancelled.toList.map .cancelled) = [] := by
  cases cancelled <;> rfl

@[simp] theorem exchangesOf_cancelled :
    exchangesOf (.cancelled reason :: trace) = exchangesOf trace := rfl

@[simp] theorem pausesOf_event : pausesOf (poll.event :: trace) = pausesOf trace := rfl

@[simp] theorem pausesOf_paused :
    pausesOf (.paused millis :: trace) = millis :: pausesOf trace := rfl

@[simp] theorem pausesOf_cancellation : pausesOf (cancelled.toList.map .cancelled) = [] := by
  cases cancelled <;> rfl

@[simp] theorem firstReason_some : firstReason (some reason) trace = some reason := rfl

@[simp] theorem firstReason_event :
    firstReason earlier (poll.event :: trace) = firstReason earlier trace := rfl

@[simp] theorem firstReason_paused :
    firstReason earlier (.paused millis :: trace) = firstReason earlier trace := rfl

@[simp] theorem firstReason_cancelled :
    firstReason none (.cancelled reason :: trace) = some reason := rfl

end

/-- How a wait can go on after some polls: everything that happens from there on and what comes of
it. Before that it was cancelled for the reason, if there is one, and only so many more polls are
followed. -/
inductive Waits (client : Client) (stage : Stage) : (count horizon : Nat) →
    (reason : Option String) → List Event → Option (Except Failure Unit) → Prop
  /-- No more polls are followed. -/
  | unfollowed {count : Nat} {reason : Option String} :
      Waits client stage count 0 reason [] none
  /-- The wait was cancelled before the next poll. -/
  | cancelled {count horizon : Nat} {reason : String} :
      Waits client stage count (horizon + 1) (some reason) []
        (some (.error (.interrupted stage reason)))
  /-- The next poll decides, whether someone cancels while it is on its way or not. -/
  | decided {count horizon : Nat} {poll : Exchange} {reason : Option String}
      {verdict : Except Failure Unit}
      (hverdict : client.poll.verdict? stage (count + 1) poll = some verdict) :
      Waits client stage count (horizon + 1) none
        (poll.event :: reason.toList.map .cancelled) (some verdict)
  /-- The next poll does not decide, and someone cancels while it is on its way. -/
  | cancelledPolling {count horizon : Nat} {poll : Exchange} {reason : String}
      (hverdict : client.poll.verdict? stage (count + 1) poll = none) :
      Waits client stage count (horizon + 1) none [poll.event, .cancelled reason]
        (some (.error (.interrupted stage reason)))
  /-- The next poll does not decide, and someone cancels during the pause after it. -/
  | cancelledPausing {count horizon : Nat} {poll : Exchange} {reason : String}
      (hverdict : client.poll.verdict? stage (count + 1) poll = none) :
      Waits client stage count (horizon + 1) none
        [poll.event, .paused client.poll.intervalMillis.toNat, .cancelled reason]
        (some (.error (.interrupted stage reason)))
  /-- The next poll does not decide, and the wait goes on after a pause. -/
  | goesOn {count horizon : Nat} {poll : Exchange} {later : List Event}
      {result : Option (Except Failure Unit)}
      (hverdict : client.poll.verdict? stage (count + 1) poll = none)
      (hlater : Waits client stage (count + 1) horizon none later result) :
      Waits client stage count (horizon + 1) none
        (poll.event :: .paused client.poll.intervalMillis.toNat :: later) result

namespace Waits

variable {client : Client} {stage : Stage} {count horizon : Nat} {reason : Option String}
  {trace : List Event} {result : Option (Except Failure Unit)}

/-- A wait makes no more polls than allowed. -/
theorem length_le (h : Waits client stage count horizon reason trace result) {limit : Nat}
    (hlimit : client.poll.limit? = some limit) (hcount : count < limit) :
    count + (exchangesOf trace).length ≤ limit := by
  induction h with
  | unfollowed | cancelled => exact Nat.le_of_lt hcount
  | decided | cancelledPolling | cancelledPausing => simpa using Nat.succ_le_of_lt hcount
  | goesOn hverdict _ ih =>
    have hmore := (PollSettings.verdict?_eq_none_iff.mp hverdict).2
    rw [hlimit, ne_eq, Option.some.injEq] at hmore
    have hrest := ih (by omega)
    simp only [exchangesOf_event, exchangesOf_paused, List.length_cons]
    omega

/-- A wait that does not end makes as many polls as are followed. -/
theorem length_eq (h : Waits client stage count horizon reason trace result)
    (hresult : result = none) : (exchangesOf trace).length = horizon := by
  induction h with
  | unfollowed => rfl
  | cancelled | decided | cancelledPolling | cancelledPausing => cases hresult
  | goesOn _ _ ih => simp [ih hresult]

/-- After a cancellation nothing is asked. -/
theorem quiet (h : Waits client stage count horizon reason trace result) :
    (reason ≠ none → exchangesOf trace = []) ∧
      trace.Pairwise fun earlier later =>
        earlier.cancellation? ≠ none → later.exchange? = none := by
  induction h with
  | unfollowed | cancelled => exact ⟨fun _ => rfl, .nil⟩
  | @decided _ _ poll reason _ _ =>
    refine ⟨fun h => absurd rfl h, ?_⟩
    cases reason <;> simp [Exchange.event, Event.cancellation?]
  | cancelledPolling | cancelledPausing =>
    simp [Exchange.event, Event.cancellation?, Event.exchange?]
  | goesOn _ _ ih =>
    refine ⟨fun h => absurd rfl h, ?_⟩
    simpa [Exchange.event, Event.cancellation?] using ih.2

/-- Without a cancellation a wait that ends has one pause after each poll but the last one, which is
the first poll that decides. -/
theorem exists_verdict (h : Waits client stage count horizon reason trace result)
    {ended : Except Failure Unit} (hresult : result = some ended)
    (hreason : firstReason reason trace = none) :
    ∃ earlier last, exchangesOf trace = earlier ++ [last] ∧
      (∀ index poll, earlier[index]? = some poll →
        client.poll.verdict? stage (count + index + 1) poll = none) ∧
      client.poll.verdict? stage (count + earlier.length + 1) last = some ended ∧
      pausesOf trace = List.replicate earlier.length client.poll.intervalMillis.toNat := by
  induction h with
  | unfollowed => cases hresult
  | cancelled | cancelledPolling | cancelledPausing => simp at hreason
  | @decided _ _ poll reason verdict hverdict =>
    cases hresult
    exact ⟨[], poll, by simp, by simp, hverdict, by simp⟩
  | @goesOn count _ poll _ _ hverdict _ ih =>
    obtain ⟨earlier, last, hpolls, hearlier, hlast, hpauses⟩ :=
      ih hresult (by simpa using hreason)
    refine ⟨poll :: earlier, last, by simp [hpolls], ?_, ?_, by simp [hpauses, List.replicate_succ]⟩
    · intro index other hother
      cases index with
      | zero =>
        obtain rfl : poll = other := by simpa using hother
        exact hverdict
      | succ index =>
        have hindex : count + (index + 1) + 1 = count + 1 + index + 1 := by omega
        rw [hindex]
        exact hearlier index other hother
    · have hlength : count + (poll :: earlier).length + 1 = count + 1 + earlier.length + 1 := by
        rw [List.length_cons]
        omega
      rw [hlength]
      exact hlast

/-- After a cancellation a wait ends with the verdict of its last poll, or else it is interrupted
for the first reason. -/
theorem interrupted (h : Waits client stage count horizon reason trace result)
    {ended : Except Failure Unit} (hresult : result = some ended) {first : String}
    (hreason : firstReason reason trace = some first) :
    ended = (client.poll.lastVerdict? stage count (exchangesOf trace)).getD
      (.error (.interrupted stage first)) := by
  induction h with
  | unfollowed => cases hresult
  | cancelled =>
    cases hresult
    obtain rfl : _ = first := by simpa using hreason
    rfl
  | decided hverdict =>
    cases hresult
    simp [PollSettings.lastVerdict?, hverdict]
  | cancelledPolling hverdict | cancelledPausing hverdict =>
    cases hresult
    obtain rfl : _ = first := by simpa using hreason
    simp [PollSettings.lastVerdict?, hverdict]
  | goesOn hverdict _ ih =>
    have hrest := ih hresult (by simpa using hreason)
    simpa [PollSettings.lastVerdict?_cons hverdict] using hrest

end Waits

namespace World

variable {σ : Type} {world : World σ}

/-- Where nobody cancelled before, a cancellation counts. -/
theorem cancelEvents_of_none (h : world.token.reason = none) (reason : Option String) :
    world.cancelEvents reason = reason.toList.map .cancelled := by
  cases reason with
  | none => rfl
  | some reason => simp [cancelEvents, CancellationToken.isCancelled, h]

/-- Where nobody cancelled before, the reason of a cancellation is kept. -/
theorem reason_cancel_of_none (h : world.token.reason = none) (reason : Option String) :
    (world.cancel reason).token.reason = reason := by
  cases reason with
  | none => exact h
  | some reason => simp [cancel, CancellationToken.cancel, h]

/-- Where nobody cancelled before, sending a request is an exchange, and perhaps a cancellation that
the token keeps. -/
theorem exists_sent_of_none (environment : Environment σ) (h : world.token.reason = none)
    (request : Request) : ∃ reason : Option String,
      world.sendingEvents environment request =
        (world.exchange environment request).event :: reason.toList.map .cancelled ∧
      (world.afterSending environment request).token.reason = reason :=
  ⟨_, congrArg (_ :: ·) (cancelEvents_of_none h _), reason_cancel_of_none h _⟩

end World

namespace Client

open Operation

variable {σ : Type} {environment : Environment σ}

/-- A pause after a cancellation is none, and it tells the reason. -/
theorem yields_pause_of_some {world : World σ} {reason : String}
    (h : world.token.reason = some reason) {millis : Nat}
    {outcome : Option (Except Failure (Option String)) → List Event → World σ → Prop} :
    (perform (.pause millis)).Yields environment world outcome ↔
      outcome (some (.ok (some reason))) [] world := by
  simp only [yields_perform, Effect.handle, h]

/-- A pause tells of a cancellation during it, which the token keeps. -/
theorem yields_pause_of_none {world : World σ} (h : world.token.reason = none) {millis : Nat}
    {outcome : Option (Except Failure (Option String)) → List Event → World σ → Prop} :
    (perform (.pause millis)).Yields environment world outcome ↔
      let (reason, state) := environment.pass world.state millis
      outcome (some (.ok reason)) (.paused millis :: reason.toList.map .cancelled)
        { world.cancel reason with state } := by
  simp only [yields_perform, Effect.handle, h, World.cancelEvents_of_none h]

/-- From any number of polls on a wait goes in one of the ways, if the counter tells the number. -/
theorem yields_pollFrom_waits (client : Client) (stage : Stage) (endpoint : Url) (horizon : Nat)
    {attempts : UInt32} {count : Nat} (hcount : client.poll.Counts attempts count)
    (world : World σ) :
    (client.pollFrom stage endpoint horizon attempts).Yields environment world
      fun result trace _ => Waits client stage count horizon world.token.reason trace result := by
  induction horizon generalizing attempts count world with
  | zero =>
    rw [pollFrom, yields_unfinished]
    exact .unfollowed
  | succ horizon ih =>
    rw [pollFrom, yields_bind, yields_cancellation]
    cases hreason : world.token.reason with
    | some reason => exact .cancelled
    | none =>
      obtain ⟨cancelled, hsent, htoken⟩ :=
        World.exists_sent_of_none environment hreason (.get endpoint)
      simp only [yields_bind, yields_isTransitioning, hsent]
      generalize world.exchange environment (.get endpoint) = poll
      generalize world.afterSending environment (.get endpoint) = after at htoken ⊢
      cases hanswer : poll.isTransitioning with
      | error failure => exact .decided (by rw [PollSettings.verdict?, hanswer])
      | ok isGoing =>
        cases isGoing with
        | false =>
          simp only [Bool.false_eq_true, if_false, yields_pure, List.append_nil, List.nil_append]
          exact .decided (by rw [PollSettings.verdict?, hanswer])
        | true =>
          -- The limit decides before the pause whether there is another poll.
          by_cases hlimit : client.poll.limit? = some (count + 1)
          · simp only [if_true, hcount.isExhausted_iff.mpr hlimit, yields_bind, yields_throw,
              List.append_nil, List.nil_append, hcount.toNat_add_one hlimit]
            exact .decided (by simp [PollSettings.verdict?, hanswer, hlimit])
          · have hmore : ¬ client.poll.isExhausted (attempts + 1) = true :=
              mt hcount.isExhausted_iff.mp hlimit
            have hverdict : client.poll.verdict? stage (count + 1) poll = none :=
              PollSettings.verdict?_eq_none_iff.mpr ⟨hanswer, hlimit⟩
            simp only [if_true, if_neg hmore, yields_bind]
            cases cancelled with
            | some reason =>
              rw [yields_pause_of_some htoken]
              exact .cancelledPolling hverdict
            | none =>
              rw [yields_pause_of_none htoken]
              have hkept := World.reason_cancel_of_none htoken
                (environment.pass after.state client.poll.intervalMillis.toNat).1
              generalize environment.pass after.state client.poll.intervalMillis.toNat = passed
                at hkept ⊢
              obtain ⟨_ | reason, state⟩ := passed
              · apply (ih (hcount.next hlimit) _).mono
                intro result trace last hlater
                rw [hkept] at hlater
                exact .goesOn hverdict hlater
              · exact .cancelledPausing hverdict

end Client

/-- In every world, for a stage whose repository has an address, a wait asks for nothing but the
repository, at most as often as allowed, and succeeds exactly if its last poll was answered that the
transition is over. It ends unless it makes as many polls as are followed. Without a cancellation
its last poll is the first one that decides, what that one decides is the result, and there is one
pause after each other poll. After a cancellation nothing is asked, and a last poll that does not
decide leaves the wait interrupted for the first reason. What a poll was answered is what the
document in the answer tells. -/
theorem wait_ends_with_first_verdict {σ : Type} (environment : Environment σ) (client : Client)
    (stage : Stage) {endpoint : Url}
    (hendpoint : repositoryEndpoint client.base stage none = .ok endpoint) (world : World σ) :
    (client.waitForTransition stage).Yields environment world fun result trace _ =>
      let polls := exchangesOf trace
      (∀ poll ∈ polls, poll.request = .get endpoint) ∧
      (∀ limit, client.poll.limit? = some limit → polls.length ≤ limit) ∧
      (result = some (.ok ()) ↔ ∃ last, polls.getLast? = some last ∧
        last.status? = some 200 ∧ last.isTransitioning = .ok false) ∧
      (result = none → polls.length = client.horizon) ∧
      (∀ ended, result = some ended → firstReason world.token.reason trace = none →
        ∃ earlier last, polls = earlier ++ [last] ∧
          (∀ index poll, earlier[index]? = some poll →
            client.poll.verdict? stage (index + 1) poll = none) ∧
          client.poll.verdict? stage polls.length last = some ended ∧
          pausesOf trace = List.replicate earlier.length client.poll.intervalMillis.toNat) ∧
      (world.token.reason ≠ none → polls = []) ∧
      (trace.Pairwise fun earlier later =>
        earlier.cancellation? ≠ none → later.exchange? = none) ∧
      (∀ ended first, result = some ended → firstReason world.token.reason trace = some first →
        ended = (client.poll.lastVerdict? stage 0 polls).getD
          (.error (.interrupted stage first))) ∧
      ∀ poll ∈ polls, ∀ isGoing,
        poll.isTransitioning = .ok isGoing ↔ poll.TellsTransitioning isGoing := by
  have hpolls : (client.pollFrom stage endpoint client.horizon 0).Yields environment world _ :=
    client.yields_pollFrom stage endpoint client.horizon 0 world
  have hways : (client.pollFrom stage endpoint client.horizon 0).Yields environment world _ :=
    client.yields_pollFrom_waits stage endpoint client.horizon client.poll.counts_zero world
  rw [Client.waitForTransition, Operation.yields_bind, Operation.yields_liftM, hendpoint]
  apply (hpolls.and hways).mono
  rintro result trace _ ⟨⟨harePolls, hresult⟩, hwaits⟩
  refine ⟨harePolls.asked, ?_, ?_, hwaits.length_eq, ?_, hwaits.quiet.1, hwaits.quiet.2, ?_,
    fun _ _ _ => Exchange.isTransitioning_eq_ok_iff⟩
  · intro limit hlimit
    have hle := hwaits.length_le hlimit (client.poll.counts_zero limit hlimit).2
    rwa [Nat.zero_add] at hle
  · rw [hresult]
    constructor
    · rintro ⟨last, hlast, hover⟩
      exact ⟨last, hlast, Exchange.status?_of_isTransitioning hover, hover⟩
    · rintro ⟨last, hlast, -, hover⟩
      exact ⟨last, hlast, hover⟩
  · intro ended hended hreason
    obtain ⟨earlier, last, heq, hearlier, hlast, hpauses⟩ := hwaits.exists_verdict hended hreason
    refine ⟨earlier, last, heq, ?_, ?_, hpauses⟩
    · intro index poll hpoll
      simpa using hearlier index poll hpoll
    · simpa [heq] using hlast
  · intro ended first hended hreason
    exact hwaits.interrupted hended hreason

/-- A server that never ends a transition; someone cancels during the second poll and again during
the third. -/
def impatientRehearsal : Rehearsal where
  script := Script.empty.respond ⟨.get, "http://nexus.test/service/local/staging/repository/s"⟩
    ⟨200, "<stagingProfileRepository><transitioning>true</transitioning></stagingProfileRepository>"⟩
  cancelling := [(2, "interrupted by Ctrl-C"), (3, "again")]

/-- A client that makes three polls. -/
def limitedClient : Client := { sampleClient with poll := ⟨500, some 3⟩ }

/-- A wait that is cancelled during the second of three polls is interrupted. -/
theorem wait_ends_with_first_verdict_cancelled :
    let wait := (limitedClient.waitForTransition ⟨"p", "s"⟩).runIn Rehearsal.environment
      (World.fresh impatientRehearsal)
    (∃ endpoint, repositoryEndpoint limitedClient.base ⟨"p", "s"⟩ none = .ok endpoint) ∧
      firstReason none wait.trace = some "interrupted by Ctrl-C" ∧
      wait.result = some (.error (.interrupted ⟨"p", "s"⟩ "interrupted by Ctrl-C")) := by
  intro wait
  have hendpoint : repositoryEndpoint limitedClient.base ⟨"p", "s"⟩ none = .ok
      ⟨"http", some ⟨"", "", "nexus.test", none⟩, false,
        .rooted ["service", "local", "staging", "repository", "s"], none, none⟩ :=
    toOption_eq_some_iff.mp (by decide)
  have hreason : firstReason none wait.trace = some "interrupted by Ctrl-C" := by decide +kernel
  have hundecided :
      limitedClient.poll.lastVerdict? ⟨"p", "s"⟩ 0 (exchangesOf wait.trace) = none := by
    decide +kernel
  obtain ⟨ended, hended⟩ : ∃ ended, wait.result = some ended :=
    Option.isSome_iff_exists.mp (by decide +kernel)
  obtain ⟨-, -, -, -, -, -, -, hinterrupted, -⟩ := wait_ends_with_first_verdict
    Rehearsal.environment limitedClient ⟨"p", "s"⟩ hendpoint (World.fresh impatientRehearsal)
  refine ⟨⟨_, hendpoint⟩, hreason, ?_⟩
  have hresult := hinterrupted ended _ hended hreason
  rw [hundecided] at hresult
  rw [hended, hresult]
  rfl

end ReleaseStaging
