import ReleaseStaging.Proofs.Client.Waiting
import ReleaseStaging.Proofs.Simulation.Documents

/-!
# The counter of polls

A wait takes one turn after another, and a counter of 32 bits goes through all of them. With a limit
the counter tells how many polls were made, since the limit is reached before the counter is used
up. Without a limit a transition may go on for longer than the counter lasts: after every
`UInt32.size` polls it starts again from zero. `WaitReaches` says what a wait can have come to
between two turns; `WaitReaches.runIn_pollFrom` and `WaitReaches.exists_last` say that this is where
its run goes.
Main statement: `counter_tells_polls_iff`.
-/

namespace ReleaseStaging

/-- An operation has a run if it yields what the run gives. -/
theorem Operation.runIn_eq_iff {σ α : Type} {environment : Environment σ} {world : World σ}
    {operation : Operation α} {run : Run σ (Except Failure α)} :
    operation.runIn environment world = run ↔
      operation.Yields environment world fun result trace after =>
        result = run.result ∧ trace = run.trace ∧ after = run.world := by
  rw [Yields]
  generalize operation.runIn environment world = other
  obtain ⟨_, _, _⟩ := run
  obtain ⟨_, _, _⟩ := other
  simp only [Run.mk.injEq]

namespace Client

open Operation

variable {σ : Type} {environment : Environment σ}

/-! ## Turns of a wait -/

/-- One turn of a wait with the given counter: the counter of the next turn, or none if the
transition is over. -/
def pollOnce (client : Client) (stage : Stage) (endpoint : Url) (attempts : UInt32) :
    Operation (Option UInt32) := do
  match ← perform .cancellation with
  | some reason => throw (.interrupted stage reason)
  | none =>
    let attempts := attempts + 1
    unless ← isTransitioning endpoint do return none
    if client.poll.isExhausted attempts then throw (.pollLimitReached stage attempts.toNat)
    match ← perform (.pause client.poll.intervalMillis.toNat) with
    | some reason => throw (.interrupted stage reason)
    | none => return some attempts

/-- A wait for a stage whose repository has an address takes turns with a counter that starts at
zero. -/
theorem waitForTransition_eq {client : Client} {stage : Stage} {endpoint : Url}
    (h : repositoryEndpoint client.base stage none = .ok endpoint) :
    client.waitForTransition stage = client.pollFrom stage endpoint client.horizon 0 := by
  rw [waitForTransition, h]
  rfl

/-- A wait takes one turn after another. -/
theorem pollFrom_succ (client : Client) (stage : Stage) (endpoint : Url) (horizon : Nat)
    (attempts : UInt32) :
    client.pollFrom stage endpoint (horizon + 1) attempts = (do
      match ← client.pollOnce stage endpoint attempts with
      | none => return ()
      | some next => client.pollFrom stage endpoint horizon next) := by
  rw [pollFrom, pollOnce, bind_assoc]
  congr 1
  funext cancelled
  cases cancelled with
  | some reason => rfl
  | none =>
    simp only [bind_assoc]
    congr 1
    funext isGoing
    cases isGoing with
    | false => rfl
    | true =>
      simp only [if_true]
      split
      · rfl
      · simp only [bind_assoc]
        congr 1
        funext cancelled
        cases cancelled <;> rfl

/-- A wait goes on after a turn exactly if it was not cancelled before, the poll finds the
transition going on and is not the last one allowed, and nobody cancels until the pause is over.
Then the poll is counted. -/
theorem runIn_pollOnce_eq_iff {client : Client} {stage : Stage} {endpoint : Url}
    {attempts next : UInt32} {world after : World σ} {events : List Event} :
    (client.pollOnce stage endpoint attempts).runIn environment world =
        ⟨some (.ok (some next)), events, after⟩ ↔
      next = attempts + 1 ∧ world.token.reason = none ∧
        (world.exchange environment (.get endpoint)).isTransitioning = .ok true ∧
        ¬ client.poll.isExhausted (attempts + 1) = true ∧
        ∃ waited, (perform (.pause client.poll.intervalMillis.toNat)).runIn environment
            (world.afterSending environment (.get endpoint)) = ⟨some (.ok none), waited, after⟩ ∧
          events = world.sendingEvents environment (.get endpoint) ++ waited := by
  rw [runIn_eq_iff, pollOnce, yields_bind, yields_cancellation]
  cases world.token.reason with
  | some reason => simp
  | none =>
    simp only [yields_bind, yields_isTransitioning]
    cases (world.exchange environment (.get endpoint)).isTransitioning with
    | error failure => simp
    | ok isGoing =>
      cases isGoing with
      | false => simp
      | true =>
        by_cases hlimit : client.poll.isExhausted (attempts + 1) = true
        · simp [hlimit]
        · simp only [if_true, if_neg hlimit, yields_bind]
          rw [Yields]
          generalize (perform (.pause client.poll.intervalMillis.toNat)).runIn environment
            (world.afterSending environment (.get endpoint)) = paused
          obtain ⟨_ | failure | _ | reason, waited, last⟩ := paused
          · simp
          · simp
          · simp [hlimit, eq_comm, and_comm]
          · simp

end Client

/-! ## States of a wait -/

/-- What a wait can have come to between two turns: what its counter says, everything that happened
and the world. Every turn before was one after which the wait goes on. -/
inductive WaitReaches {σ : Type} (environment : Environment σ) (client : Client) (stage : Stage)
    (endpoint : Url) (start : World σ) : UInt32 → List Event → World σ → Prop
  /-- Nothing is counted before the first turn. -/
  | start : WaitReaches environment client stage endpoint start 0 [] start
  /-- A turn leaves the counter with which the wait goes on. -/
  | turn {attempts next : UInt32} {trace events : List Event} {world after : World σ}
      (hbefore : WaitReaches environment client stage endpoint start attempts trace world)
      (hturn : (client.pollOnce stage endpoint attempts).runIn environment world =
        ⟨some (.ok (some next)), events, after⟩) :
      WaitReaches environment client stage endpoint start next (trace ++ events) after

namespace WaitReaches

variable {σ : Type} {environment : Environment σ} {client : Client} {stage : Stage} {endpoint : Url}
  {start world after : World σ} {attempts next : UInt32} {trace events : List Event}

/-- A turn after which a wait goes on makes one poll and counts it. -/
theorem turn_counts (hturn : (client.pollOnce stage endpoint attempts).runIn environment world =
      ⟨some (.ok (some next)), events, after⟩) :
    next = attempts + 1 ∧ ¬ client.poll.isExhausted (attempts + 1) = true ∧
      (exchangesOf events).length = 1 := by
  obtain ⟨hnext, -, -, hlimit, waited, hpause, rfl⟩ := Client.runIn_pollOnce_eq_iff.mp hturn
  have hyields : (Operation.perform (.pause client.poll.intervalMillis.toNat)).Yields environment
      (world.afterSending environment (.get endpoint)) _ := Operation.yields_pause
  rw [Operation.Yields, hpause] at hyields
  have hquiet : exchangesOf waited = [] := hyields.2.1
  exact ⟨hnext, hlimit, by simp [hquiet]⟩

/-- The counter tells the number of polls up to the size of its range. -/
theorem toNat_attempts
    (h : WaitReaches environment client stage endpoint start attempts trace world) :
    attempts.toNat = (exchangesOf trace).length % UInt32.size := by
  induction h with
  | start => rfl
  | turn _ hturn ih =>
    obtain ⟨rfl, -, hpoll⟩ := turn_counts hturn
    rw [UInt32.toNat_add, ih, exchangesOf_append, List.length_append, hpoll]
    exact Nat.mod_add_mod ..

/-- With a limit the counter tells the number of polls, of which there are fewer than allowed. -/
theorem counts (h : WaitReaches environment client stage endpoint start attempts trace world) :
    client.poll.Counts attempts (exchangesOf trace).length := by
  induction h with
  | start => exact client.poll.counts_zero
  | turn _ hturn ih =>
    obtain ⟨rfl, hlimit, hpoll⟩ := turn_counts hturn
    rw [exchangesOf_append, List.length_append, hpoll]
    exact ih.next (mt ih.isExhausted_iff.mpr hlimit)

/-- The run of a wait goes on from what it has come to. -/
theorem runIn_pollFrom
    (h : WaitReaches environment client stage endpoint start attempts trace world) (horizon : Nat) :
    (client.pollFrom stage endpoint ((exchangesOf trace).length + horizon) 0).runIn environment
        start =
      let later := (client.pollFrom stage endpoint horizon attempts).runIn environment world
      { later with trace := trace ++ later.trace } := by
  induction h generalizing horizon with
  | start => simp
  | turn _ hturn ih =>
    obtain ⟨rfl, -, hpoll⟩ := turn_counts hturn
    rw [exchangesOf_append, List.length_append, hpoll, Nat.add_assoc, Nat.add_comm 1, ih]
    simp only [Client.pollFrom_succ, Operation.runIn, Program.run_bind_exceptT] at hturn ⊢
    simp only [hturn, List.append_assoc]

/-- Of the turns that are followed from here on, a wait takes all or those up to one after which it
does not go on. -/
theorem exists_last (h : WaitReaches environment client stage endpoint start attempts trace world)
    (horizon : Nat) : ∃ attempts' trace' world' left,
      WaitReaches environment client stage endpoint start attempts' trace' world' ∧
        (exchangesOf trace').length + left = (exchangesOf trace).length + horizon ∧
        (left = 0 ∨ ∀ next events after,
          (client.pollOnce stage endpoint attempts').runIn environment world' ≠
            ⟨some (.ok (some next)), events, after⟩) := by
  induction horizon generalizing attempts trace world with
  | zero => exact ⟨attempts, trace, world, 0, h, rfl, .inl rfl⟩
  | succ horizon ih =>
    by_cases hgoes : ∃ next events after,
        (client.pollOnce stage endpoint attempts).runIn environment world =
          ⟨some (.ok (some next)), events, after⟩
    · obtain ⟨next, events, after, hturn⟩ := hgoes
      obtain ⟨attempts', trace', world', left, hlast, hleft, hends⟩ := ih (h.turn hturn)
      refine ⟨attempts', trace', world', left, hlast, ?_, hends⟩
      rw [hleft, exchangesOf_append, List.length_append, (turn_counts hturn).2.2]
      omega
    · refine ⟨attempts, trace, world, horizon + 1, h, rfl, .inr ?_⟩
      simpa only [not_exists] using hgoes

end WaitReaches

/-! ## A transition that never ends -/

/-- A server that answers every request that the transition is going on, and nobody who cancels. -/
def unending : Environment Unit where
  answer _ _ := (.ok ⟨200, Simulation.repositoryDocument "s" true⟩, none, ())
  pass _ _ := (none, ())

namespace Client

open Operation

variable (client : Client) (stage : Stage) (endpoint : Url)

/-- Without a limit the wait goes on after every turn, and only its counter has changed. -/
theorem runIn_pollOnce_unending (hlimit : client.poll.maxAttempts = none) (attempts : UInt32) :
    (client.pollOnce stage endpoint attempts).runIn unending (.fresh ()) =
      ⟨some (.ok (some (attempts + 1))),
        [.sent (.get endpoint) (.ok ⟨200, Simulation.repositoryDocument "s" true⟩),
          .paused client.poll.intervalMillis.toNat], .fresh ()⟩ := by
  have hanswer : (World.exchange unending (.fresh ()) (.get endpoint)).isTransitioning = .ok true :=
    Simulation.isTransitioning_repositoryDocument (by decide) true (.get endpoint)
  have hmore : ¬ client.poll.isExhausted (attempts + 1) = true := by
    rw [PollSettings.isExhausted, hlimit]
    exact Bool.false_ne_true
  exact runIn_pollOnce_eq_iff.mpr ⟨rfl, rfl, hanswer, hmore, _, rfl, rfl⟩

end Client

/-- Without a limit a wait for a transition that never ends makes any number of polls. -/
theorem WaitReaches.exists_unending (client : Client) (stage : Stage) (endpoint : Url)
    (hlimit : client.poll.maxAttempts = none) (polls : Nat) :
    ∃ trace, WaitReaches unending client stage endpoint (.fresh ()) (UInt32.ofNat polls) trace
      (.fresh ()) ∧ (exchangesOf trace).length = polls := by
  induction polls with
  | zero => exact ⟨[], .start, rfl⟩
  | succ polls ih =>
    obtain ⟨trace, hreaches, hpolls⟩ := ih
    have hturn := client.runIn_pollOnce_unending stage endpoint hlimit (UInt32.ofNat polls)
    rw [← UInt32.ofNat_one, ← UInt32.ofNat_add] at hturn
    exact ⟨_, hreaches.turn hturn, by simp [hpolls]⟩

/-- Whatever a wait has come to between two turns, its run goes on from there, and the counter tells
the number of polls exactly if there is a limit or there were fewer than the counter can tell. The
next poll can be counted unless there is no limit and it completes another round of the counter.
Without a limit there is a server of which any number of polls is made. -/
theorem counter_tells_polls_iff (client : Client) (stage : Stage) (endpoint : Url) :
    (∀ {σ : Type} (environment : Environment σ) (start : World σ) (attempts : UInt32)
      (trace : List Event) (world : World σ),
      WaitReaches environment client stage endpoint start attempts trace world →
        let polls := (exchangesOf trace).length
        (∀ horizon, (client.pollFrom stage endpoint (polls + horizon) 0).runIn environment start =
          let later := (client.pollFrom stage endpoint horizon attempts).runIn environment world
          { later with trace := trace ++ later.trace }) ∧
        (attempts.toNat = polls ↔ client.poll.maxAttempts ≠ none ∨ polls < UInt32.size) ∧
        ((attempts + 1).toNat = attempts.toNat + 1 ↔
          client.poll.maxAttempts ≠ none ∨ ¬ UInt32.size ∣ polls + 1)) ∧
      (client.poll.maxAttempts = none → ∀ polls, ∃ attempts trace world,
        WaitReaches unending client stage endpoint (.fresh ()) attempts trace world ∧
          (exchangesOf trace).length = polls) := by
  constructor
  · intro σ environment start attempts trace world h
    have hrun := h.runIn_pollFrom
    have hcounts := h.counts
    have hvalue := h.toNat_attempts
    have hnext : (attempts + 1).toNat = (attempts.toNat + 1) % UInt32.size := UInt32.toNat_add ..
    generalize (exchangesOf trace).length = polls at hrun hcounts hvalue
    refine ⟨hrun, ?_⟩
    cases hmost : client.poll.maxAttempts with
    | some most =>
      have hlimit : client.poll.limit? = some (max 1 most.toNat) := by
        rw [PollSettings.limit?, hmost]
        rfl
      simp [(hcounts _ hlimit).1, hcounts.toNat_add_one hlimit]
    | none =>
      have hsize : UInt32.size = 4294967296 := rfl
      simp only [ne_eq, not_true_eq_false, false_or, hsize] at hvalue hnext ⊢
      constructor <;> omega
  · intro hnone polls
    obtain ⟨trace, hreaches, hpolls⟩ :=
      WaitReaches.exists_unending client stage endpoint hnone polls
    exact ⟨_, trace, _, hreaches, hpolls⟩

/-- Without a limit a wait for a transition that never ends forgets its polls: after as many as the
counter can tell it goes on as if none had been made. -/
theorem counter_forgets_polls :
    ∃ endpoint trace, repositoryEndpoint sampleClient.base ⟨"p", "s"⟩ none = .ok endpoint ∧
      WaitReaches unending sampleClient ⟨"p", "s"⟩ endpoint (.fresh ()) 0 trace (.fresh ()) ∧
      (exchangesOf trace).length = 4294967296 ∧
      (sampleClient.waitForTransition ⟨"p", "s"⟩).runIn unending (.fresh ()) =
        let later := (sampleClient.pollFrom ⟨"p", "s"⟩ endpoint
          (sampleClient.horizon - 4294967296) 0).runIn unending (.fresh ())
        { later with trace := trace ++ later.trace } := by
  have hendpoint : repositoryEndpoint sampleClient.base ⟨"p", "s"⟩ none = .ok
      ⟨"http", some ⟨"", "", "nexus.test", none⟩, false,
        .rooted ["service", "local", "staging", "repository", "s"], none, none⟩ :=
    toOption_eq_some_iff.mp (by decide)
  obtain ⟨trace, hreaches, hpolls⟩ :=
    WaitReaches.exists_unending sampleClient ⟨"p", "s"⟩ _ rfl 4294967296
  refine ⟨_, trace, hendpoint, hreaches, hpolls, ?_⟩
  have hrun := hreaches.runIn_pollFrom (sampleClient.horizon - 4294967296)
  rw [hpolls, Nat.add_sub_cancel' (by decide)] at hrun
  rw [Client.waitForTransition_eq hendpoint]
  exact hrun

end ReleaseStaging
