import ReleaseStaging.Proofs.Client.Asking

/-!
# After a close was accepted

Once a close is accepted, a server that works in the background is polled and its log is read. Each
failure of that part has a reason in the exchanges after the accepted request. So a try to close a
stage goes in one of four ways: it ends before it asks, it is refused, it is done as soon as it is
accepted, or it is awaited.
-/

namespace ReleaseStaging

/-- Counting one on adds at most one. -/
theorem toNat_add_one_le (count : UInt32) : (count + 1).toNat ≤ count.toNat + 1 := by
  rw [UInt32.toNat_add]
  exact Nat.mod_le _ _

/-- Polls are exhausted by a limit that they have reached. -/
theorem PollSettings.exists_limit {settings : PollSettings} {attempts : UInt32}
    (h : settings.isExhausted attempts = true) :
    ∃ limit, settings.maxAttempts = some limit ∧ limit.toNat ≤ attempts.toNat := by
  obtain ⟨limit, hlimit, hreached⟩ : ∃ limit, settings.maxAttempts = some limit ∧
      limit ≤ attempts := by
    simpa [isExhausted, Option.any_eq_true] using h
  exact ⟨limit, hlimit, UInt32.le_iff_toNat_le.mp hreached⟩

/-- Why a close that was accepted is not confirmed, by the exchanges after its acceptance. -/
inductive Unconfirmed (client : Client) (stage : Stage) : List Exchange → Failure → Prop
  /-- What is to be asked next has no address. -/
  | unaddressed {polls : List Exchange} {child : Option String} {failure : Failure}
      (hendpoint : repositoryEndpoint client.base stage child = .error failure) :
      Unconfirmed client stage polls failure
  /-- The answer to a poll does not tell whether the transition is going on. -/
  | pollFailed {polls : List Exchange} {poll : Exchange} {endpoint : Url} {failure : Failure}
      (hendpoint : repositoryEndpoint client.base stage none = .ok endpoint)
      (hasked : poll.request = .get endpoint) (hanswer : poll.isTransitioning = .error failure) :
      Unconfirmed client stage (polls ++ [poll]) failure
  /-- The transition is going on after as many polls as are allowed. -/
  | limitReached {polls : List Exchange} {poll : Exchange} {limit : UInt32} {count : Nat}
      (hlimit : client.poll.maxAttempts = some limit) (hcount : limit.toNat ≤ polls.length + 1)
      (hanswer : poll.isTransitioning = .ok true) :
      Unconfirmed client stage (polls ++ [poll]) (.pollLimitReached stage count)
  /-- The wait was cancelled. -/
  | interrupted {polls : List Exchange} {reason : String} :
      Unconfirmed client stage polls (.interrupted stage reason)
  /-- The answer to the request for the log is no log. -/
  | logFailed {polls : List Exchange} {reading : Exchange} {endpoint : Url} {failure : Failure}
      (hendpoint : repositoryEndpoint client.base stage (some "activity") = .ok endpoint)
      (hasked : reading.request = .get endpoint) (hanswer : reading.closeOutcome = .error failure) :
      Unconfirmed client stage (polls ++ [reading]) failure
  /-- The log records that the close failed. -/
  | closeFailed {polls : List Exchange} {reading : Exchange} {endpoint : Url} {cause : CloseFailure}
      (hendpoint : repositoryEndpoint client.base stage (some "activity") = .ok endpoint)
      (hasked : reading.request = .get endpoint)
      (hanswer : reading.closeOutcome = .ok (.failed cause)) :
      Unconfirmed client stage (polls ++ [reading]) (.actionFailed (cause.message stage))
  /-- The log records neither that the close failed nor that it succeeded. -/
  | unrecorded {polls : List Exchange} {reading : Exchange} {endpoint : Url}
      (hendpoint : repositoryEndpoint client.base stage (some "activity") = .ok endpoint)
      (hasked : reading.request = .get endpoint)
      (hanswer : reading.closeOutcome = .ok .unrecorded) :
      Unconfirmed client stage (polls ++ [reading]) (.unrecordedOutcome .close stage)

/-- The server is known to work in the background. -/
def World.IsAsync {σ : Type} (world : World σ) : Prop :=
  ∃ capability, world.memo = some capability ∧ capability.asyncActions = true

/-- How a try to close a stage goes, by the worlds before and after it. The server is asked what it
is able to do unless that is remembered, and nothing else is asked before the close is. -/
inductive CloseTry {σ : Type} (client : Client) (stage : Stage) (world after : World σ) :
    List Exchange → Option (Except Failure Unit) → Prop
  /-- It ends before the close is requested. -/
  | unasked {quiet : List Exchange} {result : Option (Except Failure Unit)} (hquiet : IsQuiet quiet)
      (hreason : world.memo = none ∨
        ∃ failure, Action.close.endpoint client.base stage = .error failure)
      (hresult : result ≠ some (.ok ())) : CloseTry client stage world after quiet result
  /-- The request is not accepted. -/
  | refused {quiet : List Exchange} {asked : Exchange} {failure : Failure} (hquiet : IsQuiet quiet)
      (hknown : world.memo ≠ none → quiet = [])
      (hasks : asked.request.asks client .close stage = true) (hstatus : asked.status? ≠ some 201) :
      CloseTry client stage world after (quiet ++ [asked]) (some (.error failure))
  /-- The request is accepted, and the work is done. -/
  | accepted {quiet : List Exchange} {asked : Exchange} (hquiet : IsQuiet quiet)
      (hknown : world.memo ≠ none → quiet = [])
      (hasks : asked.request.asks client .close stage = true) (hstatus : asked.status? = some 201) :
      CloseTry client stage world after (quiet ++ [asked]) (some (.ok ()))
  /-- The request is accepted, and the work goes on in the background. -/
  | awaited {quiet tail : List Exchange} {asked : Exchange} {result : Option (Except Failure Unit)}
      (hquiet : IsQuiet quiet) (hknown : world.memo ≠ none → quiet = [])
      (hasks : asked.request.asks client .close stage = true)
      (hstatus : asked.status? = some 201) (htail : IsQuiet tail) (hasync : after.IsAsync)
      (hresult : ∀ failure, result = some (.error failure) →
        Unconfirmed client stage tail failure) :
      CloseTry client stage world after (quiet ++ asked :: tail) result

namespace CloseTry

variable {σ : Type} {client : Client} {stage : Stage} {world after : World σ}
  {exchanges : List Exchange} {result : Option (Except Failure Unit)}

/-- A try sends no document but the request for the close. -/
theorem asks_of_post (h : CloseTry client stage world after exchanges result) {exchange : Exchange}
    (hmem : exchange ∈ exchanges) (hpost : exchange.request.method = .post) :
    exchange.request.asks client .close stage = true := by
  cases h with
  | unasked hquiet => exact absurd hpost (hquiet exchange hmem)
  | refused hquiet _ hasks | accepted hquiet _ hasks =>
    rcases List.mem_append.mp hmem with hmem | hmem
    · exact absurd hpost (hquiet exchange hmem)
    · rwa [List.mem_singleton.mp hmem]
  | awaited hquiet _ hasks _ htail =>
    rcases List.mem_append.mp hmem with hmem | hmem
    · exact absurd hpost (hquiet exchange hmem)
    · rcases List.mem_cons.mp hmem with rfl | hmem
      · exact hasks
      · exact absurd hpost (htail exchange hmem)

/-- A try asks for no drop. -/
theorem asksFor_drop (h : CloseTry client stage world after exchanges result) :
    ∀ exchange ∈ exchanges, exchange.request.asksFor .drop = false := by
  intro exchange hmem
  rw [Bool.eq_false_iff]
  intro hdrop
  have hclose := Request.asksFor_of_asks
    (h.asks_of_post hmem (Request.method_of_asksFor hdrop))
  have heq := Request.eq_of_asksFor hdrop hclose
  cases heq

/-- A try asks at most once for a close. -/
theorem countP_close_le (h : CloseTry client stage world after exchanges result) :
    (exchanges.countP fun exchange => exchange.request.asksFor .close) ≤ 1 := by
  cases h with
  | unasked hquiet => simp [hquiet.countP_asksFor]
  | refused hquiet | accepted hquiet =>
    rw [List.countP_append, hquiet.countP_asksFor, Nat.zero_add]
    exact List.countP_le_length
  | awaited hquiet _ _ _ htail =>
    rw [List.countP_append, hquiet.countP_asksFor, List.countP_cons, htail.countP_asksFor]
    split <;> simp

end CloseTry

namespace Client

open Operation

variable {σ : Type} {environment : Environment σ}

/-- A wait that fails after some polls is not confirmed, and it changes nothing that is remembered
of the server. -/
theorem yields_pollFrom_unconfirmed (client : Client) {stage : Stage} {endpoint : Url}
    (hendpoint : repositoryEndpoint client.base stage none = .ok endpoint) (horizon : Nat)
    (attempts : UInt32) (earlier : List Exchange) (hcount : attempts.toNat ≤ earlier.length)
    (world : World σ) :
    (client.pollFrom stage endpoint horizon attempts).Yields environment world
      fun result trace after => after.memo = world.memo ∧
        ∀ failure, result = some (.error failure) →
          Unconfirmed client stage (earlier ++ exchangesOf trace) failure := by
  -- The counter of polls may wrap around, so it is only at most the number of the earlier ones.
  induction horizon generalizing attempts earlier world with
  | zero =>
    rw [pollFrom, yields_unfinished]
    exact ⟨rfl, by simp⟩
  | succ horizon ih =>
    rw [pollFrom, yields_bind, yields_cancellation]
    cases world.token.reason with
    | some reason =>
      refine ⟨rfl, ?_⟩
      rintro failure ⟨⟩
      exact .interrupted
    | none =>
      simp only [yields_bind, yields_isTransitioning]
      have hasked := world.request_exchange environment (.get endpoint)
      have hmemo := world.memo_afterSending environment (.get endpoint)
      generalize hpoll : world.exchange environment (.get endpoint) = poll at hasked ⊢
      cases hanswer : poll.isTransitioning with
      | error failure =>
        refine ⟨hmemo, ?_⟩
        rintro _ ⟨⟩
        simp only [World.exchangesOf_sendingEvents, hpoll, List.nil_append]
        exact .pollFailed hendpoint hasked hanswer
      | ok isGoing =>
        cases isGoing with
        | false => simp
        | true =>
          have hnext : (attempts + 1).toNat ≤ (earlier ++ [poll]).length := by
            have hadd := toNat_add_one_le attempts
            rw [List.length_append, List.length_singleton]
            omega
          by_cases hlimit : client.poll.isExhausted (attempts + 1) = true
          · simp only [if_true, if_pos hlimit, yields_bind, yields_throw]
            refine ⟨hmemo, ?_⟩
            rintro _ ⟨⟩
            obtain ⟨limit, hmax, hreached⟩ := PollSettings.exists_limit hlimit
            have hpolls : limit.toNat ≤ earlier.length + 1 := by
              rw [List.length_append, List.length_singleton] at hnext
              omega
            simp only [World.exchangesOf_sendingEvents, hpoll, List.nil_append, List.append_nil]
            exact .limitReached hmax hpolls hanswer
          · simp only [if_true, if_neg hlimit]
            rw [yields_bind]
            apply Yields.mono yields_pause
            rintro _ waited after ⟨⟨reason, rfl⟩, hwaited, hmemo'⟩
            cases reason with
            | some reason =>
              refine ⟨hmemo'.trans hmemo, ?_⟩
              rintro _ ⟨⟩
              exact .interrupted
            | none =>
              apply (ih (attempts + 1) (earlier ++ [poll]) hnext after).mono
              rintro result trace last ⟨hlast, hresult⟩
              refine ⟨hlast.trans (hmemo'.trans hmemo), ?_⟩
              intro failure hfailure
              simpa [exchangesOf_append, hwaited, hpoll] using hresult failure hfailure

/-- A confirmation after some polls fetches at most the log, which has the reason if it fails. -/
theorem yields_confirmClosed_unconfirmed (client : Client) (stage : Stage) (polls : List Exchange)
    (world : World σ) :
    (client.confirmClosed stage).Yields environment world fun result trace after =>
      IsQuiet (exchangesOf trace) ∧ after.memo = world.memo ∧
        ∀ failure, result = some (.error failure) →
          Unconfirmed client stage (polls ++ exchangesOf trace) failure := by
  rw [yields_confirmClosed]
  cases hlog : repositoryEndpoint client.base stage (some "activity") with
  | error failure =>
    refine ⟨isQuiet_nil, rfl, ?_⟩
    rintro _ ⟨⟩
    exact .unaddressed hlog
  | ok url =>
    dsimp only
    have hasked := world.request_exchange environment (.get url)
    have hmemo := world.memo_afterSending environment (.get url)
    have hsent := world.exchangesOf_sendingEvents environment (.get url)
    generalize hread : world.exchange environment (.get url) = reading at hasked hsent ⊢
    have hquiet : IsQuiet [reading] := by simp [hasked, Request.get]
    cases houtcome : reading.closeOutcome with
    | error failure =>
      refine ⟨by rwa [hsent], hmemo, ?_⟩
      rintro _ ⟨⟩
      rw [hsent]
      exact .logFailed hlog hasked houtcome
    | ok outcome =>
      cases outcome with
      | closed => exact ⟨by simpa [hread] using hquiet, hmemo, by simp⟩
      | failed cause =>
        refine ⟨by rwa [hsent], hmemo, ?_⟩
        rintro _ ⟨⟩
        rw [hsent]
        exact .closeFailed hlog hasked houtcome
      | unrecorded =>
        refine ⟨by rwa [hsent], hmemo, ?_⟩
        rintro _ ⟨⟩
        rw [hsent]
        exact .unrecorded hlog hasked houtcome

/-- A close that is waited for and confirmed asks for nothing more, changes nothing that is
remembered of the server, and has a reason to fail. -/
theorem yields_conclusion (client : Client) (stage : Stage) (world : World σ) :
    Yields environment (do
        client.waitForTransition stage
        client.confirmClosed stage) world
      fun result trace after => IsQuiet (exchangesOf trace) ∧ after.memo = world.memo ∧
        ∀ failure, result = some (.error failure) →
          Unconfirmed client stage (exchangesOf trace) failure := by
  rw [yields_bind, waitForTransition, yields_bind, yields_liftM]
  cases hendpoint : repositoryEndpoint client.base stage none with
  | error failure =>
    refine ⟨isQuiet_nil, rfl, ?_⟩
    rintro _ ⟨⟩
    exact .unaddressed hendpoint
  | ok endpoint =>
    have hpolls : (client.pollFrom stage endpoint client.horizon 0).Yields environment world _ :=
      client.yields_pollFrom stage endpoint client.horizon 0 world
    have hreasons : (client.pollFrom stage endpoint client.horizon 0).Yields environment world _ :=
      client.yields_pollFrom_unconfirmed hendpoint client.horizon 0 [] (Nat.le_refl 0) world
    apply (hpolls.and hreasons).mono
    rintro (_ | failure | ⟨⟨⟩⟩) trace after ⟨⟨harePolls, -⟩, hmemo, hreason⟩
    · exact ⟨isQuiet_of_get harePolls.asked, hmemo, by simp⟩
    · exact ⟨isQuiet_of_get harePolls.asked, hmemo, hreason⟩
    · apply (client.yields_confirmClosed_unconfirmed stage (exchangesOf trace) after).mono
      rintro result later last ⟨hlater, hkept, hunconfirmed⟩
      rw [List.nil_append, exchangesOf_append, isQuiet_append]
      exact ⟨⟨isQuiet_of_get harePolls.asked, hlater⟩, hkept.trans hmemo, hunconfirmed⟩

/-- Whether the server works in the background is remembered when it is known, and is asked for
without asking for a transition. -/
theorem yields_isAsync_memo (client : Client) (world : World σ) :
    client.isAsync.Yields environment world fun result trace after =>
      IsQuiet (exchangesOf trace) ∧ (world.memo ≠ none → exchangesOf trace = []) ∧
      (∀ known, world.memo = some known → after.memo = some known) ∧
      (∀ failure : Option Failure, result = failure.map .error → world.memo = none) ∧
      ∀ inBackground, result = some (.ok inBackground) →
        ∃ known, after.memo = some known ∧ known.asyncActions = inBackground := by
  rw [isAsync]
  cases hmemo : world.memo with
  | some known =>
    rw [yields_capability_bind_of_known hmemo, yields_pure]
    refine ⟨isQuiet_nil, fun _ => rfl, fun other h => hmemo.trans h, ?_, ?_⟩
    · intro failure hresult
      cases failure <;> cases hresult
    · rintro _ ⟨⟩
      exact ⟨known, hmemo, rfl⟩
  | none =>
    simp only [yields_capability_bind hmemo]
    have hasked := world.request_exchange environment (.get (statusEndpoint client.base))
    generalize hanswer : world.exchange environment (.get (statusEndpoint client.base)) = answer
      at hasked ⊢
    have hquiet : IsQuiet [answer] := by simp [hasked, Request.get]
    cases hcapability : answer.capability with
    | error failure => simp [hanswer, hquiet]
    | ok known => simp [hanswer, hquiet]

/-- A try to close a stage goes in one of the ways, and what is remembered of the server is kept. -/
theorem yields_closeStage (client : Client) (stage : Stage) (description : String)
    (world : World σ) :
    (client.closeStage stage description).Yields environment world fun result trace after =>
      CloseTry client stage world after (exchangesOf trace) result ∧
        ∀ known, world.memo = some known → after.memo = some known := by
  rw [closeStage]
  refine (client.yields_isAsync_memo world).bind ?_ ?_
  · rintro failure trace after ⟨hquiet, -, hkept, hunknown, -⟩
    exact ⟨.unasked hquiet (.inl (hunknown failure rfl)) (by cases failure <;> simp), hkept⟩
  rintro inBackground detected after ⟨hquiet, hknown, hkept, -, hmemo⟩
  obtain ⟨capability, hafter, rfl⟩ := hmemo inBackground rfl
  rw [yields_bind, yields_note]
  refine (client.yields_request_asks .close stage (some description) after).bind ?_ ?_
  · rintro failure sent last ⟨hstill, ⟨_, hendpoint, -, hnone⟩ | ⟨asked, hone, hasks, hresult⟩⟩
    · refine ⟨.unasked (by simpa [hnone] using hquiet) (.inr ⟨_, hendpoint⟩)
        (by cases failure <;> simp), fun known h => hstill.trans (hkept known h)⟩
    · rcases hresult with ⟨hok, -⟩ | ⟨⟨cause, hcause⟩, hstatus⟩
      · cases failure <;> cases hok
      · rw [hcause]
        refine ⟨?_, fun known h => hstill.trans (hkept known h)⟩
        simpa [hone] using CloseTry.refused hquiet hknown hasks hstatus
  · rintro done sent last ⟨hstill, ⟨_, -, hfailed, -⟩ | ⟨asked, hone, hasks, hresult⟩⟩
    · cases hfailed
    rcases hresult with ⟨-, hstatus⟩ | ⟨⟨cause, hcause⟩, -⟩
    · by_cases hasync : capability.asyncActions = true
      · rw [if_pos hasync]
        apply (client.yields_conclusion stage last).mono
        rintro result trace after' ⟨htail, hmemo', hreason⟩
        have hafter' : after'.memo = some capability := (hmemo'.trans hstill).trans hafter
        refine ⟨?_, fun known h => (hmemo'.trans hstill).trans (hkept known h)⟩
        simpa [hone] using CloseTry.awaited hquiet hknown hasks hstatus htail
          ⟨capability, hafter', hasync⟩ hreason
      · rw [if_neg hasync]
        refine yields_pure.mpr ⟨?_, fun known h => hstill.trans (hkept known h)⟩
        simpa [hone] using CloseTry.accepted hquiet hknown hasks hstatus
    · cases hcause

end Client

end ReleaseStaging
