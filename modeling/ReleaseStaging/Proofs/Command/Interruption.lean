import ReleaseStaging.Proofs.Command.Closing

/-!
# Drops after a cancellation

Whether a stage is dropped depends on the failure of the last try alone, and a cancellation shows in
that failure only if the client noticed it. So a stage is dropped after a cancellation exactly if
the last try failed in another way although the token was cancelled.
Main statement: `drops_cancelled_iff`.
-/

namespace ReleaseStaging

/-- Whether an event is a request for a drop. -/
def Event.asksForDrop : Event → Bool
  | .sent request _ => request.asksFor .drop
  | _ => false

/-- Whether a drop is asked for after a cancellation; before the events there was one if
`cancelled`. -/
def dropsCancelled (cancelled : Bool) : List Event → Bool
  | [] => false
  | event :: events =>
    cancelled && event.asksForDrop || dropsCancelled (cancelled || event.isCancellation) events

/-- What comes later is after the cancellations of what came before. -/
theorem dropsCancelled_append (cancelled : Bool) (events later : List Event) :
    dropsCancelled cancelled (events ++ later) =
      (dropsCancelled cancelled events ||
        dropsCancelled (cancelled || events.any Event.isCancellation) later) := by
  induction events generalizing cancelled with
  | nil => simp [dropsCancelled]
  | cons event events ih => simp [dropsCancelled, ih, Bool.or_assoc]

/-- Without a request for a drop none comes after a cancellation. -/
theorem dropsCancelled_eq_false {events : List Event}
    (h : ∀ exchange ∈ exchangesOf events, exchange.request.asksFor .drop = false)
    (cancelled : Bool) : dropsCancelled cancelled events = false := by
  induction events generalizing cancelled with
  | nil => rfl
  | cons event events ih =>
    rw [dropsCancelled]
    cases event with
    | sent request reply =>
      rw [exchangesOf_sent] at h
      have hfirst := h _ List.mem_cons_self
      have hrest := ih (fun exchange hmem => h exchange (List.mem_cons_of_mem _ hmem))
      simp [Event.asksForDrop, hfirst, hrest]
    | cancelled | paused | noted | printed => simp [Event.asksForDrop, ih h]

namespace CloseJob

variable {σ : Type} {environment : Environment σ} {job : CloseJob} {world : World σ} {k : Nat}

/-- The token after a try tells whether someone cancelled before or during it. -/
theorem isCancelled_nth (k : Nat) :
    (job.nth environment world k).world.isCancelled =
      ((job.start environment world k).isCancelled ||
        (job.nth environment world k).trace.any Event.isCancellation) :=
  Program.isCancelled_run environment
    (ExceptT.run (job.client.closeStage job.stage job.description)) _

/-- Between two tries nobody cancels. -/
theorem any_isCancellation_between (k : Nat) :
    (job.between environment world k).any Event.isCancellation = false := by
  rw [between]
  split <;> rfl

/-- The token before a try tells whether someone cancelled before it. -/
theorem isCancelled_start (h : ∀ i < k, job.IsRetried environment world i) :
    (job.start environment world k).isCancelled =
      (world.isCancelled || (job.before environment world k).any Event.isCancellation) := by
  induction k with
  | zero => simp [start, before]
  | succ k ih =>
    -- A wait that another try follows was not cancelled, so it adds nothing to the token.
    obtain ⟨failure, -, -, -, hwait⟩ := h k (Nat.lt_succ_self k)
    have hpause : (job.start environment world (k + 1)).isCancelled =
        ((job.nth environment world k).world.isCancelled ||
          (job.waitIn environment (job.nth environment world k).world).2.1.any
            Event.isCancellation) := by
      rw [start_succ]
      exact Effect.isCancelled_handle environment _ _
    have hquiet : [Event.paused job.retry.delayMillis].any Event.isCancellation = false := rfl
    rw [hpause, events_waitIn hwait, hquiet, Bool.or_false, isCancelled_nth,
      ih fun i hi => h i (by omega), before_succ, List.any_append, List.any_append,
      any_isCancellation_between, Bool.or_false, Bool.or_assoc]

/-- What follows a try starts with the token that tells of all cancellations so far. -/
theorem dropsCancelled_after_nth {cancelled : Bool} {earlier : List Event}
    (hquiet : IsQuiet (exchangesOf earlier))
    (hworld : world.isCancelled = (cancelled || earlier.any Event.isCancellation))
    (h : ∀ i < k, job.IsRetried environment world i) (ending : List Event) :
    dropsCancelled cancelled (earlier ++ job.before environment world k ++
        (job.nth environment world k).trace ++ ending) =
      dropsCancelled (job.nth environment world k).world.isCancelled ending := by
  have hnone := dropsCancelled_eq_false
    (asksFor_drop_started hquiet k : ∀ exchange ∈ exchangesOf (earlier ++
      job.before environment world k ++ (job.nth environment world k).trace), _) cancelled
  have htoken : (job.nth environment world k).world.isCancelled = (cancelled ||
      (earlier ++ job.before environment world k ++
        (job.nth environment world k).trace).any Event.isCancellation) := by
    rw [isCancelled_nth, isCancelled_start h, hworld]
    simp only [List.any_append, Bool.or_assoc]
  rw [dropsCancelled_append, hnone, htoken, Bool.false_or]

end CloseJob

/-- A drop of a stage asks for the drop, if its endpoint is an address. -/
theorem dropsCancelled_dropStage {σ : Type} (environment : Environment σ) (client : Client)
    (stage : Stage) (world : World σ) (cancelled : Bool) :
    dropsCancelled cancelled ((client.dropStage stage).runIn environment world).trace = true ↔
      cancelled = true ∧ ∃ url, Action.drop.endpoint client.base stage = .ok url := by
  have hdrop : (client.dropStage stage).Yields environment world fun _ trace _ =>
      (dropsCancelled cancelled trace = true ↔
        cancelled = true ∧ ∃ url, Action.drop.endpoint client.base stage = .ok url) := by
    rw [Client.dropStage, Operation.yields_bind, Operation.yields_note]
    dsimp only
    rw [Client.yields_request]
    cases hendpoint : Action.drop.endpoint client.base stage with
    | error failure => simp [dropsCancelled, Event.asksForDrop]
    | ok url =>
      have hasks : (Request.post url (promoteRequest stage.stageId none)).asksFor .drop = true :=
        Request.asksFor_of_asks (Request.asks_iff.mpr ⟨rfl, hendpoint⟩)
      have hrest (cancelled : Bool) (reason : Option String) :
          dropsCancelled cancelled (world.cancelEvents reason) = false :=
        dropsCancelled_eq_false (by simp) cancelled
      simp [dropsCancelled, World.sendingEvents, Event.asksForDrop, Event.isCancellation, hasks,
        hrest]
  exact hdrop

namespace CloseJob

variable {σ : Type} {environment : Environment σ} {job : CloseJob} {line : String} {k : Nat}
  {last : Run σ (Except Failure Unit)} {ending : List Event}
  {result : Option (Except CommandFailure Unit)} {world after : World σ}

/-- After the last try a drop is asked for exactly if that is wanted and possible and the try failed
in another way than by an interruption. -/
theorem Ends.dropsCancelled_iff (h : Ends environment job line k last ending result)
    (cancelled : Bool) :
    dropsCancelled cancelled ending = true ↔
      cancelled = true ∧ job.retry.dropOnFailure = true ∧
        (∃ url, Action.drop.endpoint job.client.base job.stage = .ok url) ∧
        ∃ failure, last.result = some (.error failure) ∧ failure.origin ≠ .interrupted := by
  cases h with
  | endless hlast => simp [dropsCancelled, hlast]
  | closed hlast => simp [dropsCancelled, Event.asksForDrop, hlast]
  | kept hlast hkept =>
    have hnone : dropsCancelled cancelled
        (if job.retry.dropOnFailure then [.noted (.keepingInterrupted job.stage)] else []) =
          false := by
      split <;> simp [dropsCancelled, Event.asksForDrop]
    rw [hnone]
    simp only [Bool.false_eq_true, false_iff]
    rintro ⟨-, hwanted, -, failure, hfailure, horigin⟩
    rw [hlast] at hfailure
    cases hfailure
    exact hkept ⟨hwanted, horigin⟩
  | dropped hlast hwanted horigin | dropFailed hlast hwanted horigin =>
    simp only [dropsCancelled, Event.asksForDrop, Event.isCancellation, Bool.and_false,
      Bool.false_or, Bool.or_false, dropsCancelled_dropStage, hlast, hwanted, true_and]
    simp [horigin]

/-- No drop is asked for after a wait that was cancelled. -/
theorem EndsWaiting.dropsCancelled_eq_false
    (h : EndsWaiting environment job k last ending result after) (cancelled : Bool) :
    dropsCancelled cancelled ending = false := by
  cases h
  apply ReleaseStaging.dropsCancelled_eq_false
  simp [exchangesOf_waitIn]

/-- A drop after a cancellation tells that the last try failed in another way although the token was
cancelled. -/
theorem exists_of_dropsCancelled
    (hends : Ends environment job line k (job.nth environment world k) ending result ∧
        (∀ failure, (job.nth environment world k).result = some (.error failure) →
          failure.isRetryable = true → k + 1 = job.retry.tries.toNat) ∨
      EndsWaiting environment job k (job.nth environment world k) ending result after)
    (hdrops : dropsCancelled (job.nth environment world k).world.isCancelled ending = true) :
    job.retry.dropOnFailure = true ∧
      (∃ url, Action.drop.endpoint job.client.base job.stage = .ok url) ∧
      ∃ failure, (job.nth environment world k).result = some (.error failure) ∧
        failure.origin ≠ .interrupted ∧
        (failure.origin = .transport → k + 1 = job.retry.tries.toNat) ∧
        (job.nth environment world k).world.isCancelled = true := by
  rcases hends with ⟨hends, hlast⟩ | hends
  · obtain ⟨hcancelled, hwanted, hurl, failure, hresult, horigin⟩ :=
      (hends.dropsCancelled_iff _).mp hdrops
    refine ⟨hwanted, hurl, failure, hresult, horigin, ?_, hcancelled⟩
    intro htransport
    exact hlast failure hresult (Failure.isRetryable_iff.mpr htransport)
  · rw [hends.dropsCancelled_eq_false] at hdrops
    cases hdrops

/-- If the last try failed in another way although the token was cancelled, then the drop comes
after a cancellation. -/
theorem dropsCancelled_of_failure {failure : Failure}
    (hends : Ends environment job line k (job.nth environment world k) ending result ∨
      EndsWaiting environment job k (job.nth environment world k) ending result after)
    (hwanted : job.retry.dropOnFailure = true)
    (hurl : ∃ url, Action.drop.endpoint job.client.base job.stage = .ok url)
    (hresult : (job.nth environment world k).result = some (.error failure))
    (horigin : failure.origin ≠ .interrupted)
    (hlimit : failure.origin = .transport → k + 1 = job.retry.tries.toNat)
    (hcancelled : (job.nth environment world k).world.isCancelled = true) :
    dropsCancelled (job.nth environment world k).world.isCancelled ending = true := by
  rcases hends with hends | hends
  · rw [hends.dropsCancelled_iff]
    exact ⟨hcancelled, hwanted, hurl, failure, hresult, horigin⟩
  · cases hends with
    | cancelled hother hretryable hleft =>
      rw [hresult] at hother
      cases hother
      have hlast := hlimit (Failure.isRetryable_iff.mp hretryable)
      omega

/-- A failure that another try cannot help against, or after which none is left, is not followed by
another try. -/
theorem not_isRetried_of_limit {failure : Failure}
    (hresult : (job.nth environment world k).result = some (.error failure))
    (hlimit : failure.origin = .transport → k + 1 = job.retry.tries.toNat) :
    ¬ job.IsRetried environment world k := by
  rintro ⟨other, hother, hretryable, hleft, -⟩
  rw [hresult] at hother
  cases hother
  have hlast := hlimit (Failure.isRetryable_iff.mp hretryable)
  omega

end CloseJob

open CloseJob in
/-- In every run a drop is asked for after a cancellation exactly if a drop is wanted and can be
asked for, and the last try failed in another way than by an interruption, with no tries left if it
failed in the transport, although someone had cancelled when it ended. -/
theorem drops_cancelled_iff {σ : Type} (environment : Environment σ) (client : Client)
    (asJson : Bool) (target : StageTarget) (description : String) (retry : CloseRetry)
    (world : World σ) :
    let resolution := (target.resolve client).runIn environment world
    (Command.close client asJson target description retry).Yields environment world
      fun _ trace _ => dropsCancelled world.isCancelled trace = true ↔
        ∃ stage, resolution.result = some (.ok stage) ∧ retry.dropOnFailure = true ∧
          (∃ url, Action.drop.endpoint client.base stage = .ok url) ∧
          let job : CloseJob := ⟨client, stage, description, retry⟩
          ∃ k failure, (∀ i < k, job.IsRetried environment resolution.world i) ∧
            (job.nth environment resolution.world k).result = some (.error failure) ∧
            failure.origin ≠ .interrupted ∧
            (failure.origin = .transport → k + 1 = max 1 retry.attempts.toNat) ∧
            (job.nth environment resolution.world k).world.isCancelled = true := by
  intro resolution
  have hquiet : IsQuiet (exchangesOf resolution.trace) :=
    (target.yields_resolve client world : (target.resolve client).Yields environment world _)
  have htoken : resolution.world.isCancelled =
      (world.isCancelled || resolution.trace.any Event.isCancellation) :=
    Program.isCancelled_run environment (ExceptT.run (target.resolve client)) world
  have hresolution : (target.resolve client).runIn environment world = resolution := rfl
  clear_value resolution
  by_cases hfound : ∃ stage, resolution.result = some (.ok stage)
  · obtain ⟨stage, hstage⟩ := hfound
    obtain ⟨k, hk, hleast, hyields⟩ :=
      Command.yields_close_ends asJson description retry hresolution hstage rfl
    apply hyields.mono
    rintro result trace after ⟨ending, htrace, hends⟩
    have hbefore := isRetried_of_lt hleast
    rw [htrace, dropsCancelled_after_nth hquiet htoken hbefore, ← retry.toNat_tries]
    constructor
    · intro hdrops
      obtain ⟨hwanted, hurl, failure, hfailed⟩ := exists_of_dropsCancelled hends hdrops
      exact ⟨stage, hstage, hwanted, hurl, k, failure, hbefore, hfailed⟩
    · rintro ⟨other, hother, hwanted, hurl, j, failure, hretried, hresult, horigin, hlimit,
        hcancelled⟩
      obtain rfl : stage = other := by simpa [hstage] using hother
      -- Only one try is the last one, so it is the one the run ended with.
      obtain rfl : j = k :=
        eq_of_isLeast hleast hretried (not_isRetried_of_limit hresult hlimit)
      exact dropsCancelled_of_failure (hends.imp_left And.left) hwanted hurl hresult horigin hlimit
        hcancelled
  · have hstage := not_exists.mp hfound
    apply (Command.yields_close_unresolved asJson description retry hresolution hstage).mono
    rintro result trace after rfl
    rw [dropsCancelled_eq_false hquiet.asksFor_eq_false]
    simp only [Bool.false_eq_true, false_iff]
    rintro ⟨stage, h, -⟩
    exact hstage stage h

/-- A server that does not work in the background and fails to close a stage; someone cancels while
it is asked to. -/
def cancelledRehearsal : Rehearsal where
  script := ((Script.empty.respond ⟨.get, "http://nexus.test/service/local/status"⟩
      ⟨200, "<status><data><version>2.3.1</version></data></status>"⟩).respond
    ⟨.post, "http://nexus.test/service/local/staging/profiles/p/finish"⟩ ⟨500, ""⟩).respond
    ⟨.post, "http://nexus.test/service/local/staging/profiles/p/drop"⟩ ⟨201, ""⟩
  cancelling := [(2, "interrupted by Ctrl-C")]

/-- One try to close the stage, with a drop if it fails. -/
def cancelledJob : CloseJob := ⟨sampleClient, ⟨"p", "s"⟩, "d", ⟨1, 1, true⟩⟩

/-- A stage is dropped after someone cancelled during the only try to close it. -/
theorem drops_after_cancelled_try :
    (Command.close sampleClient false sampleTarget "d" ⟨1, 1, true⟩).Yields Rehearsal.environment
      (World.fresh cancelledRehearsal) fun _ trace _ => dropsCancelled false trace = true := by
  have hresolution : (sampleTarget.resolve cancelledJob.client).runIn Rehearsal.environment
      (World.fresh cancelledRehearsal) =
        ⟨some (.ok ⟨"p", "s"⟩), [], World.fresh cancelledRehearsal⟩ := rfl
  have hresult :
      (cancelledJob.nth Rehearsal.environment (World.fresh cancelledRehearsal) 0).result =
        some (.error (.actionRejected .close ⟨"p", "s"⟩ 500)) := by decide +kernel
  apply (Command.yields_close_dropped hresolution rfl (by decide : 0 + 1 = _) (by simp) hresult rfl
    (by decide)).mono
  rintro _ trace _ rfl
  decide +kernel

end ReleaseStaging
