import ReleaseStaging.Proofs.Client.Confirmation
import ReleaseStaging.Proofs.Command.Tries
import ReleaseStaging.Proofs.Run.Cancellations
import ReleaseStaging.Simulation.Rehearsal

/-!
# How often a close is tried, and how it ends

The tries of a close that nobody cancels end with the first one that succeeds, fails in another way
than in the transport, or is the last one allowed, and that try alone decides how the command ends.
Main statement: `close_ends_with_last_try`.
-/

namespace ReleaseStaging

namespace CloseJob

variable {σ : Type} {environment : Environment σ} {job : CloseJob} {world : World σ}

/-! ## What the tries ask for -/

/-- Each try goes in one of the ways. -/
theorem closeTry_nth (i : Nat) :
    CloseTry job.client job.stage (job.start environment world i)
      (job.nth environment world i).world (exchangesOf (job.nth environment world i).trace)
      (job.nth environment world i).result :=
  (job.client.yields_closeStage job.stage job.description (job.start environment world i)).1

@[simp] theorem exchangesOf_between (i : Nat) :
    exchangesOf (job.between environment world i) = [] := by
  rw [between]
  split <;> rfl

/-- The exchanges before a try are those of the tries before it. -/
theorem exchangesOf_before_succ (k : Nat) :
    exchangesOf (job.before environment world (k + 1)) =
      exchangesOf (job.before environment world k) ++
        exchangesOf (job.nth environment world k).trace := by
  simp [before_succ]

/-- Tries ask for no drop. -/
theorem asksFor_drop_before (k : Nat) :
    ∀ exchange ∈ exchangesOf (job.before environment world k),
      exchange.request.asksFor .drop = false := by
  induction k with
  | zero => simp [before]
  | succ k ih =>
    intro exchange hmem
    rw [exchangesOf_before_succ, List.mem_append] at hmem
    rcases hmem with hmem | hmem
    · exact ih exchange hmem
    · exact (closeTry_nth k).asksFor_drop exchange hmem

/-- Up to the end of a try no drop is asked for, if none was before the tries. -/
theorem asksFor_drop_started {earlier : List Event} (hquiet : IsQuiet (exchangesOf earlier))
    (k : Nat) :
    ∀ exchange ∈ exchangesOf (earlier ++ job.before environment world k ++
      (job.nth environment world k).trace), exchange.request.asksFor .drop = false := by
  intro exchange hmem
  simp only [exchangesOf_append, List.mem_append, or_assoc] at hmem
  rcases hmem with hmem | hmem | hmem
  · exact hquiet.asksFor_eq_false exchange hmem
  · exact asksFor_drop_before k exchange hmem
  · exact (closeTry_nth k).asksFor_drop exchange hmem

/-- So many tries ask at most so many times for a close. -/
theorem countP_close_before_le (k : Nat) :
    ((exchangesOf (job.before environment world k)).countP
      fun exchange => exchange.request.asksFor .close) ≤ k := by
  induction k with
  | zero => simp [before]
  | succ k ih =>
    have hlast := (closeTry_nth k : CloseTry job.client job.stage
      (job.start environment world k) _ _ _).countP_close_le
    rw [exchangesOf_before_succ, List.countP_append]
    omega

/-! ## How a close ends -/

/-- How a close ends after its last try, whose number is `k` counted from zero: what else happens,
and the result of the command. -/
inductive Ends (environment : Environment σ) (job : CloseJob) (line : String) (k : Nat)
    (last : Run σ (Except Failure Unit)) :
    List Event → Option (Except CommandFailure Unit) → Prop
  /-- The try does not end. -/
  | endless (hlast : last.result = none) : Ends environment job line k last [] none
  /-- The try succeeded. -/
  | closed (hlast : last.result = some (.ok ())) :
      Ends environment job line k last
        [.noted (.closeComplete job.stage (k + 1)), .printed line] (some (.ok ()))
  /-- The try failed, and the stage is kept, because no drop is wanted or the try was
  interrupted. -/
  | kept {failure : Failure} (hlast : last.result = some (.error failure))
      (hkept : ¬ (job.retry.dropOnFailure = true ∧ failure.origin ≠ .interrupted)) :
      Ends environment job line k last
        (if job.retry.dropOnFailure then [.noted (.keepingInterrupted job.stage)] else [])
        (some (.error (job.closingFailure failure)))
  /-- The try failed, and the stage is dropped. -/
  | dropped {failure : Failure} (hlast : last.result = some (.error failure))
      (hwanted : job.retry.dropOnFailure = true) (horigin : failure.origin ≠ .interrupted)
      (hdrop : ((job.client.dropStage job.stage).runIn environment last.world).result =
        some (.ok ())) :
      Ends environment job line k last
        (.noted (.droppingFailed job.stage failure) ::
          ((job.client.dropStage job.stage).runIn environment last.world).trace)
        (some (.error (job.closingFailure failure)))
  /-- The try failed, and the drop fails too. -/
  | dropFailed {failure cause : Failure} (hlast : last.result = some (.error failure))
      (hwanted : job.retry.dropOnFailure = true) (horigin : failure.origin ≠ .interrupted)
      (hdrop : ((job.client.dropStage job.stage).runIn environment last.world).result =
        some (.error cause)) :
      Ends environment job line k last
        (.noted (.droppingFailed job.stage failure) ::
          ((job.client.dropStage job.stage).runIn environment last.world).trace)
        (some (.error (job.droppingFailure cause)))

/-- How a close ends when the wait after a try is cancelled: what else happens, the result of the
command and the world after it. -/
inductive EndsWaiting (environment : Environment σ) (job : CloseJob) (k : Nat)
    (last : Run σ (Except Failure Unit)) :
    List Event → Option (Except CommandFailure Unit) → World σ → Prop
  /-- Another try would have followed. -/
  | cancelled {failure : Failure} {reason : String} (hlast : last.result = some (.error failure))
      (hretryable : failure.isRetryable = true) (hleft : k + 1 < job.retry.tries.toNat)
      (hwait : (job.waitIn environment last.world).1 = some reason) :
      EndsWaiting environment job k last
        (.noted (.retryingClose job.stage (k + 1) job.retry.tries.toNat failure) ::
          (job.waitIn environment last.world).2.1)
        (some (.error (.ofText s!"interrupted while retrying close of {job.stage.display}")))
        (job.waitIn environment last.world).2.2

/-- A wait that tells of a cancellation leaves the token cancelled. -/
theorem isCancelled_waitIn {reason : String}
    (h : (job.waitIn environment world).1 = some reason) :
    (job.waitIn environment world).2.2.isCancelled = true := by
  cases hreason : world.token.reason with
  | some earlier =>
    simp [waitIn, Effect.handle, hreason, World.isCancelled, CancellationToken.isCancelled]
  | none =>
    have hpass : (environment.pass world.state job.retry.delayMillis).1 = some reason := by
      simpa [waitIn, Effect.handle, hreason] using h
    simp [waitIn, Effect.handle, hreason, hpass, World.isCancelled, World.cancel]

/-- After a wait that was cancelled the token is cancelled. -/
theorem EndsWaiting.isCancelled {k : Nat} {last : Run σ (Except Failure Unit)} {ending : List Event}
    {result : Option (Except CommandFailure Unit)} {after : World σ}
    (h : EndsWaiting environment job k last ending result after) : after.isCancelled = true := by
  cases h with
  | cancelled _ _ _ hwait => exact isCancelled_waitIn hwait

/-- Giving up after the last try is one of the ways to end. -/
theorem yields_abandonClose_ends {line : String} {k : Nat} {last : Run σ (Except Failure Unit)}
    {failure : Failure} (hlast : last.result = some (.error failure)) :
    (Command.abandonClose job.client job.stage job.retry failure : Command UInt32).Yields
      environment last.world fun result later _ =>
        ∃ cause, result = some (.error cause) ∧
          Ends environment job line k last later (some (.error cause)) := by
  rw [yields_abandonClose]
  by_cases hwanted : job.retry.dropOnFailure = true ∧ failure.origin ≠ .interrupted
  · rw [if_pos hwanted, Operation.Yields]
    have hdropping : (job.client.dropStage job.stage).Yields environment last.world _ :=
      job.client.yields_dropStage_asks job.stage last.world
    have hends : ((job.client.dropStage job.stage).runIn environment last.world).result ≠ none :=
      hdropping.1
    cases hdrop : ((job.client.dropStage job.stage).runIn environment last.world).result with
    | none => exact absurd hdrop hends
    | some result =>
      cases result with
      | error cause =>
        exact ⟨_, rfl, .dropFailed hlast hwanted.1 hwanted.2 hdrop⟩
      | ok done =>
        exact ⟨_, rfl, .dropped hlast hwanted.1 hwanted.2 hdrop⟩
  · rw [if_neg hwanted]
    exact ⟨_, rfl, .kept hlast hwanted⟩

end CloseJob

open CloseJob in
/-- Every close of a stage that was found ends after the first try that is not followed by another
one. -/
theorem Command.yields_close_ends {σ : Type} {environment : Environment σ} {client : Client}
    (asJson : Bool) {target : StageTarget} (description : String) (retry : CloseRetry)
    {world : World σ} {resolution : Run σ (Except CommandFailure Stage)} {stage : Stage}
    (hresolution : (target.resolve client).runIn environment world = resolution)
    (hstage : resolution.result = some (.ok stage)) {job : CloseJob}
    (hjob : job = ⟨client, stage, description, retry⟩) :
    ∃ k < job.retry.tries.toNat,
      IsLeast {i | ¬ job.IsRetried environment resolution.world i} k ∧
      (close client asJson target description retry).Yields environment world
        fun result trace after => ∃ ending,
          trace = resolution.trace ++ job.before environment resolution.world k ++
            (job.nth environment resolution.world k).trace ++ ending ∧
          (Ends environment job (closedLine asJson stage) k
              (job.nth environment resolution.world k) ending result ∧
            (∀ failure, (job.nth environment resolution.world k).result = some (.error failure) →
              failure.isRetryable = true → k + 1 = job.retry.tries.toNat) ∨
          EndsWaiting environment job k (job.nth environment resolution.world k) ending result
            after) := by
  obtain ⟨k, hk, hleast⟩ := exists_isLeast environment job resolution.world
  refine ⟨k, hk, hleast, ?_⟩
  have hcounter : (UInt32.ofNat (k + 1)).toNat = k + 1 := toNat_counter hk
  have hjobStage : job.stage = stage := by rw [hjob]
  rw [yields_close, hresolution]
  simp only [hstage]
  rw [← hjob, yields_tries hk hleast]
  generalize hnth : job.nth environment resolution.world k = last
  dsimp only
  cases hlast : last.result with
  | none => exact ⟨[], by simp, .inl ⟨.endless hlast, by simp⟩⟩
  | some result =>
    cases result with
    | ok done =>
      simp only [hcounter, ← hjobStage]
      exact ⟨_, by simp only [List.append_assoc], .inl ⟨.closed hlast, by simp⟩⟩
    | error failure =>
      by_cases hleft : k + 1 < job.retry.tries.toNat ∧ failure.isRetryable = true
      · have hwait : (job.waitIn environment last.world).1 ≠ none := fun hwait =>
          hleast.1 ⟨failure, hnth ▸ hlast, hleft.2, hleft.1, hnth ▸ hwait⟩
        obtain ⟨reason, hreason⟩ := Option.ne_none_iff_exists'.mp hwait
        simp only [if_pos hleft]
        exact ⟨_, by simp only [List.append_assoc],
          .inr (.cancelled hlast hleft.2 hleft.1 hreason)⟩
      · simp only [if_neg hleft]
        apply (yields_abandonClose_ends hlast).mono
        rintro result later after ⟨cause, rfl, hends⟩
        refine ⟨later, by simp only [List.append_assoc], .inl ⟨hends, ?_⟩⟩
        rintro _ ⟨⟩ hretryable
        by_contra hne
        exact hleft ⟨by omega, hretryable⟩

namespace CloseJob

variable {σ : Type} {environment : Environment σ} {job : CloseJob} {line : String} {k : Nat}
  {last : Run σ (Except Failure Unit)} {ending : List Event}
  {result : Option (Except CommandFailure Unit)} {after : World σ}

/-- A drop asks for no close. -/
theorem countP_close_drop (world : World σ) :
    ((exchangesOf ((job.client.dropStage job.stage).runIn environment world).trace).countP
      fun exchange => exchange.request.asksFor .close) = 0 := by
  have hdropping : (job.client.dropStage job.stage).Yields environment world _ :=
    job.client.yields_dropStage_asks job.stage world
  obtain ⟨-, -, hnone | ⟨exchange, hone, hasks⟩⟩ := hdropping
  · rw [hnone]
    rfl
  · have hclose : exchange.request.asksFor .close ≠ true := by
      intro hclose
      have heq := Request.eq_of_asksFor hclose (Request.asksFor_of_asks hasks)
      cases heq
    rw [hone]
    simp [hclose]

/-- After the last try nothing asks for a close. -/
theorem countP_close_ending
    (h : Ends environment job line k last ending result ∨
      EndsWaiting environment job k last ending result after) :
    ((exchangesOf ending).countP fun exchange => exchange.request.asksFor .close) = 0 := by
  rcases h with h | h
  · cases h with
    | endless | closed => rfl
    | kept =>
      by_cases hwanted : job.retry.dropOnFailure = true <;> simp [hwanted]
    | dropped | dropFailed =>
      rw [exchangesOf_noted]
      exact countP_close_drop _
  · cases h
    rw [exchangesOf_noted, exchangesOf_waitIn]
    rfl

/-- If the last try did not fail in the transport with tries left, then it is the first one that did
not fail in the transport or is the last one allowed. -/
theorem isLeast_of_isLeast {world : World σ}
    (hleast : IsLeast {i | ¬ job.IsRetried environment world i} k)
    (hlast : ∀ failure, (job.nth environment world k).result = some (.error failure) →
      failure.isRetryable = true → k + 1 = job.retry.tries.toNat) :
    IsLeast {i | (∀ failure, (job.nth environment world i).result = some (.error failure) →
      failure.origin ≠ .transport) ∨ i + 1 = job.retry.tries.toNat} k := by
  constructor
  · by_cases htransport : ∃ failure, (job.nth environment world k).result =
        some (.error failure) ∧ failure.origin = .transport
    · obtain ⟨failure, hresult, horigin⟩ := htransport
      exact .inr (hlast failure hresult (Failure.isRetryable_iff.mpr horigin))
    · left
      intro failure hresult horigin
      exact htransport ⟨failure, hresult, horigin⟩
  · intro i hi
    by_contra hlt
    obtain ⟨failure, hresult, hretryable, hleft, -⟩ :=
      isRetried_of_lt hleast i (Nat.lt_of_not_le hlt)
    rcases hi with hother | hend
    · exact hother failure hresult (Failure.isRetryable_iff.mp hretryable)
    · omega

end CloseJob

/-- A close is tried until the first try, counted from zero, that did not fail in the transport or
is the last one allowed; there is one pause between two tries. No drop is asked for before that try
ended, and the command ends as that try tells. The tries start in `world` after what happened
`earlier`. -/
def CloseJob.EndsWithLastTry {σ : Type} (environment : Environment σ) (job : CloseJob)
    (line : String) (earlier : List Event) (world : World σ) (trace : List Event)
    (result : Option (Except CommandFailure Unit)) : Prop :=
  ∃ k, IsLeast {i | (∀ failure, (job.nth environment world i).result = some (.error failure) →
      failure.origin ≠ .transport) ∨ i + 1 = max 1 job.retry.attempts.toNat} k ∧
    ∃ started ending, trace = started ++ ending ∧
      started = earlier ++ job.before environment world k ++ (job.nth environment world k).trace ∧
      (∀ exchange ∈ exchangesOf started, exchange.request.asksFor .drop = false) ∧
      Ends environment job line k (job.nth environment world k) ending result

open CloseJob in
/-- A close that nobody cancels, of a stage that was found, ends with the first try that did not
fail in the transport or is the last one allowed. In every run, also in one that is cancelled, a
close is asked for at most as often as tries are allowed. -/
theorem close_ends_with_last_try {σ : Type} (environment : Environment σ) (client : Client)
    (asJson : Bool) (target : StageTarget) (description : String) (retry : CloseRetry)
    (world : World σ) :
    let resolution := (target.resolve client).runIn environment world
    (Command.close client asJson target description retry).Yields environment world
      fun result trace after =>
        (∀ stage, resolution.result = some (.ok stage) → after.isCancelled = false →
          EndsWithLastTry environment ⟨client, stage, description, retry⟩ (closedLine asJson stage)
            resolution.trace resolution.world trace result) ∧
        ((exchangesOf trace).countP fun exchange => exchange.request.asksFor .close) ≤
          max 1 retry.attempts.toNat := by
  intro resolution
  have hquiet : IsQuiet (exchangesOf resolution.trace) :=
    (target.yields_resolve client world : (target.resolve client).Yields environment world _)
  have hresolution : (target.resolve client).runIn environment world = resolution := rfl
  clear_value resolution
  by_cases hfound : ∃ stage, resolution.result = some (.ok stage)
  · obtain ⟨stage, hstage⟩ := hfound
    obtain ⟨job, hjob⟩ : ∃ job : CloseJob, job = ⟨client, stage, description, retry⟩ := ⟨_, rfl⟩
    have htries : job.retry.tries.toNat = max 1 job.retry.attempts.toNat := job.retry.toNat_tries
    have hretry : job.retry = retry := by rw [hjob]
    obtain ⟨k, hk, hleast, hyields⟩ :=
      Command.yields_close_ends asJson description retry hresolution hstage hjob
    apply hyields.mono
    rintro result trace after ⟨ending, htrace, hends⟩
    constructor
    · intro other hother hcalm
      obtain rfl : stage = other := by simpa [hstage] using hother
      rw [← hjob]
      rcases hends with ⟨hends, hlast⟩ | hends
      · have hfirst := isLeast_of_isLeast hleast hlast
        rw [htries] at hfirst
        exact ⟨k, hfirst, _, ending, htrace, rfl, asksFor_drop_started hquiet k, hends⟩
      · have hcancelled := hends.isCancelled
        rw [hcalm] at hcancelled
        cases hcancelled
    · have hbefore : ((exchangesOf (job.before environment resolution.world k)).countP
          fun exchange => exchange.request.asksFor .close) ≤ k := countP_close_before_le k
      have hlast := (closeTry_nth k : CloseTry job.client job.stage
        (job.start environment resolution.world k) _ _ _).countP_close_le
      have hending := countP_close_ending (hends.imp_left And.left)
      rw [hretry] at hk htries
      rw [htrace]
      simp only [exchangesOf_append, List.countP_append, hquiet.countP_asksFor, hending]
      omega
  · have hstage := not_exists.mp hfound
    apply (Command.yields_close_unresolved asJson description retry hresolution hstage).mono
    rintro result trace after rfl
    refine ⟨fun stage h => absurd h (hstage stage), ?_⟩
    rw [hquiet.countP_asksFor]
    exact Nat.zero_le _

open CloseJob in
/-- A close whose last allowed try fails without an interruption is followed by the drop that is
wanted. -/
theorem Command.yields_close_dropped {σ : Type} {environment : Environment σ} {job : CloseJob}
    {asJson : Bool} {target : StageTarget} {world : World σ}
    {resolution : Run σ (Except CommandFailure Stage)} {k : Nat} {failure : Failure}
    (hresolution : (target.resolve job.client).runIn environment world = resolution)
    (hstage : resolution.result = some (.ok job.stage)) (hk : k + 1 = job.retry.tries.toNat)
    (hretried : ∀ i < k, job.IsRetried environment resolution.world i)
    (hresult : (job.nth environment resolution.world k).result = some (.error failure))
    (hwanted : job.retry.dropOnFailure = true) (horigin : failure.origin ≠ .interrupted) :
    (close job.client asJson target job.description job.retry).Yields environment world
      fun _ trace _ => trace = resolution.trace ++ (job.before environment resolution.world k ++
        ((job.nth environment resolution.world k).trace ++
          .noted (.droppingFailed job.stage failure) :: ((job.client.dropStage job.stage).runIn
            environment (job.nth environment resolution.world k).world).trace)) := by
  have hleft : ¬ k + 1 < job.retry.tries.toNat := by omega
  have hlast : ¬ job.IsRetried environment resolution.world k := by
    rintro ⟨-, -, -, hmore, -⟩
    exact hleft hmore
  rw [yields_close, hresolution]
  simp only [hstage]
  rw [yields_continued_of_forall hretried, yields_continued_of_not (by omega) hlast]
  simp only [hresult, hleft, false_and, if_false]
  rw [yields_abandonClose, if_pos ⟨hwanted, horigin⟩, Operation.Yields]
  generalize (job.client.dropStage job.stage).runIn environment
    (job.nth environment resolution.world k).world = dropping
  obtain ⟨_ | cause | ⟨⟨⟩⟩, trace, after⟩ := dropping <;> rfl

/-- A target that names a stage with its profile. -/
def sampleTarget : StageTarget := { stage := some "s", profile := some "p" }

/-- A close that never reaches the server ends with the second of two tries. -/
theorem close_ends_with_last_try_offline :
    let resolution := (sampleTarget.resolve sampleClient).runIn offline (World.fresh ())
    let closing := (Command.close sampleClient false sampleTarget "d" ⟨2, 1, true⟩).runIn offline
      (World.fresh ())
    resolution.result = some (.ok ⟨"p", "s"⟩) ∧ closing.world.isCancelled = false ∧
      CloseJob.EndsWithLastTry offline ⟨sampleClient, ⟨"p", "s"⟩, "d", ⟨2, 1, true⟩⟩
        (closedLine false ⟨"p", "s"⟩) resolution.trace resolution.world closing.trace
        closing.result := by
  intro resolution closing
  have hstage : resolution.result = some (.ok ⟨"p", "s"⟩) := rfl
  have hcalm : closing.world.isCancelled = false :=
    Program.isCancelled_run_of_isCalm ⟨fun _ _ => rfl, fun _ _ => rfl⟩ _ _
  exact ⟨hstage, hcalm, (close_ends_with_last_try offline sampleClient false sampleTarget "d"
    ⟨2, 1, true⟩ (World.fresh ())).1 _ hstage hcalm⟩

end ReleaseStaging
