import Mathlib.Logic.Function.Iterate
import Mathlib.Order.Nat
import ReleaseStaging.Proofs.Run.Commands

/-!
# Tries to close a stage

A close is tried again and again. Each try starts in the world that the try before it and the wait
after that one leave, so the tries are an iteration. One step lemma says how a try is followed by
another one; from it follows what all the tries of a run do, up to the first one that is not
followed by another.
-/

namespace ReleaseStaging

/-- At least one try is made. -/
theorem CloseRetry.toNat_tries (retry : CloseRetry) :
    retry.tries.toNat = max 1 retry.attempts.toNat := by
  by_cases h : retry.attempts ≤ 1
  · have hle := UInt32.le_iff_toNat_le.mp h
    have hmax : retry.tries = 1 := if_pos h
    rw [hmax]
    exact (Nat.max_eq_left hle).symm
  · have hmax : retry.tries = retry.attempts := if_neg h
    have hlt : ¬ retry.attempts.toNat ≤ 1 := fun hle => h (UInt32.le_iff_toNat_le.mpr hle)
    rw [hmax]
    omega

/-- Another try can help against the failures of the transport. -/
theorem Failure.isRetryable_iff {failure : Failure} :
    failure.isRetryable = true ↔ failure.origin = .transport := by
  rw [isRetryable, beq_iff_eq]

/-- What is to be closed, and how often that is tried. -/
structure CloseJob where
  /-- The client. -/
  client : Client
  /-- The stage. -/
  stage : Stage
  /-- The description of the close. -/
  description : String
  /-- How often the close is tried. -/
  retry : CloseRetry

namespace CloseJob

variable {σ : Type} (environment : Environment σ) (job : CloseJob)

/-- One try. -/
def tryIn (world : World σ) : Run σ (Except Failure Unit) :=
  (job.client.closeStage job.stage job.description).runIn environment world

/-- The wait before another try. -/
def waitIn (world : World σ) : Option String × List Event × World σ :=
  (Effect.pause job.retry.delayMillis).handle environment world

/-- The world in which another try starts. -/
def next (world : World σ) : World σ :=
  (job.waitIn environment (job.tryIn environment world).world).2.2

/-- The world in which a try starts. The tries are counted from zero, and each of them is taken to
be followed by another one. -/
def start (world : World σ) (i : Nat) : World σ := (job.next environment)^[i] world

/-- The try with a number. -/
def nth (world : World σ) (i : Nat) : Run σ (Except Failure Unit) :=
  job.tryIn environment (job.start environment world i)

/-- A try is followed by another one: it failed in a way that another try can help, tries are left,
and the wait is not cancelled. -/
def IsRetried (world : World σ) (i : Nat) : Prop :=
  ∃ failure, (job.nth environment world i).result = some (.error failure) ∧
    failure.isRetryable = true ∧ i + 1 < job.retry.tries.toNat ∧
    (job.waitIn environment (job.nth environment world i).world).1 = none

/-- What happens between a try and the next one. -/
def between (world : World σ) (i : Nat) : List Event :=
  match (job.nth environment world i).result with
  | some (.error failure) =>
    [.noted (.retryingClose job.stage (i + 1) job.retry.tries.toNat failure),
      .paused job.retry.delayMillis]
  | _ => []

/-- Everything that happens before a try. -/
def before (world : World σ) (k : Nat) : List Event :=
  (List.range k).flatMap fun i =>
    (job.nth environment world i).trace ++ job.between environment world i

/-- The tries from a number on, in a run. -/
def continued (i : Nat) : Command UInt32 :=
  Command.tryClose job.client job.stage job.description job.retry (.ofNat (i + 1))

variable {environment} {job}

/-- As long as tries are left, the counter of tries has not wrapped around. -/
theorem toNat_counter {i : Nat} (h : i < job.retry.tries.toNat) :
    (UInt32.ofNat (i + 1)).toNat = i + 1 := by
  have hsmall := UInt32.toNat_lt job.retry.tries
  rw [UInt32.toNat_ofNat', Nat.mod_eq_of_lt (by omega)]

theorem start_succ (world : World σ) (i : Nat) :
    job.start environment world (i + 1) =
      (job.waitIn environment (job.nth environment world i).world).2.2 := by
  rw [start, Function.iterate_succ_apply']
  rfl

theorem before_succ (world : World σ) (k : Nat) :
    job.before environment world (k + 1) = job.before environment world k ++
      ((job.nth environment world k).trace ++ job.between environment world k) := by
  simp [before, List.range_succ]

/-- A wait that is not cancelled is one pause. -/
theorem events_waitIn {world : World σ} (h : (job.waitIn environment world).1 = none) :
    (job.waitIn environment world).2.1 = [.paused job.retry.delayMillis] := by
  cases hreason : world.token.reason with
  | some reason => simp [waitIn, Effect.handle, hreason] at h
  | none =>
    have hpass : (environment.pass world.state job.retry.delayMillis).1 = none := by
      simpa [waitIn, Effect.handle, hreason] using h
    simp [waitIn, Effect.handle, hreason, hpass, World.cancelEvents]

/-- A wait asks the server for nothing. -/
theorem exchangesOf_waitIn (world : World σ) :
    exchangesOf (job.waitIn environment world).2.1 = [] := by
  cases hreason : world.token.reason <;> simp [waitIn, Effect.handle, hreason]

/-- The wait before another try ends the command if it is cancelled. -/
theorem yields_awaitRetry {world : World σ}
    {outcome : Option (Except CommandFailure Unit) → List Event → World σ → Prop} :
    (Command.awaitRetry job.stage job.retry).Yields environment world outcome ↔
      let wait := job.waitIn environment world
      match wait.1 with
      | some _ => outcome (some (.error (.ofText
          s!"interrupted while retrying close of {job.stage.display}"))) wait.2.1 wait.2.2
      | none => outcome (some (.ok ())) wait.2.1 wait.2.2 := by
  have hwait : (Effect.pause job.retry.delayMillis).handle environment world =
      job.waitIn environment world := rfl
  rw [Command.awaitRetry, Command.yields_bind, Command.yields_perform, hwait]
  generalize job.waitIn environment world = wait
  obtain ⟨_ | reason, events, after⟩ := wait <;> simp

/-- One try, and what its result leads to. -/
theorem yields_tryClose {attempt : UInt32} {world : World σ}
    {outcome : Option (Except CommandFailure UInt32) → List Event → World σ → Prop} :
    (Command.tryClose job.client job.stage job.description job.retry attempt).Yields environment
        world outcome ↔
      let once := job.tryIn environment world
      match once.result with
      | none => outcome none once.trace once.world
      | some (.ok ()) => outcome (some (.ok attempt)) once.trace once.world
      | some (.error failure) =>
        if attempt < job.retry.tries ∧ failure.isRetryable then
          let wait := job.waitIn environment once.world
          let events := once.trace ++ .noted
            (.retryingClose job.stage attempt.toNat job.retry.tries.toNat failure) :: wait.2.1
          match wait.1 with
          | some _ => outcome (some (.error (.ofText
              s!"interrupted while retrying close of {job.stage.display}"))) events wait.2.2
          | none => (Command.tryClose job.client job.stage job.description job.retry
              (attempt + 1)).Yields environment wait.2.2 fun result later after =>
                outcome result (events ++ later) after
        else (Command.abandonClose job.client job.stage job.retry failure).Yields environment
          once.world fun result later after => outcome result (once.trace ++ later) after := by
  have honce : (job.client.closeStage job.stage job.description).runIn environment world =
      job.tryIn environment world := rfl
  rw [Command.tryClose, Command.yields_bind, Command.yields_attemptClose]
  simp only [Operation.Yields, honce]
  generalize job.tryIn environment world = once
  obtain ⟨_ | failure | ⟨⟨⟩⟩, trace, after⟩ := once
  · rfl
  · by_cases h : attempt < job.retry.tries ∧ failure.isRetryable
    · simp only [Option.map_some, if_pos h, Command.yields_bind, Command.yields_note,
        yields_awaitRetry]
      cases (job.waitIn environment after).1 <;> simp
    · simp only [Option.map_some, if_neg h]
  · simp

/-- A try that is followed by another one leads to the tries after it. -/
theorem yields_continued_of_isRetried {world : World σ} {k : Nat}
    (h : job.IsRetried environment world k)
    {outcome : Option (Except CommandFailure UInt32) → List Event → World σ → Prop} :
    (job.continued k).Yields environment (job.start environment world k) outcome ↔
      (job.continued (k + 1)).Yields environment (job.start environment world (k + 1))
        fun result later after => outcome result
          ((job.nth environment world k).trace ++ job.between environment world k ++ later)
          after := by
  obtain ⟨failure, hresult, hretryable, hleft, hwait⟩ := h
  have hk : k < job.retry.tries.toNat := by omega
  have hcounter : (UInt32.ofNat (k + 1)).toNat = k + 1 := toNat_counter hk
  have hcount : UInt32.ofNat (k + 1) < job.retry.tries := by
    rw [UInt32.lt_iff_toNat_lt, hcounter]
    exact hleft
  have hsucc : UInt32.ofNat (k + 1) + 1 = UInt32.ofNat (k + 1 + 1) := by
    rw [UInt32.ofNat_add (k + 1) 1]
    rfl
  have honce : job.tryIn environment (job.start environment world k) =
      job.nth environment world k := rfl
  rw [continued, yields_tryClose, honce]
  simp only [hresult, if_pos (And.intro hcount hretryable), hwait, hcounter, hsucc,
    events_waitIn hwait, ← start_succ]
  simp only [continued, between, hresult, List.append_assoc]

/-- Tries that are all followed by another one lead to the tries after them. -/
theorem yields_continued_of_forall {world : World σ} {k : Nat}
    (h : ∀ i < k, job.IsRetried environment world i)
    {outcome : Option (Except CommandFailure UInt32) → List Event → World σ → Prop} :
    (job.continued 0).Yields environment world outcome ↔
      (job.continued k).Yields environment (job.start environment world k)
        fun result later after => outcome result (job.before environment world k ++ later)
          after := by
  induction k generalizing outcome with
  | zero => rfl
  | succ k ih =>
    rw [ih fun i hi => h i (by omega), yields_continued_of_isRetried (h k (by omega))]
    simp only [before_succ, List.append_assoc]

/-- What comes of a try that is not followed by another one. -/
theorem yields_continued_of_not {world : World σ} {k : Nat} (hk : k < job.retry.tries.toNat)
    (h : ¬ job.IsRetried environment world k)
    {outcome : Option (Except CommandFailure UInt32) → List Event → World σ → Prop} :
    (job.continued k).Yields environment (job.start environment world k) outcome ↔
      let last := job.nth environment world k
      match last.result with
      | none => outcome none last.trace last.world
      | some (.ok ()) => outcome (some (.ok (.ofNat (k + 1)))) last.trace last.world
      | some (.error failure) =>
        if k + 1 < job.retry.tries.toNat ∧ failure.isRetryable then
          let wait := job.waitIn environment last.world
          outcome
            (some (.error (.ofText s!"interrupted while retrying close of {job.stage.display}")))
            (last.trace ++ .noted
              (.retryingClose job.stage (k + 1) job.retry.tries.toNat failure) :: wait.2.1)
            wait.2.2
        else (Command.abandonClose job.client job.stage job.retry failure).Yields environment
          last.world fun result later after => outcome result (last.trace ++ later) after := by
  have hcounter : (UInt32.ofNat (k + 1)).toNat = k + 1 := toNat_counter hk
  have honce : job.tryIn environment (job.start environment world k) =
      job.nth environment world k := rfl
  rw [continued, yields_tryClose, honce]
  cases hresult : (job.nth environment world k).result with
  | none => simp only [hresult]
  | some result =>
    cases result with
    | ok done => simp only [hresult]
    | error failure =>
      simp only [hresult, UInt32.lt_iff_toNat_lt, hcounter]
      by_cases hleft : k + 1 < job.retry.tries.toNat ∧ failure.isRetryable = true
      · have hwait : (job.waitIn environment (job.nth environment world k).world).1 ≠ none :=
          fun hwait => h ⟨failure, hresult, hleft.2, hleft.1, hwait⟩
        obtain ⟨reason, hreason⟩ := Option.ne_none_iff_exists'.mp hwait
        simp only [if_pos hleft, hreason]
      · simp only [if_neg hleft]

/-- Some try is the first one that is not followed by another one, and there are tries left for
it. -/
theorem exists_isLeast (environment : Environment σ) (job : CloseJob) (world : World σ) :
    ∃ k < job.retry.tries.toNat, IsLeast {i | ¬ job.IsRetried environment world i} k := by
  have htries := job.retry.toNat_tries
  -- At the latest no tries are left.
  have hend : ¬ job.IsRetried environment world (job.retry.tries.toNat - 1) := by
    rintro ⟨failure, -, -, hleft, -⟩
    omega
  have hexists : ∃ i, ¬ job.IsRetried environment world i := ⟨_, hend⟩
  classical
  have hleast := Nat.isLeast_find hexists
  have hle := hleast.2 hend
  exact ⟨Nat.find hexists, by omega, hleast⟩

/-- All tries before the first one that is not followed by another one are followed by one. -/
theorem isRetried_of_lt {world : World σ} {k : Nat}
    (h : IsLeast {i | ¬ job.IsRetried environment world i} k) :
    ∀ i < k, job.IsRetried environment world i := by
  intro i hi
  by_contra hnot
  have hle := h.2 hnot
  omega

/-- There is only one first try that is not followed by another one. -/
theorem eq_of_isLeast {world : World σ} {j k : Nat}
    (h : IsLeast {i | ¬ job.IsRetried environment world i} k)
    (hretried : ∀ i < j, job.IsRetried environment world i)
    (hnot : ¬ job.IsRetried environment world j) : j = k := by
  have hle : k ≤ j := h.2 hnot
  by_contra hne
  exact h.1 (hretried k (by omega))

/-! ## Giving up -/

/-- The failure of the command when its last try failed. -/
def closingFailure (job : CloseJob) (failure : Failure) : CommandFailure :=
  (CommandFailure.ofFailure failure).within s!"closing {job.stage.display}"

/-- The failure of the command when its last try and then the drop failed. -/
def droppingFailure (job : CloseJob) (failure : Failure) : CommandFailure :=
  (CommandFailure.ofFailure failure).within s!"dropping {job.stage.display} after failed close"

/-- Giving up is a drop, if that is wanted and the close was not interrupted, and a failure in any
case. -/
theorem yields_abandonClose {α : Type} {failure : Failure} {world : World σ}
    {outcome : Option (Except CommandFailure α) → List Event → World σ → Prop} :
    (Command.abandonClose job.client job.stage job.retry failure).Yields environment world
        outcome ↔
      if job.retry.dropOnFailure = true ∧ failure.origin ≠ .interrupted then
        (job.client.dropStage job.stage).Yields environment world fun result trace after =>
          let events := .noted (.droppingFailed job.stage failure) :: trace
          match result with
          | none => outcome none events after
          | some (.error cause) => outcome (some (.error (job.droppingFailure cause))) events after
          | some (.ok ()) => outcome (some (.error (job.closingFailure failure))) events after
      else
        outcome (some (.error (job.closingFailure failure)))
          (if job.retry.dropOnFailure then [.noted (.keepingInterrupted job.stage)] else [])
          world := by
  rw [Command.abandonClose]
  by_cases hdrop : job.retry.dropOnFailure = true
  · by_cases horigin : failure.origin = .interrupted
    · simp only [hdrop, horigin, if_true, if_false, Command.yields_bind, Command.yields_note,
        Command.yields_within, Command.yields_throw, ne_eq, not_true_eq_false, and_false]
      rfl
    · simp only [hdrop, horigin, if_true, if_false, Command.yields_bind, Command.yields_note,
        Command.yields_within, Command.yields_ofOperation, ne_eq, not_false_eq_true, and_self,
        Operation.Yields]
      generalize (job.client.dropStage job.stage).runIn environment world = run
      obtain ⟨_ | cause | ⟨⟨⟩⟩, trace, after⟩ := run
      · rfl
      · rfl
      · simp only [Option.map_some, Command.yields_throw, List.append_nil]
        rfl
  · simp only [hdrop, Bool.false_eq_true, if_false, false_and, Command.yields_within,
      Command.yields_throw]
    rfl

/-! ## The whole command -/

/-- A close is tried until the first try that is not followed by another one, and what comes of that
try decides. -/
theorem yields_tries {world : World σ} {k : Nat} (hk : k < job.retry.tries.toNat)
    (hleast : IsLeast {i | ¬ job.IsRetried environment world i} k)
    {outcome : Option (Except CommandFailure UInt32) → List Event → World σ → Prop} :
    (job.continued 0).Yields environment world outcome ↔
      let last := job.nth environment world k
      let events := job.before environment world k ++ last.trace
      match last.result with
      | none => outcome none events last.world
      | some (.ok ()) => outcome (some (.ok (.ofNat (k + 1)))) events last.world
      | some (.error failure) =>
        if k + 1 < job.retry.tries.toNat ∧ failure.isRetryable then
          let wait := job.waitIn environment last.world
          outcome
            (some (.error (.ofText s!"interrupted while retrying close of {job.stage.display}")))
            (events ++ .noted
              (.retryingClose job.stage (k + 1) job.retry.tries.toNat failure) :: wait.2.1)
            wait.2.2
        else (Command.abandonClose job.client job.stage job.retry failure).Yields environment
          last.world fun result later after => outcome result (events ++ later) after := by
  rw [yields_continued_of_forall (isRetried_of_lt hleast),
    yields_continued_of_not hk hleast.1]
  simp only [List.append_assoc]

end CloseJob

/-- The line that tells of a close that was carried out. -/
def closedLine (asJson : Bool) (stage : Stage) : String :=
  if asJson then (transitionJson .close stage).text else "Closed " ++ stage.display

/-- A close finds the stage, tries to close it and tells of the success. -/
theorem Command.yields_close {σ : Type} {environment : Environment σ} {client : Client}
    {asJson : Bool} {target : StageTarget} {description : String} {retry : CloseRetry}
    {world : World σ}
    {outcome : Option (Except CommandFailure Unit) → List Event → World σ → Prop} :
    (close client asJson target description retry).Yields environment world outcome ↔
      let resolution := (target.resolve client).runIn environment world
      match resolution.result with
      | none => outcome none resolution.trace resolution.world
      | some (.error failure) =>
        outcome (some (.error failure)) resolution.trace resolution.world
      | some (.ok stage) =>
        (CloseJob.continued ⟨client, stage, description, retry⟩ 0).Yields environment
          resolution.world fun result later after =>
            match result with
            | none => outcome none (resolution.trace ++ later) after
            | some (.error failure) =>
              outcome (some (.error failure)) (resolution.trace ++ later) after
            | some (.ok attempt) => outcome (some (.ok ()))
                (resolution.trace ++ (later ++ [.noted (.closeComplete stage attempt.toNat),
                  .printed (closedLine asJson stage)])) after := by
  have hzero : (UInt32.ofNat (0 + 1) : UInt32) = 1 := rfl
  rw [close, yields_bind, Yields]
  generalize (target.resolve client).runIn environment world = resolution
  obtain ⟨_ | failure | stage, trace, after⟩ := resolution
  · rfl
  · rfl
  · simp only [yields_bind, yields_note, yields_emit, CloseJob.continued, hzero]
    rw [Yields, Yields]
    generalize (tryClose client stage description retry 1).runIn environment after = tries
    obtain ⟨_ | failure | attempt, later, last⟩ := tries
    · rfl
    · rfl
    · simp [closedLine]

/-- A command that finds no stage does nothing more. -/
theorem Command.yields_close_unresolved {σ : Type} {environment : Environment σ} {client : Client}
    (asJson : Bool) {target : StageTarget} (description : String) (retry : CloseRetry)
    {world : World σ} {resolution : Run σ (Except CommandFailure Stage)}
    (hresolution : (target.resolve client).runIn environment world = resolution)
    (hstage : ∀ stage, resolution.result ≠ some (.ok stage)) :
    (close client asJson target description retry).Yields environment world
      fun _ trace _ => trace = resolution.trace := by
  rw [yields_close, hresolution]
  obtain ⟨_ | failure | stage, trace, after⟩ := resolution
  · rfl
  · rfl
  · exact absurd rfl (hstage stage)

end ReleaseStaging
