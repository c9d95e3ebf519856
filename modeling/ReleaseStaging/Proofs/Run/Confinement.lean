import ReleaseStaging.Proofs.Run.Commands

/-!
# What a program may do

A program is confined if every effect in it is allowed, whatever the answers before it were. Each
way to build a program has one rule for it, and no rule looks at a world. What follows for runs is
said once: in every world a confined program sends allowed requests only, one that may not print
prints nothing, and one that may not use what is remembered of the server runs alike whatever is
remembered, and leaves it.
-/

namespace ReleaseStaging

/-- What a program is allowed to do besides waiting and writing to the log. -/
structure Allowance where
  /-- The requests that it may send. -/
  requests : Request → Prop
  /-- Whether it may recall and change what is remembered of the server. -/
  memo : Prop
  /-- Whether it may print a result. -/
  print : Prop := True

variable {σ ε α β : Type} {allowance : Allowance}

/-- Whether an effect is allowed. -/
def Effect.IsAllowed (allowance : Allowance) : Effect α → Prop
  | .send request => allowance.requests request
  | .recall | .remember _ => allowance.memo
  | .print _ => allowance.print
  | .cancellation | .pause _ | .note _ => True

/-- Every effect in a program is allowed. -/
def Program.IsConfined (allowance : Allowance) : Program α → Prop
  | done _ => True
  | unfinished => True
  | act effect next =>
    effect.IsAllowed allowance ∧ ∀ answer, (next answer).IsConfined allowance

/-- Two programs in a row are confined if both are. -/
theorem Program.IsConfined.bind {program : Program α} {next : α → Program β}
    (h : program.IsConfined allowance) (hnext : ∀ result, (next result).IsConfined allowance) :
    (program >>= next).IsConfined allowance := by
  induction program with
  | done result => exact hnext result
  | unfinished => trivial
  | act effect rest ih => exact ⟨h.1, fun answer => ih answer (h.2 answer)⟩

/-! ## Runs of confined programs -/

namespace World

/-- The world with something else remembered of the server. -/
def withMemo (world : World σ) (memo : Option Capability) : World σ := { world with memo }

@[simp] theorem memo_withMemo (world : World σ) (memo : Option Capability) :
    (world.withMemo memo).memo = memo := rfl

@[simp] theorem withMemo_memo (world : World σ) : world.withMemo world.memo = world := rfl

end World

/-- The lines that were printed, in order. -/
def printedOf (trace : List Event) : List String :=
  trace.filterMap fun
    | .printed line => some line
    | _ => none

theorem printedOf_append (earlier later : List Event) :
    printedOf (earlier ++ later) = printedOf earlier ++ printedOf later := by
  simp [printedOf]

/-- The run with something else remembered at its end. -/
def Run.withMemo (run : Run σ α) (memo : Option Capability) : Run σ α :=
  { run with world := run.world.withMemo memo }

/-- An effect makes an exchange only by sending an allowed request. -/
private theorem Effect.requests_of_isAllowed {effect : Effect α} (h : effect.IsAllowed allowance)
    (environment : Environment σ) (world : World σ) :
    ∀ exchange ∈ exchangesOf (effect.handle environment world).2.1,
      allowance.requests exchange.request := by
  intro exchange hmem
  cases effect with
  | send request =>
    have hsent : exchangesOf ((Effect.send request).handle environment world).2.1 =
        [world.exchange environment request] := world.exchangesOf_sendingEvents environment request
    rw [hsent, List.mem_singleton] at hmem
    rw [hmem]
    exact h
  | pause millis =>
    cases hreason : world.token.reason with
    | some reason => simp [handle, hreason] at hmem
    | none => simp [handle, hreason] at hmem
  | _ => simp [handle] at hmem

/-- An effect other than printing prints nothing. -/
private theorem Effect.printedOf_of_isAllowed {effect : Effect α} (h : effect.IsAllowed allowance)
    (hprint : ¬ allowance.print) (environment : Environment σ) (world : World σ) :
    printedOf (effect.handle environment world).2.1 = [] := by
  have hcancel (reason : Option String) : printedOf (world.cancelEvents reason) = [] := by
    cases reason with
    | none => rfl
    | some reason => cases hcancelled : world.token.isCancelled <;>
        simp [World.cancelEvents, hcancelled, printedOf]
  cases effect with
  | send request => exact hcancel _
  | pause millis =>
    cases hreason : world.token.reason with
    | some reason => simp [handle, hreason, printedOf]
    | none =>
      simp only [handle, hreason]
      exact hcancel _
  | print line => exact absurd h hprint
  | _ => rfl

/-- An effect that does not use what is remembered of the server gives the same whatever that is. -/
private theorem Effect.handle_withMemo {effect : Effect α} (h : effect.IsAllowed allowance)
    (hmemo : ¬ allowance.memo) (environment : Environment σ) (world : World σ)
    (memo : Option Capability) :
    effect.handle environment (world.withMemo memo) =
      ((effect.handle environment world).1, (effect.handle environment world).2.1,
        (effect.handle environment world).2.2.withMemo memo) := by
  have hcancel (reason : Option String) :
      (world.withMemo memo).cancel reason = (world.cancel reason).withMemo memo := by
    cases reason <;> rfl
  cases effect with
  | send request =>
    simp only [handle, hcancel]
    rfl
  | pause millis =>
    have htoken : (world.withMemo memo).token = world.token := rfl
    simp only [handle, htoken, hcancel]
    cases world.token.reason <;> rfl
  | cancellation | note | print => rfl
  | _ => exact absurd h hmemo

namespace Program

/-- In every world a confined program sends allowed requests only. -/
theorem IsConfined.requests {program : Program α} (h : program.IsConfined allowance)
    (environment : Environment σ) (world : World σ) :
    ∀ exchange ∈ (program.run environment world).exchanges,
      allowance.requests exchange.request := by
  induction program generalizing world with
  | done | unfinished => simp [run, Run.exchanges]
  | act effect next ih =>
    intro exchange hmem
    rw [Run.exchanges, run, exchangesOf_append, List.mem_append] at hmem
    rcases hmem with hmem | hmem
    · exact effect.requests_of_isAllowed h.1 environment world exchange hmem
    · exact ih _ (h.2 _) _ exchange hmem

/-- In every world a program that may not print prints nothing. -/
theorem IsConfined.printed {program : Program α} (h : program.IsConfined allowance)
    (hprint : ¬ allowance.print) (environment : Environment σ) (world : World σ) :
    printedOf (program.run environment world).trace = [] := by
  induction program generalizing world with
  | done | unfinished => rfl
  | act effect next ih =>
    rw [run, printedOf_append, effect.printedOf_of_isAllowed h.1 hprint environment world,
      List.nil_append]
    exact ih _ (h.2 _) _

/-- A program that may not use what is remembered of the server runs alike whatever is remembered,
and leaves it. -/
theorem IsConfined.run_withMemo {program : Program α} (h : program.IsConfined allowance)
    (hmemo : ¬ allowance.memo) (environment : Environment σ) (world : World σ)
    (memo : Option Capability) :
    program.run environment (world.withMemo memo) =
      (program.run environment world).withMemo memo := by
  induction program generalizing world with
  | done | unfinished => rfl
  | act effect next ih =>
    simp only [run, effect.handle_withMemo h.1 hmemo, ih _ (h.2 _)]
    rfl

/-- A program that may not use what is remembered of the server leaves it. -/
theorem IsConfined.memo_run {program : Program α} (h : program.IsConfined allowance)
    (hmemo : ¬ allowance.memo) (environment : Environment σ) (world : World σ) :
    (program.run environment world).world.memo = world.memo := by
  have hrun := h.run_withMemo hmemo environment world world.memo
  rw [world.withMemo_memo] at hrun
  exact congrArg (fun run => run.world.memo) hrun

end Program

/-! ## Programs that may fail -/

/-- Every effect in a program that may fail is allowed. -/
def IsConfined (allowance : Allowance) (program : ExceptT ε Program α) : Prop :=
  Program.IsConfined allowance (ExceptT.run program)

theorem isConfined_pure (result : α) :
    IsConfined allowance (pure result : ExceptT ε Program α) := trivial

theorem isConfined_throw (failure : ε) :
    IsConfined allowance (throw failure : ExceptT ε Program α) := trivial

theorem isConfined_unfinished :
    IsConfined allowance (ExceptT.mk .unfinished : ExceptT ε Program α) := trivial

theorem isConfined_liftM (result : Except ε α) :
    IsConfined allowance (liftM result : ExceptT ε Program α) := trivial

/-- Two programs in a row are confined if both are, the second one for every success of the
first. -/
theorem IsConfined.bind {first : ExceptT ε Program α} {next : α → ExceptT ε Program β}
    (h : IsConfined allowance first) (hnext : ∀ value, IsConfined allowance (next value)) :
    IsConfined allowance (first >>= next) := by
  apply Program.IsConfined.bind h
  intro result
  cases result with
  | error failure => trivial
  | ok value => exact hnext value

/-- A program that starts with a decision is confined if it is after every success. -/
theorem isConfined_liftM_bind {result : Except ε α} {next : α → ExceptT ε Program β}
    (hnext : ∀ value, result = .ok value → IsConfined allowance (next value)) :
    IsConfined allowance ((liftM result : ExceptT ε Program α) >>= next) := by
  cases result with
  | error failure => trivial
  | ok value => exact hnext value rfl

/-- One effect is confined if it is allowed. -/
theorem isConfined_lift (effect : Effect α) (h : effect.IsAllowed allowance) :
    IsConfined allowance (ExceptT.lift (Program.perform effect) : ExceptT ε Program α) :=
  ⟨h, fun _ => trivial⟩

theorem isConfined_note (event : LogEvent) : IsConfined allowance (Operation.note event) :=
  isConfined_lift (.note event) trivial

/-- Sending a request is confined if the request is allowed. -/
theorem isConfined_send {request : Request} (h : allowance.requests request) :
    IsConfined allowance (Operation.send request) :=
  (isConfined_lift (.send request) h).bind fun _ => isConfined_liftM _

/-- A program whose result is only looked at afterwards stays confined. -/
theorem IsConfined.of_view {program : ExceptT ε Program α} {γ : Type}
    {view : Except ε α → Program γ} (h : IsConfined allowance program)
    (hview : ∀ result, (view result).IsConfined allowance) :
    (ExceptT.run program >>= view).IsConfined allowance :=
  Program.IsConfined.bind h hview

/-- An operation is confined as a step of a command. -/
theorem isConfined_ofOperation {operation : Operation α} (h : IsConfined allowance operation) :
    IsConfined allowance (liftM operation : Command α) := by
  apply h.of_view
  intro result
  cases result <;> trivial

theorem isConfined_perform_note (event : LogEvent) :
    IsConfined allowance (Command.perform (.note event)) :=
  isConfined_lift (.note event) trivial

theorem isConfined_perform_pause (millis : Nat) :
    IsConfined allowance (Command.perform (.pause millis)) :=
  isConfined_lift (.pause millis) trivial

theorem isConfined_emit (h : allowance.print) (asJson : Bool) (document : Json) (text : String) :
    IsConfined allowance (Command.emit asJson document text) :=
  isConfined_lift (.print _) h

theorem isConfined_require (value : Option α) (otherwise : String) :
    IsConfined allowance (Command.require value otherwise) := by
  cases value with
  | none => exact isConfined_throw _
  | some a => exact isConfined_pure a

/-- A command that says what it was doing when it failed is confined if it is without that. -/
theorem isConfined_within (doing : String) {command : Command α}
    (h : IsConfined allowance command) : IsConfined allowance (Command.within doing command) := by
  apply h.of_view
  intro result
  cases result <;> trivial

end ReleaseStaging
