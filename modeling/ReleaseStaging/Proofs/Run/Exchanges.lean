import ReleaseStaging.Run

/-!
# Exchanges of a run

What a run does to the server is the list of its requests, each with the reply that it got. An
operation is taken apart along its steps: `Operation.Yields` says what holds of its result, of
everything that happened and of the world afterwards, and each way to build an operation has one
rule for it. The rules are equivalences, so nothing is lost by using them.
-/

namespace ReleaseStaging

/-- A request together with what came of it. -/
structure Exchange where
  /-- What was asked. -/
  request : Request
  /-- What came of it. -/
  reply : Reply

/-- The exchange that an event is, unless it is something else. -/
def Event.exchange? : Event → Option Exchange
  | .sent request reply => some ⟨request, reply⟩
  | _ => none

/-- The exchanges among some events, in order. -/
def exchangesOf (trace : List Event) : List Exchange := trace.filterMap Event.exchange?

@[simp] theorem exchangesOf_nil : exchangesOf [] = [] := rfl

@[simp] theorem exchangesOf_append (trace later : List Event) :
    exchangesOf (trace ++ later) = exchangesOf trace ++ exchangesOf later :=
  List.filterMap_append

@[simp] theorem exchangesOf_sent (request : Request) (reply : Reply) (trace : List Event) :
    exchangesOf (.sent request reply :: trace) = ⟨request, reply⟩ :: exchangesOf trace := rfl

@[simp] theorem exchangesOf_noted (event : LogEvent) (trace : List Event) :
    exchangesOf (.noted event :: trace) = exchangesOf trace := rfl

@[simp] theorem exchangesOf_paused (millis : Nat) (trace : List Event) :
    exchangesOf (.paused millis :: trace) = exchangesOf trace := rfl

namespace World

variable {σ : Type}

/-- A cancellation is no exchange. -/
@[simp] theorem exchangesOf_cancelEvents (world : World σ) (reason : Option String) :
    exchangesOf (world.cancelEvents reason) = [] := by
  cases reason with
  | none => rfl
  | some reason =>
    simp only [cancelEvents]
    split <;> rfl

/-- Cancelling changes nothing that is remembered of the server. -/
@[simp] theorem memo_cancel (world : World σ) (reason : Option String) :
    (world.cancel reason).memo = world.memo := by
  cases reason <;> rfl

/-- The exchange that sending a request in a world is. -/
def exchange (environment : Environment σ) (world : World σ) (request : Request) : Exchange :=
  ⟨request, (environment.answer world.state request).1⟩

/-- The world after a request. -/
def afterSending (environment : Environment σ) (world : World σ) (request : Request) : World σ :=
  let (_, reason, state) := environment.answer world.state request
  { world.cancel reason with state }

/-- What happens when a request is sent. -/
def sendingEvents (environment : Environment σ) (world : World σ) (request : Request) :
    List Event :=
  .sent request (world.exchange environment request).reply ::
    world.cancelEvents (environment.answer world.state request).2.1

@[simp] theorem exchangesOf_sendingEvents (environment : Environment σ) (world : World σ)
    (request : Request) :
    exchangesOf (world.sendingEvents environment request) =
      [world.exchange environment request] := by
  simp only [sendingEvents, exchangesOf_sent, exchangesOf_cancelEvents]
  rfl

@[simp] theorem request_exchange (environment : Environment σ) (world : World σ)
    (request : Request) : (world.exchange environment request).request = request := rfl

@[simp] theorem memo_afterSending (environment : Environment σ) (world : World σ)
    (request : Request) : (world.afterSending environment request).memo = world.memo :=
  world.memo_cancel _

end World

/-- Of two programs in a row that may fail, the second one starts in the world that the first one
leaves, if that one succeeds. -/
theorem Program.run_bind_exceptT {σ ε α β : Type} (environment : Environment σ)
    (first : ExceptT ε Program α) (next : α → ExceptT ε Program β) (world : World σ) :
    Program.run environment (ExceptT.run (first >>= next)) world =
      let run := Program.run environment (ExceptT.run first) world
      match run.result with
      | none => ⟨none, run.trace, run.world⟩
      | some (.error failure) => ⟨some (.error failure), run.trace, run.world⟩
      | some (.ok value) =>
        let rest := Program.run environment (ExceptT.run (next value)) run.world
        { rest with trace := run.trace ++ rest.trace } := by
  have hrun : ExceptT.run (first >>= next) =
      ExceptT.run first >>= ExceptT.bindCont next := rfl
  simp only [hrun, Program.run_bind, Run.andThen]
  cases (Program.run environment (ExceptT.run first) world).result with
  | none => rfl
  | some result =>
    cases result with
    | error failure => simp [ExceptT.bindCont, Program.run]
    | ok value => rfl

/-- The exchanges of a run. -/
def Run.exchanges {σ α : Type} (run : Run σ α) : List Exchange := exchangesOf run.trace

namespace Operation

variable {σ α β : Type} (environment : Environment σ)

/-- The run of an operation. -/
def runIn (operation : Operation α) (world : World σ) : Run σ (Except Failure α) :=
  Program.run environment (ExceptT.run operation) world

/-- Something is true of the result of an operation, if it ends, of what happens during it and of
the world after it. -/
def Yields (operation : Operation α) (world : World σ)
    (outcome : Option (Except Failure α) → List Event → World σ → Prop) : Prop :=
  let run := operation.runIn environment world
  outcome run.result run.trace run.world

variable {environment} {world : World σ}

/-- What is true of every outcome that a rule allows is true of the outcome. -/
theorem Yields.mono {operation : Operation α}
    {outcome wider : Option (Except Failure α) → List Event → World σ → Prop}
    (h : operation.Yields environment world outcome)
    (hwider : ∀ result trace after, outcome result trace after → wider result trace after) :
    operation.Yields environment world wider :=
  hwider _ _ _ h

/-- Two things that are true of the outcome are true together. -/
theorem Yields.and {operation : Operation α}
    {outcome other : Option (Except Failure α) → List Event → World σ → Prop}
    (h : operation.Yields environment world outcome)
    (hother : operation.Yields environment world other) :
    operation.Yields environment world fun result trace after =>
      outcome result trace after ∧ other result trace after :=
  ⟨h, hother⟩

@[simp] theorem yields_pure {result : α}
    {outcome : Option (Except Failure α) → List Event → World σ → Prop} :
    (pure result : Operation α).Yields environment world outcome ↔
      outcome (some (.ok result)) [] world := Iff.rfl

@[simp] theorem yields_throw {failure : Failure}
    {outcome : Option (Except Failure α) → List Event → World σ → Prop} :
    (throw failure : Operation α).Yields environment world outcome ↔
      outcome (some (.error failure)) [] world := Iff.rfl

@[simp] theorem yields_liftM {result : Except Failure α}
    {outcome : Option (Except Failure α) → List Event → World σ → Prop} :
    (liftM result : Operation α).Yields environment world outcome ↔
      outcome (some result) [] world := Iff.rfl

@[simp] theorem yields_unfinished
    {outcome : Option (Except Failure α) → List Event → World σ → Prop} :
    Yields environment (ExceptT.mk .unfinished : Operation α) world outcome ↔
      outcome none [] world := Iff.rfl

/-- The second of two operations starts in the world that the first one leaves, if that one
succeeds, and adds to what happened. -/
theorem yields_bind {first : Operation α} {next : α → Operation β}
    {outcome : Option (Except Failure β) → List Event → World σ → Prop} :
    (first >>= next).Yields environment world outcome ↔
      first.Yields environment world fun result trace after =>
        match result with
        | none => outcome none trace after
        | some (.error failure) => outcome (some (.error failure)) trace after
        | some (.ok value) => (next value).Yields environment after fun result later last =>
            outcome result (trace ++ later) last := by
  simp only [Yields, runIn, Program.run_bind_exceptT]
  cases (Program.run environment (ExceptT.run first) world).result with
  | none => rfl
  | some result => cases result <;> rfl

/-- Two operations in a row stop where the first one stops, or the second one goes on from what is
true after the first. -/
theorem Yields.bind {first : Operation α} {next : α → Operation β}
    {outcome : Option (Except Failure α) → List Event → World σ → Prop}
    {last : Option (Except Failure β) → List Event → World σ → Prop}
    (h : first.Yields environment world outcome)
    (hstop : ∀ (failure : Option Failure) trace after,
      outcome (failure.map .error) trace after → last (failure.map .error) trace after)
    (hgo : ∀ value trace after, outcome (some (.ok value)) trace after →
      (next value).Yields environment after fun result later => last result (trace ++ later)) :
    (first >>= next).Yields environment world last := by
  rw [yields_bind]
  apply h.mono
  rintro (_ | failure | value) trace after houtcome
  · exact hstop none trace after houtcome
  · exact hstop (some failure) trace after houtcome
  · exact hgo value trace after houtcome

/-- One effect is handled by the world. -/
theorem yields_perform {effect : Effect α}
    {outcome : Option (Except Failure α) → List Event → World σ → Prop} :
    (perform effect).Yields environment world outcome ↔
      outcome (some (.ok (effect.handle environment world).1))
        (effect.handle environment world).2.1 (effect.handle environment world).2.2 := by
  have hrun : ExceptT.run (perform effect) = .act effect fun answer => .done (.ok answer) := rfl
  simp only [Yields, runIn, hrun, Program.run, List.append_nil]

@[simp] theorem yields_recall
    {outcome : Option (Except Failure (Option Capability)) → List Event → World σ → Prop} :
    (perform .recall).Yields environment world outcome ↔
      outcome (some (.ok world.memo)) [] world := yields_perform

@[simp] theorem yields_remember {capability : Capability}
    {outcome : Option (Except Failure Unit) → List Event → World σ → Prop} :
    (perform (.remember capability)).Yields environment world outcome ↔
      outcome (some (.ok ())) [] { world with memo := some capability } := yields_perform

@[simp] theorem yields_cancellation
    {outcome : Option (Except Failure (Option String)) → List Event → World σ → Prop} :
    (perform .cancellation).Yields environment world outcome ↔
      outcome (some (.ok world.token.reason)) [] world := yields_perform

@[simp] theorem yields_note {event : LogEvent}
    {outcome : Option (Except Failure Unit) → List Event → World σ → Prop} :
    (note event).Yields environment world outcome ↔
      outcome (some (.ok ())) [.noted event] world := yields_perform

/-- A pause sends nothing and leaves what is remembered of the server. -/
theorem yields_pause {millis : Nat} :
    (perform (.pause millis)).Yields environment world fun result trace after =>
      (∃ reason, result = some (.ok reason)) ∧ exchangesOf trace = [] ∧
        after.memo = world.memo := by
  rw [yields_perform]
  refine ⟨⟨_, rfl⟩, ?_⟩
  simp only [Effect.handle]
  split <;> simp

/-- Sending a request is one exchange, and its reply decides. -/
theorem yields_send {request : Request}
    {outcome : Option (Except Failure Response) → List Event → World σ → Prop} :
    (send request).Yields environment world outcome ↔
      outcome (some (Reply.response request (world.exchange environment request).reply))
        (world.sendingEvents environment request) (world.afterSending environment request) := by
  rw [send, yields_bind, yields_perform]
  simp [Effect.handle, World.exchange, World.sendingEvents, World.afterSending]

end Operation

end ReleaseStaging
