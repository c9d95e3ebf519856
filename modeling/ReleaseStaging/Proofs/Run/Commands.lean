import ReleaseStaging.Command.Transitions
import ReleaseStaging.Proofs.Run.Exchanges

/-!
# Runs of commands

A command is taken apart along its steps in the same way as an operation: `Command.Yields` says
what holds of its result, of everything that happened and of the world afterwards, and each way to
build a command has one rule for it.
-/

namespace ReleaseStaging

@[simp] theorem exchangesOf_printed (line : String) (trace : List Event) :
    exchangesOf (.printed line :: trace) = exchangesOf trace := rfl

namespace Command

variable {σ α β : Type} (environment : Environment σ)

/-- The run of a command. -/
def runIn (command : Command α) (world : World σ) : Run σ (Except CommandFailure α) :=
  Program.run environment (ExceptT.run command) world

/-- Something is true of the result of a command, if it ends, of what happens during it and of the
world after it. -/
def Yields (command : Command α) (world : World σ)
    (outcome : Option (Except CommandFailure α) → List Event → World σ → Prop) : Prop :=
  let run := command.runIn environment world
  outcome run.result run.trace run.world

variable {environment} {world : World σ}

/-- What is true of every outcome that a rule allows is true of the outcome. -/
theorem Yields.mono {command : Command α}
    {outcome wider : Option (Except CommandFailure α) → List Event → World σ → Prop}
    (h : command.Yields environment world outcome)
    (hwider : ∀ result trace after, outcome result trace after → wider result trace after) :
    command.Yields environment world wider :=
  hwider _ _ _ h

/-- Two things that are true of the outcome are true together. -/
theorem Yields.and {command : Command α}
    {outcome other : Option (Except CommandFailure α) → List Event → World σ → Prop}
    (h : command.Yields environment world outcome)
    (hother : command.Yields environment world other) :
    command.Yields environment world fun result trace after =>
      outcome result trace after ∧ other result trace after :=
  ⟨h, hother⟩

@[simp] theorem yields_pure {result : α}
    {outcome : Option (Except CommandFailure α) → List Event → World σ → Prop} :
    (pure result : Command α).Yields environment world outcome ↔
      outcome (some (.ok result)) [] world := Iff.rfl

@[simp] theorem yields_throw {failure : CommandFailure}
    {outcome : Option (Except CommandFailure α) → List Event → World σ → Prop} :
    (throw failure : Command α).Yields environment world outcome ↔
      outcome (some (.error failure)) [] world := Iff.rfl

/-- The second of two commands starts in the world that the first one leaves, if that one succeeds,
and adds to what happened. -/
theorem yields_bind {first : Command α} {next : α → Command β}
    {outcome : Option (Except CommandFailure β) → List Event → World σ → Prop} :
    (first >>= next).Yields environment world outcome ↔
      first.Yields environment world fun result trace after =>
        match result with
        | none => outcome none trace after
        | some (.error failure) => outcome (some (.error failure)) trace after
        | some (.ok value) => (next value).Yields environment after fun result later last =>
            outcome result (trace ++ later) last := by
  simp only [Yields, runIn, Program.run_bind_exceptT]
  cases (Program.run environment (ExceptT.run first) world).result with
  | none => rfl
  | some result => cases result <;> rfl

/-- One effect is handled by the world. -/
theorem yields_perform {effect : Effect α}
    {outcome : Option (Except CommandFailure α) → List Event → World σ → Prop} :
    (perform effect).Yields environment world outcome ↔
      outcome (some (.ok (effect.handle environment world).1))
        (effect.handle environment world).2.1 (effect.handle environment world).2.2 := by
  have hrun : ExceptT.run (perform effect) = .act effect fun answer => .done (.ok answer) := rfl
  simp only [Yields, runIn, hrun, Program.run, List.append_nil]

@[simp] theorem yields_note {event : LogEvent}
    {outcome : Option (Except CommandFailure Unit) → List Event → World σ → Prop} :
    (perform (.note event)).Yields environment world outcome ↔
      outcome (some (.ok ())) [.noted event] world := yields_perform

@[simp] theorem yields_emit {asJson : Bool} {document : Json} {text : String}
    {outcome : Option (Except CommandFailure Unit) → List Event → World σ → Prop} :
    (emit asJson document text).Yields environment world outcome ↔
      outcome (some (.ok ())) [.printed (if asJson then document.text else text)] world :=
  yields_perform

/-- A program whose result is only looked at afterwards runs as it does alone. -/
private theorem run_bind_done (program : Program α) (view : α → β) (world : World σ) :
    (program >>= fun result => Program.done (view result)).run environment world =
      { program.run environment world with
        result := (program.run environment world).result.map view } := by
  rw [Program.run_bind, Run.andThen]
  cases h : (program.run environment world).result with
  | none => rfl
  | some result => simp [Program.run]

/-- An operation is a step of a command, and its failure is the cause of a failure of the
command. -/
theorem yields_ofOperation {operation : Operation α}
    {outcome : Option (Except CommandFailure α) → List Event → World σ → Prop} :
    (liftM operation : Command α).Yields environment world outcome ↔
      operation.Yields environment world fun result trace after =>
        outcome (result.map (Except.mapError .ofFailure)) trace after := by
  have hrun : ExceptT.run (liftM operation : Command α) =
      ExceptT.run operation >>= fun result =>
        Program.done (result.mapError CommandFailure.ofFailure) := by
    show (ExceptT.run operation >>= _) = _
    congr 1
    funext result
    cases result <;> rfl
  simp only [Yields, Operation.Yields, runIn, Operation.runIn, hrun, run_bind_done]

/-- A failure of a step tells what was being done. -/
theorem yields_within {doing : String} {command : Command α}
    {outcome : Option (Except CommandFailure α) → List Event → World σ → Prop} :
    (within doing command).Yields environment world outcome ↔
      command.Yields environment world fun result trace after =>
        outcome (result.map (Except.mapError (·.within doing))) trace after := by
  have hrun : ExceptT.run (within doing command) =
      ExceptT.run command >>= fun result =>
        Program.done (result.mapError (·.within doing)) := by
    show (ExceptT.run command >>= _) = _
    congr 1
    funext result
    cases result <;> rfl
  simp only [Yields, runIn, hrun, run_bind_done]

/-- One try to close a stage never fails: what came of it is its result. -/
theorem yields_attemptClose {client : Client} {stage : Stage} {description : String}
    {outcome : Option (Except CommandFailure (Except Failure Unit)) → List Event → World σ → Prop} :
    (attemptClose client stage description).Yields environment world outcome ↔
      (client.closeStage stage description).Yields environment world fun result trace after =>
        outcome (result.map .ok) trace after := by
  have hrun : ExceptT.run (attemptClose client stage description) =
      ExceptT.run (client.closeStage stage description) >>= fun result =>
        Program.done (Except.ok result) := by
    show (ExceptT.run (client.closeStage stage description) >>= _) = _
    rfl
  simp only [Yields, Operation.Yields, runIn, Operation.runIn, hrun, run_bind_done]

end Command

end ReleaseStaging
