import ReleaseStaging.Cancellation
import ReleaseStaging.Program

/-!
# Runs

What a program does, given a world that answers: a server that may answer each request depending on
everything before it, and someone who may cancel while a request is on its way or while the program
waits. A run is the sequence of everything that happened, and the result if there is one.
Main statement: the run of two programs in a row is the run of the first followed by the run of the
second in the world that the first one left.
-/

namespace ReleaseStaging

/-- How the world reacts; `σ` is all it remembers. -/
structure Environment (σ : Type) where
  /-- What comes of a request, and the reason of a cancellation while it was on its way. -/
  answer : σ → Request → Reply × Option String × σ
  /-- What happens while so many milliseconds pass: perhaps a cancellation. -/
  pass : σ → Nat → Option String × σ

/-- Everything that a program finds outside itself. -/
structure World (σ : Type) where
  /-- What the environment remembers. -/
  state : σ
  /-- The token by which waiting is cancelled. -/
  token : CancellationToken
  /-- What is remembered of the server. -/
  memo : Option Capability

/-- The world before anything happened. -/
def World.fresh {σ : Type} (state : σ) : World σ := ⟨state, .fresh, none⟩

/-- Something that happened. -/
inductive Event where
  /-- A request was sent, and this came of it. -/
  | sent (request : Request) (reply : Reply)
  /-- Waiting was cancelled. -/
  | cancelled (reason : String)
  /-- The program started to wait. -/
  | paused (millis : Nat)
  /-- The log was written to. -/
  | noted (event : LogEvent)
  /-- A result was printed. -/
  | printed (line : String)

/-- What a run gives. -/
structure Run (σ α : Type) where
  /-- The result, if the program ended. -/
  result : Option α
  /-- What happened, in order. -/
  trace : List Event
  /-- The world afterwards. -/
  world : World σ

namespace World

variable {σ : Type}

/-- The world after someone cancelled, or not. -/
def cancel (world : World σ) (reason : Option String) : World σ :=
  match reason with
  | none => world
  | some reason => { world with token := world.token.cancel reason }

/-- What there is to record of a cancellation: only the first one counts. -/
def cancelEvents (world : World σ) : Option String → List Event
  | none => []
  | some reason => if world.token.isCancelled then [] else [.cancelled reason]

end World

/-- What an effect gives, and what happens by it. -/
def Effect.handle {σ α : Type} (environment : Environment σ) :
    Effect α → World σ → α × List Event × World σ
  | .send request, world =>
    let (reply, reason, state) := environment.answer world.state request
    (reply, .sent request reply :: world.cancelEvents reason,
      { world.cancel reason with state })
  | .cancellation, world => (world.token.reason, [], world)
  | .pause millis, world =>
    match world.token.reason with
    | some reason => (some reason, [], world)
    | none =>
      let (reason, state) := environment.pass world.state millis
      (reason, .paused millis :: world.cancelEvents reason, { world.cancel reason with state })
  | .recall, world => (world.memo, [], world)
  | .remember capability, world => ((), [], { world with memo := some capability })
  | .note event, world => ((), [.noted event], world)
  | .print line, world => ((), [.printed line], world)

namespace Program

variable {σ α : Type}

/-- The run of a program. -/
def run (environment : Environment σ) : Program α → World σ → Run σ α
  | done result, world => ⟨some result, [], world⟩
  | unfinished, world => ⟨none, [], world⟩
  | act effect next, world =>
    let (answer, events, world) := effect.handle environment world
    let rest := (next answer).run environment world
    { rest with trace := events ++ rest.trace }

end Program

/-- The run that continues with another program after the result of a run. -/
def Run.andThen {σ α β : Type} (environment : Environment σ) (first : Run σ α)
    (next : α → Program β) : Run σ β :=
  match first.result with
  | none => ⟨none, first.trace, first.world⟩
  | some result =>
    let rest := (next result).run environment first.world
    { rest with trace := first.trace ++ rest.trace }

namespace Program

variable {σ α β : Type}

/-- Two programs in a row run one after the other. -/
theorem run_bind (environment : Environment σ) (program : Program α) (next : α → Program β)
    (world : World σ) :
    (program >>= next).run environment world =
      (program.run environment world).andThen environment next := by
  induction program generalizing world with
  | done result => simp [run, Run.andThen]
  | unfinished => rfl
  | act effect rest ih =>
    simp only [act_bind, run, ih, Run.andThen]
    split <;> simp_all

end Program

end ReleaseStaging
