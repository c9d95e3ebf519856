import ReleaseStaging.Exchange
import ReleaseStaging.LogEvent

/-!
# Programs that talk to the server

An operation on the server is written as a `Program`: a result, or an effect together with the
program that goes on from what the effect gives. Nothing is done by writing a program; it says for
every answer of the server, and for every moment of a cancellation, what is done next.
Main statements: programs are a lawful monad, so they can be taken apart at every step.
-/

namespace ReleaseStaging

/-- What a program can ask of the world, by the type of what it gets. -/
inductive Effect : Type → Type where
  /-- Send a request and wait for what comes of it. -/
  | send (request : Request) : Effect Reply
  /-- Learn whether waiting was cancelled, and why. -/
  | cancellation : Effect (Option String)
  /-- Wait for some milliseconds or until cancelled; the reason tells of a cancellation. -/
  | pause (millis : Nat) : Effect (Option String)
  /-- Recall what the server is able to do, if it is known. -/
  | recall : Effect (Option Capability)
  /-- Remember what the server is able to do. -/
  | remember (capability : Capability) : Effect Unit
  /-- Write to the log. -/
  | note (event : LogEvent) : Effect Unit
  /-- Write a result for the user. -/
  | print (line : String) : Effect Unit

/-- A program with a result of the given type. -/
inductive Program (α : Type) : Type 1 where
  /-- Nothing is left to do. -/
  | done (result : α)
  /-- An effect comes next. -/
  | act {β : Type} (effect : Effect β) (next : β → Program α)
  /-- The program goes on beyond what is followed. -/
  | unfinished

namespace Program

variable {α β γ : Type}

/-- One program after another. -/
def bind : Program α → (α → Program β) → Program β
  | done result, next => next result
  | act effect rest, next => act effect fun answer => (rest answer).bind next
  | unfinished, _ => unfinished

instance : Monad Program where
  pure := done
  bind := bind

@[simp] theorem pure_eq_done (result : α) : (pure result : Program α) = done result := rfl

@[simp] theorem done_bind (result : α) (next : α → Program β) :
    done result >>= next = next result := rfl

@[simp] theorem act_bind (effect : Effect γ) (rest : γ → Program α) (next : α → Program β) :
    act effect rest >>= next = act effect fun answer => rest answer >>= next := rfl

@[simp] theorem unfinished_bind (next : α → Program β) :
    unfinished >>= next = unfinished := rfl

/-- A program followed by handing on its result is the program. -/
theorem bind_done (program : Program α) : program >>= done = program := by
  induction program with
  | done => rfl
  | act effect rest ih => simp [ih]
  | unfinished => rfl

/-- Of three programs in a row any two neighbours can be taken together. -/
theorem bind_assoc (program : Program α) (next : α → Program β) (last : β → Program γ) :
    program >>= next >>= last = program >>= fun result => next result >>= last := by
  induction program with
  | done => rfl
  | act effect rest ih => simp [ih]
  | unfinished => rfl

instance : LawfulMonad Program :=
  .mk' Program bind_done (fun _ _ => rfl) bind_assoc

/-- The program of one effect. -/
def perform (effect : Effect α) : Program α :=
  act effect done

end Program

/-- A program that may fail. -/
abbrev Operation (α : Type) : Type 1 :=
  ExceptT Failure Program α

namespace Operation

variable {α : Type}

/-- One effect, which itself does not fail. -/
def perform (effect : Effect α) : Operation α :=
  ExceptT.lift (Program.perform effect)

/-- Writes to the log. -/
def note (event : LogEvent) : Operation Unit :=
  perform (.note event)

/-- Sends a request, which fails if no answer comes. -/
def send (request : Request) : Operation Response := do
  let reply ← perform (.send request)
  Reply.response request reply

end Operation

end ReleaseStaging
