import ReleaseStaging.Cancellation

/-!
# A token that many tasks share

Tasks that use one token at the same time make calls whose small steps may alternate in any order.
Who cancels raises a flag; only if it was down, the reason is written and a bell is rung. Who waits
registers with the bell first, then looks at the flag, and parks only if the flag is down; once
woken, it starts over. Main statement: calls that do not overlap are the operations of a token.
-/

namespace ReleaseStaging

variable {β τ : Type}

/-! ## The bell -/

/-- A bell by which those who wait are woken. `β` is all that it remembers, and `τ` are the tickets
of those who registered. -/
structure Bell (β τ : Type) where
  /-- Registers someone, who gets a ticket. -/
  register : β → τ × β
  /-- Wakes everyone who is registered. -/
  ring : β → β
  /-- Whether the holder of a ticket was woken. -/
  isWoken : β → τ → Bool

namespace Bell

/-- What a bell remembers after any number of registrations and rings. -/
inductive Leads (bell : Bell β τ) (start : β) : β → Prop where
  | refl : Leads bell start start
  | register {last : β} (h : Leads bell start last) : Leads bell start (bell.register last).2
  | ring {last : β} (h : Leads bell start last) : Leads bell start (bell.ring last)

/-- Who registered before a ring is woken by it, whatever happens to the bell before and after the
ring. -/
def WakesRegistered (bell : Bell β τ) : Prop :=
  ∀ start rung last, bell.Leads (bell.register start).2 rung → bell.Leads (bell.ring rung) last →
    bell.isWoken last (bell.register start).1 = true

/-- The bell that counts how often it rang; a ticket tells the count at the registration. -/
def counting : Bell Nat Nat where
  register count := (count, count)
  ring count := count + 1
  isWoken count ticket := ticket < count

/-- The count never goes down. -/
theorem Leads.counting_le {start last : Nat} (h : counting.Leads start last) : start ≤ last := by
  induction h with
  | refl => exact Nat.le_refl start
  | register _ ih => exact ih
  | ring _ ih => exact Nat.le_succ_of_le ih

/-- A bell that counts wakes everyone who is registered. -/
theorem counting_wakesRegistered : counting.WakesRegistered := by
  intro start rung last hbefore hafter
  have hstart : start ≤ rung := hbefore.counting_le
  have hrung : rung + 1 ≤ last := hafter.counting_le
  simpa [counting] using Nat.lt_of_le_of_lt hstart hrung

end Bell

/-! ## Calls and their steps -/

/-- What the calls on a token share. -/
structure SharedToken (β : Type) where
  /-- Whether the flag is up: cancellation was requested. -/
  isRaised : Bool
  /-- The reason, once it is written. -/
  reason : Option String
  /-- What the bell remembers. -/
  bell : β
  deriving DecidableEq, Repr

/-- What is asked of a shared token. -/
inductive TokenRequest where
  /-- Cancel it for a reason. -/
  | cancel (reason : String)
  /-- Wait until it is cancelled. -/
  | wait
  /-- Learn whether it is cancelled. -/
  | isCancelled
  /-- Learn why it is cancelled. -/
  | reason
  deriving DecidableEq, Repr

/-- How far a call on a shared token has come: the step that it takes next, or how it ended. -/
inductive TokenCall (τ : Type) where
  /-- Raises the flag unless it is up. -/
  | raising (reason : String)
  /-- Has raised the flag, and writes the reason. -/
  | writing (reason : String)
  /-- Has written the reason, and rings the bell. -/
  | ringing (reason : String)
  /-- Has cancelled the token. -/
  | hasCancelled (reason : String)
  /-- Has found the flag up and left everything as it was. -/
  | cameLate (reason : String)
  /-- Registers with the bell. -/
  | registering
  /-- Is registered, and looks at the flag. -/
  | looking (ticket : τ)
  /-- Has seen the flag down, and parks. -/
  | parking (ticket : τ)
  /-- Is parked, and goes on once it is woken. -/
  | parked (ticket : τ)
  /-- Has seen the flag up: the wait is over. -/
  | released
  /-- The wait was given up. -/
  | abandoned
  /-- Asks whether the flag is up. -/
  | askingFlag
  /-- Was told whether the flag is up. -/
  | toldFlag (isRaised : Bool)
  /-- Asks for the reason. -/
  | askingReason
  /-- Was told the reason. -/
  | toldReason (reason : Option String)
  deriving DecidableEq, Repr

/-- The first step of a call. -/
def TokenRequest.start : TokenRequest → TokenCall τ
  | .cancel why => .raising why
  | .wait => .registering
  | .isCancelled => .askingFlag
  | .reason => .askingReason

namespace TokenCall

/-- One step of a call. A parked call that is not woken stays where it is, as does one that has
ended. -/
def step (bell : Bell β τ) (call : TokenCall τ) (token : SharedToken β) :
    TokenCall τ × SharedToken β :=
  match call with
  | raising reason =>
    if token.isRaised then (cameLate reason, token)
    else (writing reason, { token with isRaised := true })
  | writing reason => (ringing reason, { token with reason := some reason })
  | ringing reason => (hasCancelled reason, { token with bell := bell.ring token.bell })
  | registering =>
    let (ticket, registered) := bell.register token.bell
    (looking ticket, { token with bell := registered })
  | looking ticket => (if token.isRaised then released else parking ticket, token)
  | parking ticket => (parked ticket, token)
  | parked ticket => (if bell.isWoken token.bell ticket then registering else parked ticket, token)
  | askingFlag => (toldFlag token.isRaised, token)
  | askingReason => (toldReason token.reason, token)
  | ended => (ended, token)

/-- A call after so many steps that no other call interrupts, and what they leave. -/
def alone (bell : Bell β τ) : Nat → TokenCall τ → SharedToken β → TokenCall τ × SharedToken β
  | 0, call, token => (call, token)
  | steps + 1, call, token =>
    let (call, token) := call.step bell token
    alone bell steps call token

/-- Whether a call waits for a cancellation. -/
def isWaiting : TokenCall τ → Bool
  | registering | looking _ | parking _ | parked _ => true
  | _ => false

/-- A call that is given up: a wait ends, and any other call goes on. -/
def abandon (call : TokenCall τ) : TokenCall τ :=
  if call.isWaiting then abandoned else call

end TokenCall

/-! ## Many calls -/

/-- A shared token with all calls on it, numbered in the order in which they begin. -/
structure TokenTraffic (β τ : Type) where
  /-- What the calls share. -/
  token : SharedToken β
  /-- The calls. -/
  calls : List (TokenCall τ)
  deriving DecidableEq, Repr

/-- What may happen next. -/
inductive TokenMove where
  /-- Some task begins a call. -/
  | begin (request : TokenRequest)
  /-- The call with a number takes a step. -/
  | proceed (number : Nat)
  /-- The call with a number, if it waits, is given up. -/
  | abandon (number : Nat)
  deriving DecidableEq, Repr

namespace TokenTraffic

/-- A token that no one has used. -/
def fresh (bell : β) : TokenTraffic β τ := ⟨⟨false, none, bell⟩, []⟩

/-- What one move changes. -/
def move (bell : Bell β τ) (traffic : TokenTraffic β τ) : TokenMove → TokenTraffic β τ
  | .begin request => { traffic with calls := traffic.calls ++ [request.start] }
  | .proceed number =>
    match traffic.calls[number]? with
    | none => traffic
    | some call =>
      let (call, token) := call.step bell traffic.token
      ⟨token, traffic.calls.set number call⟩
  | .abandon number => { traffic with calls := traffic.calls.modify number TokenCall.abandon }

theorem move_proceed {bell : Bell β τ} {traffic : TokenTraffic β τ} {number : Nat}
    {call : TokenCall τ} (h : traffic.calls[number]? = some call) :
    traffic.move bell (.proceed number) = ⟨(call.step bell traffic.token).2,
      traffic.calls.set number (call.step bell traffic.token).1⟩ := by
  simp only [move, h]

/-- A call that has not begun takes no step. -/
theorem move_proceed_of_none {bell : Bell β τ} {traffic : TokenTraffic β τ} {number : Nat}
    (h : traffic.calls[number]? = none) : traffic.move bell (.proceed number) = traffic := by
  simp only [move, h]

/-- What any number of moves make of a token. -/
def after (bell : Bell β τ) (traffic : TokenTraffic β τ) (moves : List TokenMove) :
    TokenTraffic β τ :=
  moves.foldl (move bell) traffic

@[simp] theorem after_nil (bell : Bell β τ) (traffic : TokenTraffic β τ) :
    traffic.after bell [] = traffic := rfl

theorem after_cons (bell : Bell β τ) (traffic : TokenTraffic β τ) (move : TokenMove)
    (moves : List TokenMove) :
    traffic.after bell (move :: moves) = (traffic.move bell move).after bell moves := rfl

/-- A token after moves before which no one had used it; its bell may have been in any state. -/
def course (bell : Bell β τ) (start : β) (moves : List TokenMove) : TokenTraffic β τ :=
  (fresh start).after bell moves

theorem course_append (bell : Bell β τ) (start : β) (moves later : List TokenMove) :
    course bell start (moves ++ later) = (course bell start moves).after bell later :=
  List.foldl_append

theorem course_concat (bell : Bell β τ) (start : β) (moves : List TokenMove) (last : TokenMove) :
    course bell start (moves ++ [last]) = (course bell start moves).move bell last := by
  rw [course_append, after_cons, after_nil]

end TokenTraffic

/-! ## Calls that do not overlap -/

namespace SharedToken

/-- The token that those see who look at the reason. -/
def token (shared : SharedToken β) : CancellationToken := ⟨shared.reason⟩

/-- No call is about to write the reason. -/
def IsSettled (shared : SharedToken β) : Prop := shared.isRaised = shared.reason.isSome

/-- A call that no other one overlaps is an operation of the token: it cancels the token, or tells
whether and why it is cancelled, or waits unless it is. -/
theorem alone_eq (bell : Bell β τ) {shared : SharedToken β} (h : shared.IsSettled)
    (reason : String) :
    ((TokenRequest.cancel reason).start.alone bell 3 shared).2.token =
        shared.token.cancel reason ∧
      ((TokenRequest.cancel reason).start.alone bell 3 shared).2.IsSettled ∧
      TokenRequest.isCancelled.start.alone bell 1 shared =
        (.toldFlag shared.token.isCancelled, shared) ∧
      TokenRequest.reason.start.alone bell 1 shared =
        (.toldReason shared.token.reason, shared) ∧
      ((TokenRequest.wait.start.alone bell 2 shared).1 = .released ↔
        shared.token.isCancelled = true) := by
  obtain ⟨isRaised, written, rung⟩ := shared
  obtain rfl : isRaised = written.isSome := h
  have hwait : (TokenRequest.wait.start.alone bell 2 ⟨written.isSome, written, rung⟩).1 =
      if written.isSome then .released else .parking (bell.register rung).1 := rfl
  rw [hwait]
  cases written with
  | none => exact ⟨rfl, rfl, rfl, rfl, by simp [token, CancellationToken.isCancelled]⟩
  | some first => exact ⟨rfl, rfl, rfl, rfl, by simp [token, CancellationToken.isCancelled]⟩

end SharedToken

end ReleaseStaging
