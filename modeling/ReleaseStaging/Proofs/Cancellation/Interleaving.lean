import Mathlib.Data.List.Induction
import ReleaseStaging.Cancellation.Shared

/-!
# Cancelling and waiting at the same time

Any number of calls on one shared token take their steps in any order. The cancellation of the
token then goes through the same phases: a call raises the flag, writes its reason and rings the
bell. Each step keeps the phase or leads to the next one, and where a call stands is bound to the
phase: above all, once the bell has rung, the ticket of a call that saw the flag down was registered
before the ring. Main statement: `cancellation_reaches_waits`.
-/

namespace ReleaseStaging

variable {β τ : Type}

/-! ## Tickets -/

namespace Bell

/-- A ticket was given out. -/
def IsGivenOut (bell : Bell β τ) (now : β) (ticket : τ) : Prop :=
  ∃ start, bell.Leads (bell.register start).2 now ∧ (bell.register start).1 = ticket

/-- The bell rang after a ticket was given out. -/
def HasRungFor (bell : Bell β τ) (now : β) (ticket : τ) : Prop :=
  ∃ start rung, bell.Leads (bell.register start).2 rung ∧ bell.Leads (bell.ring rung) now ∧
    (bell.register start).1 = ticket

variable {bell : Bell β τ} {now : β} {ticket : τ}

theorem IsGivenOut.register (h : bell.IsGivenOut now ticket) :
    bell.IsGivenOut (bell.register now).2 ticket := by
  obtain ⟨start, hleads, rfl⟩ := h
  exact ⟨start, hleads.register, rfl⟩

theorem IsGivenOut.ring (h : bell.IsGivenOut now ticket) :
    bell.IsGivenOut (bell.ring now) ticket := by
  obtain ⟨start, hleads, rfl⟩ := h
  exact ⟨start, hleads.ring, rfl⟩

/-- A ring is one for every ticket that was given out before it. -/
theorem IsGivenOut.hasRungFor (h : bell.IsGivenOut now ticket) :
    bell.HasRungFor (bell.ring now) ticket := by
  obtain ⟨start, hleads, rfl⟩ := h
  exact ⟨start, now, hleads, .refl, rfl⟩

theorem HasRungFor.register (h : bell.HasRungFor now ticket) :
    bell.HasRungFor (bell.register now).2 ticket := by
  obtain ⟨start, rung, hbefore, hafter, rfl⟩ := h
  exact ⟨start, rung, hbefore, hafter.register, rfl⟩

theorem HasRungFor.isWoken (h : bell.HasRungFor now ticket) (hbell : bell.WakesRegistered) :
    bell.isWoken now ticket = true := by
  obtain ⟨start, rung, hbefore, hafter, rfl⟩ := h
  exact hbell start rung now hbefore hafter

end Bell

/-! ## Phases of a cancellation -/

/-- How far the cancellation of a token has come, by which call and for which reason. -/
inductive CancellationPhase where
  /-- The flag is down. -/
  | pending
  /-- The flag is up. -/
  | raised (number : Nat) (reason : String)
  /-- The reason is written. -/
  | written (number : Nat) (reason : String)
  /-- The bell has rung. -/
  | rung (number : Nat) (reason : String)
  deriving DecidableEq, Repr

namespace CancellationPhase

/-- The call that cancels, and its reason. -/
def canceller? : CancellationPhase → Option (Nat × String)
  | pending => none
  | raised number reason | written number reason | rung number reason => some (number, reason)

/-- The reason that can be read. -/
def reason? : CancellationPhase → Option String
  | pending | raised _ _ => none
  | written _ reason | rung _ reason => some reason

/-- Whether the bell has rung. -/
def hasRung : CancellationPhase → Bool
  | rung _ _ => true
  | _ => false

/-- What calls share in a phase. -/
structure Describes (phase : CancellationPhase) (token : SharedToken β) : Prop where
  /-- The flag is up once some call cancels. -/
  isRaised : token.isRaised = phase.canceller?.isSome
  /-- The reason is that of the phase. -/
  reason : token.reason = phase.reason?

/-- What a step of the call with a number makes of the phase and of the bell. -/
inductive Advances (bell : Bell β τ) (number : Nat) :
    CancellationPhase → β → CancellationPhase → β → Prop where
  | keep {phase : CancellationPhase} {now : β} : Advances bell number phase now phase now
  | register {phase : CancellationPhase} {now : β} :
      Advances bell number phase now phase (bell.register now).2
  | raise {reason : String} {now : β} :
      Advances bell number .pending now (.raised number reason) now
  | write {reason : String} {now : β} :
      Advances bell number (.raised number reason) now (.written number reason) now
  | ring {reason : String} {now : β} :
      Advances bell number (.written number reason) now (.rung number reason) (bell.ring now)

namespace Advances

variable {bell : Bell β τ} {phase next : CancellationPhase} {now later : β} {number : Nat}

/-- A flag that is up stays up. -/
theorem isSome_canceller (h : Advances bell number phase now next later)
    (hphase : phase.canceller?.isSome = true) : next.canceller?.isSome = true := by
  cases h <;> first | exact hphase | rfl

/-- Only the call that cancels goes on with it. -/
theorem eq_of_canceller {other : Nat} {reason : String}
    (h : Advances bell number phase now next later) (hother : other ≠ number)
    (hphase : phase.canceller? = some (other, reason)) : next = phase := by
  cases h with
  | keep | register => rfl
  | raise => cases hphase
  | write | ring =>
    cases hphase
    exact absurd rfl hother

/-- A reason that is written stays. -/
theorem reason_eq_some {reason : String} (h : Advances bell number phase now next later)
    (hphase : phase.reason? = some reason) : next.reason? = some reason := by
  cases h <;> first | exact hphase | cases hphase

theorem isGivenOut {ticket : τ} (h : Advances bell number phase now next later)
    (hticket : bell.IsGivenOut now ticket) : bell.IsGivenOut later ticket := by
  cases h with
  | keep | raise | write => exact hticket
  | register => exact hticket.register
  | ring => exact hticket.ring

/-- The ring comes after every ticket that was given out before it. -/
theorem hasRungFor {ticket : τ} (h : Advances bell number phase now next later)
    (hticket : bell.IsGivenOut now ticket)
    (hphase : phase.hasRung = true → bell.HasRungFor now ticket) (hnext : next.hasRung = true) :
    bell.HasRungFor later ticket := by
  cases h with
  | keep => exact hphase hnext
  | register => exact (hphase hnext).register
  | raise | write => cases hnext
  | ring => exact hticket.hasRungFor

end Advances

/-- Before the flag is up, the bell has not rung. -/
theorem hasRung_eq_false {phase : CancellationPhase} (h : phase.canceller?.isSome = false) :
    phase.hasRung = false := by
  cases phase <;> first | rfl | cases h

/-- Before the flag is up, a cancellation is pending. -/
theorem eq_pending {phase : CancellationPhase} (h : phase.canceller?.isSome = false) :
    phase = .pending := by
  cases phase <;> first | rfl | cases h

end CancellationPhase

open CancellationPhase (Advances)

/-! ## Where calls stand -/

/-- The call with a number stands where the phase lets it stand. A call that cancels is the one of
the phase; what has seen the flag up, or a reason, has seen those of the phase; and the bell, if it
has rung, rang after the registration of a call that has seen the flag down. -/
def TokenCall.Fits (bell : Bell β τ) (phase : CancellationPhase) (now : β) (number : Nat) :
    TokenCall τ → Prop
  | writing reason => phase = .raised number reason
  | ringing reason => phase = .written number reason
  | hasCancelled reason => phase = .rung number reason
  | cameLate _ | released => phase.canceller?.isSome = true
  | looking ticket => bell.IsGivenOut now ticket
  | parking ticket | parked ticket =>
    bell.IsGivenOut now ticket ∧ (phase.hasRung = true → bell.HasRungFor now ticket)
  | toldFlag isRaised => isRaised = true → phase.canceller?.isSome = true
  | toldReason reason => ∀ text, reason = some text → phase.reason? = some text
  | raising _ | registering | abandoned | askingFlag | askingReason => True

variable {bell : Bell β τ} {phase next : CancellationPhase} {now later : β} {number : Nat}

/-- A call fits the phase in which it begins. -/
theorem TokenRequest.fits_start (request : TokenRequest) :
    (request.start : TokenCall τ).Fits bell phase now number := by
  cases request <;> trivial

/-- A call may be given up in any phase. -/
theorem TokenCall.Fits.abandon {call : TokenCall τ} (h : call.Fits bell phase now number) :
    call.abandon.Fits bell phase now number := by
  cases call <;> first | exact h | trivial

/-- A step of another call leaves a call where it may stand. -/
theorem TokenCall.Fits.advance {other : Nat} {call : TokenCall τ}
    (h : call.Fits bell phase now other) (hother : other ≠ number)
    (hadvance : Advances bell number phase now next later) : call.Fits bell next later other := by
  cases call with
  | writing reason | ringing reason | hasCancelled reason =>
    have hcanceller : phase.canceller? = some (other, reason) := by
      rw [show phase = _ from h]
      rfl
    exact (hadvance.eq_of_canceller hother hcanceller).trans h
  | cameLate | released => exact hadvance.isSome_canceller h
  | looking ticket => exact hadvance.isGivenOut h
  | parking ticket | parked ticket => exact ⟨hadvance.isGivenOut h.1, hadvance.hasRungFor h.1 h.2⟩
  | toldFlag isRaised => exact fun hraised => hadvance.isSome_canceller (h hraised)
  | toldReason reason => exact fun text htext => hadvance.reason_eq_some (h text htext)
  | raising | registering | abandoned | askingFlag | askingReason => trivial

/-- A step of a call keeps the phase or leads to the next one. Who finds the flag down cancels. -/
theorem TokenCall.Fits.step {call : TokenCall τ} {token : SharedToken β}
    (h : call.Fits bell phase token.bell number) (htoken : phase.Describes token) :
    ∃ next, Advances bell number phase token.bell next (call.step bell token).2.bell ∧
      next.Describes (call.step bell token).2 ∧
      (call.step bell token).1.Fits bell next (call.step bell token).2.bell number ∧
      ∀ other reason, next.canceller? = some (other, reason) ↔
        phase.canceller? = some (other, reason) ∨
          other = number ∧ token.isRaised = false ∧ call = .raising reason := by
  have hraised := htoken.isRaised
  cases call with
  | raising reason =>
    simp only [TokenCall.step]
    cases hflag : token.isRaised with
    | true => exact ⟨phase, .keep, htoken, hraised.symm.trans hflag, by simp⟩
    | false =>
      obtain rfl := CancellationPhase.eq_pending (hraised.symm.trans hflag)
      exact ⟨.raised number reason, .raise, ⟨rfl, htoken.reason⟩, rfl, by
        simp [CancellationPhase.canceller?, eq_comm]⟩
  | writing reason =>
    obtain rfl : phase = .raised number reason := h
    exact ⟨.written number reason, .write, ⟨hraised, rfl⟩, rfl, by
      simp [CancellationPhase.canceller?]⟩
  | ringing reason =>
    obtain rfl : phase = .written number reason := h
    exact ⟨.rung number reason, .ring, ⟨hraised, htoken.reason⟩, rfl, by
      simp [CancellationPhase.canceller?]⟩
  | registering =>
    exact ⟨phase, .register, ⟨hraised, htoken.reason⟩, ⟨token.bell, .refl, rfl⟩, by simp⟩
  | looking ticket =>
    refine ⟨phase, .keep, htoken, ?_, by simp⟩
    simp only [TokenCall.step]
    cases hflag : token.isRaised with
    | true => exact hraised.symm.trans hflag
    | false =>
      -- The flag is down, so the bell has not rung yet: the ticket will be older than the ring.
      have hquiet := CancellationPhase.hasRung_eq_false (hraised.symm.trans hflag)
      exact ⟨h, fun hrung => absurd (hquiet.symm.trans hrung) Bool.false_ne_true⟩
  | parked ticket =>
    refine ⟨phase, .keep, htoken, ?_, by simp⟩
    simp only [TokenCall.step]
    cases bell.isWoken token.bell ticket with
    | true => trivial
    | false => exact h
  | askingFlag => exact ⟨phase, .keep, htoken, fun hflag => hraised.symm.trans hflag, by simp⟩
  | askingReason =>
    exact ⟨phase, .keep, htoken, fun _ htext => htoken.reason.symm.trans htext, by simp⟩
  | _ => exact ⟨phase, .keep, htoken, h, by simp⟩

/-! ## Any order of steps -/

namespace TokenTraffic

/-- A shared token and all calls on it are in a phase. -/
structure IsIn (bell : Bell β τ) (phase : CancellationPhase) (traffic : TokenTraffic β τ) :
    Prop where
  /-- What the calls share is what it is in the phase. -/
  token : phase.Describes traffic.token
  /-- Every call stands where the phase lets it stand. -/
  calls : ∀ number call, traffic.calls[number]? = some call →
    TokenCall.Fits bell phase traffic.token.bell number call

/-- The call with a number was the first to exchange the flag, in a course of moves on a token that
no one had used: the flag was down when it did. -/
def IsRaisedBy (bell : Bell β τ) (start : β) (moves : List TokenMove) (number : Nat)
    (reason : String) : Prop :=
  ∃ earlier later, moves = earlier ++ .proceed number :: later ∧
    (course bell start earlier).token.isRaised = false ∧
    (course bell start earlier).calls[number]? = some (.raising reason)

variable {traffic : TokenTraffic β τ} {start : β}

/-- The last of some moves raises the flag if it is the step of a call that finds it down. -/
theorem isRaisedBy_concat {moves : List TokenMove} {last : TokenMove} {reason : String} :
    IsRaisedBy bell start (moves ++ [last]) number reason ↔
      IsRaisedBy bell start moves number reason ∨ last = .proceed number ∧
        (course bell start moves).token.isRaised = false ∧
        (course bell start moves).calls[number]? = some (.raising reason) := by
  constructor
  · rintro ⟨earlier, later, hmoves, hdown, hcall⟩
    rcases List.eq_nil_or_concat later with rfl | ⟨front, final, rfl⟩
    · obtain ⟨rfl, hlast⟩ := List.append_inj' hmoves rfl
      exact .inr ⟨List.singleton_inj.mp hlast, hdown, hcall⟩
    · rw [List.concat_eq_append, ← List.cons_append, ← List.append_assoc] at hmoves
      exact .inl ⟨earlier, front, (List.append_inj' hmoves rfl).1, hdown, hcall⟩
  · rintro (⟨earlier, later, rfl, hdown, hcall⟩ | ⟨rfl, hdown, hcall⟩)
    · exact ⟨earlier, later ++ [last], by simp, hdown, hcall⟩
    · exact ⟨moves, [], rfl, hdown, hcall⟩

/-- Replacing one call leaves the others. -/
private theorem getElem?_set_cases {calls : List (TokenCall τ)} {other : Nat}
    {call found : TokenCall τ} (h : (calls.set number call)[other]? = some found) :
    other = number ∧ found = call ∨ other ≠ number ∧ calls[other]? = some found := by
  rw [List.getElem?_set] at h
  split at h
  · rename_i heq
    split at h
    · exact .inl ⟨heq.symm, (Option.some.inj h).symm⟩
    · cases h
  · rename_i hne
    exact .inr ⟨Ne.symm hne, h⟩

/-- Every move keeps the phase or leads to the next one; the call that finds the flag down is the
one that cancels. -/
theorem IsIn.move (h : traffic.IsIn bell phase) (move : TokenMove) :
    ∃ next, (traffic.move bell move).IsIn bell next ∧ ∀ number reason,
      next.canceller? = some (number, reason) ↔ phase.canceller? = some (number, reason) ∨
        move = .proceed number ∧ traffic.token.isRaised = false ∧
          traffic.calls[number]? = some (.raising reason) := by
  cases move with
  | begin request =>
    refine ⟨phase, ⟨h.token, ?_⟩, by simp⟩
    intro number call hcall
    simp only [TokenTraffic.move, List.getElem?_append] at hcall
    split at hcall
    · exact h.calls number call hcall
    · obtain rfl := List.mem_singleton.mp (List.mem_of_getElem? hcall)
      exact request.fits_start
  | proceed number =>
    cases hcall : traffic.calls[number]? with
    | none =>
      rw [move_proceed_of_none hcall]
      refine ⟨phase, h, fun other reason => ?_⟩
      apply (or_iff_left _).symm
      rintro ⟨heq, -, hfirst⟩
      cases heq
      rw [hcall] at hfirst
      cases hfirst
    | some call =>
      obtain ⟨next, hadvance, htoken, hfits, hcanceller⟩ := (h.calls number call hcall).step h.token
      rw [move_proceed hcall]
      refine ⟨next, ⟨htoken, ?_⟩, fun other reason => ?_⟩
      · intro other found hfound
        rcases getElem?_set_cases hfound with ⟨rfl, rfl⟩ | ⟨hother, hfound⟩
        · exact hfits
        · exact (h.calls other found hfound).advance hother hadvance
      · rw [hcanceller]
        apply or_congr_right
        constructor
        · rintro ⟨rfl, hdown, rfl⟩
          exact ⟨rfl, hdown, hcall⟩
        · rintro ⟨heq, hdown, hfirst⟩
          cases heq
          exact ⟨rfl, hdown, Option.some.inj (hcall.symm.trans hfirst)⟩
  | abandon number =>
    refine ⟨phase, ⟨h.token, ?_⟩, by simp⟩
    intro other found hfound
    simp only [TokenTraffic.move, List.getElem?_modify] at hfound
    obtain ⟨call, hcall, rfl⟩ := Option.map_eq_some_iff.mp hfound
    have hfits := h.calls other call hcall
    split
    · exact hfits.abandon
    · exact hfits

/-- After any moves a token is in some phase, and the call that cancels is the one that exchanged
the flag first. -/
theorem exists_isIn (bell : Bell β τ) (start : β) (moves : List TokenMove) :
    ∃ phase, (course bell start moves).IsIn bell phase ∧ ∀ number reason,
      IsRaisedBy bell start moves number reason ↔ phase.canceller? = some (number, reason) := by
  induction moves using List.reverseRecOn with
  | nil =>
    refine ⟨.pending, ⟨⟨rfl, rfl⟩, by simp [course, fresh]⟩, fun number reason => ?_⟩
    simp [IsRaisedBy, CancellationPhase.canceller?]
  | append_singleton moves last ih =>
    obtain ⟨phase, hphase, hraised⟩ := ih
    obtain ⟨next, hnext, hcanceller⟩ := hphase.move last
    refine ⟨next, by rwa [course_concat], fun number reason => ?_⟩
    rw [isRaisedBy_concat, hraised, hcanceller]

/-! ## The reason -/

/-- Only the step that writes the reason changes it. -/
private theorem reason_step_cases (bell : Bell β τ) (call : TokenCall τ) (token : SharedToken β) :
    (call.step bell token).2.reason = token.reason ∨
      ∃ reason, call = .writing reason ∧ (call.step bell token).2.reason = some reason := by
  cases call with
  | raising reason =>
    simp only [TokenCall.step]
    cases token.isRaised <;> exact .inl rfl
  | writing reason => exact .inr ⟨reason, rfl, rfl⟩
  | _ => exact .inl rfl

/-- A move that changes the reason is the step of the call that cancels, and no reason was there. -/
theorem IsIn.reason_move_cases (h : traffic.IsIn bell phase) (move : TokenMove) :
    (traffic.move bell move).token.reason = traffic.token.reason ∨
      ∃ number reason, move = .proceed number ∧ phase.canceller? = some (number, reason) ∧
        traffic.token.reason = none ∧ (traffic.move bell move).token.reason = some reason := by
  cases move with
  | begin request => exact .inl rfl
  | proceed number =>
    cases hcall : traffic.calls[number]? with
    | none => exact .inl (by rw [move_proceed_of_none hcall])
    | some call =>
      rw [move_proceed hcall]
      rcases reason_step_cases bell call traffic.token with hsame | ⟨reason, rfl, hwritten⟩
      · exact .inl hsame
      · obtain rfl : phase = .raised number reason := h.calls number _ hcall
        exact .inr ⟨number, reason, rfl, rfl, h.token.reason, hwritten⟩
  | abandon number => exact .inl rfl

/-- A reason that is written stays. -/
theorem IsIn.reason_after (h : traffic.IsIn bell phase) {reason : String}
    (hreason : traffic.token.reason = some reason) (moves : List TokenMove) :
    (traffic.after bell moves).token.reason = some reason := by
  induction moves generalizing traffic phase with
  | nil => exact hreason
  | cons move moves ih =>
    obtain ⟨next, hnext, -⟩ := h.move move
    rw [after_cons]
    apply ih hnext
    rcases h.reason_move_cases move with hsame | ⟨_, _, _, _, hnone, _⟩
    · exact hsame.trans hreason
    · rw [hreason] at hnone
      cases hnone

/-! ## The end of a wait -/

/-- What a move makes of a call. -/
theorem getElem?_calls_move (move : TokenMove) {call : TokenCall τ}
    (hcall : traffic.calls[number]? = some call) :
    (traffic.move bell move).calls[number]? =
      some (if move = .proceed number then (call.step bell traffic.token).1
        else if move = .abandon number then call.abandon else call) := by
  have hnumber : number < traffic.calls.length := (List.getElem?_eq_some_iff.mp hcall).1
  cases move with
  | begin request =>
    simp only [reduceCtorEq, if_false]
    exact (List.getElem?_append_left hnumber).trans hcall
  | proceed other =>
    cases hother : traffic.calls[other]? with
    | none =>
      have hne : other ≠ number := by
        rintro rfl
        rw [hcall] at hother
        cases hother
      simpa [move_proceed_of_none hother, hne] using hcall
    | some found =>
      rw [move_proceed hother, List.getElem?_set]
      by_cases hsame : other = number
      · subst hsame
        obtain rfl := Option.some.inj (hcall.symm.trans hother)
        simp [hnumber]
      · simpa [hsame] using hcall
  | abandon other =>
    simp only [TokenTraffic.move, List.getElem?_modify, hcall, reduceCtorEq, if_false,
      TokenMove.abandon.injEq]
    rfl

/-- A call that has cancelled the token stays where it is. -/
theorem hasCancelled_move (move : TokenMove) {reason : String}
    (hcall : traffic.calls[number]? = some (.hasCancelled reason)) :
    (traffic.move bell move).calls[number]? = some (.hasCancelled reason) := by
  rw [getElem?_calls_move move hcall]
  split
  · rfl
  · split <;> rfl

end TokenTraffic

/-- The steps that a wait still takes after the bell has rung. -/
def TokenCall.stepsLeft : TokenCall τ → Nat
  | parking _ => 4
  | parked _ => 3
  | registering => 2
  | looking _ => 1
  | _ => 0

/-- A wait is over when no step is left. -/
theorem TokenCall.stepsLeft_eq_zero_iff {call : TokenCall τ} :
    call.stepsLeft = 0 ↔ call.isWaiting = false := by
  cases call <;> simp [stepsLeft, isWaiting]

/-- Giving up a call adds no step. -/
theorem TokenCall.stepsLeft_abandon_le (call : TokenCall τ) :
    call.abandon.stepsLeft ≤ call.stepsLeft := by
  cases call <;> simp [abandon, isWaiting, stepsLeft]

/-- After the ring no wait is stuck: each of its steps is one less to take. -/
theorem TokenCall.Fits.stepsLeft_step {call : TokenCall τ} {token : SharedToken β}
    (h : call.Fits bell phase token.bell number) (htoken : phase.Describes token)
    (hrung : phase.hasRung = true) (hbell : bell.WakesRegistered) :
    (call.step bell token).1.stepsLeft = call.stepsLeft - 1 := by
  have hraised : token.isRaised = true := by
    rw [htoken.isRaised]
    cases phase <;> first | rfl | cases hrung
  cases call with
  | parked ticket =>
    have hwoken : bell.isWoken token.bell ticket = true := (h.2 hrung).isWoken hbell
    simp [TokenCall.step, hwoken, stepsLeft]
  | raising | looking => simp [TokenCall.step, hraised, stepsLeft]
  | _ => rfl

namespace TokenTraffic

variable {traffic : TokenTraffic β τ}

/-- After the call that cancels has returned, every wait is over when it has taken four more steps,
however these lie between the steps of others. -/
theorem IsIn.stepsLeft_after (h : traffic.IsIn bell phase) (hbell : bell.WakesRegistered)
    {reason : String} (hcancelled : traffic.calls[number]? = some (.hasCancelled reason))
    {other : Nat} {call : TokenCall τ} (hcall : traffic.calls[other]? = some call)
    (moves : List TokenMove) :
    ∃ last, (traffic.after bell moves).calls[other]? = some last ∧
      last.stepsLeft ≤ call.stepsLeft - moves.count (.proceed other) := by
  induction moves generalizing traffic phase call with
  | nil => exact ⟨call, hcall, by simp⟩
  | cons move moves ih =>
    obtain ⟨next, hnext, -⟩ := h.move move
    obtain ⟨last, hlast, hleft⟩ :=
      ih hnext (hasCancelled_move move hcancelled) (getElem?_calls_move move hcall)
    refine ⟨last, hlast, Nat.le_trans hleft ?_⟩
    have hrung : phase.hasRung = true := by
      rw [show phase = .rung number reason from h.calls number _ hcancelled]
      rfl
    by_cases hsame : move = .proceed other
    · subst hsame
      rw [if_pos rfl, (h.calls other call hcall).stepsLeft_step h.token hrung hbell,
        List.count_cons_self]
      omega
    · rw [if_neg hsame, List.count_cons_of_ne hsame]
      apply Nat.sub_le_sub_right
      split
      · exact call.stepsLeft_abandon_le
      · exact Nat.le_refl _

/-- What calls on a shared token, in whatever order they take their steps, can rely on. -/
structure IsOrderly (bell : Bell β τ) (start : β) (moves : List TokenMove) : Prop where
  /-- The flag is up once some call has exchanged it first. -/
  raised : (course bell start moves).token.isRaised = true ↔
    ∃ number reason, IsRaisedBy bell start moves number reason
  /-- One call at most has. -/
  unique : ∀ number other reason why, IsRaisedBy bell start moves number reason →
    IsRaisedBy bell start moves other why → number = other ∧ reason = why
  /-- Only a step of this call writes a reason, and it writes its own where none was. -/
  writes : ∀ last, (course bell start (moves ++ [last])).token.reason ≠
      (course bell start moves).token.reason →
    ∃ number reason, last = .proceed number ∧ IsRaisedBy bell start moves number reason ∧
      (course bell start moves).token.reason = none ∧
      (course bell start (moves ++ [last])).token.reason = some reason
  /-- A reason that is written is that of this call, and stays for ever. -/
  keeps : ∀ reason, (course bell start moves).token.reason = some reason →
    (∃ number, IsRaisedBy bell start moves number reason) ∧
      ∀ later, (course bell start (moves ++ later)).token.reason = some reason
  /-- Who was told a reason was told that of this call. -/
  told : ∀ (number : Nat) (reason : String),
    (course bell start moves).calls[number]? = some (.toldReason (some reason)) →
      ∃ canceller, IsRaisedBy bell start moves canceller reason
  /-- No wait is over, and no one is told of a cancellation, before a call has exchanged the
  flag. -/
  notBefore : ∀ number : Nat, (course bell start moves).calls[number]? = some .released ∨
      (course bell start moves).calls[number]? = some (.toldFlag true) →
    ∃ canceller reason, IsRaisedBy bell start moves canceller reason
  /-- Once this call has returned, no wait is parked without having been woken, and each is over
  when it has taken four more steps, whatever steps of other calls lie between them. -/
  ends : ∀ (canceller : Nat) (reason : String),
    (course bell start moves).calls[canceller]? = some (.hasCancelled reason) →
      IsRaisedBy bell start moves canceller reason ∧
      ∀ number : Nat,
        (∀ ticket, (course bell start moves).calls[number]? = some (.parked ticket) →
          bell.isWoken (course bell start moves).token.bell ticket = true) ∧
        ∀ call, (course bell start moves).calls[number]? = some call →
          ∀ later, 4 ≤ later.count (.proceed number) →
            ∃ last, (course bell start (moves ++ later)).calls[number]? = some last ∧
              last.isWaiting = false

/-- If the bell wakes everyone who registered before it rings, then in whatever order calls on a
shared token take their steps, only the call that exchanges the flag first writes a reason, which
stays, no wait is over before, and none is left parked once this call has returned. -/
theorem cancellation_reaches_waits (bell : Bell β τ) (hbell : bell.WakesRegistered) (start : β)
    (moves : List TokenMove) : IsOrderly bell start moves := by
  obtain ⟨phase, hphase, hraised⟩ := exists_isIn bell start moves
  have hreason {reason : String} (h : phase.reason? = some reason) :
      ∃ number, IsRaisedBy bell start moves number reason := by
    cases phase with
    | pending | raised => cases h
    | written number | rung number =>
      cases h
      exact ⟨number, (hraised _ _).mpr rfl⟩
  have hsome (h : phase.canceller?.isSome = true) :
      ∃ number reason, IsRaisedBy bell start moves number reason := by
    obtain ⟨⟨number, reason⟩, hcanceller⟩ := Option.isSome_iff_exists.mp h
    exact ⟨number, reason, (hraised _ _).mpr hcanceller⟩
  constructor
  case raised =>
    rw [hphase.token.isRaised]
    refine ⟨hsome, ?_⟩
    rintro ⟨number, reason, hfirst⟩
    rw [(hraised _ _).mp hfirst]
    rfl
  case unique =>
    intro number other reason why hfirst hother
    rw [hraised] at hfirst hother
    exact Prod.mk.inj (Option.some.inj (hfirst.symm.trans hother))
  case writes =>
    intro last hchange
    simp only [course_concat] at hchange ⊢
    rcases hphase.reason_move_cases last with hsame | ⟨number, reason, hlast, hfirst, hnone, hnew⟩
    · exact absurd hsame hchange
    · exact ⟨number, reason, hlast, (hraised _ _).mpr hfirst, hnone, hnew⟩
  case keeps =>
    intro reason hwritten
    refine ⟨hreason (hphase.token.reason ▸ hwritten), fun later => ?_⟩
    rw [course_append]
    exact hphase.reason_after hwritten later
  case told =>
    intro number reason hcall
    exact hreason (hphase.calls number _ hcall reason rfl)
  case notBefore =>
    rintro number (hcall | hcall)
    · exact hsome (hphase.calls number _ hcall)
    · exact hsome (hphase.calls number _ hcall rfl)
  case ends =>
    intro canceller reason hcancelled
    have hrung : phase = .rung canceller reason := hphase.calls canceller _ hcancelled
    refine ⟨(hraised _ _).mpr (by rw [hrung]; rfl), fun number => ⟨?_, ?_⟩⟩
    · intro ticket hparked
      have hfits : TokenCall.Fits bell phase _ number (.parked ticket) :=
        hphase.calls number _ hparked
      exact (hfits.2 (by rw [hrung]; rfl)).isWoken hbell
    · intro call hcall later hsteps
      obtain ⟨last, hlast, hleft⟩ := hphase.stepsLeft_after hbell hcancelled hcall later
      have hmost : call.stepsLeft ≤ 4 := by cases call <;> simp [TokenCall.stepsLeft]
      rw [← course_append] at hlast
      exact ⟨last, hlast, TokenCall.stepsLeft_eq_zero_iff.mp (by omega)⟩

/-- A wait that sees the flag down just before a cancellation, and parks only after the ring, is
woken; a second cancellation comes too late. -/
theorem cancellation_reaches_waits_late :
    Bell.counting.WakesRegistered ∧
      ∃ moves, IsOrderly Bell.counting 0 moves ∧
        (course .counting 0 moves).calls =
          [.parked 0, .hasCancelled "first", .cameLate "second"] ∧
        Bell.counting.isWoken (course .counting 0 moves).token.bell 0 = true :=
  ⟨Bell.counting_wakesRegistered,
    [.begin .wait, .proceed 0, .proceed 0, .begin (.cancel "first"), .begin (.cancel "second"),
      .proceed 1, .proceed 2, .proceed 1, .proceed 1, .proceed 0],
    cancellation_reaches_waits _ Bell.counting_wakesRegistered 0 _, by decide, by decide⟩

end TokenTraffic

end ReleaseStaging
