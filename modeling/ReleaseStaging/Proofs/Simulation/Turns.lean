import Mathlib.Data.List.Chain
import ReleaseStaging.Simulation.Script

/-!
# Turns at a scripted server

Answers can be queued at any time, also between requests. On every route the requests go through
the queued answers in order: none is left out, and none comes back once a later one was given. The
server decides whether it moves on when it answers, by what is queued then. So an answer that was
the last one is given once more even if another one has been queued since.
Main statements: `turns_go_through_queue`, `repeats_despite_newer_iff`.
-/

namespace ReleaseStaging.Script

/-! ## Calls -/

/-- What is done with a scripted server. -/
inductive Call where
  /-- Queue an answer. -/
  | respond (route : Route) (response : Response)
  /-- Send a request. -/
  | ask (request : Request)
  deriving DecidableEq, Repr

namespace Call

/-- The route of a call. -/
def route : Call → Route
  | respond route _ => route
  | ask request => request.route

/-- The answer that a call queues. -/
def response? : Call → Option Response
  | respond _ response => some response
  | ask _ => none

/-- The request that a call sends. -/
def request? : Call → Option Request
  | respond _ _ => none
  | ask request => some request

/-- Whether a call sends a request on a route. -/
def asksOn (route : Route) : Call → Bool
  | respond _ _ => false
  | ask request => request.route == route

/-- The document that a call sends to an address. -/
def postedTo? (url : String) : Call → Option String
  | respond _ _ => none
  | ask request => if request.route = ⟨.post, url⟩ then request.body else none

end Call

/-- The server after one more call. -/
def apply (script : Script) : Call → Script
  | .respond route response => script.respond route response
  | .ask request => (script.answer request).2

/-- The server after some calls. -/
def after (calls : List Call) : Script :=
  calls.foldl apply empty

/-- The calls on a route. -/
def callsOn (route : Route) (calls : List Call) : List Call :=
  calls.filter fun call => call.route = route

/-- The answers that some calls queue for a route, in order. -/
def queuedFor (route : Route) (calls : List Call) : List Response :=
  (callsOn route calls).filterMap Call.response?

@[simp] theorem after_concat (calls : List Call) (call : Call) :
    after (calls ++ [call]) = (after calls).apply call := by
  simp [after]

theorem callsOn_append (route : Route) (calls more : List Call) :
    callsOn route (calls ++ more) = callsOn route calls ++ callsOn route more :=
  List.filter_append calls more

theorem queuedFor_append (route : Route) (calls more : List Call) :
    queuedFor route (calls ++ more) = queuedFor route calls ++ queuedFor route more := by
  simp [queuedFor, callsOn_append]

/-! ## The queue of a route -/

/-- The queue of a route after a call on it. -/
def advance (queue : List Response) : Call → List Response
  | .respond _ response => queue ++ [response]
  | .ask _ => if 1 < queue.length then queue.tail else queue

/-- A call changes the queue of its own route only. -/
theorem queue_apply (script : Script) (call : Call) (route : Route) :
    (script.apply call).queue route =
      if call.route = route then advance (script.queue route) call else script.queue route := by
  cases call with
  | respond target response =>
    rw [apply, queue_respond, Call.route, advance]
    by_cases h : target = route <;> simp [h]
  | ask request =>
    rw [apply, queue_answer, Call.route, advance]
    by_cases h : request.route = route <;> simp [h]

/-- The queue of a route depends on the calls on it only. -/
theorem queue_after (route : Route) (calls : List Call) :
    (after calls).queue route = (callsOn route calls).foldl advance [] := by
  induction calls using List.reverseRecOn with
  | nil => rfl
  | append_singleton calls call ih =>
    rw [after_concat, queue_apply, callsOn_append, List.foldl_append, ih]
    by_cases h : call.route = route <;> simp [callsOn, h]

/-! ## Turns -/

/-- A request on a route and what became of it. -/
structure Turn where
  /-- The answers that were queued for the route before it. -/
  queued : List Response
  /-- How many of them had been left behind. -/
  position : Nat
  /-- The answer that was given. -/
  answer : Response
  deriving DecidableEq, Repr

namespace Turn

/-- The answer is the one at the position of the turn; if none was queued, nothing is found. -/
def IsAnswered (turn : Turn) : Prop :=
  turn.queued = [] ∧ turn.answer = notFound ∨ turn.queued[turn.position]? = some turn.answer

/-- The turn was answered by the queued answer at a position. -/
def Gave (turn : Turn) (position : Nat) : Prop :=
  turn.queued ≠ [] ∧ turn.position = position

/-- An answer was waiting that had been queued after the one that was given. -/
def HasNewer (turn : Turn) : Prop :=
  turn.position + 1 < turn.queued.length

/-- The answer that was given was the last one that was queued. -/
def TookLast (turn : Turn) : Prop :=
  turn.position + 1 = turn.queued.length

instance (turn : Turn) : Decidable turn.HasNewer :=
  inferInstanceAs (Decidable (_ < _))

/-- The position of the turn that follows. -/
def next (turn : Turn) : Nat :=
  if turn.HasNewer then turn.position + 1 else turn.position

/-- The turn that follows gets the same answer, or the one queued right after it. -/
def GoesOn (turn later : Turn) : Prop :=
  turn.queued <+: later.queued ∧ (later.position = turn.position ∨
    turn.queued ≠ [] ∧ later.position = turn.position + 1)

end Turn

/-- The turn of a request that comes after some calls. -/
def turn (before : List Call) (request : Request) : Turn :=
  let queued := queuedFor request.route before
  ⟨queued, queued.length - ((after before).queue request.route).length,
    ((after before).answer request).1⟩

/-- The turn that a call on a route is, if it sends a request there. -/
def turnsOf (route : Route) (before : List Call) : Call → List Turn
  | .respond _ _ => []
  | .ask request => if request.route = route then [turn before request] else []

/-- The turns on a route among calls that come after others. -/
def turnsFrom (route : Route) (before : List Call) : List Call → List Turn
  | [] => []
  | call :: calls => turnsOf route before call ++ turnsFrom route (before ++ [call]) calls

/-- The turns on a route. -/
def turns (route : Route) (calls : List Call) : List Turn :=
  turnsFrom route [] calls

/-- A call is one turn on a route if it sends a request there, and else none. -/
theorem turnsOf_cases (route : Route) (before : List Call) (call : Call) :
    turnsOf route before call = [] ∨
      ∃ request : Request, request.route = route ∧ call = .ask request ∧
        turnsOf route before call = [turn before request] := by
  cases call with
  | respond target response => exact .inl rfl
  | ask request =>
    by_cases hroute : request.route = route
    · exact .inr ⟨request, hroute, rfl, if_pos hroute⟩
    · exact .inl (if_neg hroute)

theorem turns_concat (route : Route) (calls : List Call) (call : Call) :
    turns route (calls ++ [call]) = turns route calls ++ turnsOf route calls call := by
  have hfrom (before : List Call) : turnsFrom route before (calls ++ [call]) =
      turnsFrom route before calls ++ turnsOf route (before ++ calls) call := by
    induction calls generalizing before with
    | nil => simp [turnsFrom]
    | cons first calls ih =>
      rw [List.cons_append, turnsFrom, ih, turnsFrom, List.append_assoc, List.append_assoc,
        List.singleton_append]
  exact hfrom []

/-! ## How far a route has come -/

/-- The queue of a route is what is left of the answers that were queued for it, and at least the
last one of them is left. -/
theorem exists_queuedFor_eq (route : Route) (calls : List Call) :
    ∃ behind, queuedFor route calls = behind ++ (after calls).queue route ∧
      ((after calls).queue route = [] → behind = []) := by
  induction calls using List.reverseRecOn with
  | nil => exact ⟨[], rfl, fun _ => rfl⟩
  | append_singleton calls call ih =>
    obtain ⟨behind, hqueued, hleft⟩ := ih
    rw [after_concat, queue_apply, queuedFor_append, hqueued]
    generalize (after calls).queue route = queue at hleft ⊢
    by_cases hroute : call.route = route
    · rw [if_pos hroute]
      cases call with
      | respond target response =>
        refine ⟨behind, ?_, fun hnil => absurd hnil (by simp [advance])⟩
        simp [queuedFor, callsOn, hroute, Call.response?, advance]
      | ask request =>
        have hnone : queuedFor route [.ask request] = [] := by
          simp [queuedFor, callsOn, hroute, Call.response?]
        rw [hnone, List.append_nil, advance]
        split
        · next hlength =>
          obtain ⟨first, rest, rfl⟩ : ∃ first rest, queue = first :: rest :=
            List.exists_cons_of_length_pos (by omega)
          refine ⟨behind ++ [first], by simp, ?_⟩
          rintro rfl
          simp at hlength
        · exact ⟨behind, rfl, hleft⟩
    · rw [if_neg hroute]
      exact ⟨behind, by simp [queuedFor, callsOn, hroute], hleft⟩

/-- How many of the answers that were queued for a route have been left behind. -/
def leftBehind (route : Route) (calls : List Call) : Nat :=
  (queuedFor route calls).length - ((after calls).queue route).length

/-- The queue of a route is what has not been left behind. -/
theorem queue_eq_drop (route : Route) (calls : List Call) :
    (after calls).queue route = (queuedFor route calls).drop (leftBehind route calls) := by
  obtain ⟨behind, hqueued, -⟩ := exists_queuedFor_eq route calls
  rw [leftBehind, hqueued]
  simp

/-- Not all answers that were queued are left behind. -/
theorem leftBehind_lt {route : Route} {calls : List Call} (h : queuedFor route calls ≠ []) :
    leftBehind route calls < (queuedFor route calls).length := by
  obtain ⟨behind, hqueued, hleft⟩ := exists_queuedFor_eq route calls
  have hqueue : (after calls).queue route ≠ [] := by
    intro hnil
    rw [hqueued, hleft hnil, hnil] at h
    exact h rfl
  have hpos := List.length_pos_iff.mpr hqueue
  rw [leftBehind, hqueued, List.length_append]
  omega

/-- A request on a route leaves an answer behind if a newer one is waiting. -/
theorem leftBehind_ask (calls : List Call) (request : Request) :
    leftBehind request.route (calls ++ [.ask request]) = (turn calls request).next := by
  have hnone : queuedFor request.route [.ask request] = [] := by
    simp [queuedFor, callsOn, Call.response?, Call.route]
  have hlength := congrArg List.length (queue_eq_drop request.route calls)
  rw [List.length_drop] at hlength
  have hbound : leftBehind request.route calls ≤ (queuedFor request.route calls).length :=
    Nat.sub_le _ _
  rw [leftBehind, after_concat, queue_apply, if_pos (by rfl), queuedFor_append, hnone,
    List.append_nil, advance, Turn.next]
  change (queuedFor request.route calls).length - _ = if _ then
    leftBehind request.route calls + 1 else leftBehind request.route calls
  by_cases hmore : 1 < ((after calls).queue request.route).length
  · have hnewer : (turn calls request).HasNewer := by
      change leftBehind request.route calls + 1 < (queuedFor request.route calls).length
      omega
    rw [if_pos hmore, if_pos hnewer, List.length_tail]
    omega
  · have hlast : ¬(turn calls request).HasNewer := by
      change ¬leftBehind request.route calls + 1 < (queuedFor request.route calls).length
      omega
    rw [if_neg hmore, if_neg hlast]
    omega

/-- Nothing but a request on a route leaves an answer of it behind. -/
theorem leftBehind_concat (route : Route) (calls : List Call) (call : Call) :
    leftBehind route (calls ++ [call]) =
      ((turnsOf route calls call).getLast?.map Turn.next).getD (leftBehind route calls) := by
  by_cases hroute : call.route = route
  · cases call with
    | respond target response =>
      have hone : queuedFor route [.respond target response] = [response] := by
        simp [queuedFor, callsOn, hroute, Call.response?]
      rw [leftBehind, after_concat, queue_apply, if_pos hroute, queuedFor_append, hone, advance,
        List.length_append, List.length_append, Nat.add_sub_add_right]
      rfl
    | ask request =>
      subst hroute
      rw [Call.route, leftBehind_ask, turnsOf, if_pos rfl]
      rfl
  · have hnone : queuedFor route [call] = [] := by simp [queuedFor, callsOn, hroute]
    have hturns : turnsOf route calls call = [] := by
      cases call with
      | respond target response => rfl
      | ask request => exact if_neg hroute
    rw [hturns, leftBehind, after_concat, queue_apply, if_neg hroute, queuedFor_append, hnone,
      List.append_nil]
    rfl

/-! ## Turns in a row -/

/-- The later of two turns stands where the earlier one left the queue. -/
def Turn.Precedes (turn later : Turn) : Prop :=
  turn.queued <+: later.queued ∧ later.position = turn.next

/-- A turn on a route comes after some calls. -/
theorem exists_eq_turn {route : Route} {calls : List Call} {turn : Turn}
    (h : turn ∈ turns route calls) :
    ∃ before request, request.route = route ∧ turn = Script.turn before request := by
  induction calls using List.reverseRecOn with
  | nil => exact absurd h List.not_mem_nil
  | append_singleton calls call ih =>
    rw [turns_concat, List.mem_append] at h
    rcases h with h | h
    · exact ih h
    · rcases turnsOf_cases route calls call with hnone | ⟨request, hroute, -, hone⟩
      · rw [hnone] at h
        exact absurd h List.not_mem_nil
      · rw [hone, List.mem_singleton] at h
        exact ⟨calls, request, hroute, h⟩

/-- Every turn is answered from its queue. -/
theorem isAnswered_turn (before : List Call) (request : Request) :
    (turn before request).IsAnswered := by
  have hanswer : (turn before request).answer =
      ((queuedFor request.route before)[leftBehind request.route before]?).getD notFound := by
    change ((after before).answer request).1 = _
    rw [fst_answer, queue_eq_drop, List.head?_drop]
  by_cases hnone : queuedFor request.route before = []
  · refine .inl ⟨hnone, ?_⟩
    rw [hanswer, hnone]
    rfl
  · right
    change (queuedFor request.route before)[leftBehind request.route before]? = _
    rw [hanswer, List.getElem?_eq_getElem (leftBehind_lt hnone), Option.getD_some]

/-- A turn that got a queued answer stands at it. -/
theorem Turn.IsAnswered.position_lt {turn : Turn} (h : turn.IsAnswered) (hsome : turn.queued ≠ []) :
    turn.position < turn.queued.length := by
  rcases h with ⟨hnone, -⟩ | hanswer
  · exact absurd hnone hsome
  · exact (List.getElem?_eq_some_iff.mp hanswer).1

/-- The turns on a route follow each other through its queue, from its start to where the calls
leave it. -/
theorem turns_follow (route : Route) (calls : List Call) :
    (turns route calls).IsChain Turn.Precedes ∧
      (∀ first ∈ (turns route calls).head?, first.position = 0) ∧
      (∀ last ∈ (turns route calls).getLast?, last.queued <+: queuedFor route calls) ∧
      leftBehind route calls = ((turns route calls).getLast?.map Turn.next).getD 0 := by
  induction calls using List.reverseRecOn with
  | nil => simp [turns, turnsFrom, leftBehind, queuedFor, callsOn]
  | append_singleton calls call ih =>
    obtain ⟨hchain, hfirst, hinitial, hleft⟩ := ih
    rw [leftBehind_concat, turns_concat, queuedFor_append]
    rcases turnsOf_cases route calls call with hnone | ⟨request, rfl, rfl, hone⟩
    · rw [hnone, List.append_nil]
      refine ⟨hchain, hfirst, ?_, hleft⟩
      intro last hlast
      exact (hinitial last hlast).trans (List.prefix_append _ _)
    · rw [hone]
      refine ⟨?_, ?_, ?_, ?_⟩
      · rw [List.isChain_append]
        refine ⟨hchain, List.isChain_singleton _, ?_⟩
        intro last hlast now hnow
        obtain rfl : turn calls request = now := by simpa using hnow
        refine ⟨hinitial last hlast, ?_⟩
        rw [hlast] at hleft
        exact hleft
      · intro first hhead
        cases hbefore : turns request.route calls with
        | nil =>
          rw [hbefore] at hhead hleft
          obtain rfl : turn calls request = first := by simpa using hhead
          exact hleft
        | cons head rest =>
          rw [hbefore] at hhead hfirst
          exact hfirst first hhead
      · intro last hlast
        obtain rfl : turn calls request = last := by simpa using hlast
        exact List.prefix_append _ _
      · simp

/-! ## Routes are apart -/

theorem callsOn_callsOn (route : Route) (calls : List Call) :
    callsOn route (callsOn route calls) = callsOn route calls := by
  simp [callsOn]

/-- A turn depends on the calls on its route only. -/
theorem turn_callsOn (before : List Call) (request : Request) :
    turn (callsOn request.route before) request = turn before request := by
  have hqueued : queuedFor request.route (callsOn request.route before) =
      queuedFor request.route before := by
    rw [queuedFor, queuedFor, callsOn_callsOn]
  have hqueue : (after (callsOn request.route before)).queue request.route =
      (after before).queue request.route := by
    rw [queue_after, queue_after, callsOn_callsOn]
  rw [turn, turn, fst_answer, fst_answer, hqueued, hqueue]

/-- The turns on a route depend on the calls on it only. -/
theorem turns_callsOn (route : Route) (calls : List Call) :
    turns route (callsOn route calls) = turns route calls := by
  induction calls using List.reverseRecOn with
  | nil => rfl
  | append_singleton calls call ih =>
    rw [callsOn_append, turns_concat]
    by_cases hroute : call.route = route
    · have hone : callsOn route [call] = [call] := by simp [callsOn, hroute]
      rw [hone, turns_concat, ih]
      cases call with
      | respond target response => rfl
      | ask request =>
        obtain rfl : request.route = route := hroute
        rw [turnsOf, turnsOf, turn_callsOn]
    · have hnone : callsOn route [call] = [] := by simp [callsOn, hroute]
      have hturns : turnsOf route calls call = [] := by
        rcases turnsOf_cases route calls call with hnone | ⟨request, hother, rfl, -⟩
        · exact hnone
        · exact absurd hother hroute
      rw [hnone, List.append_nil, ih, hturns, List.append_nil]

/-! ## The requests that were made -/

/-- The server keeps the requests that were made, in order. -/
theorem requests_after (calls : List Call) :
    (after calls).requests = calls.filterMap Call.request? := by
  induction calls using List.reverseRecOn with
  | nil => rfl
  | append_singleton calls call ih =>
    rw [after_concat, List.filterMap_append]
    cases call with
    | respond route response => simpa [apply, respond, Call.request?, List.filterMap_cons] using ih
    | ask request => simpa [apply, requests_answer, Call.request?, List.filterMap_cons] using ih

/-- The requests on a route are counted. -/
theorem count_after (calls : List Call) (route : Route) :
    (after calls).count route = calls.countP (Call.asksOn route) := by
  rw [count, requests_after, ← List.countP_eq_length_filter, List.countP_filterMap]
  congr 1
  funext call
  cases call <;> simp [Call.request?, Call.asksOn]

/-- The documents that were sent to an address are kept, in order. -/
theorem postedBodies_after (calls : List Call) (url : String) :
    (after calls).postedBodies url = calls.filterMap (Call.postedTo? url) := by
  rw [postedBodies, requests_after, List.filter_filterMap, List.filterMap_filterMap]
  congr 1
  funext call
  cases call with
  | respond route response => rfl
  | ask request =>
    by_cases h : request.route = ⟨.post, url⟩ <;>
      simp [Call.request?, Call.postedTo?, h, Option.filter_some]

/-! ## The law of the queue -/

namespace Turn

/-- No turn comes before an earlier one, and no answer is withdrawn. -/
def AtMost (turn later : Turn) : Prop :=
  turn.queued <+: later.queued ∧ turn.position ≤ later.position

theorem position_le_next (turn : Turn) : turn.position ≤ turn.next := by
  rw [next]
  split <;> omega

theorem Precedes.atMost {turn later : Turn} (h : turn.Precedes later) : turn.AtMost later :=
  ⟨h.1, h.2 ▸ turn.position_le_next⟩

instance : Trans AtMost AtMost AtMost :=
  ⟨fun hfirst hsecond => ⟨hfirst.1.trans hsecond.1, hfirst.2.trans hsecond.2⟩⟩

/-- The turn that follows leaves no answer out. -/
theorem Precedes.goesOn {turn later : Turn} (h : turn.Precedes later) : turn.GoesOn later := by
  refine ⟨h.1, ?_⟩
  rw [h.2, next]
  split
  · next hnewer =>
    refine .inr ⟨?_, rfl⟩
    rw [HasNewer] at hnewer
    exact List.length_pos_iff.mp (by omega)
  · exact .inl rfl

/-- Of turns in a row, each is at most the last one. -/
theorem atMost_last {before : List Turn} {last other : Turn}
    (h : (before ++ [last]).IsChain Precedes) (hother : other ∈ before ++ [last]) :
    other.AtMost last := by
  rcases List.mem_append.mp hother with hbefore | hlast
  · have hordered := (h.imp fun _ _ => Precedes.atMost).pairwise
    exact (List.pairwise_append.mp hordered).2.2 other hbefore last List.mem_cons_self
  · rw [List.mem_singleton.mp hlast]
    exact ⟨List.prefix_rfl, le_refl _⟩

/-- A turn that gets an answer once more, although a newer one is waiting, follows one that found no
newer answer. -/
theorem Precedes.tookLast {last turn other : Turn} (h : last.Precedes turn)
    (hlast : last.IsAnswered) (hother : other.AtMost last) (hgave : other.Gave turn.position)
    (hnewer : turn.HasNewer) : last.TookLast ∧ last.queued.length < turn.queued.length := by
  obtain ⟨hsome, hposition⟩ := hgave
  have hlastSome : last.queued ≠ [] := by
    intro hnil
    exact hsome (List.prefix_nil.mp (hnil ▸ hother.1))
  have hlt := hlast.position_lt hlastSome
  have hfollows := h.2
  -- The position of the other turn is kept from there on, so the last turn did not move on.
  have hstays : last.next = last.position := by
    have hle := last.position_le_next
    have hmost := hother.2
    omega
  have hnone : ¬last.HasNewer := by
    intro hmoves
    rw [next, if_pos hmoves] at hstays
    omega
  rw [HasNewer] at hnone hnewer
  rw [TookLast]
  omega

/-- A turn that took the last answer is followed by one that gets it once more. -/
theorem Precedes.position_eq {last turn : Turn} (h : last.Precedes turn) (htook : last.TookLast) :
    turn.position = last.position := by
  rw [TookLast] at htook
  rw [h.2, next, if_neg (by rw [HasNewer]; omega)]

end Turn

/-- A route for samples. -/
def sampleRoute : Route := ⟨.get, "http://localhost/a"⟩

/-- A request on the route for samples. -/
def sampleRequest : Request :=
  .get ⟨"http", some ⟨"", "", "localhost", none⟩, false, .rooted ["a"], none, none⟩

/-- On every route the requests go through the answers that are queued for it, from the first one
on: each gets the answer that the one before it got, or the one queued right after that, and finds
nothing only while nothing is queued. Which of the two it is was settled when the one before it was
answered, by what was queued then. What they get depends on the calls on the route only, and the
requests are kept as they were made. -/
theorem turns_go_through_queue (route : Route) (calls : List Call) :
    (∀ turn ∈ turns route calls, turn.IsAnswered) ∧
      (∀ first ∈ (turns route calls).head?, first.position = 0) ∧
      (turns route calls).IsChain Turn.GoesOn ∧
      (turns route calls).IsChain Turn.Precedes ∧
      (∀ others, callsOn route others = callsOn route calls →
        turns route others = turns route calls) ∧
      (after calls).requests = calls.filterMap Call.request? ∧
      (after calls).count route = calls.countP (Call.asksOn route) ∧
      ∀ url, (after calls).postedBodies url = calls.filterMap (Call.postedTo? url) := by
  obtain ⟨hchain, hfirst, -, -⟩ := turns_follow route calls
  refine ⟨?_, hfirst, hchain.imp fun _ _ => Turn.Precedes.goesOn, hchain, ?_,
    requests_after calls, count_after calls route, postedBodies_after calls⟩
  · intro turn hturn
    obtain ⟨before, request, -, rfl⟩ := exists_eq_turn hturn
    exact isAnswered_turn before request
  · intro others hcalls
    rw [← turns_callsOn route others, hcalls, turns_callsOn]

/-- Answers for another method of the same address, and requests for them, change no turn. -/
theorem turns_go_through_queue_apart :
    turns sampleRoute [.respond ⟨.head, "http://localhost/a"⟩ ⟨503, ""⟩,
        .respond sampleRoute ⟨200, "a"⟩, .ask { sampleRequest with method := .head },
        .ask sampleRequest] =
      turns sampleRoute [.respond sampleRoute ⟨200, "a"⟩, .ask sampleRequest] ∧
    ∀ turn ∈ turns sampleRoute [.respond sampleRoute ⟨200, "a"⟩, .ask sampleRequest],
      turn.IsAnswered := by
  obtain ⟨hanswered, -, -, -, hothers, -⟩ := turns_go_through_queue sampleRoute
    [.respond sampleRoute ⟨200, "a"⟩, .ask sampleRequest]
  exact ⟨hothers _ (by decide), hanswered⟩

/-- A request on a route moves on to the next answer exactly if that was already queued when the
request before it came. So a request gets an answer that was given before, although a newer one is
waiting, exactly if the request before it took the last answer and another one has been queued
since. -/
theorem repeats_despite_newer_iff {route : Route} {calls : List Call} {earlier later : List Turn}
    {turn : Turn} (h : turns route calls = earlier ++ turn :: later) :
    turn.IsAnswered ∧
      turn.position = (earlier.getLast?.map Turn.next).getD 0 ∧
      ((turn.HasNewer ∧ ∃ other ∈ earlier, other.Gave turn.position) ↔
        ∃ last ∈ earlier.getLast?, last.TookLast ∧ last.queued.length < turn.queued.length) := by
  have hanswered : ∀ other ∈ turns route calls, other.IsAnswered := by
    intro other hother
    obtain ⟨before, request, -, rfl⟩ := exists_eq_turn hother
    exact isAnswered_turn before request
  obtain ⟨hchain, hfirst, -, -⟩ := turns_follow route calls
  rw [h] at hanswered hchain hfirst
  obtain ⟨hearlier, -, hnext⟩ := List.isChain_append.mp hchain
  have hfollows : ∀ last ∈ earlier.getLast?, last.Precedes turn :=
    fun last hlast => hnext last hlast turn rfl
  have hposition : turn.position = (earlier.getLast?.map Turn.next).getD 0 := by
    cases hlast : earlier.getLast? with
    | none =>
      rw [List.getLast?_eq_none_iff.mp hlast] at hfirst
      exact hfirst turn rfl
    | some last => exact (hfollows last hlast).2
  refine ⟨hanswered turn (by simp), hposition, ?_⟩
  constructor
  · rintro ⟨hnewer, other, hother, hgave⟩
    obtain ⟨before, last, rfl⟩ : ∃ before last, earlier = before ++ [last] :=
      ⟨_, _, (List.dropLast_append_getLast (List.ne_nil_of_mem hother)).symm⟩
    have hlast : last ∈ (before ++ [last]).getLast? := List.getLast?_concat ..
    exact ⟨last, hlast, (hfollows last hlast).tookLast (hanswered last (by simp))
      (Turn.atMost_last hearlier hother) hgave hnewer⟩
  · rintro ⟨last, hlast, htook, hqueued⟩
    have hsame := (hfollows last hlast).position_eq htook
    rw [Turn.TookLast] at htook
    refine ⟨by rw [Turn.HasNewer]; omega, last, List.mem_of_getLast? hlast, ?_, hsame.symm⟩
    exact List.length_pos_iff.mp (by omega)

/-- The third request finds a newer answer waiting, since the last one was taken before it was
queued. -/
theorem repeats_despite_newer_iff_again :
    turns sampleRoute [.respond sampleRoute ⟨200, "a"⟩, .respond sampleRoute ⟨200, "b"⟩,
        .ask sampleRequest, .ask sampleRequest, .respond sampleRoute ⟨200, "c"⟩,
        .ask sampleRequest] =
      [⟨[⟨200, "a"⟩, ⟨200, "b"⟩], 0, ⟨200, "a"⟩⟩, ⟨[⟨200, "a"⟩, ⟨200, "b"⟩], 1, ⟨200, "b"⟩⟩] ++
        ⟨[⟨200, "a"⟩, ⟨200, "b"⟩, ⟨200, "c"⟩], 1, ⟨200, "b"⟩⟩ :: [] ∧
      ∃ other ∈ [(⟨[⟨200, "a"⟩, ⟨200, "b"⟩], 0, ⟨200, "a"⟩⟩ : Turn),
        ⟨[⟨200, "a"⟩, ⟨200, "b"⟩], 1, ⟨200, "b"⟩⟩], other.Gave 1 := by
  have hturns : turns sampleRoute [.respond sampleRoute ⟨200, "a"⟩,
      .respond sampleRoute ⟨200, "b"⟩, .ask sampleRequest, .ask sampleRequest,
      .respond sampleRoute ⟨200, "c"⟩, .ask sampleRequest] =
        [⟨[⟨200, "a"⟩, ⟨200, "b"⟩], 0, ⟨200, "a"⟩⟩, ⟨[⟨200, "a"⟩, ⟨200, "b"⟩], 1, ⟨200, "b"⟩⟩] ++
          ⟨[⟨200, "a"⟩, ⟨200, "b"⟩, ⟨200, "c"⟩], 1, ⟨200, "b"⟩⟩ :: [] := by
    decide
  refine ⟨hturns, ((repeats_despite_newer_iff hturns).2.2.mpr ?_).2⟩
  exact ⟨_, rfl, rfl, Nat.lt_succ_self 2⟩

/-- An answer that is queued after the only one was given is passed over: the next request gets the
first one again. -/
theorem repeats_despite_newer_late :
    ∃ first second : Turn,
      turns sampleRoute [.respond sampleRoute ⟨200, "first"⟩, .ask sampleRequest,
        .respond sampleRoute ⟨200, "second"⟩, .ask sampleRequest] = [first, second] ∧
      first.answer = ⟨200, "first"⟩ ∧ second.queued = [⟨200, "first"⟩, ⟨200, "second"⟩] ∧
      first.Gave second.position ∧ second.HasNewer ∧ second.answer = first.answer := by
  refine ⟨⟨[⟨200, "first"⟩], 0, ⟨200, "first"⟩⟩,
    ⟨[⟨200, "first"⟩, ⟨200, "second"⟩], 0, ⟨200, "first"⟩⟩, by decide, rfl, rfl, ?_, ?_, rfl⟩
  · exact ⟨List.cons_ne_nil _ _, rfl⟩
  · exact Nat.lt_succ_self 1

end ReleaseStaging.Script
