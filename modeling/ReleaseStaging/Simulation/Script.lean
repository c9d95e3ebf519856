import ReleaseStaging.Exchange

/-!
# A scripted server

A server for rehearsals: answers are queued for a method and an address, each request takes the
next one, and the last one is given again and again. Every request is kept.
Main statements: queueing an answer changes only the queue of its own method and address, and so
does a request.
-/

namespace ReleaseStaging

/-- The method and the address that an answer is for. -/
structure Route where
  /-- The method. -/
  method : Method
  /-- The address, as text. -/
  url : String
  deriving DecidableEq, Repr

/-- The route of a request. -/
def Request.route (request : Request) : Route :=
  ⟨request.method, request.url.text⟩

/-- A scripted server. -/
structure Script where
  /-- The answers to come, in the order in which they were queued. -/
  answers : List (Route × Response)
  /-- The requests so far. -/
  requests : List Request
  deriving DecidableEq, Repr, Inhabited

namespace Script

/-- The script without answers and requests. -/
def empty : Script := ⟨[], []⟩

/-- Queues an answer. -/
def respond (script : Script) (route : Route) (response : Response) : Script :=
  { script with answers := script.answers ++ [(route, response)] }

/-- The answers that are queued for a route. -/
def queue (script : Script) (route : Route) : List Response :=
  (script.answers.filter fun entry => entry.1 == route).map Prod.snd

/-- The answer to a request that no answer is queued for. -/
def notFound : Response := ⟨404, ""⟩

/-- The answers without the first one for a route. -/
def dropFirst (route : Route) (answers : List (Route × Response)) : List (Route × Response) :=
  answers.eraseP fun entry => entry.1 == route

/-- The answer to a request, and the script after it. -/
def answer (script : Script) (request : Request) : Response × Script :=
  let recorded := { script with requests := script.requests ++ [request] }
  match script.queue request.route with
  | [] => (notFound, recorded)
  | [last] => (last, recorded)
  | next :: _ => (next, { recorded with answers := dropFirst request.route script.answers })

/-- The number of requests on a route. -/
def count (script : Script) (route : Route) : Nat :=
  (script.requests.filter fun request => request.route == route).length

/-- The documents that were sent to an address. -/
def postedBodies (script : Script) (url : String) : List String :=
  (script.requests.filter fun request => request.route == ⟨.post, url⟩).filterMap Request.body

/-- A queued answer comes last on its route, and other routes do not change. -/
theorem queue_respond (script : Script) (route other : Route) (response : Response) :
    (script.respond route response).queue other =
      script.queue other ++ if route = other then [response] else [] := by
  by_cases h : route = other <;> simp [queue, respond, h]

private theorem filter_dropFirst (route other : Route) (answers : List (Route × Response)) :
    (dropFirst route answers).filter (fun entry => entry.1 == other) =
      if route = other then (answers.filter fun entry => entry.1 == other).tail
      else answers.filter fun entry => entry.1 == other := by
  induction answers with
  | nil => simp [dropFirst]
  | cons entry answers ih =>
    rw [dropFirst] at ih ⊢
    by_cases hroute : entry.1 = route
    · subst hroute
      by_cases hother : entry.1 = other <;> simp [hother]
    · have hdrop : (entry :: answers).eraseP (fun entry => entry.1 == route) =
          entry :: answers.eraseP fun entry => entry.1 == route :=
        List.eraseP_cons_of_neg (by simpa using hroute)
      rw [hdrop]
      by_cases hother : entry.1 = other
      · have hne : route ≠ other := fun heq => hroute (hother.trans heq.symm)
        rw [if_neg hne] at ih ⊢
        rw [List.filter_cons_of_pos (by simpa using hother), ih,
          List.filter_cons_of_pos (by simpa using hother)]
      · rw [List.filter_cons_of_neg (by simpa using hother), ih,
          List.filter_cons_of_neg (by simpa using hother)]

private theorem answers_answer (script : Script) (request : Request) :
    (script.answer request).2.answers =
      if 1 < (script.queue request.route).length then dropFirst request.route script.answers
      else script.answers := by
  rw [answer]
  split
  · next hnone => simp [hnone]
  · next last hone => simp [hone]
  · next next rest hnot hqueue =>
    cases rest with
    | nil => exact absurd rfl hnot
    | cons second rest => simp [hqueue]

/-- A request takes the first answer of its route unless it is the only one, and other routes do
not change. -/
theorem queue_answer (script : Script) (request : Request) (other : Route) :
    (script.answer request).2.queue other =
      if request.route = other ∧ 1 < (script.queue other).length then (script.queue other).tail
      else script.queue other := by
  by_cases hroute : request.route = other
  · subst hroute
    rw [queue, answers_answer]
    by_cases hlength : 1 < (script.queue request.route).length
    · rw [if_pos hlength, if_pos ⟨rfl, hlength⟩, filter_dropFirst, if_pos rfl, List.map_tail]
      rfl
    · rw [if_neg hlength, if_neg fun h => hlength h.2]
      rfl
  · rw [if_neg fun h => hroute h.1, queue, answers_answer]
    by_cases hlength : 1 < (script.queue request.route).length
    · rw [if_pos hlength, filter_dropFirst, if_neg hroute]
      rfl
    · rw [if_neg hlength]
      rfl

/-- The answer to a request is the first one of its route. -/
theorem fst_answer (script : Script) (request : Request) :
    (script.answer request).1 = (script.queue request.route).head?.getD notFound := by
  rw [answer]
  split <;> simp_all

/-- Every request is kept. -/
theorem requests_answer (script : Script) (request : Request) :
    (script.answer request).2.requests = script.requests ++ [request] := by
  rw [answer]
  split <;> rfl

end Script

end ReleaseStaging
