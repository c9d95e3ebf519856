import ReleaseStaging.Command.Target
import ReleaseStaging.Proofs.Client.Confinement
import ReleaseStaging.Proofs.Client.Course
import ReleaseStaging.Proofs.Client.Endpoints
import ReleaseStaging.Proofs.Run.Commands

/-!
# Who asks for a transition

A transition is asked for by sending a document to its endpoint, and the last segment of the
endpoint tells which one it is. Finding a stage asks for no transition, and each transition is asked
for in one exchange.
-/

namespace ReleaseStaging

/-- Whether a request asks for a transition of a stage. -/
def Request.asks (client : Client) (action : Action) (stage : Stage) (request : Request) : Bool :=
  request.method == .post &&
    (action.endpoint client.base stage).toOption == some request.url

/-- A request asks for a transition if it sends a document to the endpoint of the transition. -/
theorem Request.asks_iff {client : Client} {action : Action} {stage : Stage} {request : Request} :
    request.asks client action stage = true ↔
      request.method = .post ∧ action.endpoint client.base stage = .ok request.url := by
  rw [asks, Bool.and_eq_true, beq_iff_eq, beq_iff_eq, toOption_eq_some_iff]

/-- The last segment of an endpoint tells the transition. -/
theorem Action.getLast?_endpoint {action : Action} {base url : Url} {stage : Stage}
    (h : action.endpoint base stage = .ok url) :
    ∃ segments, url.path = .rooted segments ∧ segments.getLast? = some action.verb := by
  have hverb : action.segments stage =
      ["service", "local", "staging", "profiles", stage.profileId] ++ [action.verb] := rfl
  rw [endpoint, below] at h
  split at h
  · cases h
  · cases h
  · rw [hverb] at h
    cases h
    refine ⟨_, rfl, ?_⟩
    rw [if_neg Bool.false_ne_true, Url.getLast?_foldl_pushSegment action.isPlainSegment_verb,
      action.writtenSegment_verb]

/-- Whether a request asks for a transition of some stage: it sends a document to an address that
ends with the verb of the transition. -/
def Request.asksFor (action : Action) (request : Request) : Bool :=
  request.method == .post && (request.url.segments?.bind List.getLast?) == some action.verb

/-- Who asks for a transition of one stage asks for that transition. -/
theorem Request.asksFor_of_asks {client : Client} {action : Action} {stage : Stage}
    {request : Request} (h : request.asks client action stage = true) :
    request.asksFor action = true := by
  obtain ⟨hmethod, hendpoint⟩ := asks_iff.mp h
  obtain ⟨segments, hpath, hlast⟩ := Action.getLast?_endpoint hendpoint
  simp [asksFor, Url.segments?, hmethod, hpath, hlast]

/-- One request asks for one transition only. -/
theorem Request.eq_of_asksFor {a b : Action} {request : Request} (ha : request.asksFor a = true)
    (hb : request.asksFor b = true) : a = b := by
  simp only [asksFor, Bool.and_eq_true, beq_iff_eq] at ha hb
  exact Action.verb_injective (Option.some.inj (ha.2.symm.trans hb.2))

/-- A request that asks for a transition sends a document. -/
theorem Request.method_of_asksFor {action : Action} {request : Request}
    (h : request.asksFor action = true) : request.method = .post := by
  simp only [asksFor, Bool.and_eq_true, beq_iff_eq] at h
  exact h.1

/-- No document is sent, so no transition is asked for. -/
def IsQuiet (exchanges : List Exchange) : Prop :=
  ∀ exchange ∈ exchanges, exchange.request.method ≠ .post

@[simp] theorem isQuiet_nil : IsQuiet [] := by simp [IsQuiet]

@[simp] theorem isQuiet_singleton {exchange : Exchange} :
    IsQuiet [exchange] ↔ exchange.request.method ≠ .post := by simp [IsQuiet]

@[simp] theorem isQuiet_append {exchanges later : List Exchange} :
    IsQuiet (exchanges ++ later) ↔ IsQuiet exchanges ∧ IsQuiet later := by
  simp only [IsQuiet, List.mem_append, or_imp, forall_and]

/-- Who only fetches documents asks for no transition. -/
theorem isQuiet_of_get {url : Url} {exchanges : List Exchange}
    (h : ∀ exchange ∈ exchanges, exchange.request = .get url) : IsQuiet exchanges := by
  intro exchange hexchange
  rw [h exchange hexchange]
  simp [Request.get]

/-- Where no document is sent, no request asks for a transition. -/
theorem IsQuiet.asksFor_eq_false {exchanges : List Exchange} (h : IsQuiet exchanges)
    {action : Action} :
    ∀ exchange ∈ exchanges, exchange.request.asksFor action = false := by
  intro exchange hmem
  rw [Bool.eq_false_iff]
  intro hasks
  exact h exchange hmem (Request.method_of_asksFor hasks)

/-- Where no document is sent, no transition is asked for. -/
theorem IsQuiet.countP_asksFor {exchanges : List Exchange} (h : IsQuiet exchanges)
    {action : Action} :
    (exchanges.countP fun exchange => exchange.request.asksFor action) = 0 := by
  rw [List.countP_eq_zero]
  intro exchange hmem
  rw [h.asksFor_eq_false exchange hmem]
  exact Bool.false_ne_true

/-! ## Finding a stage -/

variable {σ : Type} {environment : Environment σ}

/-- Finding the stage that a command means is confined to whatever allows the request for the
listing and those for the status of a folder. -/
theorem StageTarget.isConfined_resolve {allowance : Allowance} {client : Client}
    (hlisting : allowance.requests (.get (listingEndpoint client.base)))
    (hprobe : ∀ url, allowance.requests (.head url)) (target : StageTarget) :
    IsConfined allowance (target.resolve client) := by
  rw [resolve]
  split
  · exact isConfined_pure _
  · exact (isConfined_ofOperation (Client.isConfined_openStages hlisting)).bind fun _ =>
      isConfined_require _ _
  · exact (isConfined_ofOperation (Client.isConfined_findOpenStage hlisting
      fun _ url _ => hprobe url)).bind fun _ => isConfined_require _ _
  · exact isConfined_throw _

/-- Finding the stage that a command means asks for no transition. -/
theorem StageTarget.yields_resolve (target : StageTarget) (client : Client) (world : World σ) :
    (target.resolve client).Yields environment world fun _ trace _ =>
      IsQuiet (exchangesOf trace) := by
  have hconfined : IsConfined { requests := fun request => request.method ≠ .post, memo := True }
      (target.resolve client) :=
    target.isConfined_resolve (by simp [Request.get]) (by simp [Request.head])
  exact hconfined.requests environment world

/-! ## Asking for a transition -/

namespace Client

open Operation

/-- A transition is asked for once, if its endpoint is an address, and it is accepted exactly if the
answer has status 201; what is remembered of the server stays as it is. -/
theorem yields_request_asks (client : Client) (action : Action) (stage : Stage)
    (description : Option String) (world : World σ) :
    (client.request action stage description).Yields environment world fun result trace after =>
      after.memo = world.memo ∧
      ((∃ failure, action.endpoint client.base stage = .error failure ∧
          result = some (.error failure) ∧ exchangesOf trace = []) ∨
        ∃ asked, exchangesOf trace = [asked] ∧ asked.request.asks client action stage = true ∧
          (result = some (.ok ()) ∧ asked.status? = some 201 ∨
            (∃ failure, result = some (.error failure)) ∧ asked.status? ≠ some 201)) := by
  rw [yields_request]
  cases hendpoint : action.endpoint client.base stage with
  | error failure => exact ⟨rfl, .inl ⟨failure, rfl, rfl, rfl⟩⟩
  | ok url =>
    refine ⟨World.memo_afterSending .., .inr ⟨_, World.exchangesOf_sendingEvents .., ?_, ?_⟩⟩
    · rw [Request.asks_iff]
      exact ⟨rfl, hendpoint⟩
    · generalize world.exchange environment (.post url (promoteRequest stage.stageId description)) =
        asked
      have hiff := asked.acceptance_eq_ok_iff action stage
      cases hacceptance : asked.acceptance action stage with
      | error failure =>
        refine .inr ⟨⟨failure, rfl⟩, fun hstatus => ?_⟩
        rw [← hiff, hacceptance] at hstatus
        cases hstatus
      | ok done => exact .inl ⟨rfl, hiff.mp hacceptance⟩

/-- A drop asks for nothing but the drop, ends, and leaves what is remembered of the server. -/
theorem yields_dropStage_asks (client : Client) (stage : Stage) (world : World σ) :
    (client.dropStage stage).Yields environment world fun result trace after =>
      result ≠ none ∧ after.memo = world.memo ∧
      (exchangesOf trace = [] ∨ ∃ exchange, exchangesOf trace = [exchange] ∧
        exchange.request.asks client .drop stage = true) := by
  rw [dropStage, yields_bind, yields_note]
  apply (client.yields_request_asks .drop stage none world).mono
  rintro result trace after ⟨hmemo, ⟨failure, -, rfl, hnone⟩ | ⟨asked, hone, hasks, hresult⟩⟩
  · exact ⟨by simp, hmemo, .inl (by simpa using hnone)⟩
  · refine ⟨?_, hmemo, .inr ⟨asked, by simpa using hone, hasks⟩⟩
    rcases hresult with ⟨rfl, -⟩ | ⟨⟨failure, rfl⟩, -⟩ <;> simp

end Client

end ReleaseStaging
