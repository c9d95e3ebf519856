import ReleaseStaging.Client.Transitions
import ReleaseStaging.Proofs.Run.Exchanges

/-!
# What the answers of the server say

Every step of an operation is one exchange and a decision that depends on nothing but its answer.
The decisions are functions of an exchange here, and each step has one rule that puts its decision
in the place of the step.
-/

namespace ReleaseStaging

namespace Exchange

/-- The status of the answer, if there was one. -/
def status? (exchange : Exchange) : Option Nat :=
  exchange.reply.toOption.map Response.status

/-- The document of the answer; only an answer with status 200 has one. -/
def report (exchange : Exchange) : Except Failure Report :=
  match Reply.response exchange.request exchange.reply with
  | .error failure => .error failure
  | .ok response =>
    if response.status = 200 then Report.ofText exchange.request.url.text response.body
    else .error (.unexpectedStatus .get exchange.request.url.text response.status)

/-- What the server is able to do, by its status document. -/
def capability (exchange : Exchange) : Except Failure Capability := do
  let report ← exchange.report
  let version ← report.requiredText report.root (.fromTop ["status", "data", "version"])
  Capability.ofVersion version

/-- Whether a transition is going on, by the document of the repository. -/
def isTransitioning (exchange : Exchange) : Except Failure Bool := do
  let report ← exchange.report
  report.requiredBool transitioningQuery

/-- How the last close ended, by the activity log. -/
def closeOutcome (exchange : Exchange) : Except Failure CloseOutcome := do
  let report ← exchange.report
  let activities ← Activity.ofReport report
  return .ofLog activities

/-- Whether a transition is accepted: fails unless the status is 201. -/
def acceptance (action : Action) (stage : Stage) (exchange : Exchange) : Except Failure Unit :=
  match Reply.response exchange.request exchange.reply with
  | .error failure => .error failure
  | .ok response =>
    if response.status = 201 then .ok ()
    else .error (.actionRejected action stage response.status)

/-- Exactly an answer with status 201 accepts a transition. -/
theorem acceptance_eq_ok_iff (action : Action) (stage : Stage) (exchange : Exchange) :
    exchange.acceptance action stage = .ok () ↔ exchange.status? = some 201 := by
  obtain ⟨request, reply⟩ := exchange
  cases reply with
  | error fault => simp [acceptance, status?, Reply.response, Except.toOption]
  | ok response =>
    by_cases h : response.status = 201 <;>
      simp [acceptance, status?, Reply.response, Except.toOption, h]

end Exchange

namespace Client

open Operation

variable {σ α : Type} {environment : Environment σ} {world : World σ}

theorem yields_fetchReport {url : Url}
    {outcome : Option (Except Failure Report) → List Event → World σ → Prop} :
    (fetchReport url).Yields environment world outcome ↔
      outcome (some (world.exchange environment (.get url)).report)
        (world.sendingEvents environment (.get url))
        (world.afterSending environment (.get url)) := by
  simp only [fetchReport, fetch, yields_bind, yields_send, Exchange.report,
    World.request_exchange]
  cases Reply.response (Request.get url) (world.exchange environment (.get url)).reply with
  | error failure => rfl
  | ok response =>
    by_cases h : response.status = 200 <;> simp [h, Request.get]

/-- Learning what the server is able to do takes one exchange, and success is remembered. -/
theorem yields_detect {client : Client}
    {outcome : Option (Except Failure Capability) → List Event → World σ → Prop} :
    client.detect.Yields environment world outcome ↔
      let request := Request.get (statusEndpoint client.base)
      match (world.exchange environment request).capability with
      | .error failure => outcome (some (.error failure))
          (world.sendingEvents environment request) (world.afterSending environment request)
      | .ok capability => outcome (some (.ok capability))
          (world.sendingEvents environment request ++ [.noted (.detectedCapability capability)])
          { world.afterSending environment request with memo := some capability } := by
  simp only [detect, yields_bind, yields_fetchReport, yields_liftM, yields_remember, yields_note,
    yields_pure, Exchange.capability]
  cases (world.exchange environment (.get (statusEndpoint client.base))).report with
  | error failure => rfl
  | ok report =>
    simp only [bind, Except.bind]
    cases report.requiredText report.root (.fromTop ["status", "data", "version"]) with
    | error failure => simp
    | ok version => cases hversion : Capability.ofVersion version <;> simp [hversion]

/-- What is remembered of the server is used without asking. -/
theorem yields_capability_bind_of_known {client : Client} {next : Capability → Operation α}
    {known : Capability} (hmemo : world.memo = some known)
    {outcome : Option (Except Failure α) → List Event → World σ → Prop} :
    (client.capability >>= next).Yields environment world outcome ↔
      (next known).Yields environment world outcome := by
  simp only [capability, yields_bind, yields_recall, hmemo, yields_pure, List.nil_append]

/-- Without anything remembered the status is asked for. The answer is a failure, or it is
remembered and used. -/
theorem yields_capability_bind {client : Client} {next : Capability → Operation α}
    (hmemo : world.memo = none)
    {outcome : Option (Except Failure α) → List Event → World σ → Prop} :
    (client.capability >>= next).Yields environment world outcome ↔
      let request := Request.get (statusEndpoint client.base)
      match (world.exchange environment request).capability with
      | .error failure => outcome (some (.error failure))
          (world.sendingEvents environment request) (world.afterSending environment request)
      | .ok known =>
        (next known).Yields environment
          { world.afterSending environment request with memo := some known }
          fun result later last => outcome result
            (world.sendingEvents environment request ++ [.noted (.detectedCapability known)] ++
              later)
            last := by
  simp only [capability, yields_bind, yields_recall, hmemo, yields_detect]
  cases (world.exchange environment (.get (statusEndpoint client.base))).capability with
  | error failure => rfl
  | ok known => simp

/-- One poll is one exchange. -/
theorem yields_isTransitioning {url : Url}
    {outcome : Option (Except Failure Bool) → List Event → World σ → Prop} :
    (isTransitioning url).Yields environment world outcome ↔
      outcome (some (world.exchange environment (.get url)).isTransitioning)
        (world.sendingEvents environment (.get url))
        (world.afterSending environment (.get url)) := by
  simp only [isTransitioning, yields_bind, yields_fetchReport, yields_liftM,
    Exchange.isTransitioning]
  cases (world.exchange environment (.get url)).report with
  | error failure => rfl
  | ok report => simp [bind, Except.bind]

/-- A transition is requested in one exchange, if its endpoint is an address. -/
theorem yields_request {client : Client} {action : Action} {stage : Stage}
    {description : Option String}
    {outcome : Option (Except Failure Unit) → List Event → World σ → Prop} :
    (client.request action stage description).Yields environment world outcome ↔
      match action.endpoint client.base stage with
      | .error failure => outcome (some (.error failure)) [] world
      | .ok url =>
        let request := Request.post url (promoteRequest stage.stageId description)
        outcome (some ((world.exchange environment request).acceptance action stage))
          (world.sendingEvents environment request)
          (world.afterSending environment request) := by
  simp only [request, yields_bind, yields_liftM, yields_send, Exchange.acceptance]
  cases action.endpoint client.base stage with
  | error failure => rfl
  | ok url =>
    simp only [World.request_exchange]
    cases Reply.response (.post url (promoteRequest stage.stageId description))
        (world.exchange environment
          (.post url (promoteRequest stage.stageId description))).reply with
    | error failure => simp
    | ok response => by_cases h : response.status = 201 <;> simp [h]

/-- The outcome of a close is read in one exchange, if the endpoint of the log is an address. -/
theorem yields_confirmClosed {client : Client} {stage : Stage}
    {outcome : Option (Except Failure Unit) → List Event → World σ → Prop} :
    (client.confirmClosed stage).Yields environment world outcome ↔
      match repositoryEndpoint client.base stage (some "activity") with
      | .error failure => outcome (some (.error failure)) [] world
      | .ok url =>
        let sent := world.sendingEvents environment (.get url)
        let after := world.afterSending environment (.get url)
        match (world.exchange environment (.get url)).closeOutcome with
        | .error failure => outcome (some (.error failure)) sent after
        | .ok .closed => outcome (some (.ok ())) (sent ++ [.noted (.closed stage)]) after
        | .ok (.failed failure) =>
          outcome (some (.error (.actionFailed (failure.message stage)))) sent after
        | .ok .unrecorded =>
          outcome (some (.error (.unrecordedOutcome .close stage))) sent after := by
  simp only [confirmClosed, activityLog, yields_bind, yields_liftM, yields_fetchReport,
    Exchange.closeOutcome]
  cases repositoryEndpoint client.base stage (some "activity") with
  | error failure => rfl
  | ok url =>
    cases hreport : (world.exchange environment (.get url)).report with
    | error failure => simp [bind, Except.bind, hreport]
    | ok report =>
      simp only [bind, Except.bind, hreport, List.nil_append, List.append_nil]
      cases Activity.ofReport report with
      | error failure => rfl
      | ok activities =>
        simp only [pure, Except.pure]
        cases CloseOutcome.ofLog activities <;> simp

end Client

end ReleaseStaging
