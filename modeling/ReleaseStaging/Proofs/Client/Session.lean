import ReleaseStaging.Proofs.Client.Answers
import ReleaseStaging.Proofs.Client.Confinement
import ReleaseStaging.Proofs.Client.Endpoints
import ReleaseStaging.Simulation.Rehearsal

/-!
# Sessions of a client

A client is called again and again, and only what it remembers of the server ties one call to the
next: the server may answer differently each time, and anything else may happen in between. A call
goes one of four ways, which depend on whether it needs to know what the server is able to do and on
whether an earlier call has learned it. Main statements: each turn goes one of these ways by what
the client remembers, and what it remembers is what the first turn that was told learned.
-/

namespace ReleaseStaging

/-- A call of an operation of a client. -/
inductive Call where
  | checkAuthentication
  | capability
  | serverVersion
  | isAsync
  | openStages
  | holds (stage : Stage) (coordinates : Coordinates)
  | findOpenStage (coordinates : Coordinates)
  | closeStage (stage : Stage) (description : String)
  | dropStage (stage : Stage)
  | releaseStage (stage : Stage) (description : String)
  | waitForTransition (stage : Stage)
  | activityLog (stage : Stage)
  deriving DecidableEq, Repr

namespace Call

open Operation

/-- What a call gives. -/
def Result : Call → Type
  | capability => Capability
  | serverVersion => String
  | isAsync | holds _ _ => Bool
  | openStages => List Stage
  | findOpenStage _ => Option Stage
  | activityLog _ => List Activity
  | checkAuthentication | closeStage _ _ | dropStage _ | releaseStage _ _ | waitForTransition _ =>
    Unit

/-- The operation that is called. -/
def operation (client : Client) : (call : Call) → Operation call.Result
  | checkAuthentication => client.checkAuthentication
  | capability => client.capability
  | serverVersion => client.serverVersion
  | isAsync => client.isAsync
  | openStages => client.openStages
  | holds stage coordinates => client.holds stage coordinates
  | findOpenStage coordinates => client.findOpenStage coordinates
  | closeStage stage description => client.closeStage stage description
  | dropStage stage => client.dropStage stage
  | releaseStage stage description => client.releaseStage stage description
  | waitForTransition stage => client.waitForTransition stage
  | activityLog stage => client.activityLog stage

/-- Whether a call needs to know what the server is able to do. -/
def needsCapability : Call → Bool
  | capability | serverVersion | isAsync | closeStage _ _ | releaseStage _ _ => true
  | _ => false

/-- What a call does once it knows what the server is able to do. -/
def knowing (client : Client) (known : Capability) : (call : Call) → Operation call.Result
  | capability => pure known
  | serverVersion => pure known.version
  | isAsync => pure known.asyncActions
  | closeStage stage description => client.closeKnowing stage description known.asyncActions
  | releaseStage stage description => client.releaseKnowing stage description known.asyncActions
  | call => call.operation client

/-- A call that needs to know what the server is able to do learns it first. -/
theorem operation_eq {call : Call} (h : call.needsCapability = true) (client : Client) :
    call.operation client = client.capability >>= fun known => call.knowing client known := by
  cases call with
  | capability => exact (bind_pure client.capability).symm
  | serverVersion | isAsync => rfl
  | closeStage stage description => exact client.closeStage_eq stage description
  | releaseStage stage description => exact client.releaseStage_eq stage description
  | _ => cases h

end Call

/-! ## Asking for the status -/

/-- Whether a request asks for the status of the server. -/
def Request.asksStatus (client : Client) (request : Request) : Bool :=
  request.method == .get && request.url.text == (statusEndpoint client.base).text

/-- No exchange asks for the status of the server. -/
def LeavesStatus (client : Client) (exchanges : List Exchange) : Prop :=
  ∀ exchange ∈ exchanges, exchange.request.asksStatus client = false

/-- What is remembered of the server is not used, and only who may ask for the status does. -/
def Allowance.uninformed (client : Client) (mayAsk : Prop) : Allowance where
  requests request := request.asksStatus client = true → mayAsk
  memo := False

namespace Call

variable {client : Client}

/-- A call that knows what the server is able to do does not use what is remembered, and only a
check of the permissions asks for the status. -/
theorem isConfined_knowing (hbase : IsBase client.base) (call : Call) (known : Capability) :
    IsConfined (Allowance.uninformed client (call = .checkAuthentication))
      (call.knowing client known) := by
  generalize hallowance : Allowance.uninformed client (call = .checkAuthentication) = allowance
  have hother {request : Request} (h : request.asksStatus client = false) :
      allowance.requests request := by
    rw [← hallowance]
    intro hasks
    rw [h] at hasks
    cases hasks
  have hget {url : Url} (h : url.text ≠ (statusEndpoint client.base).text) :
      allowance.requests (.get url) :=
    hother (by simp [Request.asksStatus, Request.get, h])
  have hlisting := hget (text_listingEndpoint_ne hbase)
  have hpoll (stage : Stage) (url : Url)
      (hurl : repositoryEndpoint client.base stage none = .ok url) :
      allowance.requests (.get url) :=
    hget (text_repositoryEndpoint_ne hbase hurl).1
  have hlog (stage : Stage) (url : Url)
      (hurl : repositoryEndpoint client.base stage (some "activity") = .ok url) :
      allowance.requests (.get url) :=
    hget (text_activityEndpoint_ne hbase hurl).1
  cases call with
  | checkAuthentication =>
    rw [← hallowance]
    exact Client.isConfined_checkAuthentication fun _ => rfl
  | capability | serverVersion | isAsync => exact isConfined_pure _
  | openStages => exact Client.isConfined_openStages hlisting
  | holds stage coordinates => exact Client.isConfined_holds fun _ _ => hother rfl
  | findOpenStage coordinates =>
    exact Client.isConfined_findOpenStage hlisting fun _ _ _ => hother rfl
  | closeStage stage description =>
    exact Client.isConfined_closeKnowing (fun _ _ => hother rfl) (hpoll stage) (hlog stage) _
  | dropStage stage => exact Client.isConfined_dropStage fun _ _ => hother rfl
  | releaseStage stage description =>
    exact Client.isConfined_releaseKnowing (fun _ _ => hother rfl) (hpoll stage) _
  | waitForTransition stage => exact Client.isConfined_waitForTransition (hpoll stage)
  | activityLog stage => exact Client.isConfined_activityLog (hlog stage)

/-- A call that need not know what the server is able to do does the same without knowing it. -/
theorem knowing_eq_operation {call : Call} (h : call.needsCapability = false) (client : Client)
    (known : Capability) : call.knowing client known = call.operation client := by
  cases call <;> first | rfl | cases h

/-- Only a check of the permissions asks for the status without having to know it. -/
theorem ne_checkAuthentication {call : Call} (h : call.needsCapability = true) :
    call ≠ .checkAuthentication := by
  rintro rfl
  cases h

/-- Whatever a call does once it knows what the server is able to do leaves the status alone, unless
it checks the permissions. -/
theorem leavesStatus_knowing {σ : Type} (environment : Environment σ) (hbase : IsBase client.base)
    {call : Call} (hcall : call ≠ .checkAuthentication) (known : Capability) (world : World σ) :
    LeavesStatus client ((call.knowing client known).runIn environment world).exchanges := by
  intro exchange hmem
  rw [Bool.eq_false_iff]
  intro hasks
  exact hcall ((call.isConfined_knowing hbase known).requests environment world exchange hmem hasks)

end Call

/-! ## Turns -/

variable {σ : Type} {environment : Environment σ} {client : Client}

/-- A turn of a client: a call, and the world that it finds. -/
structure Turn (σ : Type) where
  /-- What is called. -/
  call : Call
  /-- The world before the call. -/
  before : World σ

namespace Turn

variable (environment client)

/-- The run of a turn. -/
def run (turn : Turn σ) : Run σ (Except Failure turn.call.Result) :=
  (turn.call.operation client).runIn environment turn.before

/-- What a turn learns of the server: the status that a call which needs it is told. -/
def learned (turn : Turn σ) : Option Capability :=
  if turn.call.needsCapability then
    (turn.run environment client).exchanges.findSome? fun exchange =>
      if exchange.request.asksStatus client then exchange.capability.toOption else none
  else none

/-- How a turn goes, by what is known of the server when it starts. -/
inductive Follows (turn : Turn σ) : Option Capability → Prop where
  /-- A call that needs to know what is known runs as one that knows it, without asking for the
  status, and nothing else is remembered afterwards. -/
  | informed (known : Capability)
      (needs : turn.call.needsCapability = true)
      (run : turn.run environment client =
        (turn.call.knowing client known).runIn environment turn.before)
      (status : LeavesStatus client (turn.run environment client).exchanges)
      (memo : (turn.run environment client).world.memo = some known) :
      Follows turn (some known)
  /-- A call that needs to know what is not known asks for the status once. If the answer does not
  tell it, its failure is the result, nothing else is sent, and nothing is remembered. -/
  | refused (answer : Exchange) (failure : Failure)
      (needs : turn.call.needsCapability = true)
      (asked : answer.request = .get (statusEndpoint client.base))
      (untold : answer.capability = .error failure)
      (exchanges : (turn.run environment client).exchanges = [answer])
      (result : (turn.run environment client).result = some (.error failure))
      (memo : (turn.run environment client).world.memo = none) :
      Follows turn none
  /-- If the answer tells it, the call goes on as one that knows it, without asking for the status
  again, and it is remembered. -/
  | told (answer : Exchange) (known : Capability)
      (rest : Run σ (Except Failure turn.call.Result))
      (needs : turn.call.needsCapability = true)
      (asked : answer.request = .get (statusEndpoint client.base))
      (told : answer.capability = .ok known)
      (knowing : rest = (turn.call.knowing client known).runIn environment
        ((turn.before.afterSending environment answer.request).withMemo (some known)))
      (exchanges : (turn.run environment client).exchanges = answer :: rest.exchanges)
      (status : LeavesStatus client rest.exchanges)
      (result : (turn.run environment client).result = rest.result)
      (memo : (turn.run environment client).world.memo = some known) :
      Follows turn none
  /-- A call that need not know it runs alike whatever is remembered, and leaves that. Only a check
  of the permissions asks for the status. -/
  | unneeded (known : Option Capability)
      (needs : turn.call.needsCapability = false)
      (status : turn.call ≠ .checkAuthentication →
        LeavesStatus client (turn.run environment client).exchanges)
      (run : ∀ memo, (Turn.mk turn.call (turn.before.withMemo memo)).run environment client =
        (turn.run environment client).withMemo memo)
      (memo : (turn.run environment client).world.memo = turn.before.memo) :
      Follows turn known

variable {environment client}

/-- A turn goes by what is remembered when it starts. -/
theorem follows (hbase : IsBase client.base) (turn : Turn σ) :
    turn.Follows environment client turn.before.memo := by
  obtain ⟨call, before⟩ := turn
  cases hneeds : call.needsCapability with
  | false =>
    have hconfined := call.isConfined_knowing hbase ⟨"", false⟩
    have hstatus := fun hcall =>
      call.leavesStatus_knowing environment hbase hcall ⟨"", false⟩ before
    rw [Call.knowing_eq_operation hneeds] at hconfined
    simp only [Call.knowing_eq_operation hneeds] at hstatus
    exact .unneeded before.memo hneeds hstatus
      (hconfined.run_withMemo id environment before) (hconfined.memo_run id environment before)
  | true =>
    have hstatus (known : Capability) := call.leavesStatus_knowing environment hbase
      (Call.ne_checkAuthentication hneeds) known
    have hmemo (known : Capability) :=
      (call.isConfined_knowing hbase known).memo_run id environment
    have hrun : (client.capability >>= call.knowing client).Yields environment before
        fun result trace after =>
          run environment client ⟨call, before⟩ = ⟨result, trace, after⟩ := by
      rw [run, Call.operation_eq hneeds]
      rfl
    cases hbefore : before.memo with
    | some known =>
      replace hrun : run environment client ⟨call, before⟩ =
          (call.knowing client known).runIn environment before :=
        (Client.yields_capability_bind_of_known hbefore).mp hrun
      refine .informed known hneeds hrun ?_ ?_
      · rw [hrun]
        exact hstatus known before
      · rw [hrun]
        exact (hmemo known before).trans hbefore
    | none =>
      rw [Client.yields_capability_bind hbefore] at hrun
      generalize hrequest : Request.get (statusEndpoint client.base) = request at hrun
      have hasked : (before.exchange environment request).request =
          .get (statusEndpoint client.base) := hrequest.symm
      cases hcapability : (before.exchange environment request).capability with
      | error failure =>
        simp only [hcapability] at hrun
        refine .refused _ failure hneeds hasked hcapability ?_ ?_ ?_
        · rw [hrun]
          exact before.exchangesOf_sendingEvents environment request
        · rw [hrun]
        · rw [hrun]
          exact (before.memo_afterSending environment request).trans hbefore
      | ok known =>
        simp only [hcapability] at hrun
        refine .told _ known _ hneeds hasked hcapability rfl ?_ (hstatus known _) ?_ ?_
        · rw [hrun]
          simp [Run.exchanges, World.withMemo]
        · rw [hrun]
          rfl
        · rw [hrun]
          exact hmemo known _

/-- After a turn that is remembered which was remembered before it, or else what it learned. -/
theorem memo_run (hbase : IsBase client.base) (turn : Turn σ) :
    (turn.run environment client).world.memo =
      turn.before.memo.or (turn.learned environment client) := by
  have hfollows : turn.Follows environment client turn.before.memo := turn.follows hbase
  generalize hbefore : turn.before.memo = known at hfollows ⊢
  cases hfollows with
  | informed known needs run status memo => rw [memo, Option.some_or]
  | refused answer failure needs asked untold exchanges result memo =>
    simp [memo, learned, needs, exchanges, untold, Except.toOption]
  | told answer known rest needs asked told knowing exchanges status result memo =>
    have hasks : answer.request.asksStatus client = true := by
      simp [asked, Request.asksStatus, Request.get]
    simp [memo, learned, needs, exchanges, hasks, told, Except.toOption]
  | unneeded known needs status run memo =>
    simp [memo, learned, needs, hbefore]

end Turn

/-! ## Sessions -/

/-- The turns of a client, in order: a call finds remembered of the server what the one before it
left, and the first one what is given. Nothing else of the world is passed on, so between two calls
the server may change, time may pass, and waiting may be cancelled. -/
def AreTurns (environment : Environment σ) (client : Client) :
    Option Capability → List (Turn σ) → Prop
  | _, [] => True
  | memo, turn :: later => turn.before.memo = memo ∧
      AreTurns environment client (turn.run environment client).world.memo later

/-- The turns of some calls with nothing in between. -/
def turnsOf (environment : Environment σ) (client : Client) : List Call → World σ → List (Turn σ)
  | [], _ => []
  | call :: calls, world =>
    ⟨call, world⟩ ::
      turnsOf environment client calls ((Turn.mk call world).run environment client).world

/-- Any calls can be made one after another. -/
theorem areTurns_turnsOf (calls : List Call) (world : World σ) :
    AreTurns environment client world.memo (turnsOf environment client calls world) := by
  induction calls generalizing world with
  | nil => trivial
  | cons call calls ih => exact ⟨rfl, ih _⟩

/-- A turn finds remembered what was at first, or else what the first turn before it that learned
anything did. -/
theorem AreTurns.memo_eq (hbase : IsBase client.base) {turn : Turn σ} {later : List (Turn σ)}
    {earlier : List (Turn σ)} {memo : Option Capability}
    (h : AreTurns environment client memo (earlier ++ turn :: later)) :
    turn.before.memo = memo.or (earlier.findSome? (Turn.learned environment client)) := by
  induction earlier generalizing memo with
  | nil => simpa using h.1
  | cons first rest ih =>
    rw [ih h.2, first.memo_run hbase, h.1, Option.or_assoc, List.findSome?_cons]
    cases first.learned environment client <;> rfl

/-- In a session of a new client, whatever is called and whatever the server answers, each turn goes
by what the turns before it learned of the server: until one of them was told what the server is
able to do, each call that needs to know it asks for the status once, and from then on every call
knows what that turn was told. -/
theorem turns_learn_once {given : String} (hclient : baseUrl given = .ok client.base)
    {earlier later : List (Turn σ)} {turn : Turn σ}
    (hturns : AreTurns environment client none (earlier ++ turn :: later)) :
    turn.Follows environment client (earlier.findSome? (Turn.learned environment client)) := by
  have hbase := isBase_of_baseUrl hclient
  have hmemo := hturns.memo_eq hbase
  rw [Option.none_or] at hmemo
  rw [← hmemo]
  exact turn.follows hbase

/-- A server that cannot be reached at first, and is upgraded after it has told its version. -/
def upgradedRehearsal : Rehearsal where
  script := (Script.empty.respond ⟨.get, "http://nexus.test/service/local/status"⟩
      ⟨503, ""⟩).respond ⟨.get, "http://nexus.test/service/local/status"⟩
      ⟨200, "<status><data><version>2.3.1</version></data></status>"⟩ |>.respond
      ⟨.get, "http://nexus.test/service/local/status"⟩
      ⟨200, "<status><data><version>2.6.0</version></data></status>"⟩

/-- The last of four calls works with the version that the second one was told, although the server
tells another one by then. -/
theorem turns_learn_once_upgraded :
    ∃ earlier last,
      earlier ++ [last] = turnsOf Rehearsal.environment sampleClient
        [.serverVersion, .capability, .checkAuthentication, .isAsync]
        (World.fresh upgradedRehearsal) ∧
      baseUrl "http://nexus.test" = .ok sampleClient.base ∧
      AreTurns Rehearsal.environment sampleClient none (earlier ++ [last]) ∧
      last.Follows Rehearsal.environment sampleClient (some ⟨"2.3.1", false⟩) := by
  have hbase : baseUrl "http://nexus.test" = .ok sampleClient.base :=
    toOption_eq_some_iff.mp (by decide +kernel)
  obtain ⟨first, second, third, last, hturns⟩ : ∃ first second third last,
      turnsOf Rehearsal.environment sampleClient
        [.serverVersion, .capability, .checkAuthentication, .isAsync]
        (World.fresh upgradedRehearsal) = [first, second, third] ++ [last] := ⟨_, _, _, _, rfl⟩
  have hare : AreTurns Rehearsal.environment sampleClient none ([first, second, third] ++ [last]) :=
    hturns ▸ areTurns_turnsOf _ (World.fresh upgradedRehearsal)
  have hlearned : [first, second, third].findSome?
      (Turn.learned Rehearsal.environment sampleClient) = some ⟨"2.3.1", false⟩ := by
    have hfirst : ((turnsOf Rehearsal.environment sampleClient
        [.serverVersion, .capability, .checkAuthentication, .isAsync]
        (World.fresh upgradedRehearsal)).take 3).findSome?
          (Turn.learned Rehearsal.environment sampleClient) = some ⟨"2.3.1", false⟩ := by
      decide +kernel
    rwa [hturns] at hfirst
  exact ⟨_, last, hturns.symm, hbase, hare, hlearned ▸ turns_learn_once hbase hare⟩

end ReleaseStaging
