import ReleaseStaging.Client.Permissions
import ReleaseStaging.Client.Transitions
import ReleaseStaging.Proofs.Run.Confinement

/-!
# What the operations of a client may do

Each operation of a client is confined to whatever allows the requests that it is made of: there is
one rule for each operation, and its hypotheses name the endpoints that the operation uses.
-/

namespace ReleaseStaging

variable {allowance : Allowance}

namespace Client

theorem isConfined_fetchReport {url : Url} (h : allowance.requests (.get url)) :
    IsConfined allowance (fetchReport url) := by
  have hfetch : IsConfined allowance (fetch url) := by
    apply (isConfined_send h).bind
    intro response
    by_cases hfound : response.status = 200
    · rw [if_pos hfound]
      exact isConfined_pure _
    · rw [if_neg hfound]
      exact isConfined_throw _
  exact hfetch.bind fun _ => isConfined_liftM _

/-! ## Learning about the server -/

/-- Only what the server is able to do needs to be remembered. -/
theorem isConfined_capability {client : Client} (hmemo : allowance.memo)
    (h : allowance.requests (.get (statusEndpoint client.base))) :
    IsConfined allowance client.capability := by
  have hdetect : IsConfined allowance client.detect := by
    apply (isConfined_fetchReport h).bind
    intro report
    apply (isConfined_liftM _).bind
    intro version
    apply (isConfined_liftM _).bind
    intro capability
    apply (isConfined_lift (.remember capability) hmemo).bind
    intro _
    exact (isConfined_note _).bind fun _ => isConfined_pure _
  apply (isConfined_lift .recall hmemo).bind
  intro known
  cases known with
  | some capability => exact isConfined_pure capability
  | none => exact hdetect

/-- The permissions are read from the status, and nothing is remembered. -/
theorem isConfined_checkAuthentication {client : Client}
    (h : allowance.requests (.get (statusEndpoint client.base))) :
    IsConfined allowance client.checkAuthentication := by
  have hrequire (report : Report) (permission : String) :
      IsConfined allowance (requirePermission report permission) := by
    apply (isConfined_liftM _).bind
    intro granted
    cases granted with
    | true => exact isConfined_pure ()
    | false => exact (isConfined_note _).bind fun _ => isConfined_throw _
  have hall (report : Report) (permissions : List String) :
      IsConfined allowance (permissions.forM (requirePermission report)) := by
    induction permissions with
    | nil => exact isConfined_pure ()
    | cons permission permissions ih => exact (hrequire report permission).bind fun _ => ih
  exact (isConfined_fetchReport h).bind fun report => hall report requiredPermissions

/-! ## Finding a stage -/

theorem isConfined_openStages {client : Client}
    (h : allowance.requests (.get (listingEndpoint client.base))) :
    IsConfined allowance client.openStages :=
  (isConfined_fetchReport h).bind fun _ => isConfined_liftM _

theorem isConfined_holds {client : Client} {stage : Stage} {coordinates : Coordinates}
    (h : ∀ url, contentEndpoint client.base stage coordinates = .ok url →
      allowance.requests (.head url)) :
    IsConfined allowance (client.holds stage coordinates) := by
  apply isConfined_liftM_bind
  intro url hurl
  apply (isConfined_send (h url hurl)).bind
  intro response
  by_cases hfound : response.status = 200
  · rw [if_pos hfound]
    exact isConfined_pure true
  · rw [if_neg hfound]
    by_cases habsent : response.status = 404
    · rw [if_pos habsent]
      exact isConfined_pure false
    · rw [if_neg habsent]
      exact (isConfined_note _).bind fun _ => isConfined_pure false

theorem isConfined_holders {client : Client} {coordinates : Coordinates}
    (h : ∀ stage url, contentEndpoint client.base stage coordinates = .ok url →
      allowance.requests (.head url)) (stages : List Stage) :
    IsConfined allowance (client.holders coordinates stages) := by
  induction stages with
  | nil => exact isConfined_pure []
  | cons stage stages ih =>
    exact (isConfined_holds (h stage)).bind fun _ => ih.bind fun _ => isConfined_pure _

theorem isConfined_findOpenStage {client : Client} {coordinates : Coordinates}
    (hlisting : allowance.requests (.get (listingEndpoint client.base)))
    (h : ∀ stage url, contentEndpoint client.base stage coordinates = .ok url →
      allowance.requests (.head url)) :
    IsConfined allowance (client.findOpenStage coordinates) := by
  apply (isConfined_openStages hlisting).bind
  intro stages
  apply (isConfined_holders h stages).bind
  intro found
  cases found with
  | nil => exact isConfined_pure none
  | cons stage others =>
    cases others with
    | nil => exact isConfined_pure (some stage)
    | cons second others => exact (isConfined_note _).bind fun _ => isConfined_pure _

/-! ## Changing a stage -/

theorem isConfined_request {client : Client} {action : Action} {stage : Stage}
    {description : Option String}
    (h : ∀ url, action.endpoint client.base stage = .ok url →
      allowance.requests (.post url (promoteRequest stage.stageId description))) :
    IsConfined allowance (client.request action stage description) := by
  apply isConfined_liftM_bind
  intro url hurl
  apply (isConfined_send (h url hurl)).bind
  intro response
  by_cases haccepted : response.status = 201
  · rw [if_pos haccepted]
    exact isConfined_pure ()
  · rw [if_neg haccepted]
    exact isConfined_throw _

theorem isConfined_waitForTransition {client : Client} {stage : Stage}
    (h : ∀ url, repositoryEndpoint client.base stage none = .ok url →
      allowance.requests (.get url)) :
    IsConfined allowance (client.waitForTransition stage) := by
  have hpoll (endpoint : Url) (hendpoint : allowance.requests (.get endpoint)) (horizon : Nat)
      (attempts : UInt32) :
      IsConfined allowance (client.pollFrom stage endpoint horizon attempts) := by
    induction horizon generalizing attempts with
    | zero => exact isConfined_unfinished
    | succ horizon ih =>
      rw [pollFrom]
      apply (isConfined_lift .cancellation trivial).bind
      intro reason
      cases reason with
      | some reason => exact isConfined_throw _
      | none =>
        apply ((isConfined_fetchReport hendpoint).bind fun _ => isConfined_liftM _).bind
        intro isGoing
        cases isGoing with
        | false => exact isConfined_pure ()
        | true =>
          by_cases hlimit : client.poll.isExhausted (attempts + 1) = true
          · simp only [hlimit, if_true]
            exact isConfined_throw _
          · simp only [hlimit, if_true]
            apply (isConfined_lift (.pause client.poll.intervalMillis.toNat) trivial).bind
            intro reason
            cases reason with
            | some reason => exact isConfined_throw _
            | none => exact ih (attempts + 1)
  exact isConfined_liftM_bind fun endpoint hendpoint =>
    hpoll endpoint (h endpoint hendpoint) client.horizon 0

theorem isConfined_activityLog {client : Client} {stage : Stage}
    (h : ∀ url, repositoryEndpoint client.base stage (some "activity") = .ok url →
      allowance.requests (.get url)) :
    IsConfined allowance (client.activityLog stage) :=
  isConfined_liftM_bind fun url hurl =>
    (isConfined_fetchReport (h url hurl)).bind fun _ => isConfined_liftM _

theorem isConfined_confirmClosed {client : Client} {stage : Stage}
    (h : ∀ url, repositoryEndpoint client.base stage (some "activity") = .ok url →
      allowance.requests (.get url)) :
    IsConfined allowance (client.confirmClosed stage) := by
  apply (isConfined_activityLog h).bind
  intro activities
  cases CloseOutcome.ofLog activities with
  | closed => exact isConfined_note _
  | failed failure => exact isConfined_throw _
  | unrecorded => exact isConfined_throw _

/-- A close at a server that is known to work in the background, or not to. -/
def closeKnowing (client : Client) (stage : Stage) (description : String) (inBackground : Bool) :
    Operation Unit := do
  Operation.note (.closing stage)
  client.request .close stage (some description)
  if inBackground then
    client.waitForTransition stage
    client.confirmClosed stage

/-- A close starts with learning what the server is able to do. -/
theorem closeStage_eq (client : Client) (stage : Stage) (description : String) :
    client.closeStage stage description = client.capability >>= fun known =>
      client.closeKnowing stage description known.asyncActions := by
  have hasync : client.closeStage stage description =
      client.isAsync >>= client.closeKnowing stage description := rfl
  rw [hasync, isAsync, bind_assoc]
  simp only [pure_bind]

/-- A release at a server that is known to work in the background, or not to. -/
def releaseKnowing (client : Client) (stage : Stage) (description : String)
    (inBackground : Bool) : Operation Unit := do
  Operation.note (.releasing stage)
  client.request .release stage (some description)
  if inBackground then
    client.waitForTransition stage
  Operation.note (.released stage)

/-- A release starts with learning what the server is able to do. -/
theorem releaseStage_eq (client : Client) (stage : Stage) (description : String) :
    client.releaseStage stage description = client.capability >>= fun known =>
      client.releaseKnowing stage description known.asyncActions := by
  have hasync : client.releaseStage stage description =
      client.isAsync >>= client.releaseKnowing stage description := rfl
  rw [hasync, isAsync, bind_assoc]
  simp only [pure_bind]

theorem isConfined_closeKnowing {client : Client} {stage : Stage} {description : String}
    (hrequest : ∀ url, Action.close.endpoint client.base stage = .ok url →
      allowance.requests (.post url (promoteRequest stage.stageId (some description))))
    (hpoll : ∀ url, repositoryEndpoint client.base stage none = .ok url →
      allowance.requests (.get url))
    (hlog : ∀ url, repositoryEndpoint client.base stage (some "activity") = .ok url →
      allowance.requests (.get url)) (inBackground : Bool) :
    IsConfined allowance (client.closeKnowing stage description inBackground) := by
  apply (isConfined_note _).bind
  intro _
  apply (isConfined_request hrequest).bind
  intro _
  cases inBackground with
  | true => exact (isConfined_waitForTransition hpoll).bind fun _ => isConfined_confirmClosed hlog
  | false => exact isConfined_pure ()

theorem isConfined_releaseKnowing {client : Client} {stage : Stage} {description : String}
    (hrequest : ∀ url, Action.release.endpoint client.base stage = .ok url →
      allowance.requests (.post url (promoteRequest stage.stageId (some description))))
    (hpoll : ∀ url, repositoryEndpoint client.base stage none = .ok url →
      allowance.requests (.get url)) (inBackground : Bool) :
    IsConfined allowance (client.releaseKnowing stage description inBackground) := by
  apply (isConfined_note _).bind
  intro _
  apply (isConfined_request hrequest).bind
  intro _
  cases inBackground with
  | true => exact (isConfined_waitForTransition hpoll).bind fun _ => isConfined_note _
  | false => exact isConfined_note _

theorem isConfined_dropStage {client : Client} {stage : Stage}
    (h : ∀ url, Action.drop.endpoint client.base stage = .ok url →
      allowance.requests (.post url (promoteRequest stage.stageId none))) :
    IsConfined allowance (client.dropStage stage) :=
  (isConfined_note _).bind fun _ => isConfined_request h

end Client

end ReleaseStaging
