import ReleaseStaging.Command.Transitions
import ReleaseStaging.Proofs.Client.Search
import ReleaseStaging.Proofs.Command.Closing
import ReleaseStaging.Proofs.Command.Confinement

/-!
# Which stage a command changes

A command that changes a stage first finds the one that is meant, by what the server tells, and then
works on that stage and on no other. Which requests look for a stage can be told from the requests
alone, and what they are answered leaves no choice which stage is found, or why none is; in the
second case the command fails and sends nothing more.
Main statement: `changes_selected_stage`.
-/

namespace ReleaseStaging

/-! ## Looking for a stage -/

/-- Whether a request looks for a stage: it asks for the listing, or for the status of a folder. -/
def Request.looks (client : Client) (request : Request) : Bool :=
  request.method == .head ||
    request.method == .get &&
      request.url.text == client.base.text ++ "service/local/staging/profile_repositories"

/-- Who looks for a stage sends no document. -/
theorem Request.method_ne_post_of_looks {client : Client} {request : Request}
    (h : request.looks client = true) : request.method ≠ .post := by
  intro hpost
  simp [looks, hpost] at h

/-- Where everything else comes after what looks for a stage, that can be told apart. -/
theorem filter_looks {client : Client} {lookups rest : List Exchange}
    (h : ∀ exchange ∈ lookups, exchange.request.looks client = true)
    (hrest : ∀ exchange ∈ rest, exchange.request.looks client = false) :
    (lookups ++ rest).filter (fun exchange => exchange.request.looks client) = lookups := by
  rw [List.filter_append, List.filter_eq_self.mpr h,
    List.filter_eq_nil_iff.mpr (by simpa using hrest), List.append_nil]

/-- How a stage is found in the listing by its identifier, or why it is not. -/
inductive Client.LooksUp (client : Client) (stageId : String) (listing : Exchange) :
    Except CommandFailure Stage → Prop
  /-- It is the first open stage with the identifier. -/
  | listed {stages : List Stage} {stage : Stage} (told : client.IsListing listing stages)
      (first : IsFirst (fun other : Stage => other.stageId = stageId) stages stage) :
      LooksUp client stageId listing (.ok stage)
  /-- No open stage has the identifier. -/
  | unlisted {stages : List Stage} (told : client.IsListing listing stages)
      (absent : ∀ stage ∈ stages, stage.stageId ≠ stageId) :
      LooksUp client stageId listing
        (.error (.ofText s!"stage {stageId} is not open; pass --profile to address it"))
  /-- No listing is told, and the failure is why. -/
  | untold {failure : Failure} (asked : listing.request = .get (listingEndpoint client.base))
      (untold : ∀ stages, ¬client.IsListing listing stages)
      (why : listing.openStages = .error failure) :
      LooksUp client stageId listing (.error (.ofFailure failure))

/-- What comes of looking for the stage that a target means, by the exchanges with the server. -/
inductive StageTarget.Finds (client : Client) :
    StageTarget → List Exchange → Except CommandFailure Stage → Prop
  /-- The stage is named with its profile, and the server is not asked. -/
  | named {stageId profileId : String} {group artifact version : Option String} :
      Finds client ⟨some stageId, some profileId, group, artifact, version⟩ []
        (.ok ⟨profileId, stageId⟩)
  /-- The stage is named without its profile, and the server is asked for the listing. -/
  | listed {stageId : String} {group artifact version : Option String} {listing : Exchange}
      {found : Except CommandFailure Stage} (looked : client.LooksUp stageId listing found) :
      Finds client ⟨some stageId, none, group, artifact, version⟩ [listing] found
  /-- A search finds the stage that holds an artifact. -/
  | held {group artifact : String} {profile version : Option String} {exchanges : List Exchange}
      {stage : Stage}
      (searched : client.Search ⟨group, artifact, version⟩ exchanges (.ok (some stage))) :
      Finds client ⟨none, profile, some group, some artifact, version⟩ exchanges (.ok stage)
  /-- A search finds that no stage holds the artifact. -/
  | unheld {group artifact : String} {profile version : Option String} {exchanges : List Exchange}
      (searched : client.Search ⟨group, artifact, version⟩ exchanges (.ok none)) :
      Finds client ⟨none, profile, some group, some artifact, version⟩ exchanges
        (.error (.ofText s!"no open stage holds {group}:{artifact}"))
  /-- A search fails. -/
  | failed {group artifact : String} {profile version : Option String} {exchanges : List Exchange}
      {failure : Failure}
      (searched : client.Search ⟨group, artifact, version⟩ exchanges (.error failure)) :
      Finds client ⟨none, profile, some group, some artifact, version⟩ exchanges
        (.error (.ofFailure failure))
  /-- The target names neither a stage nor an artifact with its group. -/
  | incomplete {profile group artifact version : Option String}
      (missing : group = none ∨ artifact = none) :
      Finds client ⟨none, profile, group, artifact, version⟩ []
        (.error (.ofText "select a stage with --stage or with --group and --artifact"))

section

variable {client : Client} {target : StageTarget} {exchanges : List Exchange}
  {found other : Except CommandFailure Stage}

/-- The answer to the request for the listing leaves no choice what is found in it. -/
theorem Client.LooksUp.unique {stageId : String} {listing : Exchange}
    (h : client.LooksUp stageId listing found) (hother : client.LooksUp stageId listing other) :
    found = other := by
  cases h with
  | listed told first =>
    cases hother with
    | listed told' first' =>
      obtain rfl := told.unique told'
      rw [first.unique first']
    | unlisted told' absent =>
      obtain rfl := told.unique told'
      obtain ⟨hnamed, before, after, rfl, -⟩ := first
      exact absurd hnamed (absent _ (by simp))
    | untold asked untold why => exact absurd told (untold _)
  | unlisted told absent =>
    cases hother with
    | listed told' first =>
      obtain rfl := told.unique told'
      obtain ⟨hnamed, before, after, rfl, -⟩ := first
      exact absurd hnamed (absent _ (by simp))
    | unlisted => rfl
    | untold asked untold why => exact absurd told (untold _)
  | untold asked untold why =>
    cases hother with
    | listed told | unlisted told => exact absurd told (untold _)
    | untold asked' untold' why' => rw [Except.error.inj (why.symm.trans why')]

/-- The exchanges leave no choice which stage is found, or why none is. -/
theorem StageTarget.Finds.unique (h : target.Finds client exchanges found)
    (hother : target.Finds client exchanges other) : found = other := by
  -- What is given of the target tells which of the three ways to look for a stage is taken.
  cases h with
  | named =>
    cases hother
    rfl
  | listed looked =>
    cases hother with
    | listed looked' => exact looked.unique looked'
  | held searched =>
    cases hother with
    | held searched' => cases searched.unique searched'; rfl
    | unheld searched' | failed searched' => cases searched.unique searched'
    | incomplete missing => simp at missing
  | unheld searched =>
    cases hother with
    | held searched' | failed searched' => cases searched.unique searched'
    | unheld => rfl
    | incomplete missing => simp at missing
  | failed searched =>
    cases hother with
    | held searched' | unheld searched' => cases searched.unique searched'
    | failed searched' => cases searched.unique searched'; rfl
    | incomplete missing => simp at missing
  | incomplete missing =>
    cases hother with
    | held | unheld | failed => simp at missing
    | incomplete => rfl

end

variable {σ : Type} {environment : Environment σ}

/-- What must be there is the result, and otherwise the command fails with the text. -/
private theorem yields_require {α : Type} {value : Option α} {otherwise : String}
    {world : World σ}
    {outcome : Option (Except CommandFailure α) → List Event → World σ → Prop} :
    (Command.require value otherwise).Yields environment world outcome ↔
      outcome (some (match value with
        | some a => .ok a
        | none => .error (.ofText otherwise))) [] world := by
  cases value <;> rfl

namespace StageTarget

variable {client : Client}

/-- A command that looks for a stage finds what the exchanges tell. -/
theorem yields_resolve_finds (hbase : IsBase client.base) (target : StageTarget)
    (world : World σ) :
    (target.resolve client).Yields environment world fun result trace _ =>
      ∃ found, target.Finds client (exchangesOf trace) found ∧ result = some found := by
  rw [resolve]
  obtain ⟨stage, profile, group, artifact, version⟩ := target
  split
  next stageId profileId hstage hprofile =>
    cases hstage
    cases hprofile
    exact ⟨_, .named, rfl⟩
  next stageId hstage hprofile =>
    cases hstage
    cases hprofile
    rw [Command.yields_bind, Command.yields_ofOperation]
    apply (client.yields_openStages world).mono
    rintro result trace after ⟨listing, htrace, hrequest, rfl⟩
    cases hopen : listing.openStages with
    | error failure =>
      have huntold : ∀ stages, ¬client.IsListing listing stages := by
        intro stages htold
        cases hopen.symm.trans (Client.isListing_iff.mp htold).2
      refine ⟨_, ?_, rfl⟩
      rw [htrace]
      exact .listed (.untold hrequest huntold hopen)
    | ok stages =>
      have htold : client.IsListing listing stages := Client.isListing_iff.mpr ⟨hrequest, hopen⟩
      simp only [Option.map_some, Except.mapError, yields_require, List.append_nil, htrace]
      refine ⟨_, .listed ?_, rfl⟩
      cases hfound : stages.find? fun stage => stage.stageId == stageId with
      | some stage =>
        rw [find?_eq_some_iff_isFirst] at hfound
        exact .listed htold (by simpa using hfound)
      | none => exact .unlisted htold (by simpa using hfound)
  next group artifact hstage hgroup hartifact =>
    cases hstage
    cases hgroup
    cases hartifact
    rw [Command.yields_bind, Command.yields_ofOperation]
    apply (client.yields_search ⟨group, artifact, version⟩ hbase world).mono
    rintro result trace after ⟨failure | _ | stage, hsearch, rfl⟩
    · exact ⟨_, .failed hsearch, rfl⟩
    · simp only [Option.map_some, Except.mapError, yields_require, List.append_nil]
      exact ⟨_, .unheld hsearch, rfl⟩
    · simp only [Option.map_some, Except.mapError, yields_require, List.append_nil]
      exact ⟨_, .held hsearch, rfl⟩
  next hstage hincomplete =>
    cases hstage
    refine ⟨_, .incomplete ?_, rfl⟩
    cases group with
    | none => exact .inl rfl
    | some group =>
      cases artifact with
      | none => exact .inr rfl
      | some artifact => exact absurd rfl (hincomplete group artifact rfl)

/-- Looking for a stage sends nothing else. -/
theorem yields_resolve_looks (hbase : IsBase client.base) (target : StageTarget)
    (world : World σ) :
    (target.resolve client).Yields environment world fun _ trace _ =>
      ∀ exchange ∈ exchangesOf trace, exchange.request.looks client = true := by
  have hconfined : IsConfined
      { requests := fun request => request.looks client = true, memo := True }
      (target.resolve client) :=
    target.isConfined_resolve
      (by simp [Request.looks, Request.get, text_listingEndpoint hbase])
      (by simp [Request.looks, Request.head])
  exact hconfined.requests environment world

end StageTarget

/-! ## Working on a stage -/

/-- A command that changes a stage, and what it is told. -/
inductive Change where
  /-- Close the stage. -/
  | close (description : String) (retry : CloseRetry)
  /-- Drop the stage. -/
  | drop
  /-- Release the stage. -/
  | release (description : String)
  deriving DecidableEq, Repr

namespace Change

/-- The command. -/
def command (client : Client) (asJson : Bool) (target : StageTarget) : Change → Command Unit
  | close description retry => Command.close client asJson target description retry
  | drop => Command.drop client asJson target
  | release description => Command.release client asJson target description

/-- What the command does with the stage that it found. -/
def carryOut (client : Client) (asJson : Bool) (change : Change) (stage : Stage) : Command Unit :=
  match change with
  | close description retry => do
    let attempt ← Command.tryClose client stage description retry 1
    Command.perform (.note (.closeComplete stage attempt.toNat))
    Command.emit asJson (transitionJson .close stage) ("Closed " ++ stage.display)
  | drop => do
    client.dropStage stage
    Command.emit asJson (transitionJson .drop stage) ("Requested drop of " ++ stage.display)
  | release description => do
    client.releaseStage stage description
    Command.emit asJson (transitionJson .release stage) ("Released " ++ stage.display)

/-- A command finds the stage before it does anything with it. -/
theorem command_eq (client : Client) (change : Change) (asJson : Bool) (target : StageTarget) :
    change.command client asJson target =
      target.resolve client >>= change.carryOut client asJson := by
  cases change <;> rfl

/-- A request asks for the change of a stage. -/
inductive Asks (client : Client) (stage : Stage) : Change → Request → Prop
  | close {description : String} {retry : CloseRetry} {url : Url}
      (address : IsTransitionAddress client.base "finish" stage url) :
      Asks client stage (.close description retry)
        (.post url (promoteRequest stage.stageId (some description)))
  | drop {url : Url} (address : IsTransitionAddress client.base "drop" stage url) :
      Asks client stage .drop (.post url (promoteRequest stage.stageId none))
  | release {description : String} {url : Url}
      (address : IsTransitionAddress client.base "promote" stage url) :
      Asks client stage (.release description)
        (.post url (promoteRequest stage.stageId (some description)))

/-- The requests that a command may send once it has found a stage. All of them are about this
stage, except for the one by which it learns what the server is able to do. -/
inductive MaySend (client : Client) (stage : Stage) : Change → Request → Prop
  /-- The change is asked for. -/
  | asks {change : Change} {request : Request} (asks : change.Asks client stage request) :
      MaySend client stage change request
  /-- The drop of a stage whose close failed is asked for, if that is wanted. -/
  | dropFailed {description : String} {retry : CloseRetry} {request : Request}
      (wanted : retry.dropOnFailure = true) (asks : drop.Asks client stage request) :
      MaySend client stage (.close description retry) request
  /-- A close or a release depends on what the server is able to do. -/
  | learn {change : Change} (waits : change ≠ .drop) :
      MaySend client stage change (.get (statusEndpoint client.base))
  /-- A close or a release is waited for. -/
  | poll {change : Change} {url : Url} (waits : change ≠ .drop)
      (address : IsRepositoryAddress client.base stage none url) :
      MaySend client stage change (.get url)
  /-- A close is confirmed. -/
  | log {description : String} {retry : CloseRetry} {url : Url}
      (address : IsRepositoryAddress client.base stage (some "activity") url) :
      MaySend client stage (.close description retry) (.get url)

section

variable {client : Client} {stage : Stage}

/-- What may be sent about a stage that is found looks for none. -/
theorem MaySend.not_looks (hbase : IsBase client.base) {change : Change} {request : Request}
    (h : change.MaySend client stage request) : request.looks client = false := by
  have hasks {change : Change} (h : change.Asks client stage request) :
      request.looks client = false := by
    cases h <;> rfl
  have hget {url : Url} (h : url.text ≠ (listingEndpoint client.base).text) :
      (Request.get url).looks client = false := by
    rw [text_listingEndpoint hbase] at h
    simpa [Request.looks, Request.get] using h
  cases h with
  | asks asks => exact hasks asks
  | dropFailed _ asks => exact hasks asks
  | learn => exact hget (text_listingEndpoint_ne hbase).symm
  | poll _ address =>
    exact hget (text_repositoryEndpoint_ne hbase
      ((repositoryEndpoint_eq_ok_iff hbase).mpr address)).2
  | log address =>
    exact hget (text_activityEndpoint_ne hbase
      ((repositoryEndpoint_eq_ok_iff hbase).mpr address)).2

/-- What may be asked for about a stage that is found. -/
def allowance (client : Client) (stage : Stage) (change : Change) : Allowance where
  requests := change.MaySend client stage
  memo := True

/-- A close or a release may find out what the server is able to do. -/
theorem isConfined_capability {change : Change} (hwaits : change ≠ .drop) :
    IsConfined (change.allowance client stage) client.capability :=
  Client.isConfined_capability trivial (MaySend.learn hwaits)

theorem isConfined_closeStage (hbase : IsBase client.base) (description : String)
    (retry : CloseRetry) : IsConfined (allowance client stage (.close description retry))
      (client.closeStage stage description) := by
  have hwaits : close description retry ≠ .drop := nofun
  rw [Client.closeStage_eq]
  apply (isConfined_capability hwaits).bind
  intro known
  exact Client.isConfined_closeKnowing
    (fun url hurl => MaySend.asks (.close ((Action.endpoint_eq_ok_iff hbase).mp hurl)))
    (fun url hurl => MaySend.poll hwaits ((repositoryEndpoint_eq_ok_iff hbase).mp hurl))
    (fun url hurl => MaySend.log ((repositoryEndpoint_eq_ok_iff hbase).mp hurl)) _

theorem isConfined_releaseStage (hbase : IsBase client.base) (description : String) :
    IsConfined (allowance client stage (.release description))
      (client.releaseStage stage description) := by
  have hwaits : release description ≠ .drop := nofun
  rw [Client.releaseStage_eq]
  apply (isConfined_capability hwaits).bind
  intro known
  exact Client.isConfined_releaseKnowing
    (fun url hurl => MaySend.asks (.release ((Action.endpoint_eq_ok_iff hbase).mp hurl)))
    (fun url hurl => MaySend.poll hwaits ((repositoryEndpoint_eq_ok_iff hbase).mp hurl)) _

/-- What follows once the stage is found sends nothing else. -/
theorem isConfined_carryOut (hbase : IsBase client.base) (change : Change) (asJson : Bool) :
    IsConfined (change.allowance client stage) (change.carryOut client asJson stage) := by
  cases change with
  | close description retry =>
    have hdrop (hwanted : retry.dropOnFailure = true) :
        IsConfined (allowance client stage (.close description retry)) (client.dropStage stage) :=
      Client.isConfined_dropStage fun _ hurl =>
        MaySend.dropFailed hwanted (.drop ((Action.endpoint_eq_ok_iff hbase).mp hurl))
    apply (Command.isConfined_tryClose (isConfined_closeStage hbase description retry)
      hdrop 1).bind
    intro attempt
    exact (isConfined_perform_note _).bind fun _ => isConfined_emit trivial _ _ _
  | drop =>
    have hdrop : IsConfined (allowance client stage .drop) (client.dropStage stage) :=
      Client.isConfined_dropStage fun _ hurl =>
        MaySend.asks (.drop ((Action.endpoint_eq_ok_iff hbase).mp hurl))
    exact (isConfined_ofOperation hdrop).bind fun _ => isConfined_emit trivial _ _ _
  | release description =>
    exact (isConfined_ofOperation (isConfined_releaseStage hbase description)).bind fun _ =>
      isConfined_emit trivial _ _ _

/-! ### Success -/

/-- Among some exchanges there is an accepted request for the change of a stage. -/
def IsGranted (client : Client) (stage : Stage) (change : Change) (exchanges : List Exchange) :
    Prop :=
  ∃ exchange ∈ exchanges, change.Asks client stage exchange.request ∧ exchange.status? = some 201

theorem IsGranted.mono {change : Change} {exchanges others : List Exchange}
    (h : change.IsGranted client stage exchanges) (hsub : exchanges ⊆ others) :
    change.IsGranted client stage others := by
  obtain ⟨exchange, hmem, hgranted⟩ := h
  exact ⟨exchange, hsub hmem, hgranted⟩

/-- A request that was accepted in the course of a transition is one for the change. -/
theorem isGranted_of_follows (hbase : IsBase client.base) {change : Change} {action : Action}
    {description : Option String} {memo : Option Capability} {course : Course}
    (h : course.Follows client action stage description memo)
    (haccepted : IsAccepted course.requesting)
    (hasks : ∀ url, IsTransitionAddress client.base action.verb stage url →
      change.Asks client stage (.post url (promoteRequest stage.stageId description))) :
    change.IsGranted client stage course.exchanges := by
  obtain ⟨exchange, hmem, hstatus, url, hurl, hrequest⟩ := h.exists_accepted haccepted
  refine ⟨exchange, hmem, ?_, hstatus⟩
  rw [hrequest]
  exact hasks url ((Action.endpoint_eq_ok_iff hbase).mp hurl)

variable {σ : Type} {environment : Environment σ}

/-- A try to close a stage succeeds only if the close was granted. -/
theorem yields_closeStage_granted (hbase : IsBase client.base) (description : String)
    (retry : CloseRetry) (world : World σ) :
    (client.closeStage stage description).Yields environment world fun result trace _ =>
      result = some (.ok ()) →
        (close description retry).IsGranted client stage (exchangesOf trace) := by
  apply (Client.yields_course (client.concludes_close stage) world).mono
  rintro result trace after ⟨course, htrace, hfollows, -, hresult⟩ hok
  rw [htrace]
  exact isGranted_of_follows hbase hfollows (hresult.mp hok).1 fun _ => .close

/-- The tries to close a stage succeed only if the close was granted. -/
theorem yields_tryClose_granted (hbase : IsBase client.base) (description : String)
    (retry : CloseRetry) (world : World σ) :
    (Command.tryClose client stage description retry 1).Yields environment world
      fun result trace _ => ∀ attempt, result = some (.ok attempt) →
        (close description retry).IsGranted client stage (exchangesOf trace) := by
  let job : CloseJob := ⟨client, stage, description, retry⟩
  obtain ⟨last, hlast, hleast⟩ := CloseJob.exists_isLeast environment job world
  have hgranted : (client.closeStage stage description).Yields environment
      (job.start environment world last) _ :=
    yields_closeStage_granted hbase description retry (job.start environment world last)
  -- Only the last try counts, and it is followed by nothing if it succeeds.
  show (job.continued 0).Yields environment world _
  rw [CloseJob.yields_tries hlast hleast]
  dsimp only
  cases hresult : (job.nth environment world last).result with
  | none => nofun
  | some result =>
    cases result with
    | ok done =>
      intro _ _
      apply (hgranted hresult).mono
      rw [exchangesOf_append]
      exact List.subset_append_right _ _
    | error failure =>
      dsimp only
      split
      · nofun
      · apply (@CloseJob.yields_abandonClose_ends _ environment job "" last _ failure hresult).mono
        rintro result later after ⟨cause, rfl, -⟩
        nofun

/-- A drop succeeds only if it was granted. -/
theorem yields_dropStage_granted (hbase : IsBase client.base) (world : World σ) :
    (client.dropStage stage).Yields environment world fun result trace _ =>
      result = some (.ok ()) → drop.IsGranted client stage (exchangesOf trace) := by
  rw [Client.dropStage, Operation.yields_bind, Operation.yields_note, Client.yields_request]
  cases hurl : Action.drop.endpoint client.base stage with
  | error failure =>
    intro hok
    cases hok
  | ok url =>
    intro hok
    have hrequest := world.request_exchange environment
      (.post url (promoteRequest stage.stageId none))
    refine ⟨_, by simp, ?_, (Exchange.acceptance_eq_ok_iff _ _ _).mp (Option.some.inj hok)⟩
    rw [hrequest]
    exact .drop ((Action.endpoint_eq_ok_iff hbase).mp hurl)

/-- A release succeeds only if it was granted. -/
theorem yields_releaseStage_granted (hbase : IsBase client.base) (description : String)
    (world : World σ) :
    (client.releaseStage stage description).Yields environment world fun result trace _ =>
      result = some (.ok ()) →
        (release description).IsGranted client stage (exchangesOf trace) := by
  apply (Client.yields_course (client.concludes_release stage) world).mono
  rintro result trace after ⟨course, htrace, hfollows, -, hresult⟩ hok
  rw [htrace]
  exact isGranted_of_follows hbase hfollows (hresult.mp hok).1 fun _ => .release

/-- A command that says what an operation did sends no more than the operation. -/
theorem yields_emitted {work : Operation Unit} {world : World σ} {Sent : List Exchange → Prop}
    (h : work.Yields environment world fun result trace _ =>
      result = some (.ok ()) → Sent (exchangesOf trace)) (asJson : Bool) (document : Json)
    (text : String) :
    (liftM work >>= fun _ => Command.emit asJson document text : Command Unit).Yields environment
      world fun result trace _ => result = some (.ok ()) → Sent (exchangesOf trace) := by
  rw [Command.yields_bind, Command.yields_ofOperation]
  apply h.mono
  rintro (_ | failure | ⟨⟨⟩⟩) trace after hsent
  · intro hok
    cases hok
  · intro hok
    cases hok
  · simp only [Option.map_some, Except.mapError, Command.yields_emit]
    intro _
    simpa using hsent rfl

/-- What a command does with a stage succeeds only if the change was granted. -/
theorem yields_carryOut_granted (hbase : IsBase client.base) (change : Change) (asJson : Bool)
    (world : World σ) :
    (change.carryOut client asJson stage).Yields environment world fun result trace _ =>
      result = some (.ok ()) → change.IsGranted client stage (exchangesOf trace) := by
  cases change with
  | close description retry =>
    rw [carryOut, Command.yields_bind]
    apply (yields_tryClose_granted hbase description retry world).mono
    rintro (_ | failure | attempt) trace after hgranted
    · intro hok
      cases hok
    · intro hok
      cases hok
    · simp only [Command.yields_bind, Command.yields_note, Command.yields_emit]
      intro _
      simpa using hgranted attempt rfl
  | drop => exact yields_emitted (yields_dropStage_granted hbase world) _ _ _
  | release description =>
    exact yields_emitted (yields_releaseStage_granted hbase description world) _ _ _

/-- A command works on the stage that it found, or fails for the reason why it found none. -/
theorem yields_command (hbase : IsBase client.base) (change : Change) (asJson : Bool)
    (target : StageTarget) (world : World σ) :
    (change.command client asJson target).Yields environment world fun result trace _ =>
      ∃ lookups, (∀ exchange ∈ lookups, exchange.request.looks client = true) ∧
        ((∃ stage after, target.Finds client lookups (.ok stage) ∧
            let work := (change.carryOut client asJson stage).runIn environment after
            result = work.result ∧ exchangesOf trace = lookups ++ work.exchanges) ∨
          ∃ failure, target.Finds client lookups (.error failure) ∧
            result = some (.error failure) ∧ exchangesOf trace = lookups) := by
  rw [command_eq, Command.yields_bind]
  apply ((target.yields_resolve_looks hbase world).and
    (target.yields_resolve_finds hbase world)).mono
  rintro _ searched after ⟨hlooks, failure | stage, hfinds, rfl⟩
  · exact ⟨_, hlooks, .inr ⟨failure, hfinds, rfl, rfl⟩⟩
  · exact ⟨_, hlooks, .inl ⟨stage, after, hfinds, rfl, exchangesOf_append _ _⟩⟩

end

end Change

/-- A command that changes a stage first looks for the one that is meant; which of its requests do
that can be told from the requests, and there are none if it is named with its profile. What they
were answered leaves no choice: either one stage is found, and everything after that is work on this
stage, in which nothing else is changed, and which succeeds only if the change was granted; or the
command fails, for the reason why none is found, and sends nothing more. -/
theorem changes_selected_stage {given : String} {client : Client}
    (hclient : baseUrl given = .ok client.base) {σ : Type} (environment : Environment σ)
    (asJson : Bool) (target : StageTarget) (change : Change) (world : World σ) :
    let run := (change.command client asJson target).runIn environment world
    let lookups := run.exchanges.filter fun exchange => exchange.request.looks client
    (∃! found, target.Finds client lookups found) ∧
    (target.stage.isSome = true → target.profile.isSome = true → lookups = []) ∧
    (∀ stage, target.Finds client lookups (.ok stage) → ∃ after,
      let work := (change.carryOut client asJson stage).runIn environment after
      run.result = work.result ∧ run.exchanges = lookups ++ work.exchanges ∧
        (∀ exchange ∈ work.exchanges, change.MaySend client stage exchange.request) ∧
        (run.result = some (.ok ()) → change.IsGranted client stage work.exchanges)) ∧
    ∀ failure, target.Finds client lookups (.error failure) →
      run.result = some (.error failure) ∧ run.exchanges = lookups ∧ IsQuiet run.exchanges := by
  have hbase : IsBase client.base := isBase_of_baseUrl hclient
  have hcommand : (change.command client asJson target).Yields environment world _ :=
    change.yields_command hbase asJson target world
  intro run lookups
  obtain ⟨searched, hlooks, hends⟩ := hcommand
  have hnamed {found : Except CommandFailure Stage} (h : target.Finds client searched found) :
      target.stage.isSome = true → target.profile.isSome = true → searched = [] := by
    cases h <;> simp
  rcases hends with ⟨stage, after, hfinds, hresult, hexchanges⟩ |
    ⟨failure, hfinds, hresult, hexchanges⟩
  · have hconfined : IsConfined (change.allowance client stage)
        (change.carryOut client asJson stage) := change.isConfined_carryOut hbase asJson
    have hsent : ∀ exchange ∈ ((change.carryOut client asJson stage).runIn environment
        after).exchanges, change.MaySend client stage exchange.request :=
      hconfined.requests environment after
    have hgranted : (change.carryOut client asJson stage).Yields environment after _ :=
      change.yields_carryOut_granted hbase asJson after
    have hlookups : lookups = searched := by
      have hrest := fun exchange hmem => (hsent exchange hmem).not_looks hbase
      exact (congrArg _ hexchanges).trans (filter_looks hlooks hrest)
    rw [hlookups]
    refine ⟨⟨.ok stage, hfinds, fun other hother => hother.unique hfinds⟩, hnamed hfinds, ?_, ?_⟩
    · intro other hother
      cases hother.unique hfinds
      exact ⟨after, hresult, hexchanges, hsent, fun hok => hgranted (hresult.symm.trans hok)⟩
    · intro failure hother
      cases hother.unique hfinds
  · have hlookups : lookups = searched :=
      (congrArg _ hexchanges).trans (List.filter_eq_self.mpr hlooks)
    rw [hlookups]
    refine ⟨⟨.error failure, hfinds, fun other hother => hother.unique hfinds⟩, hnamed hfinds,
      ?_, ?_⟩
    · intro stage hother
      cases hother.unique hfinds
    · intro cause hother
      cases hother.unique hfinds
      refine ⟨hresult, hexchanges, ?_⟩
      intro exchange hmem
      exact Request.method_ne_post_of_looks (hlooks exchange (hexchanges ▸ hmem))

/-- A server that accepts the drop of a profile's stages. -/
def droppingRehearsal : Rehearsal where
  script := Script.empty.respond
    ⟨.post, "http://nexus.test/service/local/staging/profiles/p/drop"⟩ ⟨201, ""⟩

/-- The drop of a stage that is named with its profile asks for nothing but this drop. -/
theorem changes_selected_stage_named :
    let run := (Change.drop.command sampleClient false sampleTarget).runIn Rehearsal.environment
      (World.fresh droppingRehearsal)
    baseUrl "http://nexus.test" = .ok sampleClient.base ∧ run.result = some (.ok ()) ∧
      Change.drop.IsGranted sampleClient ⟨"p", "s"⟩ run.exchanges ∧
      ∀ exchange ∈ run.exchanges, Change.drop.MaySend sampleClient ⟨"p", "s"⟩ exchange.request := by
  intro run
  have hbase : baseUrl "http://nexus.test" = .ok sampleClient.base :=
    toOption_eq_some_iff.mp (by decide +kernel)
  have hresult : run.result = some (.ok ()) := by decide +kernel
  obtain ⟨-, hnamed, hworks, -⟩ := changes_selected_stage hbase Rehearsal.environment false
    sampleTarget .drop (World.fresh droppingRehearsal)
  rw [hnamed rfl rfl] at hworks
  obtain ⟨after, -, hexchanges, hsent, hgranted⟩ := hworks ⟨"p", "s"⟩ .named
  have hrun : run.exchanges = ((Change.drop.carryOut sampleClient false ⟨"p", "s"⟩).runIn
      Rehearsal.environment after).exchanges := hexchanges
  rw [hrun]
  exact ⟨hbase, hresult, hgranted hresult, hsent⟩

end ReleaseStaging
