import ReleaseStaging.CommandLine.Invocation
import ReleaseStaging.Proofs.Command.Selection
import ReleaseStaging.Proofs.Json.Writing

/-!
# What commands print

Every command first finds out or does something, without printing, and then prints one line about
it. So a command that fails, or never ends, has printed nothing, wherever that happens. Main
statement: a command prints exactly once if it succeeds and never if it does not, and with JSON what
it prints is one line with one document, whatever the texts of the server are.
-/

namespace ReleaseStaging

open Json (IsProper IsTextOf)

/-! ## Documents of results -/

theorem Stage.isProper_toJson (stage : Stage) : IsProper stage.toJson := by
  refine Json.isProper_ofMembers ?_
  simp only [List.forall_mem_cons]
  exact ⟨Json.isProper_ofText _, Json.isProper_ofText _, List.forall_mem_nil _⟩

theorem Capability.isProper_toJson (capability : Capability) : IsProper capability.toJson := by
  refine Json.isProper_ofMembers ?_
  simp only [List.forall_mem_cons]
  exact ⟨Json.isProper_bool _, Json.isProper_ofText _, List.forall_mem_nil _⟩

theorem ActivityEvent.isProper_toJson (event : ActivityEvent) : IsProper event.toJson := by
  have hproperty (property : String × String) :
      IsProper (.array [.ofText property.1, .ofText property.2]) := by
    refine Json.isProper_array ?_
    simp only [List.forall_mem_cons]
    exact ⟨Json.isProper_ofText _, Json.isProper_ofText _, List.forall_mem_nil _⟩
  refine Json.isProper_ofMembers ?_
  simp only [List.forall_mem_cons]
  exact ⟨Json.isProper_ofText _,
    Json.isProper_array (List.forall_mem_map.mpr fun property _ => hproperty property),
    Json.isProper_ofText? _, List.forall_mem_nil _⟩

theorem Activity.isProper_toJson (activity : Activity) : IsProper activity.toJson := by
  refine Json.isProper_ofMembers ?_
  simp only [List.forall_mem_cons]
  exact ⟨Json.isProper_array (List.forall_mem_map.mpr fun event _ => event.isProper_toJson),
    Json.isProper_ofText _, Json.isProper_ofText? _, Json.isProper_ofText? _,
    List.forall_mem_nil _⟩

/-! ## Work and result -/

/-- What a command has to do, with all that it is told. -/
inductive Errand where
  /-- Check the permissions and show what the server is able to do. -/
  | status
  /-- Show the version of the server. -/
  | version
  /-- List the open stages. -/
  | list
  /-- Find the open stage that holds an artifact. -/
  | find (coordinates : Coordinates)
  /-- Change a stage. -/
  | change (kind : Change) (target : StageTarget)
  /-- Show the activity log of a stage. -/
  | activity (target : StageTarget)
  deriving DecidableEq, Repr

/-- What a command does with a stage before it prints. -/
def Change.work (client : Client) (stage : Stage) : Change → Command Unit
  | close description retry => do
    let attempt ← Command.tryClose client stage description retry 1
    Command.perform (.note (.closeComplete stage attempt.toNat))
  | drop => client.dropStage stage
  | release description => client.releaseStage stage description

/-- What was done with a stage. -/
def Change.action : Change → Action
  | close _ _ => .close
  | drop => .drop
  | release _ => .release

/-- What was done with a stage, for people. -/
def Change.text (stage : Stage) : Change → String
  | close _ _ => "Closed " ++ stage.display
  | drop => "Requested drop of " ++ stage.display
  | release _ => "Released " ++ stage.display

/-- A command says what it did with the stage when it is done. -/
theorem Change.carryOut_eq (kind : Change) (client : Client) (asJson : Bool) (stage : Stage) :
    kind.carryOut client asJson stage = kind.work client stage >>= fun _ =>
      Command.emit asJson (transitionJson kind.action stage) (kind.text stage) := by
  cases kind with
  | close description retry =>
    simp only [carryOut, work, bind_assoc]
    rfl
  | drop => rfl
  | release description => rfl

namespace Errand

/-- The command. -/
def command (client : Client) (asJson : Bool) : Errand → Command Unit
  | .status => Command.status client asJson
  | .version => Command.version client asJson
  | .list => Command.list client asJson
  | .find coordinates => Command.find client asJson coordinates
  | .change kind target => kind.command client asJson target
  | .activity target => Command.activity client asJson target

/-- What the user asks for. -/
def ofChoice : CommandLine.Choice → Errand
  | .status => .status
  | .version => .version
  | .list => .list
  | .find coordinates => .find coordinates
  | .close target description attempts retryDelaySeconds dropOnFailure =>
    .change (.close description ⟨attempts, 1000 * retryDelaySeconds.toNat, dropOnFailure⟩) target
  | .drop target => .change .drop target
  | .release target description => .change (.release description) target
  | .activity target => .activity target

/-- Whatever the user asks for is one of these commands. -/
theorem command_ofChoice (choice : CommandLine.Choice) (client : Client) (asJson : Bool) :
    choice.command client asJson = (ofChoice choice).command client asJson := by
  cases choice <;> rfl

/-- What a command finds; its result is told from this alone. -/
def Finding : Errand → Type
  | .status => Capability
  | .version => String
  | .list => List Stage
  | .find _ => Option Stage
  | .change _ _ => Stage
  | .activity _ => Stage × List Activity

/-- What a command does before it prints. -/
def work (client : Client) : (errand : Errand) → Command errand.Finding
  | .status => do
    client.checkAuthentication
    client.capability
  | .version => client.serverVersion
  | .list => client.openStages
  | .find coordinates => client.findOpenStage coordinates
  | .change kind target => do
    let stage ← target.resolve client
    kind.work client stage
    return stage
  | .activity target => do
    let stage ← target.resolve client
    let activities ← client.activityLog stage
    return (stage, activities)

/-- The result of a command as a document. -/
def document (client : Client) : (errand : Errand) → errand.Finding → Json
  | .status, (capability : Capability) => .ofMembers [("authenticated", .bool true),
      ("capability", capability.toJson), ("url", .ofText client.base.text)]
  | .version, (number : String) => .ofMembers [("version", .ofText number)]
  | .list, (stages : List Stage) => .array (stages.map Stage.toJson)
  | .find _, (found : Option Stage) => .ofMembers [("stage", (found.map Stage.toJson).getD .null)]
  | .change kind _, (stage : Stage) => transitionJson kind.action stage
  | .activity _, (stage, activities) => .ofMembers
      [("activities", .array (activities.map Activity.toJson)), ("stage", stage.toJson)]

/-- The result of a command for people. -/
def text (client : Client) : (errand : Errand) → errand.Finding → String
  | .status, (capability : Capability) =>
    let actions := if capability.asyncActions then "asynchronous" else "synchronous"
    s!"Server:   {client.base.text}\nVersion:  {capability.version}\nActions:  {actions}"
  | .version, (number : String) => number
  | .list, (stages : List Stage) =>
    let lines := stages.map fun stage => stage.stageId ++ "\t" ++ stage.profileId
    if stages.isEmpty then "No open stages" else "\n".intercalate lines
  | .find _, (found : Option Stage) => (found.map Stage.display).getD "No matching open stage"
  | .change kind _, (stage : Stage) => kind.text stage
  | .activity _, (stage, activities) => "\n".intercalate
      (("Activity of " ++ stage.display) :: activities.flatMap Activity.lines)

/-- The result of a command as it is printed. -/
def line (client : Client) (asJson : Bool) (errand : Errand) (found : errand.Finding) : String :=
  if asJson then (errand.document client found).text else errand.text client found

/-- A command prints its result when all else is done. -/
theorem command_eq (errand : Errand) (client : Client) (asJson : Bool) :
    errand.command client asJson = errand.work client >>= fun found =>
      Command.emit asJson (errand.document client found) (errand.text client found) := by
  cases errand with
  | status => exact (bind_assoc (m := Command) _ (fun _ => liftM client.capability) _).symm
  | version => rfl
  | list => rfl
  | find coordinates => rfl
  | change kind target =>
    show kind.command client asJson target =
      (target.resolve client >>= fun stage => kind.work client stage >>= fun _ => pure stage) >>=
        fun stage => Command.emit asJson (transitionJson kind.action stage) (kind.text stage)
    simp only [kind.command_eq, bind_assoc, pure_bind]
    exact congrArg (target.resolve client >>= ·)
      (funext fun stage => kind.carryOut_eq client asJson stage)
  | activity target =>
    show Command.activity client asJson target =
      (target.resolve client >>= fun stage =>
        liftM (client.activityLog stage) >>= fun activities => pure (stage, activities)) >>=
          fun found => Command.emit asJson (document client (.activity target) found)
            (text client (.activity target) found)
    simp only [Command.activity, bind_assoc, pure_bind]
    rfl

/-- The result of a command is a document that is written in one line. -/
theorem isProper_document (errand : Errand) (client : Client) (found : errand.Finding) :
    IsProper (errand.document client found) := by
  cases errand with
  | status =>
    refine Json.isProper_ofMembers ?_
    simp only [List.forall_mem_cons]
    exact ⟨Json.isProper_bool _, Capability.isProper_toJson found, Json.isProper_ofText _,
      List.forall_mem_nil _⟩
  | version =>
    exact Json.isProper_ofMembers (List.forall_mem_singleton.mpr (Json.isProper_ofText _))
  | list =>
    exact Json.isProper_array (List.forall_mem_map.mpr fun stage _ => stage.isProper_toJson)
  | find coordinates =>
    refine Json.isProper_ofMembers (List.forall_mem_singleton.mpr ?_)
    cases (found : Option Stage) with
    | none => exact Json.isProper_null
    | some stage => exact stage.isProper_toJson
  | change kind target =>
    refine Json.isProper_ofMembers ?_
    simp only [List.forall_mem_cons]
    exact ⟨Json.isProper_ofText _, Stage.isProper_toJson found, List.forall_mem_nil _⟩
  | activity target =>
    obtain ⟨stage, activities⟩ := found
    refine Json.isProper_ofMembers ?_
    simp only [List.forall_mem_cons]
    exact ⟨Json.isProper_array (List.forall_mem_map.mpr fun activity _ =>
      activity.isProper_toJson), stage.isProper_toJson, List.forall_mem_nil _⟩

/-- Anything but printing is allowed. -/
def quiet : Allowance where
  requests := fun _ => True
  memo := True
  print := False

/-- What a command does with a stage prints nothing. -/
theorem isConfined_changeWork (kind : Change) (client : Client) (stage : Stage) :
    IsConfined quiet (kind.work client stage) := by
  have hdrop : IsConfined quiet (client.dropStage stage) :=
    Client.isConfined_dropStage fun _ _ => trivial
  cases kind with
  | close description retry =>
    have hclose : IsConfined quiet (client.closeStage stage description) := by
      rw [Client.closeStage_eq]
      exact (Client.isConfined_capability trivial trivial).bind fun _ =>
        Client.isConfined_closeKnowing (fun _ _ => trivial) (fun _ _ => trivial)
          (fun _ _ => trivial) _
    exact (Command.isConfined_tryClose hclose (fun _ => hdrop) 1).bind fun _ =>
      isConfined_perform_note _
  | drop => exact isConfined_ofOperation hdrop
  | release description =>
    have hrelease : IsConfined quiet (client.releaseStage stage description) := by
      rw [Client.releaseStage_eq]
      exact (Client.isConfined_capability trivial trivial).bind fun _ =>
        Client.isConfined_releaseKnowing (fun _ _ => trivial) (fun _ _ => trivial) _
    exact isConfined_ofOperation hrelease

/-- Before its result a command prints nothing. -/
theorem isConfined_work (errand : Errand) (client : Client) :
    IsConfined quiet (errand.work client) := by
  have hcapability : IsConfined quiet client.capability :=
    Client.isConfined_capability trivial trivial
  have hresolve (target : StageTarget) : IsConfined quiet (target.resolve client) :=
    target.isConfined_resolve trivial fun _ => trivial
  cases errand with
  | status =>
    exact (isConfined_ofOperation (Client.isConfined_checkAuthentication trivial)).bind fun _ =>
      isConfined_ofOperation hcapability
  | version => exact isConfined_ofOperation (hcapability.bind fun _ => isConfined_pure _)
  | list => exact isConfined_ofOperation (Client.isConfined_openStages trivial)
  | find coordinates =>
    exact isConfined_ofOperation (Client.isConfined_findOpenStage trivial fun _ _ _ => trivial)
  | change kind target =>
    exact (hresolve target).bind fun stage =>
      (isConfined_changeWork kind client stage).bind fun _ => isConfined_pure _
  | activity target =>
    exact (hresolve target).bind fun stage =>
      (isConfined_ofOperation (Client.isConfined_activityLog fun _ _ => trivial)).bind fun _ =>
        isConfined_pure _

variable {σ : Type}

/-- A command that succeeds prints one line, the result of what it found; one that fails, or never
ends, prints nothing. With JSON the line is the text of one document, without a line end in it. -/
theorem prints_result_once (errand : Errand) (client : Client) (asJson : Bool)
    (environment : Environment σ) (world : World σ) :
    (errand.command client asJson).Yields environment world fun result trace _ =>
      (result = some (.ok ()) ∧ (∃ found,
          ((errand.work client).Yields environment world fun done _ _ => done = some (.ok found)) ∧
          printedOf trace = [errand.line client asJson found] ∧
          (asJson = true →
            IsTextOf (errand.document client found) (errand.line client asJson found) ∧
            '\n' ∉ (errand.line client asJson found).toList)) ∨
        result ≠ some (.ok ()) ∧ printedOf trace = []) := by
  have hquiet : ((errand.work client).Yields environment world fun _ trace _ =>
      printedOf trace = []) := (errand.isConfined_work client).printed id environment world
  have hresult : ((errand.work client).Yields environment world fun result _ _ =>
      ((errand.work client).runIn environment world).result = result) := rfl
  rw [command_eq, Command.yields_bind]
  apply (hquiet.and hresult).mono
  rintro (_ | failure | found) trace after ⟨hnone, hwork⟩
  · exact .inr ⟨nofun, hnone⟩
  · exact .inr ⟨nofun, hnone⟩
  · apply Command.yields_emit.mpr
    refine .inl ⟨rfl, found, hwork, ?_, ?_⟩
    · rw [printedOf_append, hnone, List.nil_append]
      rfl
    · rintro rfl
      have hproper := errand.isProper_document client found
      refine ⟨hproper.isTextOf, fun hend => ?_⟩
      have hchars : '\n' ∈ (errand.document client found).chars := by
        simpa [line, Json.text] using hend
      exact absurd (hproper.visible '\n' hchars) (by decide)

end Errand

end ReleaseStaging
