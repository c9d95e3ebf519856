import ReleaseStaging.Proofs.Client.Course
import ReleaseStaging.Proofs.Client.RequestDocument
import ReleaseStaging.Proofs.Query.Canonical

/-!
# Reading a request back

Whatever the server answers, the only body that a transition sends is its request document. So what
happens to the name of the stage and to the description on their way is known for every run: a
character that may not stand in a document makes the body unreadable, a carriage return comes back
as a line feed, and all other texts come back as they are.
-/

namespace ReleaseStaging

open Xml

/-! ## What is read in a body -/

/-- The untrimmed text that a body holds at an expression. -/
def textAt (body expression : String) : Except Failure (Option String) := do
  let report ← Report.ofText "body" body
  let query ← Query.compile expression
  return report.rawText? report.root query

/-- Whether a body is a document. -/
def IsDocument (body : String) : Prop :=
  ∃ document, Document.ofString? body = some document

/-- Whether a body gives back the name of a stage and the description of a transition, or none. -/
def ReadsBack (body stageId : String) (description : Option String) : Prop :=
  textAt body "/promoteRequest/data/stagedRepositoryId" = .ok (some stageId) ∧
    textAt body "/promoteRequest/data/description" = .ok description

/-- The texts that a transition puts into its body. -/
def requestTexts (stageId : String) (description : Option String) : List String :=
  stageId :: description.toList

theorem areReadable_iff {stageId : String} {description : Option String} :
    areReadable stageId description = true ↔
      ∀ text ∈ requestTexts stageId description, ∀ c ∈ text.toList, isXmlChar c = true := by
  rw [areReadable, requestFields, requestTexts, List.all_cons]
  cases description with
  | none => simp
  | some text => simp

/-- Exactly the texts without a carriage return are read as they stand. -/
theorem ofList_lineEnds_eq_iff {text : String} :
    String.ofList (lineEnds text.toList) = text ↔ '\r' ∉ text.toList := by
  rw [← lineEnds_eq_self_iff]
  constructor
  · intro h
    simpa using congrArg String.toList h
  · intro h
    rw [h, String.ofList_toList]

/-- What is read in a document is read by the compiled query. -/
private theorem textAt_eq {body expression : String} {document : Document} {names : List String}
    (hbody : Document.ofString? body = some document)
    (htext : (Query.Path.fromTop names).text = expression) (hne : names ≠ [])
    (hnames : ∀ name ∈ names, Query.IsName name.toList) :
    textAt body expression =
      .ok (Report.rawText? ⟨"body", document⟩ (.rootOf document) (.fromTop names)) := by
  have hcompile := Query.compile_fromTop hne hnames
  rw [htext] at hcompile
  rw [textAt, Report.ofText, hbody, hcompile]
  rfl

/-- In a request document the name of the stage is read with its line ends read. -/
theorem textAt_stagedRepositoryId {stageId : String} {description : Option String}
    (h : areReadable stageId description = true) :
    textAt (promoteRequest stageId description) "/promoteRequest/data/stagedRepositoryId" =
      .ok (some (String.ofList (lineEnds stageId.toList))) := by
  have hbody := ofString?_promoteRequest stageId description
  rw [if_pos h] at hbody
  have hnames : ∀ name ∈ ["promoteRequest", "data", "stagedRepositoryId"],
      Query.IsName name.toList := by decide
  rw [textAt_eq hbody (by decide) (List.cons_ne_nil _ _) hnames, rawText?_stagedRepositoryId]

/-- In a request document the description is read with its line ends read. -/
theorem textAt_description {stageId : String} {description : Option String}
    (h : areReadable stageId description = true) :
    textAt (promoteRequest stageId description) "/promoteRequest/data/description" =
      .ok (description.map fun text => String.ofList (lineEnds text.toList)) := by
  have hbody := ofString?_promoteRequest stageId description
  rw [if_pos h] at hbody
  have hnames : ∀ name ∈ ["promoteRequest", "data", "description"],
      Query.IsName name.toList := by decide
  rw [textAt_eq hbody (by decide) (List.cons_ne_nil _ _) hnames, rawText?_description]

/-- A request document can be read exactly if all characters of its texts may stand in one. -/
theorem isDocument_promoteRequest_iff (stageId : String) (description : Option String) :
    IsDocument (promoteRequest stageId description) ↔
      ∀ text ∈ requestTexts stageId description, ∀ c ∈ text.toList, isXmlChar c = true := by
  rw [IsDocument, ofString?_promoteRequest, ← areReadable_iff]
  by_cases h : areReadable stageId description = true
  · simp [h]
  · simp [h]

/-- A request document reads back exactly if moreover no text holds a carriage return. -/
theorem readsBack_promoteRequest_iff (stageId : String) (description : Option String) :
    ReadsBack (promoteRequest stageId description) stageId description ↔
      ∀ text ∈ requestTexts stageId description, ∀ c ∈ text.toList,
        isXmlChar c = true ∧ c ≠ '\r' := by
  by_cases h : areReadable stageId description = true
  · have hxml := areReadable_iff.mp h
    have hverbatim : ReadsBack (promoteRequest stageId description) stageId description ↔
        ∀ text ∈ requestTexts stageId description, '\r' ∉ text.toList := by
      rw [ReadsBack, textAt_stagedRepositoryId h, textAt_description h, requestTexts]
      cases description with
      | none => simp [ofList_lineEnds_eq_iff]
      | some text => simp [ofList_lineEnds_eq_iff]
    rw [hverbatim]
    constructor
    · intro hreturn text htext c hc
      refine ⟨hxml text htext c hc, ?_⟩
      rintro rfl
      exact hreturn text htext hc
    · intro hall text htext hreturn
      exact (hall text htext '\r' hreturn).2 rfl
  · have hunreadable : textAt (promoteRequest stageId description)
        "/promoteRequest/data/stagedRepositoryId" = .error (.unreadable "body") := by
      rw [textAt, Report.ofText, ofString?_promoteRequest, if_neg h]
      rfl
    constructor
    · rintro ⟨hstage, -⟩
      rw [hunreadable] at hstage
      injection hstage
    · intro hall
      exact absurd (areReadable_iff.mpr fun text htext c hc => (hall text htext c hc).1) h

/-! ## The bodies of a run -/

/-- Every body that was posted is a document exactly if all characters of its texts may stand in
one, and reads back exactly if moreover none of them is a carriage return. -/
def BodiesFare (stageId : String) (description : Option String) (trace : List Event) : Prop :=
  ∀ exchange ∈ exchangesOf trace, ∀ body, exchange.request.body = some body →
    (IsDocument body ↔
      ∀ text ∈ requestTexts stageId description, ∀ c ∈ text.toList, isXmlChar c = true) ∧
    (ReadsBack body stageId description ↔
      ∀ text ∈ requestTexts stageId description, ∀ c ∈ text.toList,
        isXmlChar c = true ∧ c ≠ '\r')

/-- If nothing but the request document is posted, its fate is known. -/
theorem bodiesFare_of_forall {stageId : String} {description : Option String}
    {trace : List Event}
    (h : ∀ exchange ∈ exchangesOf trace, ∀ body, exchange.request.body = some body →
      body = promoteRequest stageId description) :
    BodiesFare stageId description trace := by
  intro exchange hexchange body hbody
  obtain rfl := h exchange hexchange body hbody
  exact ⟨isDocument_promoteRequest_iff stageId description,
    readsBack_promoteRequest_iff stageId description⟩

/-- A course posts nothing but the request document. -/
theorem Course.Follows.body_eq {client : Client} {action : Action} {stage : Stage}
    {description : Option String} {memo : Option Capability} {course : Course}
    (h : course.Follows client action stage description memo) {exchange : Exchange}
    (hexchange : exchange ∈ course.exchanges) {body : String}
    (hbody : exchange.request.body = some body) :
    body = promoteRequest stage.stageId description := by
  have hget {url : Url} {exchanges : List Exchange}
      (hasked : exchanges.map Exchange.request = [.get url]) (hmem : exchange ∈ exchanges) :
      False := by
    have hrequest : exchange.request ∈ exchanges.map Exchange.request := List.mem_map_of_mem hmem
    rw [hasked, List.mem_singleton] at hrequest
    rw [hrequest] at hbody
    cases hbody
  simp only [Course.exchanges, List.mem_append] at hexchange
  rcases hexchange with ((hmem | hmem) | hmem) | hmem
  · have hdetection := h.detection
    split at hdetection
    · rw [List.map_eq_nil_iff.mp hdetection] at hmem
      exact absurd hmem List.not_mem_nil
    · exact absurd hmem (hget hdetection)
  · rcases h.requesting with hnone | ⟨-, endpoint, -, hasked⟩
    · rw [hnone] at hmem
      exact absurd hmem List.not_mem_nil
    · have hrequest : exchange.request ∈ course.requesting.map Exchange.request :=
        List.mem_map_of_mem hmem
      rw [hasked, List.mem_singleton] at hrequest
      rw [hrequest] at hbody
      exact (Option.some.inj hbody).symm
  · rcases h.polls with hnone | ⟨-, endpoint, -, hpolls⟩
    · rw [hnone] at hmem
      exact absurd hmem List.not_mem_nil
    · rw [hpolls.asked exchange hmem] at hbody
      cases hbody
  · rcases h.reading with hnone | ⟨-, endpoint, -, hasked⟩
    · rw [hnone] at hmem
      exact absurd hmem List.not_mem_nil
    · exact absurd hmem (hget hasked)

/-- The bodies of a run that follows a course fare as the request document does. -/
theorem Course.Follows.bodiesFare {client : Client} {action : Action} {stage : Stage}
    {description : Option String} {memo : Option Capability} {course : Course}
    (h : course.Follows client action stage description memo) {trace : List Event}
    (htrace : exchangesOf trace = course.exchanges) :
    BodiesFare stage.stageId description trace := by
  apply bodiesFare_of_forall
  intro exchange hexchange body hbody
  rw [htrace] at hexchange
  exact h.body_eq hexchange hbody

/-- In every run of a transition, the body that is posted is a document exactly if all characters
of the name of the stage and of the description may stand in one, and gives both back as they are
exactly if moreover neither holds a carriage return. -/
theorem posted_bodies_read_back_iff {σ : Type} (environment : Environment σ) (client : Client)
    (stage : Stage) (description : String) (world : World σ) :
    ((client.closeStage stage description).Yields environment world fun _ trace _ =>
      BodiesFare stage.stageId (some description) trace) ∧
    ((client.releaseStage stage description).Yields environment world fun _ trace _ =>
      BodiesFare stage.stageId (some description) trace) ∧
    ((client.dropStage stage).Yields environment world fun _ trace _ =>
      BodiesFare stage.stageId none trace) := by
  refine ⟨?_, ?_, ?_⟩
  · apply (Client.yields_course (client.concludes_close stage) world).mono
    rintro _ trace _ ⟨course, htrace, hfollows, -⟩
    exact hfollows.bodiesFare htrace
  · apply (Client.yields_course (client.concludes_release stage) world).mono
    rintro _ trace _ ⟨course, htrace, hfollows, -⟩
    exact hfollows.bodiesFare htrace
  · rw [Client.dropStage, Operation.yields_bind, Operation.yields_note]
    simp only [Client.yields_request]
    cases Action.drop.endpoint client.base stage with
    | error failure =>
      apply bodiesFare_of_forall
      intro exchange hexchange
      exact absurd hexchange List.not_mem_nil
    | ok endpoint =>
      apply bodiesFare_of_forall
      intro exchange hexchange body hbody
      obtain rfl : exchange = world.exchange environment
          (.post endpoint (promoteRequest stage.stageId none)) := by simpa using hexchange
      exact (Option.some.inj hbody).symm

/-- A close that describes itself with a carriage return succeeds, and what it said reads back with
a line feed instead. -/
theorem close_alters_carriageReturn :
    (Client.closeStage
      ⟨⟨"http", some ⟨"", "", "localhost", none⟩, false, .rooted [""], none, none⟩, {}, 0⟩
      ⟨"profile", "test-001"⟩ "a\rb").Yields
        ⟨fun _ _ => (.ok ⟨201, ""⟩, none, ()), fun _ _ => (none, ())⟩
        ⟨(), .fresh, some ⟨"2.0", false⟩⟩
      fun result trace _ => result = some (.ok ()) ∧
        ∃ exchange ∈ exchangesOf trace, ∃ body, exchange.request.body = some body ∧
          textAt body "/promoteRequest/data/description" = .ok (some "a\nb") ∧
          ¬ReadsBack body "test-001" (some "a\rb") := by
  have hread : textAt (promoteRequest "test-001" (some "a\rb"))
      "/promoteRequest/data/description" = .ok (some "a\nb") :=
    textAt_description (by decide)
  have hlost : ¬ReadsBack (promoteRequest "test-001" (some "a\rb")) "test-001" (some "a\rb") := by
    rintro ⟨-, hdescription⟩
    rw [hread] at hdescription
    simp at hdescription
  generalize hbase : (⟨"http", some ⟨"", "", "localhost", none⟩, false, .rooted [""], none, none⟩ :
    Url) = base
  obtain ⟨endpoint, hendpoint⟩ :
      ∃ endpoint, Action.close.endpoint base ⟨"profile", "test-001"⟩ = .ok endpoint := by
    rw [← hbase]
    exact ⟨_, rfl⟩
  simp only [Client.closeStage, Client.isAsync, Client.capability, Operation.yields_bind,
    Operation.yields_recall, Operation.yields_note, Operation.yields_pure, Client.yields_request,
    hendpoint]
  exact ⟨rfl, _, List.mem_cons_self, _, rfl, hread, hlost⟩

end ReleaseStaging
