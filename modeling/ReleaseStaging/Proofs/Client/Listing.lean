import ReleaseStaging.Proofs.Report.Saying
import ReleaseStaging.Proofs.Simulation.Documents
import ReleaseStaging.Simulation.Rehearsal

/-!
# What a listing tells

A listing may hold anything anywhere: repositories in any state, within each other, with several
types or without ids. Only the elements that say of themselves that they are open repositories
count, each with the first ids of its own, and the first of them that lacks an id is the one that
the failure speaks of.
Main statement: `listing_tells_open_stages`.
-/

namespace ReleaseStaging

open Query (Site AreAll IsEarliest)
open Simulation (tagged textElement readsAs_append readsAs_tagged readsAs_taggedText
  ofString?_tagged)

/-- An element of a listing names a stage by its own ids. -/
structure IsStage (node : Xml.Node) (stage : Stage) : Prop where
  /-- The profile comes first. -/
  profileId : node.Says "profileId" stage.profileId
  /-- The repository is the stage. -/
  stageId : node.Says "repositoryId" stage.stageId

/-- The id that an element of a listing lacks; without a profile the repository is not looked at. -/
inductive LacksId (node : Xml.Node) : String → Prop
  /-- There is no profile. -/
  | profileId (hprofile : node.Lacks "profileId") : LacksId node "profileId"
  /-- There is a profile and no repository. -/
  | repositoryId (hprofile : ¬node.Lacks "profileId") (hrepository : node.Lacks "repositoryId") :
      LacksId node "repositoryId"

/-- An element of one listing and one of another have the same ids, or lack the same. -/
def SameIds (site other : Site) : Prop :=
  ∀ name ∈ ["profileId", "repositoryId"], ∀ text,
    site.node.Says name text ↔ other.node.Says name text

/-! ## Reading one element -/

section

variable {report : Report} {site : Site}

theorem stageAt_eq_ok_iff {stage : Stage} :
    stageAt report site = .ok stage ↔ IsStage site.node stage := by
  obtain ⟨profileId, stageId⟩ := stage
  simp only [stageAt, bind_eq_ok_iff, pure_eq_ok_iff, Report.requiredText_eq_ok_iff, Stage.mk.injEq]
  constructor
  · rintro ⟨_, hprofile, _, hstage, rfl, rfl⟩
    exact ⟨hprofile, hstage⟩
  · rintro ⟨hprofile, hstage⟩
    exact ⟨profileId, hprofile, stageId, hstage, rfl, rfl⟩

/-- An element is not read exactly if it lacks an id, and the failure names it. -/
theorem stageAt_eq_error_iff {failure : Failure} : stageAt report site = .error failure ↔
    ∃ name, LacksId site.node name ∧ failure = .missingNode report.source name := by
  have hmissing (name : String) : report.requiredText site (.below [name]) = .error failure ↔
      failure = report.missing (.below [name]) ∧ site.node.Lacks name :=
    report.failsExactly_requiredText failure
  have hread : stageAt report site = .error failure ↔
      failure = report.missing (.below ["profileId"]) ∧ site.node.Lacks "profileId" ∨
        ¬site.node.Lacks "profileId" ∧ failure = report.missing (.below ["repositoryId"]) ∧
          site.node.Lacks "repositoryId" := by
    have hnever (stage : Stage) : ¬(pure stage : Except Failure Stage) = .error failure := nofun
    simp only [stageAt, bind_eq_error_iff, hnever, and_false, exists_false, or_false, hmissing,
      Report.requiredText_eq_ok_iff, exists_and_right, Xml.Node.exists_says_iff]
  rw [hread]
  constructor
  · rintro (⟨rfl, hprofile⟩ | ⟨hprofile, rfl, hrepository⟩)
    · exact ⟨_, .profileId hprofile, rfl⟩
    · exact ⟨_, .repositoryId hprofile hrepository, rfl⟩
  · rintro ⟨_, ⟨hprofile⟩ | ⟨hprofile, hrepository⟩, rfl⟩
    · exact .inl ⟨rfl, hprofile⟩
    · exact .inr ⟨hprofile, rfl, hrepository⟩

/-- An element is read exactly if it has both ids. -/
theorem exists_stageAt_eq_ok_iff : (∃ stage, stageAt report site = .ok stage) ↔
    ¬site.node.Lacks "profileId" ∧ ¬site.node.Lacks "repositoryId" := by
  simp only [stageAt_eq_ok_iff, ← Xml.Node.exists_says_iff]
  constructor
  · rintro ⟨stage, hprofile, hrepository⟩
    exact ⟨⟨_, hprofile⟩, ⟨_, hrepository⟩⟩
  · rintro ⟨⟨profileId, hprofile⟩, ⟨stageId, hrepository⟩⟩
    exact ⟨⟨profileId, stageId⟩, hprofile, hrepository⟩

/-- Elements with the same ids are read alike. -/
theorem SameIds.stageAt_eq {other : Site} (h : SameIds site other) {report' : Report}
    (hsource : report.source = report'.source) : stageAt report site = stageAt report' other := by
  have hsame (name : String) (hname : name ∈ ["profileId", "repositoryId"]) :
      site.node.text? name = other.node.text? name := by
    ext text
    rw [Xml.Node.text?_eq_some_iff, Xml.Node.text?_eq_some_iff]
    exact h name hname text
  have hmissing : report.missing = report'.missing := by
    funext query
    rw [Report.missing, Report.missing, hsource]
  rw [report.stageAt_eq, report'.stageAt_eq, hmissing]
  simp only [Xml.Node.stage, Xml.Node.requiredText, hsame "profileId" (by simp),
    hsame "repositoryId" (by simp)]

end

/-! ## Reading a listing -/

section

variable {report : Report}

/-- The stages that are read are named by the open repositories, one by each. -/
theorem openStagesOf_eq_ok_iff_isStage {stages : List Stage} : openStagesOf report = .ok stages ↔
    ∃ sites, AreAll (IsOpenRepository report.document) sites ∧
      List.Forall₂ (fun site stage => IsStage site.node stage) sites stages := by
  rw [openStagesOf, (areAll_openRepositories report).mapM_eq_ok_iff]
  simp only [stageAt_eq_ok_iff]

/-- A listing is read if none of its open repositories lacks an id. -/
theorem exists_openStagesOf_eq_ok_iff : (∃ stages, openStagesOf report = .ok stages) ↔
    ∀ site, IsOpenRepository report.document site →
      ¬site.node.Lacks "profileId" ∧ ¬site.node.Lacks "repositoryId" := by
  simp only [openStagesOf, exists_mapM_eq_ok_iff, exists_stageAt_eq_ok_iff,
    mem_select_openRepositories]

/-- A listing is not read because of the first open repository that lacks an id. -/
theorem openStagesOf_eq_error_iff {failure : Failure} : openStagesOf report = .error failure ↔
    ∃ site name,
      IsEarliest (fun other => IsOpenRepository report.document other ∧
        ∃ lacking, LacksId other.node lacking) site ∧
      LacksId site.node name ∧ failure = .missingNode report.source name := by
  have hunread (site : Site) : (∃ cause, stageAt report site = .error cause) ↔
      ∃ lacking, LacksId site.node lacking := by
    simp only [stageAt_eq_error_iff]
    constructor
    · rintro ⟨_, name, hlacks, -⟩
      exact ⟨name, hlacks⟩
    · rintro ⟨name, hlacks⟩
      exact ⟨_, name, hlacks, rfl⟩
  simp only [openStagesOf, mapM_eq_error_iff, (areAll_openRepositories report).isFirst_iff, hunread]
  simp only [stageAt_eq_error_iff, exists_and_left]

/-- Listings whose open repositories have the same ids are read alike. -/
theorem openStagesOf_congr {report' : Report} (hsource : report.source = report'.source)
    {sites sites' : List Site} (hsites : AreAll (IsOpenRepository report.document) sites)
    (hsites' : AreAll (IsOpenRepository report'.document) sites')
    (hsame : List.Forall₂ SameIds sites sites') : openStagesOf report = openStagesOf report' := by
  rw [openStagesOf, openStagesOf, (areAll_openRepositories report).unique hsites,
    (areAll_openRepositories report').unique hsites']
  exact mapM_eq_of_forall₂ (hsame.imp fun _ _ h => h.stageAt_eq hsource)

end

/-- A listing tells one stage for each of its open repositories, in document order, each with its
own ids. It does so exactly if every open repository has both ids; else the failure names the id
that the first one without an id lacks. Nothing else in the listing matters, so another listing with
the same ids in its open repositories tells the same, whoever serves it. -/
theorem listing_tells_open_stages (client : Client) {σ : Type} {environment : Environment σ}
    {world : World σ} {document : Xml.Document}
    (h : world.Serves environment (listingEndpoint client.base) document) :
    let result := (client.openStages.runIn environment world).result
    (∀ stages, result = some (.ok stages) ↔ ∃ sites, AreAll (IsOpenRepository document) sites ∧
      List.Forall₂ (fun site stage => IsStage site.node stage) sites stages) ∧
    ((∃ stages, result = some (.ok stages)) ↔ ∀ site, IsOpenRepository document site →
      ¬site.node.Lacks "profileId" ∧ ¬site.node.Lacks "repositoryId") ∧
    (∀ failure, result = some (.error failure) ↔ ∃ site name,
      IsEarliest (fun other => IsOpenRepository document other ∧
        ∃ lacking, LacksId other.node lacking) site ∧
      LacksId site.node name ∧
      failure = .missingNode (listingEndpoint client.base).text name) ∧
    ∀ (σ' : Type) (environment' : Environment σ') (world' : World σ') (document' : Xml.Document),
      world'.Serves environment' (listingEndpoint client.base) document' →
      ∀ sites sites', AreAll (IsOpenRepository document) sites →
        AreAll (IsOpenRepository document') sites' → List.Forall₂ SameIds sites sites' →
        (client.openStages.runIn environment' world').result = result := by
  have hread {σ : Type} {environment : Environment σ} {world : World σ} {document : Xml.Document}
      (h : world.Serves environment (listingEndpoint client.base) document) :
      (client.openStages.runIn environment world).result =
        some (openStagesOf ⟨(listingEndpoint client.base).text, document⟩) := by
    rw [result_openStages, Exchange.openStages, h.report]
    rfl
  intro result
  have hresult : result = some (openStagesOf ⟨(listingEndpoint client.base).text, document⟩) :=
    hread h
  refine ⟨?_, ?_, ?_, ?_⟩
  · intro stages
    rw [hresult, Option.some_inj]
    exact openStagesOf_eq_ok_iff_isStage
  · simp only [hresult, Option.some_inj]
    exact exists_openStagesOf_eq_ok_iff
  · intro failure
    rw [hresult, Option.some_inj]
    exact openStagesOf_eq_error_iff
  · intro σ' environment' world' document' h' sites sites' hsites hsites' hsame
    rw [hresult, hread h']
    exact congrArg some
      (@openStagesOf_congr ⟨_, document⟩ ⟨_, document'⟩ rfl _ _ hsites hsites' hsame).symm

/-- A listing that is an open repository with two types, around a closed one without ids. -/
theorem listing_tells_open_stages_nested :
    let text := tagged "stagingProfileRepository" (tagged "type" "old" ++ tagged "type" "open" ++
      tagged "profileId" "p" ++ tagged "repositoryId" "p-1" ++
      tagged "stagingProfileRepository" (tagged "type" "closed"))
    let environment : Environment Unit :=
      ⟨fun state _ => (.ok ⟨200, text⟩, none, state), fun state _ => (none, state)⟩
    (sampleClient.openStages.runIn environment (.fresh ())).result = some (.ok [⟨"p", "p-1"⟩]) := by
  intro text environment
  let children : List Xml.Node := [textElement "type" "old", textElement "type" "open",
    textElement "profileId" "p", textElement "repositoryId" "p-1",
    .element "stagingProfileRepository" [textElement "type" "closed"]]
  let document : Xml.Document := ⟨[], "stagingProfileRepository", children, []⟩
  have htext : Xml.Document.ofString? text = some document := by
    have hplain : ∀ said ∈ ["old", "open", "p", "p-1", "closed"], Xml.IsPlainText said.toList := by
      decide
    have htypes := readsAs_append (readsAs_taggedText "type" (hplain "old" (by decide)))
      (readsAs_taggedText "type" (hplain "open" (by decide)))
    have hprofile := readsAs_append htypes
      (readsAs_taggedText "profileId" (hplain "p" (by decide)))
    have hids := readsAs_append hprofile
      (readsAs_taggedText "repositoryId" (hplain "p-1" (by decide)))
    have hinner := readsAs_tagged "stagingProfileRepository"
      (readsAs_taggedText "type" (hplain "closed" (by decide)))
    exact ofString?_tagged "stagingProfileRepository" (readsAs_append hids hinner)
  have hsites : AreAll (IsOpenRepository document)
      [⟨[0], .element "stagingProfileRepository" children⟩] := by
    refine ⟨List.pairwise_singleton _ _, fun site => ?_⟩
    rw [Report.isOpenRepository_iff]
    rfl
  exact ((listing_tells_open_stages sampleClient ⟨text, rfl, htext⟩).1 _).mpr
    ⟨_, hsites, .cons ⟨Xml.Node.text?_eq_some_iff.mp rfl, Xml.Node.text?_eq_some_iff.mp rfl⟩ .nil⟩

end ReleaseStaging
