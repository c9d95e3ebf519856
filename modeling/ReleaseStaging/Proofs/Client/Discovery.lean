import ReleaseStaging.Client.Discovery
import ReleaseStaging.Proofs.Client.Answers
import ReleaseStaging.Proofs.Query.Meaning
import ReleaseStaging.Proofs.Report.Reading

/-!
# What the server tells about open stages

A listing of the server is read by what it holds: its open repositories are elements of one name
with a child that says so, and the stages are those elements in document order.
Main statements: the stages that are read from a listing are those that it lists, and one exchange
tells them.
-/

namespace ReleaseStaging

open Query (Site)

/-! ## Listings -/

/-- An element of a document is an open repository of a listing. -/
structure IsOpenRepository (document : Xml.Document) (site : Site) : Prop where
  /-- It stands anywhere in the document. -/
  within : (Site.ofDocument document).IsBelow site
  /-- It describes a repository. -/
  named : site.node.isNamed "stagingProfileRepository" = true
  /-- It says that the repository is open. -/
  isOpen : ∃ child ∈ site.node.children, child.isNamed "type" = true ∧
    Text.trimmed child.stringValue = "open"

/-- A document lists some stages as open: they are what its open repositories describe, in document
order. -/
def Report.Lists (report : Report) (stages : List Stage) : Prop :=
  ∃ sites : List Site, sites.Pairwise Site.ComesBefore ∧
    (∀ site, site ∈ sites ↔ IsOpenRepository report.document site) ∧
    List.Forall₂ (fun site stage => stageAt report site = .ok stage) sites stages

/-- The query for the open repositories selects the open repositories. -/
theorem mem_select_openRepositories {report : Report} {site : Site} :
    site ∈ report.select report.root openRepositories ↔ IsOpenRepository report.document site := by
  have hselect : site ∈ report.select report.root openRepositories ↔
      openRepositories.path.Denotes report.document report.root site := Query.mem_select
  have hleads : openRepositories.path.Denotes report.document report.root site ↔
      ∃ parent, (Site.ofDocument report.document).IsWithin parent ∧
        site ∈ Query.Step.picks ⟨.descendant, some "stagingProfileRepository",
          [.childEquals "type" "open"]⟩ parent := by
    constructor
    · rintro ⟨via, hleads, rfl⟩
      exact hleads
    · intro hleads
      exact ⟨site, hleads, rfl⟩
  rw [hselect, hleads]
  simp only [Query.mem_picks_childEquals]
  constructor
  · rintro ⟨parent, hwithin, ⟨hchild, hname⟩, hisOpen⟩
    exact ⟨Relation.TransGen.tail' hwithin hchild, hname, hisOpen⟩
  · rintro ⟨hbelow, hname, hisOpen⟩
    obtain ⟨parent, hwithin, hchild⟩ := Relation.TransGen.tail'_iff.mp hbelow
    exact ⟨parent, hwithin, ⟨hchild, hname⟩, hisOpen⟩

/-- The open repositories of a listing are what the query selects. -/
theorem areAll_openRepositories (report : Report) :
    Query.AreAll (IsOpenRepository report.document)
      (report.select report.root openRepositories) :=
  ⟨Query.pairwise_select _ _ _, fun _ => mem_select_openRepositories⟩

/-- The stages that are read from a listing are those that it lists as open. -/
theorem openStagesOf_eq_ok_iff {report : Report} {stages : List Stage} :
    openStagesOf report = .ok stages ↔ report.Lists stages := by
  rw [openStagesOf, (areAll_openRepositories report).mapM_eq_ok_iff]
  constructor
  · rintro ⟨sites, ⟨hordered, hmem⟩, hread⟩
    exact ⟨sites, hordered, hmem, hread⟩
  · rintro ⟨sites, hordered, hmem, hread⟩
    exact ⟨sites, ⟨hordered, hmem⟩, hread⟩

/-! ## Answers -/

/-- The stages that an answer lists as open. -/
def Exchange.openStages (exchange : Exchange) : Except Failure (List Stage) := do
  let report ← exchange.report
  openStagesOf report

namespace Client

/-- An exchange asks a server for its listing, and is told some open stages. -/
def IsListing (client : Client) (listing : Exchange) (stages : List Stage) : Prop :=
  listing.request = .get (listingEndpoint client.base) ∧
    ∃ report, listing.report = .ok report ∧ report.Lists stages

/-- A listing is told by the answer. -/
theorem isListing_iff {client : Client} {listing : Exchange} {stages : List Stage} :
    client.IsListing listing stages ↔
      listing.request = .get (listingEndpoint client.base) ∧ listing.openStages = .ok stages := by
  simp only [IsListing, Exchange.openStages, ← openStagesOf_eq_ok_iff]
  cases listing.report <;> simp [bind, Except.bind]

/-- One answer lists one sequence of stages. -/
theorem IsListing.unique {client : Client} {listing : Exchange} {stages others : List Stage}
    (h : client.IsListing listing stages) (hothers : client.IsListing listing others) :
    stages = others :=
  Except.ok.inj ((isListing_iff.mp h).2.symm.trans (isListing_iff.mp hothers).2)

open Operation

variable {σ : Type} {environment : Environment σ} (client : Client)

/-- The open stages are asked for in one exchange, and the answer tells them. -/
theorem yields_openStages (world : World σ) :
    client.openStages.Yields environment world fun result trace _ =>
      ∃ listing, exchangesOf trace = [listing] ∧
        listing.request = .get (listingEndpoint client.base) ∧
        result = some listing.openStages := by
  simp only [openStages, yields_bind, yields_fetchReport, yields_liftM]
  generalize hlisting : world.exchange environment (.get (listingEndpoint client.base)) = listing
  have hrequest : listing.request = .get (listingEndpoint client.base) := hlisting ▸ rfl
  cases hreport : listing.report with
  | error failure =>
    exact ⟨listing, by simp [hlisting], hrequest,
      by simp [Exchange.openStages, hreport, bind, Except.bind]⟩
  | ok report =>
    exact ⟨listing, by simp [hlisting], hrequest,
      by simp [Exchange.openStages, hreport, bind, Except.bind]⟩

end Client

end ReleaseStaging
