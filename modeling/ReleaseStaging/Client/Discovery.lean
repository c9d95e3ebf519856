import ReleaseStaging.Client.Basic

/-!
# Finding a stage

The server lists its staging repositories. Which of those that are open holds an artifact is found
by asking for the folder of the artifact in each of them, in the order of the list.
-/

namespace ReleaseStaging

/-- The query for the open repositories of a listing. -/
def openRepositories : Query :=
  .ofPath ⟨true, [⟨.descendant, some "stagingProfileRepository", [.childEquals "type" "open"]⟩]⟩

/-- The stage that an element of a listing describes. -/
def stageAt (report : Report) (site : Query.Site) : Except Failure Stage := do
  let profileId ← report.requiredText site (.below ["profileId"])
  let stageId ← report.requiredText site (.below ["repositoryId"])
  return ⟨profileId, stageId⟩

/-- The open stages of a listing, in its order. -/
def openStagesOf (report : Report) : Except Failure (List Stage) :=
  (report.select report.root openRepositories).mapM (stageAt report)

namespace Client

/-- The open stages, in the order of the server. -/
def openStages (client : Client) : Operation (List Stage) := do
  let report ← fetchReport (listingEndpoint client.base)
  openStagesOf report

/-- Whether a stage holds an artifact: its folder is there. A status other than 200 and 404 is
logged and counts as absent. -/
def holds (client : Client) (stage : Stage) (coordinates : Coordinates) : Operation Bool := do
  let url ← contentEndpoint client.base stage coordinates
  let response ← Operation.send (.head url)
  if response.status = 200 then return true
  unless response.status = 404 do
    Operation.note (.unexpectedProbe stage url.text response.status)
  return false

/-- The stages among the given ones that hold an artifact; all of them are asked. -/
def holders (client : Client) (coordinates : Coordinates) : List Stage → Operation (List Stage)
  | [] => return []
  | stage :: stages => do
    let found ← client.holds stage coordinates
    let others ← client.holders coordinates stages
    return if found then stage :: others else others

/-- The first open stage that holds an artifact. -/
def findOpenStage (client : Client) (coordinates : Coordinates) : Operation (Option Stage) := do
  let stages ← client.openStages
  match ← client.holders coordinates stages with
  | [] => return none
  | stage :: others =>
    unless others.isEmpty do
      Operation.note (.severalMatches stage others coordinates)
    return some stage

end Client

end ReleaseStaging
