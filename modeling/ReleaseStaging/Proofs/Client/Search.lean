import Mathlib.Data.List.Zip
import ReleaseStaging.Proofs.Client.Addresses
import ReleaseStaging.Proofs.Client.Discovery
import ReleaseStaging.Proofs.Simulation.Documents
import ReleaseStaging.Simulation.Rehearsal

/-!
# How a stage is looked for

An artifact is looked for in all open stages of a listing, one request for each, until a request
cannot be made or is not answered. `Probes` says how the requests go and `Search` how the search
ends; both go by the exchanges alone, and these leave no choice.
Main statement: `search_ends_with_first_holder`. What an answer says after the first one that tells
of the artifact makes no difference.
-/

namespace ReleaseStaging

open Url (IsPlainSegment)

namespace Exchange

/-- The reason why there is no answer, unless there is one. -/
def fault? (exchange : Exchange) : Option TransportFault :=
  match exchange.reply with
  | .ok _ => none
  | .error fault => some fault

/-- An answer with a status is what there is without a fault. -/
theorem isSome_status?_iff {exchange : Exchange} :
    exchange.status?.isSome = true ↔ exchange.fault? = none := by
  obtain ⟨request, reply⟩ := exchange
  cases reply <;> simp [status?, fault?, Except.toOption]

end Exchange

namespace Client

/-- An exchange asks whether the folder of an artifact is there in a stage, and is answered. -/
def IsProbe (client : Client) (coordinates : Coordinates) (stage : Stage) (probe : Exchange) :
    Prop :=
  ∃ url, IsContentAddress client.base stage coordinates url ∧ probe.request = .head url ∧
    probe.status?.isSome = true

/-- A stage cannot be asked about, or the request is not answered. -/
inductive FailsToProbe (client : Client) (coordinates : Coordinates) (stage : Stage) :
    List Exchange → Failure → Prop
  /-- A segment of the folder is empty or a dot segment. Nothing is sent, and the failure names the
  first such segment. -/
  | unusable {segments : List String} {segment : String}
      (folder : IsFolder stage coordinates segments) (first : IsFirst IsNoName segments segment) :
      FailsToProbe client coordinates stage [] (.invalidSegment segment)
  /-- The request gets no answer. -/
  | unanswered {url : Url} {fault : TransportFault}
      (address : IsContentAddress client.base stage coordinates url) :
      FailsToProbe client coordinates stage [⟨.head url, .error fault⟩]
        (.transport .head url.text fault)

/-- Stages are asked about in their order, each in one exchange, up to the first one for which that
fails, if there is one. -/
inductive Probes (client : Client) (coordinates : Coordinates) :
    List Stage → List Exchange → Option Failure → Prop
  /-- No stage is left. -/
  | complete : Probes client coordinates [] [] none
  /-- The next stage cannot be asked about, and no other one is. -/
  | stopped {stage : Stage} {later : List Stage} {probes : List Exchange} {failure : Failure}
      (fails : client.FailsToProbe coordinates stage probes failure) :
      Probes client coordinates (stage :: later) probes (some failure)
  /-- The next stage is asked about, and whatever the answer says, so are the later ones. -/
  | answered {stage : Stage} {later : List Stage} {probe : Exchange} {probes : List Exchange}
      {failure? : Option Failure} (probed : client.IsProbe coordinates stage probe)
      (rest : Probes client coordinates later probes failure?) :
      Probes client coordinates (stage :: later) (probe :: probes) failure?

/-- The ways in which a search ends, by its exchanges. -/
inductive Search (client : Client) (coordinates : Coordinates) :
    List Exchange → Except Failure (Option Stage) → Prop
  /-- No listing is told, and the failure is why. -/
  | unlisted {listing : Exchange} {failure : Failure}
      (asked : listing.request = .get (listingEndpoint client.base))
      (untold : ∀ stages, ¬client.IsListing listing stages)
      (why : listing.openStages = .error failure) :
      Search client coordinates [listing] (.error failure)
  /-- One of the listed stages cannot be asked about. -/
  | failed {listing : Exchange} {stages : List Stage} {probes : List Exchange} {failure : Failure}
      (told : client.IsListing listing stages)
      (probed : client.Probes coordinates stages probes (some failure)) :
      Search client coordinates (listing :: probes) (.error failure)
  /-- The first stage of which an answer tells is found. -/
  | found {listing : Exchange} {stages : List Stage} {probes : List Exchange} {stage : Stage}
      {probe : Exchange} (told : client.IsListing listing stages)
      (probed : client.Probes coordinates stages probes none)
      (first : IsFirst (fun asked : Stage × Exchange => asked.2.status? = some 200)
        (stages.zip probes) (stage, probe)) :
      Search client coordinates (listing :: probes) (.ok (some stage))
  /-- No answer tells of a stage. -/
  | absent {listing : Exchange} {stages : List Stage} {probes : List Exchange}
      (told : client.IsListing listing stages)
      (probed : client.Probes coordinates stages probes none)
      (untold : ∀ probe ∈ probes, probe.status? ≠ some 200) :
      Search client coordinates (listing :: probes) (.ok none)

variable {client : Client} {coordinates : Coordinates} {stages : List Stage}

/-! ## Probes -/

/-- If no probe fails, each stage is asked about, and answered. -/
theorem probes_none_iff {probes : List Exchange} :
    client.Probes coordinates stages probes none ↔
      List.Forall₂ (client.IsProbe coordinates) stages probes := by
  constructor
  · intro h
    generalize hnone : (none : Option Failure) = failure? at h
    induction h with
    | complete => exact .nil
    | stopped _ => cases hnone
    | answered probed _ ih => exact .cons probed (ih hnone)
  · intro h
    induction h with
    | nil => exact .complete
    | cons probed _ ih => exact .answered probed ih

/-- Where there is an address to ask at, no segment is empty or a dot segment. -/
theorem not_isContentAddress {stage : Stage} {segments : List String} {segment : String} {url : Url}
    (folder : IsFolder stage coordinates segments) (first : IsFirst IsNoName segments segment) :
    ¬IsContentAddress client.base stage coordinates url := by
  rintro ⟨others, folder', hbelow⟩
  obtain rfl := folder.unique folder'
  obtain ⟨hnone, before, after, rfl, -⟩ := first
  exact hbelow.named segment (by simp) hnone

/-- Two attempts that fail, and for one reason if both are made, send and say the same. -/
theorem FailsToProbe.congr {stage : Stage} {probes others : List Exchange}
    {failure other : Failure} (h : client.FailsToProbe coordinates stage probes failure)
    (hother : client.FailsToProbe coordinates stage others other)
    (halike : ∀ pair ∈ probes.zip others, pair.1.fault? = pair.2.fault?) :
    failure = other ∧ probes = others := by
  cases h with
  | unusable folder first =>
    cases hother with
    | unusable folder' first' =>
      obtain rfl := folder.unique folder'
      obtain rfl := first.unique first'
      exact ⟨rfl, rfl⟩
    | unanswered address => exact absurd address (not_isContentAddress folder first)
  | unanswered address =>
    cases hother with
    | unusable folder first => exact absurd address (not_isContentAddress folder first)
    | unanswered address' =>
      obtain rfl := address.unique address'
      obtain rfl := Option.some.inj (halike _ List.mem_cons_self)
      exact ⟨rfl, rfl⟩

/-- An attempt that fails is not answered elsewhere, if it fails there for the same reason. -/
theorem FailsToProbe.not_isProbe_of_alike {stage : Stage} {probe : Exchange}
    {probes others : List Exchange} {failure : Failure}
    (h : client.FailsToProbe coordinates stage probes failure)
    (halike : ∀ pair ∈ probes.zip (probe :: others), pair.1.fault? = pair.2.fault?) :
    ¬client.IsProbe coordinates stage probe := by
  rintro ⟨url, address, -, hanswered⟩
  cases h with
  | unusable folder first => exact not_isContentAddress folder first address
  | unanswered =>
    have hfault := halike _ List.mem_cons_self
    rw [Exchange.isSome_status?_iff.mp hanswered] at hfault
    cases hfault

/-- If probes get answers or fail for the same reasons, the answers say nothing about which ones are
sent and why a stage cannot be asked about. -/
theorem Probes.congr {probes others : List Exchange} {failure? other? : Option Failure}
    (h : client.Probes coordinates stages probes failure?)
    (hother : client.Probes coordinates stages others other?)
    (halike : ∀ pair ∈ probes.zip others, pair.1.fault? = pair.2.fault?) :
    failure? = other? ∧ probes.map Exchange.request = others.map Exchange.request := by
  induction h generalizing others with
  | complete =>
    cases hother
    exact ⟨rfl, rfl⟩
  | stopped fails =>
    cases hother with
    | stopped fails' =>
      obtain ⟨rfl, rfl⟩ := fails.congr fails' halike
      exact ⟨rfl, rfl⟩
    | answered probed _ => exact absurd probed (fails.not_isProbe_of_alike halike)
  | @answered stage later probe probes failure? probed _ ih =>
    cases hother with
    | stopped fails =>
      have halike' : ∀ pair ∈ others.zip (probe :: probes), pair.1.fault? = pair.2.fault? := by
        intro pair hpair
        rw [← List.zip_swap] at hpair
        obtain ⟨swapped, hswapped, rfl⟩ := List.mem_map.mp hpair
        exact (halike swapped hswapped).symm
      exact absurd probed (fails.not_isProbe_of_alike halike')
    | answered probed' rest =>
      obtain ⟨url, address, hrequest, -⟩ := probed
      obtain ⟨url', address', hrequest', -⟩ := probed'
      obtain rfl := address.unique address'
      obtain ⟨hfailure, hrequests⟩ := ih rest fun pair hpair =>
        halike pair (List.mem_cons_of_mem _ hpair)
      exact ⟨hfailure, by rw [List.map_cons, List.map_cons, hrequest, hrequest', hrequests]⟩

/-- The exchanges tell which probe failed, if one did. -/
theorem Probes.unique {probes : List Exchange} {failure? other? : Option Failure}
    (h : client.Probes coordinates stages probes failure?)
    (hother : client.Probes coordinates stages probes other?) : failure? = other? := by
  refine (h.congr hother ?_).1
  intro pair hpair
  obtain ⟨index, _, rfl⟩ := List.mem_iff_getElem.mp hpair
  rw [List.getElem_zip]

/-! ## Searches -/

/-- The first stage of which an answer with status 200 tells, by the answers in order. -/
def firstHolder (stages : List Stage) (probes : List Exchange) : Option Stage :=
  ((stages.zip probes).find? fun asked => asked.2.status? == some 200).map Prod.fst

/-- If each stage is asked about, the first holder is the first stage with an answer of status 200,
or there is no such answer. -/
theorem firstHolder_eq_some_iff {probes : List Exchange} {stage : Stage} :
    firstHolder stages probes = some stage ↔ ∃ probe,
      IsFirst (fun asked : Stage × Exchange => asked.2.status? = some 200) (stages.zip probes)
        (stage, probe) := by
  simp only [firstHolder, Option.map_eq_some_iff, Prod.exists, find?_eq_some_iff_isFirst,
    beq_iff_eq]
  constructor
  · rintro ⟨_, probe, hfirst, rfl⟩
    exact ⟨probe, hfirst⟩
  · rintro ⟨probe, hfirst⟩
    exact ⟨stage, probe, hfirst, rfl⟩

theorem firstHolder_eq_none_iff {probes : List Exchange}
    (h : List.Forall₂ (client.IsProbe coordinates) stages probes) :
    firstHolder stages probes = none ↔ ∀ probe ∈ probes, probe.status? ≠ some 200 := by
  have hprobes : (stages.zip probes).map Prod.snd = probes :=
    List.map_snd_zip h.length_eq.ge
  have hmem (probe : Exchange) : probe ∈ probes ↔ ∃ stage, (stage, probe) ∈ stages.zip probes := by
    conv_lhs => rw [← hprobes]
    simp
  rw [firstHolder, Option.map_eq_none_iff, List.find?_eq_none]
  simp only [Prod.forall, beq_iff_eq, hmem, forall_exists_index]
  exact forall_comm

/-- Which stage is the first holder depends on the answers up to the first one that tells of it. -/
theorem firstHolder_congr {probes others : List Exchange} {before after after' : List (Option Nat)}
    (h : probes.map Exchange.status? = before ++ some 200 :: after)
    (hother : others.map Exchange.status? = before ++ some 200 :: after') :
    firstHolder stages probes = firstHolder stages others := by
  induction before generalizing stages probes others with
  | nil =>
    obtain ⟨probe, probes, rfl, hfound, -⟩ := List.map_eq_cons_iff.mp h
    obtain ⟨other, others, rfl, hfound', -⟩ := List.map_eq_cons_iff.mp hother
    cases stages <;> simp [firstHolder, hfound, hfound']
  | cons status before ih =>
    obtain ⟨probe, probes, rfl, hfirst, hrest⟩ := List.map_eq_cons_iff.mp h
    obtain ⟨other, others, rfl, hfirst', hrest'⟩ := List.map_eq_cons_iff.mp hother
    cases stages with
    | nil => rfl
    | cons stage stages =>
      have hlater : firstHolder stages probes = firstHolder stages others := ih hrest hrest'
      simp only [firstHolder, List.zip_cons_cons, List.find?_cons, hfirst, hfirst'] at hlater ⊢
      cases status == some 200 with
      | true => rfl
      | false => exact hlater

/-- How a search among some stages ends, if one of them cannot be asked about or all are. -/
def ending (stages : List Stage) (probes : List Exchange) :
    Option Failure → Except Failure (Option Stage)
  | some failure => .error failure
  | none => .ok (firstHolder stages probes)

/-- A search ends by how the probes went. -/
theorem Probes.search {listing : Exchange} {probes : List Exchange} {failure? : Option Failure}
    (probed : client.Probes coordinates stages probes failure?)
    (told : client.IsListing listing stages) :
    client.Search coordinates (listing :: probes) (ending stages probes failure?) := by
  cases failure? with
  | some failure => exact .failed told probed
  | none =>
    rw [ending]
    cases hfirst : firstHolder stages probes with
    | none =>
      exact .absent told probed ((firstHolder_eq_none_iff (probes_none_iff.mp probed)).mp hfirst)
    | some stage =>
      obtain ⟨probe, hfirst⟩ := firstHolder_eq_some_iff.mp hfirst
      exact .found told probed hfirst

/-- Without a listing nothing is asked, and with one a search ends by how the probes went. -/
theorem Search.ending_eq {listing : Exchange} {probes : List Exchange}
    {result : Except Failure (Option Stage)}
    (h : client.Search coordinates (listing :: probes) result) :
    (∃ failure, listing.openStages = .error failure ∧ probes = [] ∧ result = .error failure) ∨
      ∃ stages failure?, client.IsListing listing stages ∧
        client.Probes coordinates stages probes failure? ∧
        result = ending stages probes failure? := by
  cases h with
  | unlisted asked untold why => exact .inl ⟨_, why, rfl, rfl⟩
  | failed told probed => exact .inr ⟨_, _, told, probed, rfl⟩
  | found told probed first =>
    refine .inr ⟨_, _, told, probed, ?_⟩
    rw [ending, firstHolder_eq_some_iff.mpr ⟨_, first⟩]
  | absent told probed untold =>
    refine .inr ⟨_, _, told, probed, ?_⟩
    rw [ending, (firstHolder_eq_none_iff (probes_none_iff.mp probed)).mpr untold]

/-- A search starts with the request for the listing. -/
theorem Search.exists_cons {exchanges : List Exchange} {result : Except Failure (Option Stage)}
    (h : client.Search coordinates exchanges result) : ∃ listing probes,
      exchanges = listing :: probes ∧ listing.request = .get (listingEndpoint client.base) := by
  cases h with
  | unlisted asked => exact ⟨_, _, rfl, asked⟩
  | failed told | found told | absent told => exact ⟨_, _, rfl, told.1⟩

/-- The exchanges of a search leave no choice how it ends. -/
theorem Search.unique {exchanges : List Exchange} {result other : Except Failure (Option Stage)}
    (h : client.Search coordinates exchanges result)
    (hother : client.Search coordinates exchanges other) : result = other := by
  obtain ⟨listing, probes, rfl, -⟩ := h.exists_cons
  rcases h.ending_eq with ⟨failure, hfails, -, rfl⟩ | ⟨stages, failure?, told, probed, rfl⟩
  · rcases hother.ending_eq with ⟨failure', hfails', -, rfl⟩ | ⟨_, _, told, -, -⟩
    · rw [Except.error.inj (hfails.symm.trans hfails')]
    · cases hfails.symm.trans (isListing_iff.mp told).2
  · rcases hother.ending_eq with ⟨_, hfails, -, -⟩ | ⟨stages', failure?', told', probed', rfl⟩
    · cases hfails.symm.trans (isListing_iff.mp told).2
    · obtain rfl := told.unique told'
      rw [probed.unique probed']

/-- Two searches that are told of the same stages ask the same, if their probes get answers or fail
for the same reasons. If the answers agree as far as the first stage that one of them tells of, they
end alike. -/
theorem Search.congr {listing listing' : Exchange} {probes probes' : List Exchange}
    {result result' : Except Failure (Option Stage)}
    (h : client.Search coordinates (listing :: probes) result)
    (h' : client.Search coordinates (listing' :: probes') result')
    (hlisting : listing'.openStages = listing.openStages)
    (halike : ∀ pair ∈ probes.zip probes', pair.1.fault? = pair.2.fault?) :
    probes'.map Exchange.request = probes.map Exchange.request ∧
      ∀ before after after', probes.map Exchange.status? = before ++ some 200 :: after →
        probes'.map Exchange.status? = before ++ some 200 :: after' → result' = result := by
  rcases h.ending_eq with ⟨failure, hfails, rfl, rfl⟩ | ⟨stages, failure?, told, probed, rfl⟩
  · rcases h'.ending_eq with ⟨failure', hfails', rfl, rfl⟩ | ⟨_, _, told', -, -⟩
    · rw [Except.error.inj (hfails'.symm.trans (hlisting.trans hfails))]
      exact ⟨rfl, fun _ _ _ _ _ => rfl⟩
    · cases (isListing_iff.mp told').2.symm.trans (hlisting.trans hfails)
  · rcases h'.ending_eq with ⟨_, hfails', -, -⟩ | ⟨stages', failure?', told', probed', rfl⟩
    · cases hfails'.symm.trans (hlisting.trans (isListing_iff.mp told).2)
    · obtain rfl : stages' = stages := Except.ok.inj
        ((isListing_iff.mp told').2.symm.trans (hlisting.trans (isListing_iff.mp told).2))
      obtain ⟨rfl, hrequests⟩ := probed.congr probed' halike
      refine ⟨hrequests.symm, ?_⟩
      intro before after after' hstatuses hstatuses'
      cases failure? with
      | some failure => rfl
      | none => rw [ending, ending, firstHolder_congr hstatuses' hstatuses]

/-! ## Runs of a search -/

open Operation

variable {σ : Type} {environment : Environment σ}

variable (client coordinates)

/-- A stage is asked about in one exchange, and the status of the answer tells whether it holds the
artifact, or it cannot be asked about. -/
theorem yields_holds (hbase : IsBase client.base) (stage : Stage) (world : World σ) :
    (client.holds stage coordinates).Yields environment world fun result trace _ =>
      (∃ probe, exchangesOf trace = [probe] ∧ client.IsProbe coordinates stage probe ∧
        result = some (.ok (probe.status? == some 200))) ∨
      ∃ failure, client.FailsToProbe coordinates stage (exchangesOf trace) failure ∧
        result = some (.error failure) := by
  simp only [holds, yields_bind, yields_liftM]
  cases hurl : contentEndpoint client.base stage coordinates with
  | error failure =>
    obtain ⟨segments, segment, hfolder, hfirst, rfl⟩ := (contentEndpoint_eq_error_iff hbase).mp hurl
    exact .inr ⟨_, .unusable hfolder hfirst, rfl⟩
  | ok url =>
    have haddress : IsContentAddress client.base stage coordinates url :=
      (contentEndpoint_eq_ok_iff hbase).mp hurl
    simp only [yields_send]
    have hrequest := world.request_exchange environment (.head url)
    generalize hprobe : world.exchange environment (.head url) = probe at hrequest ⊢
    obtain ⟨request, reply⟩ := probe
    obtain rfl : request = .head url := hrequest
    have hsent : exchangesOf (world.sendingEvents environment (.head url)) =
        [⟨.head url, reply⟩] := by rw [World.exchangesOf_sendingEvents, hprobe]
    cases reply with
    | error fault =>
      refine .inr ⟨_, ?_, rfl⟩
      rw [List.nil_append, hsent]
      exact .unanswered haddress
    | ok response =>
      have hasked : client.IsProbe coordinates stage ⟨.head url, .ok response⟩ :=
        ⟨url, haddress, rfl, rfl⟩
      have hstatus : Exchange.status? ⟨.head url, .ok response⟩ = some response.status := rfl
      by_cases hfound : response.status = 200
      · simp only [Reply.response, hfound, if_true, yields_pure]
        exact .inl ⟨_, by simp [hsent], hasked, by simp [hstatus, hfound]⟩
      · by_cases habsent : response.status = 404
        · simp only [Reply.response, if_neg hfound, if_pos habsent, yields_pure]
          exact .inl ⟨_, by simp [hsent], hasked, by simp [hstatus, habsent]⟩
        · simp only [Reply.response, hfound, habsent, if_false, yields_bind, yields_note,
            yields_pure]
          exact .inl ⟨_, by simp [hsent], hasked, by simp [hstatus, hfound]⟩

/-- Stages are asked about until one of them cannot be. If none is left, those that hold the
artifact are told by the answers. -/
theorem yields_holders (hbase : IsBase client.base) (stages : List Stage) (world : World σ) :
    (client.holders coordinates stages).Yields environment world fun result trace _ =>
      (∃ failure, client.Probes coordinates stages (exchangesOf trace) (some failure) ∧
        result = some (.error failure)) ∨
      client.Probes coordinates stages (exchangesOf trace) none ∧
        result = some (.ok (((stages.zip (exchangesOf trace)).filter fun asked =>
          asked.2.status? == some 200).map Prod.fst)) := by
  induction stages generalizing world with
  | nil => exact .inr ⟨.complete, rfl⟩
  | cons stage stages ih =>
    rw [holders, yields_bind]
    apply (client.yields_holds coordinates hbase stage world).mono
    rintro result trace after (⟨probe, htrace, hprobe, rfl⟩ | ⟨failure, hfails, rfl⟩)
    · simp only [yields_bind]
      apply (ih after).mono
      rintro result later last (⟨failure, hprobes, rfl⟩ | ⟨hprobes, rfl⟩)
      · refine .inl ⟨failure, ?_, rfl⟩
        rw [exchangesOf_append, htrace]
        exact .answered hprobe hprobes
      · simp only [yields_pure, exchangesOf_append, exchangesOf_nil, htrace, List.singleton_append,
          List.append_nil, List.zip_cons_cons]
        refine .inr ⟨.answered hprobe hprobes, ?_⟩
        cases hfound : probe.status? == some 200 with
        | true => simp [hfound]
        | false => simp [hfound]
    · exact .inl ⟨failure, .stopped hfails, rfl⟩

/-- A search ends in one of its ways. -/
theorem yields_search (hbase : IsBase client.base) (world : World σ) :
    (client.findOpenStage coordinates).Yields environment world fun result trace _ =>
      ∃ ending, client.Search coordinates (exchangesOf trace) ending ∧ result = some ending := by
  apply (client.yields_openStages world).bind
  · rintro failure trace after ⟨listing, htrace, hrequest, hresult⟩
    obtain _ | failure := failure
    · cases hresult
    · have hfails : listing.openStages = .error failure := (Option.some.inj hresult).symm
      have huntold : ∀ stages, ¬client.IsListing listing stages := by
        intro stages htold
        cases hfails.symm.trans (isListing_iff.mp htold).2
      rw [htrace]
      exact ⟨_, .unlisted hrequest huntold hfails, rfl⟩
  · rintro stages trace after ⟨listing, htrace, hrequest, hresult⟩
    have hlisting : client.IsListing listing stages :=
      isListing_iff.mpr ⟨hrequest, (Option.some.inj hresult).symm⟩
    apply (client.yields_holders coordinates hbase stages after).bind
    · rintro failure probed last (⟨cause, hprobes, hcause⟩ | ⟨-, hfound⟩)
      · obtain _ | failure := failure
        · cases hcause
        obtain rfl := Except.error.inj (Option.some.inj hcause)
        rw [exchangesOf_append, htrace]
        exact ⟨_, .failed hlisting hprobes, rfl⟩
      · cases failure <;> cases hfound
    · rintro found probed last (⟨cause, -, hcause⟩ | ⟨hprobes, hfound⟩)
      · cases hcause
      · have hhead : found.head? = firstHolder stages (exchangesOf probed) := by
          obtain rfl := Except.ok.inj (Option.some.inj hfound)
          rw [List.head?_map, List.head?_filter, firstHolder]
        have hsearch (noted : List Event) (hnoted : exchangesOf noted = []) :
            client.Search coordinates (exchangesOf (trace ++ (probed ++ noted)))
              (.ok found.head?) := by
          simpa [htrace, hnoted, ending, hhead] using hprobes.search hlisting
        -- Whether other stages hold the artifact as well changes nothing but the log.
        cases found with
        | nil => exact ⟨_, hsearch [] rfl, rfl⟩
        | cons stage others =>
          cases others with
          | nil => exact ⟨_, hsearch [] rfl, rfl⟩
          | cons second others => exact ⟨_, hsearch [_] rfl, rfl⟩

end Client

/-- A search asks for the listing, then about each open stage in the order of the listing up to the
first one that cannot be asked about, and it ends in exactly the one way that these exchanges say:
with the failure of that stage, or with the first stage of which an answer with status 200 tells, or
without any. Two searches that get the same listing, and whose further requests get answers or fail
for the same reasons, ask the same whatever the answers are; and if the statuses agree as far as the
first 200, they end alike, whatever the later ones are. The listing has a fixed place below the base
address, and so has what tells of an artifact where the segments of its folder are plain. -/
theorem search_ends_with_first_holder {given : String} {client : Client}
    (hclient : baseUrl given = .ok client.base) (coordinates : Coordinates) {σ : Type}
    (environment : Environment σ) (world : World σ) :
    let run := (client.findOpenStage coordinates).runIn environment world
    (∃ result, run.result = some result) ∧
    (∀ result, run.result = some result ↔ client.Search coordinates run.exchanges result) ∧
    (∀ (σ' : Type) (environment' : Environment σ') (world' : World σ'),
      let other := (client.findOpenStage coordinates).runIn environment' world'
      ∀ listing probes listing' probes', run.exchanges = listing :: probes →
        other.exchanges = listing' :: probes' → listing'.reply = listing.reply →
        (∀ pair ∈ probes.zip probes', pair.1.fault? = pair.2.fault?) →
        other.exchanges.map Exchange.request = run.exchanges.map Exchange.request ∧
          ∀ before after after', probes.map Exchange.status? = before ++ some 200 :: after →
            probes'.map Exchange.status? = before ++ some 200 :: after' →
            other.result = run.result) ∧
    (listingEndpoint client.base).text =
      client.base.text ++ "service/local/staging/profile_repositories" ∧
    ∀ stage segments, IsFolder stage coordinates segments →
      (∀ segment ∈ segments, IsPlainSegment segment) →
      ∃ url, IsContentAddress client.base stage coordinates url ∧
        (url.text = client.base.text ++ writtenBelow segments true ↔
          client.base.path.text ≠ "//") := by
  have hbase : IsBase client.base := isBase_of_baseUrl hclient
  have hends {σ : Type} (environment : Environment σ) (world : World σ) :
      ∃ ending, client.Search coordinates
          ((client.findOpenStage coordinates).runIn environment world).exchanges ending ∧
        ((client.findOpenStage coordinates).runIn environment world).result = some ending :=
    client.yields_search coordinates hbase world
  intro run
  obtain ⟨result, hsearch, hresult⟩ : ∃ ending, client.Search coordinates run.exchanges ending ∧
    run.result = some ending := hends environment world
  refine ⟨⟨result, hresult⟩, ?_, ?_, text_listingEndpoint hbase, ?_⟩
  · intro ending
    rw [hresult, Option.some_inj]
    constructor
    · rintro rfl
      exact hsearch
    · exact hsearch.unique
  · intro σ' environment' world' other listing probes listing' probes' hrun hother hreply halike
    obtain ⟨result', hsearch', hresult'⟩ : ∃ ending,
      client.Search coordinates other.exchanges ending ∧ other.result = some ending :=
        hends environment' world'
    rw [hrun] at hsearch
    rw [hother] at hsearch'
    obtain ⟨first, _, heq, hrequest⟩ := hsearch.exists_cons
    obtain ⟨first', _, heq', hrequest'⟩ := hsearch'.exists_cons
    obtain ⟨rfl, -⟩ := List.cons.inj heq
    obtain ⟨rfl, -⟩ := List.cons.inj heq'
    have hlisting : listing' = listing := by
      cases listing
      cases listing'
      simp_all
    obtain ⟨hrequests, hsame⟩ :=
      hsearch.congr hsearch' (congrArg Exchange.openStages hlisting) halike
    refine ⟨?_, ?_⟩
    · rw [hrun, hother, List.map_cons, List.map_cons, hrequests, hlisting]
    · intro before after after' hstatuses hstatuses'
      rw [hresult, hresult', hsame before after after' hstatuses hstatuses']
  · intro stage segments hfolder hplain
    exact hfolder.exists_isContentAddress hbase hplain

/-- A server with two open stages, of which the second one holds an artifact. -/
def holdingServer : Environment Unit where
  answer state request :=
    let listing := Simulation.listingDocument
      [⟨"p", "s-1", "closed"⟩, ⟨"q", "s-2", "open"⟩, ⟨"p", "s-3", "open"⟩]
    let folder :=
      ["service", "local", "repositories", "s-3", "content", "org", "example", "lib", ""]
    let response : Response :=
      if request.method = .get then ⟨200, listing⟩
      else if request.url.segments? = some folder then ⟨200, ""⟩
      else ⟨404, ""⟩
    (.ok response, none, state)
  pass state _ := (none, state)

/-- Of two open stages that are asked about, the second one is found. -/
theorem search_ends_with_first_holder_second :
    let run := (sampleClient.findOpenStage ⟨"org.example", "lib", none⟩).runIn holdingServer
      (.fresh ())
    baseUrl "http://nexus.test" = .ok sampleClient.base ∧
      sampleClient.Search ⟨"org.example", "lib", none⟩ run.exchanges
        (.ok (some ⟨"p", "s-3"⟩)) := by
  intro run
  have hbase : baseUrl "http://nexus.test" = .ok sampleClient.base :=
    toOption_eq_some_iff.mp (by decide +kernel)
  have hlisted (world : World Unit) : (sampleClient.openStages.runIn holdingServer world).result =
      some (.ok [⟨"q", "s-2"⟩, ⟨"p", "s-3"⟩]) := by
    rw [result_openStages_answered (Simulation.ofString?_listingDocument (by decide)) rfl,
      Simulation.openStages_listing (by decide)]
    rfl
  have hprobed (world : World Unit) : ((sampleClient.holders ⟨"org.example", "lib", none⟩
      [⟨"q", "s-2"⟩, ⟨"p", "s-3"⟩]).runIn holdingServer world).result =
        some (.ok [⟨"p", "s-3"⟩]) := rfl
  have hfound (world : World Unit) :
      (sampleClient.findOpenStage ⟨"org.example", "lib", none⟩).Yields holdingServer world
        fun result _ _ => result = some (.ok (some ⟨"p", "s-3"⟩)) := by
    rw [Client.findOpenStage, Operation.yields_bind, Operation.Yields, hlisted]
    dsimp only
    rw [Operation.yields_bind, Operation.Yields, hprobed]
    rfl
  obtain ⟨-, hends, -⟩ := search_ends_with_first_holder hbase ⟨"org.example", "lib", none⟩
    holdingServer (.fresh ())
  exact ⟨hbase, (hends _).mp (hfound _)⟩

end ReleaseStaging
