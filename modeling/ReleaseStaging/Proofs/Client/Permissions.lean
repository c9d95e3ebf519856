import ReleaseStaging.Client.Permissions
import ReleaseStaging.Proofs.Report.Saying
import ReleaseStaging.Proofs.Simulation.Documents
import ReleaseStaging.Proofs.Text.Number
import ReleaseStaging.Simulation.Rehearsal

/-!
# Which permission decides

A status document may have any number of entries for a permission, in any place, with several ids or
none and with several values or none. What counts for a permission is the first value of all its
entries together, and what counts for the user is the first permission that is not granted.
Main statement: `first_permission_not_granted_decides`.
-/

namespace ReleaseStaging

open Query (Site AreAll IsEarliest)

/-! ## What a status says -/

/-- An entry is about a permission if one of its ids is the permission. -/
def Xml.Node.IsAbout (entry : Xml.Node) (permission : String) : Prop :=
  ∃ child ∈ entry.children, child.isNamed "id" = true ∧
    Text.trimmed child.stringValue = permission

instance (entry : Xml.Node) (permission : String) : Decidable (entry.IsAbout permission) :=
  inferInstanceAs (Decidable (∃ child ∈ entry.children, child.isNamed "id" = true ∧
    Text.trimmed child.stringValue = permission))

/-- A site of a status document is an entry for permissions. -/
def IsEntry (document : Xml.Document) (site : Site) : Prop :=
  (Site.ofDocument document).Reaches
    ["status", "data", "clientPermissions", "permissions", "permission"] site

/-- A site of a status document is a value for a permission. -/
def IsValue (document : Xml.Document) (permission : String) (value : Site) : Prop :=
  ∃ entry, IsEntry document entry ∧ entry.node.IsAbout permission ∧ entry.IsChild value ∧
    value.node.isNamed "value" = true

/-- The first value for a permission has a text, not counting the white space around it. -/
def Reports (document : Xml.Document) (permission text : String) : Prop :=
  ∃ value, IsEarliest (IsValue document permission) value ∧
    Text.trimmed value.node.stringValue = text

/-- A permission is granted by a number other than zero. -/
def Grants (document : Xml.Document) (permission : String) : Prop :=
  ∃ text number, Reports document permission text ∧ Text.Int64Text text.toList number ∧ number ≠ 0

/-- Why a permission is not granted. -/
inductive Denies (document : Xml.Document) (source permission : String) : Failure → Prop
  /-- There is no value. -/
  | unreported (hnone : ∀ value, ¬IsValue document permission value) :
      Denies document source permission (.permissionNotReported source permission)
  /-- The first value is no number. -/
  | meaningless {text : String} (hreports : Reports document permission text)
      (hnumber : ∀ number, ¬Text.Int64Text text.toList number) :
      Denies document source permission (.invalidValue source
        ("/status/data/clientPermissions/permissions/permission[id='" ++ permission ++ "']/value")
        text)
  /-- The first value is zero, however it is written. -/
  | zero {text : String} (hreports : Reports document permission text)
      (hzero : Text.Int64Text text.toList 0) :
      Denies document source permission (.insufficientPrivileges permission)

/-! ## Reading a value -/

section

variable {report : Report} {permission text : String}

/-- The query for a permission selects its values. -/
theorem areAll_permissionQuery (report : Report) (permission : String) :
    AreAll (IsValue report.document permission)
      (report.select report.root (permissionQuery permission)) := by
  refine ⟨Query.pairwise_select _ _ _, fun value => ?_⟩
  have hentry (via entry : Site) :
      (Query.Step.mk .child (some "permission") [.childEquals "id" permission]).Leads via entry ↔
        via.Reaches ["permission"] entry ∧ entry.node.IsAbout permission := by
    simp [Query.Step.Leads, Query.Axis.Reaches, Query.mem_picks_childEquals, Site.Reaches,
      Xml.Node.IsAbout]
  have hnames : ["status", "data", "clientPermissions", "permissions", "permission"] =
      ["status", "data", "clientPermissions", "permissions"] ++ ["permission"] := rfl
  have hselect : value ∈ report.select report.root (permissionQuery permission) ↔
      Query.LeadAlong (["status", "data", "clientPermissions", "permissions"].map
        Query.Step.toChild ++ [⟨.child, some "permission", [.childEquals "id" permission]⟩,
          .toChild "value"]) (.ofDocument report.document) value := Query.mem_select
  rw [hselect, Query.leadAlong_append]
  simp only [Query.leadAlong_toChild, Query.LeadAlong, hentry, Query.leads_toChild, IsValue,
    IsEntry, hnames, Site.reaches_append]
  constructor
  · rintro ⟨via, hvia, entry, ⟨hentry, habout⟩, value, ⟨hchild, hname⟩, rfl⟩
    exact ⟨entry, ⟨via, hvia, hentry⟩, habout, hchild, hname⟩
  · rintro ⟨entry, ⟨via, hvia, hentry⟩, habout, hchild, hname⟩
    exact ⟨via, hvia, entry, ⟨hentry, habout⟩, value, ⟨hchild, hname⟩, rfl⟩

theorem text?_permissionQuery_eq_some_iff :
    report.text? report.root (permissionQuery permission) = some text ↔
      Reports report.document permission text := by
  rw [Report.text?, Report.rawText?, Option.map_map, Option.map_eq_some_iff]
  simp only [(areAll_permissionQuery report permission).head?_eq_some_iff, Reports,
    Function.comp_apply]

theorem text?_permissionQuery_eq_none_iff :
    report.text? report.root (permissionQuery permission) = none ↔
      ∀ value, ¬IsValue report.document permission value := by
  rw [Report.text?, Report.rawText?, Option.map_eq_none_iff, Option.map_eq_none_iff,
    List.head?_eq_none_iff, List.eq_nil_iff_forall_not_mem]
  simp only [(areAll_permissionQuery report permission).mem_iff]

/-! ## Judging a permission -/

/-- Whether a permission is granted, or else why not. -/
def Report.permit (report : Report) (permission : String) : Except Failure Unit := do
  let granted ← isGranted report permission
  if granted then pure () else throw (.insufficientPrivileges permission)

/-- A permission that is granted is not refused. -/
theorem Grants.permit_eq (h : Grants report.document permission) :
    report.permit permission = .ok () := by
  obtain ⟨text, number, htext, hnumber, hne⟩ := h
  have hgranted : isGranted report permission = .ok (number != 0) := by
    simp only [isGranted, text?_permissionQuery_eq_some_iff.mpr htext,
      Text.signedWithin?_int64.mpr hnumber]
  rw [Report.permit, hgranted]
  simp [hne, bind, Except.bind, pure, Except.pure]

/-- The query for a permission is written with the permission in quotes. -/
theorem expression_permissionQuery : ∀ permission ∈ requiredPermissions,
    (permissionQuery permission).expression =
      "/status/data/clientPermissions/permissions/permission[id='" ++ permission ++ "']/value" := by
  decide

/-- A permission that is needed and denied is refused for the reason for which it is denied. -/
theorem Denies.permit_eq (hrequired : permission ∈ requiredPermissions) {failure : Failure}
    (h : Denies report.document report.source permission failure) :
    report.permit permission = .error failure := by
  cases h with
  | unreported hnone =>
    simp only [Report.permit, isGranted, text?_permissionQuery_eq_none_iff.mpr hnone]
    rfl
  | meaningless htext hnumber =>
    have hread := Option.eq_none_iff_forall_ne_some.mpr fun number hread =>
      hnumber number (Text.signedWithin?_int64.mp hread)
    rw [← expression_permissionQuery permission hrequired]
    simp only [Report.permit, isGranted, text?_permissionQuery_eq_some_iff.mpr htext, hread]
    rfl
  | zero htext hzero =>
    simp only [Report.permit, isGranted, text?_permissionQuery_eq_some_iff.mpr htext,
      Text.signedWithin?_int64.mpr hzero]
    rfl

/-- A permission is granted or denied. -/
theorem grants_or_denies (document : Xml.Document) (source permission : String) :
    Grants document permission ∨ ∃ failure, Denies document source permission failure := by
  cases htext : Report.text? ⟨source, document⟩ (.rootOf document) (permissionQuery permission) with
  | none => exact .inr ⟨_, .unreported (text?_permissionQuery_eq_none_iff.mp htext)⟩
  | some text =>
    have hreports : Reports document permission text := text?_permissionQuery_eq_some_iff.mp htext
    by_cases hnumber : ∃ number, Text.Int64Text text.toList number
    · obtain ⟨number, hnumber⟩ := hnumber
      by_cases hzero : number = 0
      · exact .inr ⟨_, .zero hreports (hzero ▸ hnumber)⟩
      · exact .inl ⟨text, number, hreports, hnumber, hzero⟩
    · exact .inr ⟨_, .meaningless hreports (not_exists.mp hnumber)⟩

theorem permit_eq_ok_iff (hrequired : permission ∈ requiredPermissions) :
    report.permit permission = .ok () ↔ Grants report.document permission := by
  refine ⟨fun h => ?_, Grants.permit_eq⟩
  rcases grants_or_denies report.document report.source permission with hgrants | ⟨_, hdenies⟩
  · exact hgrants
  · cases h.symm.trans (hdenies.permit_eq hrequired)

theorem permit_eq_error_iff (hrequired : permission ∈ requiredPermissions) {failure : Failure} :
    report.permit permission = .error failure ↔
      Denies report.document report.source permission failure := by
  refine ⟨fun h => ?_, Denies.permit_eq hrequired⟩
  rcases grants_or_denies report.document report.source permission with hgrants | ⟨_, hdenies⟩
  · cases h.symm.trans hgrants.permit_eq
  · rwa [← Except.error.inj ((hdenies.permit_eq hrequired).symm.trans h)]

/-- A permission that is needed is refused exactly if it is not granted. -/
theorem exists_permit_eq_error_iff (hrequired : permission ∈ requiredPermissions) :
    (∃ failure, report.permit permission = .error failure) ↔
      ¬Grants report.document permission := by
  rw [← permit_eq_ok_iff hrequired]
  cases report.permit permission with
  | ok => simp
  | error failure => simp

end

/-! ## Judging all permissions -/

section

open Operation

variable {σ : Type} {environment : Environment σ}

/-- Judging a permission sends nothing. -/
theorem yields_requirePermission (report : Report) (permission : String) (world : World σ) :
    (requirePermission report permission).Yields environment world fun result trace _ =>
      exchangesOf trace = [] ∧ result = some (report.permit permission) := by
  rw [requirePermission, yields_bind, yields_liftM, Report.permit]
  cases isGranted report permission with
  | error failure => exact ⟨rfl, rfl⟩
  | ok granted =>
    cases granted with
    | true => exact ⟨rfl, rfl⟩
    | false =>
      simp only [Bool.false_eq_true, if_false, yields_bind, yields_note, yields_throw]
      exact ⟨rfl, rfl⟩

/-- Permissions are judged in order, up to the first one that is refused. -/
theorem yields_forM_requirePermission (report : Report) (permissions : List String)
    (world : World σ) :
    Yields environment (permissions.forM (requirePermission report)) world fun result trace _ =>
      exchangesOf trace = [] ∧ result = some (permissions.forM report.permit) := by
  induction permissions generalizing world with
  | nil => exact ⟨rfl, rfl⟩
  | cons permission permissions ih =>
    change Yields environment (requirePermission report permission >>= fun _ =>
      permissions.forM (requirePermission report)) world _
    have hcons : (permission :: permissions).forM report.permit =
        report.permit permission >>= fun _ => permissions.forM report.permit := rfl
    rw [yields_bind, hcons]
    apply (yields_requirePermission report permission world).mono
    rintro result trace after ⟨htrace, rfl⟩
    cases report.permit permission with
    | error failure => exact ⟨htrace, rfl⟩
    | ok =>
      apply (ih after).mono
      rintro result later last ⟨hlater, rfl⟩
      exact ⟨by rw [exchangesOf_append, htrace, hlater, List.append_nil], rfl⟩

/-- The permissions are judged by one answer. -/
theorem yields_checkAuthentication (client : Client) (world : World σ) :
    client.checkAuthentication.Yields environment world fun result trace _ =>
      exchangesOf trace = [world.exchange environment (.get (statusEndpoint client.base))] ∧
        result = some ((world.exchange environment (.get (statusEndpoint client.base))).report >>=
          fun report => requiredPermissions.forM report.permit) := by
  simp only [Client.checkAuthentication, yields_bind, Client.yields_fetchReport]
  cases (world.exchange environment (.get (statusEndpoint client.base))).report with
  | error failure => exact ⟨World.exchangesOf_sendingEvents .., rfl⟩
  | ok report =>
    apply (yields_forM_requirePermission report requiredPermissions _).mono
    rintro result trace after ⟨htrace, rfl⟩
    refine ⟨?_, rfl⟩
    rw [exchangesOf_append, World.exchangesOf_sendingEvents, htrace, List.append_nil]

end

/-! ## What makes no difference -/

/-- One change to the entries of a status that makes no difference to some permissions. -/
inductive Rearranges (relevant : List String) : List Xml.Node → List Xml.Node → Prop
  /-- Two neighbours without a common id change places. -/
  | swap {before after : List Xml.Node} {a b : Xml.Node}
      (hids : ∀ id, ¬(a.IsAbout id ∧ b.IsAbout id)) :
      Rearranges relevant (before ++ a :: b :: after) (before ++ b :: a :: after)
  /-- An entry about other permissions is left out. -/
  | drop {before after : List Xml.Node} {entry : Xml.Node}
      (hids : ∀ permission ∈ relevant, ¬entry.IsAbout permission) :
      Rearranges relevant (before ++ entry :: after) (before ++ after)

/-- Such a change leaves the entries about each of the permissions as they are. -/
theorem Rearranges.filter_isAbout_eq {relevant : List String} {entries others : List Xml.Node}
    (h : Rearranges relevant entries others) {permission : String}
    (hrelevant : permission ∈ relevant) :
    entries.filter (fun entry => entry.IsAbout permission) =
      others.filter fun entry => entry.IsAbout permission := by
  cases h with
  | @swap before after a b hids =>
    simp only [List.filter_append, List.filter_cons, decide_eq_true_eq]
    -- At most one of the two is about the permission.
    by_cases ha : a.IsAbout permission
    · have hb : ¬b.IsAbout permission := fun hb => hids permission ⟨ha, hb⟩
      simp only [ha, hb, if_true, if_false]
    · simp only [ha, if_false]
  | drop hids =>
    simp only [List.filter_append, List.filter_cons, decide_eq_true_eq,
      hids permission hrelevant, if_false]

/-- So does any number of such changes, made or taken back. -/
theorem filter_isAbout_eq_of_eqvGen {relevant : List String} {entries others : List Xml.Node}
    (h : Relation.EqvGen (Rearranges relevant) entries others) {permission : String}
    (hrelevant : permission ∈ relevant) :
    entries.filter (fun entry => entry.IsAbout permission) =
      others.filter fun entry => entry.IsAbout permission := by
  induction h with
  | rel entries others hstep => exact hstep.filter_isAbout_eq hrelevant
  | refl entries => rfl
  | symm entries others _ ih => exact ih.symm
  | trans entries others more _ _ ih ih' => exact ih.trans ih'

/-- The values for a permission, by the entries of the document. -/
theorem areAll_values {document : Xml.Document} {entries : List Site}
    (h : AreAll (IsEntry document) entries) (permission : String) :
    AreAll (IsValue document permission)
      (((entries.filter fun entry => entry.node.IsAbout permission).flatMap Site.children).filter
        fun child => child.node.isNamed "value") := by
  have hlevel : Site.AreLevel _ entries :=
    ⟨h.ordered, fun entry hentry => ((h.mem_iff entry).mp hentry).length_place⟩
  refine ⟨((hlevel.filter _).children.filter _).1, fun value => ?_⟩
  simp only [List.mem_filter, List.mem_flatMap, Site.mem_children, h.mem_iff, decide_eq_true_eq,
    IsValue]
  constructor
  · rintro ⟨⟨entry, ⟨hentry, habout⟩, hchild⟩, hname⟩
    exact ⟨entry, hentry, habout, hchild, hname⟩
  · rintro ⟨entry, hentry, habout, hchild, hname⟩
    exact ⟨⟨entry, ⟨hentry, habout⟩, hchild⟩, hname⟩

/-- The text of a permission depends on the entries about it only. -/
theorem text?_permissionQuery {report : Report} {entries : List Site}
    (h : AreAll (IsEntry report.document) entries) (permission : String) :
    report.text? report.root (permissionQuery permission) =
      ((((entries.map Site.node).filter fun entry => entry.IsAbout permission).flatMap
        (Xml.Node.childrenNamed "value")).head?.map Xml.Node.stringValue).map Text.trimmed := by
  have hfilter : (entries.filter fun entry => entry.node.IsAbout permission).map Site.node =
      (entries.map Site.node).filter fun entry => entry.IsAbout permission := by
    rw [List.filter_map]
    rfl
  rw [Report.text?, Report.rawText?,
    (areAll_permissionQuery report permission).unique (areAll_values h permission), ← hfilter,
    ← Query.map_node_children_filter, List.head?_map]
  simp only [Option.map_map]
  rfl

/-- Where the entries about a permission are the same, it is judged alike. -/
theorem permit_congr {report report' : Report} (hsource : report.source = report'.source)
    {entries entries' : List Site} (hentries : AreAll (IsEntry report.document) entries)
    (hentries' : AreAll (IsEntry report'.document) entries') {permission : String}
    (hsame : ((entries.map Site.node).filter fun entry => entry.IsAbout permission) =
      (entries'.map Site.node).filter fun entry => entry.IsAbout permission) :
    report.permit permission = report'.permit permission := by
  simp only [Report.permit, isGranted, text?_permissionQuery hentries,
    text?_permissionQuery hentries', hsame, hsource, Report.invalid]

/-! ## The judgement -/

section

variable {report : Report}

theorem permit_all_eq_ok_iff : requiredPermissions.forM report.permit = .ok () ↔
    ∀ permission ∈ requiredPermissions, Grants report.document permission := by
  rw [forM_eq_ok_iff]
  exact forall₂_congr fun _ hrequired => permit_eq_ok_iff hrequired

/-- The failure is that of the first permission that is not granted. -/
theorem permit_all_eq_error_iff {failure : Failure} :
    requiredPermissions.forM report.permit = .error failure ↔ ∃ permission,
      IsFirst (fun other => ¬Grants report.document other) requiredPermissions permission ∧
      Denies report.document report.source permission failure := by
  rw [forM_eq_error_iff]
  refine exists_congr fun permission => ?_
  rw [isFirst_congr fun other hother => exists_permit_eq_error_iff hother]
  refine and_congr_right fun hfirst => permit_eq_error_iff ?_
  obtain ⟨-, before, after, heq, -⟩ := hfirst
  rw [heq]
  simp

/-- As far as the permission that decides, only the entries about each permission make a
difference. -/
theorem permit_all_congr {report' : Report} (hsource : report.source = report'.source)
    {relevant : List String} (hstart : relevant <+: requiredPermissions)
    (hdecided : relevant = requiredPermissions ∨
      ∃ permission ∈ relevant, ¬Grants report.document permission)
    {entries entries' : List Site} (hentries : AreAll (IsEntry report.document) entries)
    (hentries' : AreAll (IsEntry report'.document) entries')
    (hsame : Relation.EqvGen (Rearranges relevant) (entries.map Site.node)
      (entries'.map Site.node)) :
    requiredPermissions.forM report.permit = requiredPermissions.forM report'.permit := by
  have hpermit : ∀ permission ∈ relevant, report.permit permission = report'.permit permission :=
    fun permission hrelevant =>
      permit_congr hsource hentries hentries' (filter_isAbout_eq_of_eqvGen hsame hrelevant)
  have hrelevant : relevant.forM report.permit = relevant.forM report'.permit := by
    rw [forM_eq_map_mapM, forM_eq_map_mapM, mapM_congr hpermit]
  rcases hdecided with rfl | ⟨permission, hmem, hrefused⟩
  · exact hrelevant
  · cases hresult : relevant.forM report.permit with
    | ok =>
      have hpermitted := forM_eq_ok_iff.mp hresult permission hmem
      exact absurd ((permit_eq_ok_iff (hstart.subset hmem)).mp hpermitted) hrefused
    | error failure =>
      -- What comes after the permission that decides is not looked at.
      obtain ⟨later, heq⟩ := hstart
      rw [← heq, forM_append_of_error hresult, forM_append_of_error (hrelevant ▸ hresult)]

end

/-- The user is accepted exactly if every permission that is needed is granted, and else the first
one that is not, in the order of the list, decides: because there is no value for it, its first
value is no number that fits into 64 bits, or that number is zero. It takes one request. Up to the
permission that decides, entries without a common id may change places, and entries about other
permissions only may come or go. -/
theorem first_permission_not_granted_decides (client : Client) {σ : Type}
    {environment : Environment σ} {world : World σ} {document : Xml.Document}
    (h : world.Serves environment (statusEndpoint client.base) document) :
    let run := client.checkAuthentication.runIn environment world
    run.exchanges.map Exchange.request = [.get (statusEndpoint client.base)] ∧
    (∃ result, run.result = some result) ∧
    (run.result = some (.ok ()) ↔
      ∀ permission ∈ requiredPermissions, Grants document permission) ∧
    (∀ failure, run.result = some (.error failure) ↔ ∃ permission,
      IsFirst (fun other => ¬Grants document other) requiredPermissions permission ∧
      Denies document (statusEndpoint client.base).text permission failure) ∧
    ∀ relevant, relevant <+: requiredPermissions →
      (relevant = requiredPermissions ∨
        ∃ permission ∈ relevant, ¬Grants document permission) →
      ∀ (σ' : Type) (environment' : Environment σ') (world' : World σ') (document' : Xml.Document),
        world'.Serves environment' (statusEndpoint client.base) document' →
        ∀ entries entries', AreAll (IsEntry document) entries →
          AreAll (IsEntry document') entries' →
          Relation.EqvGen (Rearranges relevant) (entries.map Site.node) (entries'.map Site.node) →
          (client.checkAuthentication.runIn environment' world').result = run.result := by
  have hrun {σ : Type} {environment : Environment σ} {world : World σ} {document : Xml.Document}
      (h : world.Serves environment (statusEndpoint client.base) document) :
      let run := client.checkAuthentication.runIn environment world
      run.exchanges = [world.exchange environment (.get (statusEndpoint client.base))] ∧
        run.result = some (requiredPermissions.forM
          (Report.permit ⟨(statusEndpoint client.base).text, document⟩)) := by
    have hyields : client.checkAuthentication.Yields environment world _ :=
      yields_checkAuthentication client world
    rw [h.report] at hyields
    exact hyields
  intro run
  obtain ⟨hexchanges, hresult⟩ := hrun h
  refine ⟨congrArg (List.map Exchange.request) hexchanges, ⟨_, hresult⟩, ?_, ?_, ?_⟩
  · rw [hresult, Option.some_inj]
    exact permit_all_eq_ok_iff
  · intro failure
    rw [hresult, Option.some_inj]
    exact permit_all_eq_error_iff
  · intro relevant hstart hdecided σ' environment' world' document' h' entries entries' hentries
      hentries' hsame
    rw [(hrun h').2, hresult]
    exact congrArg some (@permit_all_congr ⟨_, document⟩ ⟨_, document'⟩ rfl relevant hstart hdecided
      entries entries' hentries hentries' hsame).symm

/-- A status that grants the first permission and reports the last one only, with zero. -/
theorem first_permission_not_granted_decides_unreported :
    let text := Simulation.statusDocument "2.6.0"
      [("nexus:stagingdrop", 0), ("nexus:stagingprofiles", 15)]
    let environment : Environment Unit :=
      ⟨fun state _ => (.ok ⟨200, text⟩, none, state), fun state _ => (none, state)⟩
    (sampleClient.checkAuthentication.runIn environment (.fresh ())).result =
      some (.error (.permissionNotReported "http://nexus.test/service/local/status"
        "nexus:stagingfinish")) := by
  intro text environment
  let document : Xml.Document := Simulation.statusTree "2.6.0"
    [("nexus:stagingdrop", 0), ("nexus:stagingprofiles", 15)]
  have hserves : World.Serves environment (.fresh ()) (statusEndpoint sampleClient.base) document :=
    ⟨text, rfl, Simulation.ofString?_statusDocument (by decide) (by decide)⟩
  obtain ⟨-, -, -, hdenied, -⟩ := first_permission_not_granted_decides sampleClient hserves
  let report : Report := ⟨(statusEndpoint sampleClient.base).text, document⟩
  have hread (permission : String) :
      report.text? report.root (permissionQuery permission) = _ :=
    text?_permissionQuery (Query.areAll_select_fromTop _ _ report.root) permission
  rw [Query.map_node_select_fromTop] at hread
  have hprofiles : Grants document "nexus:stagingprofiles" :=
    ⟨"15", 15, text?_permissionQuery_eq_some_iff.mp ((hread _).trans (by decide +kernel)),
      Text.signedWithin?_int64.mp (by decide), by decide⟩
  have hfinish : ∀ value, ¬IsValue document "nexus:stagingfinish" value :=
    text?_permissionQuery_eq_none_iff.mp ((hread _).trans (by decide +kernel))
  have hrefused : ¬Grants document "nexus:stagingfinish" := by
    rintro ⟨_, _, ⟨value, hvalue, -⟩, -⟩
    exact hfinish value hvalue.holds
  refine (hdenied _).mpr ⟨"nexus:stagingfinish", ⟨hrefused, ["nexus:stagingprofiles"], _, rfl, ?_⟩,
    .unreported hfinish⟩
  simpa using hprofiles

end ReleaseStaging
