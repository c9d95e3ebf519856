import ReleaseStaging.Proofs.Report.Content
import ReleaseStaging.Proofs.Xml.Formatting

/-!
# Answers do not depend on formatting

The server may write the same answer in many ways. Whatever is read from a document is read from its
gist, as long as the elements whose text is read hold no elements, and formatting leaves the gist as
it is. So two answers that differ in their formatting only are read alike.
Main statement: listings and activity logs with the same unformatted document give the same stages,
the same activities and the same outcome of a close.
-/

namespace ReleaseStaging

open Query (nodesBelow)

namespace Query

/-- Children of given names, one below the other, are found in the gist as well. -/
theorem nodesBelow_gist (names : List String) (nodes : List Xml.Node) :
    nodesBelow names (nodes.map Xml.Node.gist) = (nodesBelow names nodes).map Xml.Node.gist := by
  induction names generalizing nodes with
  | nil => rfl
  | cons name names ih =>
    have hstep : (nodes.map Xml.Node.gist).flatMap (Xml.Node.childrenNamed name) =
        (nodes.flatMap (Xml.Node.childrenNamed name)).map Xml.Node.gist := by
      rw [List.flatMap_map, List.map_flatMap]
      exact congrArg (List.flatMap · nodes) (funext (Xml.Node.childrenNamed_gist name))
    rw [nodesBelow, List.foldl_cons, hstep]
    exact ih _

end Query

namespace Xml.Node

/-! ## Where text is read -/

/-- Of each of the names, the first child of a node holds no elements. -/
def IsPlain (names : List String) (node : Node) : Prop :=
  ∀ name ∈ names, ∀ child ∈ (node.childrenNamed name).head?, child.isLeaf = true

/-- In a listing, no elements are held by what tells the state of a repository, and by what tells
which stage an open one is. -/
structure HasPlainStages (node : Node) : Prop where
  /-- The states of all repositories are plain. -/
  states : ∀ repository ∈ node.elements, repository.isNamed "stagingProfileRepository" = true →
    ∀ child ∈ repository.childrenNamed "type", child.isLeaf = true
  /-- Open repositories are plainly identified. -/
  stages : ∀ repository ∈ node.elements, repository.isOpenRepository = true →
    repository.IsPlain ["profileId", "repositoryId"]

/-- In an event, no elements are held by its name, its time and the names and values of its
properties. -/
structure IsPlainEvent (node : Node) : Prop where
  /-- What is read of the event itself is plain. -/
  event : node.IsPlain ["name", "timestamp"]
  /-- The properties are plain. -/
  properties : ∀ property ∈ nodesBelow ["properties", "stagingProperty"] [node],
    property.IsPlain ["name", "value"]

/-- In an activity, no elements are held by its name, its times and what is read of its events. -/
structure IsPlainActivity (node : Node) : Prop where
  /-- What is read of the activity itself is plain. -/
  activity : node.IsPlain ["name", "started", "stopped"]
  /-- The events are plain. -/
  events : ∀ event ∈ nodesBelow ["events", "stagingActivityEvent"] [node], event.IsPlainEvent

/-- The activities of a log are plain. -/
def HasPlainLog (node : Node) : Prop :=
  ∀ activity ∈ nodesBelow ["list", "stagingActivity"] [node], activity.IsPlainActivity

instance (names : List String) (node : Node) : Decidable (node.IsPlain names) :=
  inferInstanceAs (Decidable (∀ name ∈ names, ∀ child ∈ (node.childrenNamed name).head?, _))

instance (node : Node) : Decidable node.HasPlainStages :=
  decidable_of_iff (_ ∧ _) ⟨fun h => ⟨h.1, h.2⟩, fun h => ⟨h.states, h.stages⟩⟩

instance (node : Node) : Decidable node.IsPlainEvent :=
  decidable_of_iff (_ ∧ _) ⟨fun h => ⟨h.1, h.2⟩, fun h => ⟨h.event, h.properties⟩⟩

instance (node : Node) : Decidable node.IsPlainActivity :=
  decidable_of_iff (_ ∧ _) ⟨fun h => ⟨h.1, h.2⟩, fun h => ⟨h.activity, h.events⟩⟩

instance (node : Node) : Decidable node.HasPlainLog :=
  inferInstanceAs (Decidable (∀ activity ∈ nodesBelow ["list", "stagingActivity"] [node], _))

/-! ## What is read from the gist -/

variable {names : List String} {name : String} {node : Node}

theorem text?_gist (h : node.IsPlain names) (hname : name ∈ names) :
    node.gist.text? name = node.text? name := by
  rw [text?, text?, childrenNamed_gist, List.head?_map]
  cases hchild : (node.childrenNamed name).head? with
  | none => rfl
  | some child =>
    have hleaf : child.isLeaf = true := h name hname child hchild
    rw [Option.map_some, Option.map_some, Option.map_some, trimmed_stringValue_gist hleaf]

theorem requiredText_gist (h : node.IsPlain names) (hname : name ∈ names) :
    node.gist.requiredText name = node.requiredText name := by
  rw [requiredText, text?_gist h hname, requiredText]

theorem time?_gist (h : node.IsPlain names) (hname : name ∈ names) :
    node.gist.time? name = node.time? name := by
  rw [time?, text?_gist h hname, time?]

theorem isOpenRepository_gist (h : node.isNamed "stagingProfileRepository" = true →
    ∀ child ∈ node.childrenNamed "type", child.isLeaf = true) :
    node.gist.isOpenRepository = node.isOpenRepository := by
  rw [isOpenRepository, isOpenRepository, isNamed_gist]
  cases hnamed : node.isNamed "stagingProfileRepository" with
  | false => rw [Bool.false_and, Bool.false_and]
  | true =>
    rw [Bool.true_and, Bool.true_and, childrenNamed_gist, List.any_map]
    have htexts : ∀ child ∈ node.childrenNamed "type",
        Text.trimmed child.gist.stringValue = Text.trimmed child.stringValue :=
      fun child hchild => trimmed_stringValue_gist (h hnamed child hchild)
    rw [Bool.eq_iff_iff, List.any_eq_true, List.any_eq_true]
    exact exists_congr fun child => and_congr_right fun hchild => by
      rw [Function.comp, htexts child hchild]

theorem stage_gist (h : node.IsPlain ["profileId", "repositoryId"]) :
    node.gist.stage = node.stage := by
  rw [stage, requiredText_gist h (by simp), requiredText_gist h (by simp), stage]

/-- The open stages are read alike in the gist. -/
theorem openStages_gist (h : node.HasPlainStages) : node.gist.openStages = node.openStages := by
  have hopen : ∀ repository ∈ node.elements,
      (isOpenRepository ∘ gist) repository = repository.isOpenRepository :=
    fun repository hmem => isOpenRepository_gist (h.states repository hmem)
  rw [openStages, openStages, elements_gist, List.filter_map, List.filter_congr hopen,
    List.mapM_map]
  apply mapM_congr
  intro repository hrepository
  obtain ⟨hmem, hisOpen⟩ := List.mem_filter.mp hrepository
  exact stage_gist (h.stages repository hmem hisOpen)

theorem eventProperty_gist (h : node.IsPlain ["name", "value"]) :
    node.gist.eventProperty = node.eventProperty := by
  rw [eventProperty, requiredText_gist h (by simp), text?_gist h (by simp), eventProperty]

/-- What is below a node is read alike in the gist, if that is so for each node there. -/
theorem mapM_nodesBelow_gist {α : Type} (names : List String) {read : Node → Except Query α}
    (h : ∀ below ∈ nodesBelow names [node], read below.gist = read below) :
    (nodesBelow names [node.gist]).mapM read = (nodesBelow names [node]).mapM read := by
  have hgist : nodesBelow names [node.gist] = (nodesBelow names [node]).map gist :=
    Query.nodesBelow_gist names [node]
  rw [hgist, List.mapM_map]
  exact mapM_congr h

theorem event_gist (h : node.IsPlainEvent) : node.gist.event = node.event := by
  rw [event, mapM_nodesBelow_gist _ fun property hmem =>
      eventProperty_gist (h.properties property hmem),
    requiredText_gist h.event (by simp), time?_gist h.event (by simp), event]

theorem activity_gist (h : node.IsPlainActivity) : node.gist.activity = node.activity := by
  rw [activity, mapM_nodesBelow_gist _ fun event hmem => event_gist (h.events event hmem),
    requiredText_gist h.activity (by simp), time?_gist h.activity (by simp),
    time?_gist h.activity (by simp), activity]

/-- The activities are read alike in the gist. -/
theorem activities_gist (h : node.HasPlainLog) : node.gist.activities = node.activities :=
  mapM_nodesBelow_gist _ fun activity hmem => activity_gist (h activity hmem)

end Xml.Node

/-! ## Answers -/

/-- A document without its formatting. -/
def Xml.Document.unformatted (document : Xml.Document) : Xml.Node :=
  document.node.unformatted

/-- Documents that differ in their formatting only have the same gist. -/
theorem gist_eq_of_unformatted_eq {first second : Xml.Document}
    (h : first.unformatted = second.unformatted) : first.node.gist = second.node.gist := by
  rw [← Xml.Node.gist_unformatted first.node, ← Xml.Node.gist_unformatted second.node]
  exact congrArg Xml.Node.gist h

/-- Two texts that hold documents of the same content, formatted in different ways, are read alike.
As listings they give the same open stages, whoever asks; as activity logs the same activities and
the same outcome of a close. If something is missing, it is the same query that finds nothing. -/
theorem answers_ignore_formatting {text other : String} {first second : Xml.Document}
    (htext : Xml.Document.ofString? text = some first)
    (hother : Xml.Document.ofString? other = some second)
    (h : first.unformatted = second.unformatted) :
    (first.node.HasPlainStages → second.node.HasPlainStages →
      ∃ stages : Except Query (List Stage), ∀ body ∈ [text, other],
        ∀ (σ : Type) (environment : Environment σ) (world : World σ) (client : Client),
          let request := Request.get (listingEndpoint client.base)
          (world.exchange environment request).reply = .ok ⟨200, body⟩ →
          (client.openStages.runIn environment world).result = some (stages.mapError fun query =>
            .missingNode request.url.text query.expression)) ∧
      (first.node.HasPlainLog → second.node.HasPlainLog →
        ∃ activities : Except Query (List Activity), ∀ body ∈ [text, other],
          (∀ source, (Report.ofText source body >>= Activity.ofReport) =
            activities.mapError fun query => .missingNode source query.expression) ∧
          ∀ request, Exchange.closeOutcome ⟨request, .ok ⟨200, body⟩⟩ =
            (CloseOutcome.ofLog <$> activities).mapError fun query =>
              .missingNode request.url.text query.expression) := by
  -- All that is read from either document is read from the gist that they share.
  have hgist := gist_eq_of_unformatted_eq h
  constructor
  · intro hfirst hsecond
    have hstages : second.node.openStages = first.node.openStages := by
      rw [← Xml.Node.openStages_gist hfirst, ← Xml.Node.openStages_gist hsecond, hgist]
    refine ⟨first.node.openStages, ?_⟩
    intro body hbody σ environment world client request hreply
    obtain rfl | rfl : body = text ∨ body = other := by simpa using hbody
    · exact result_openStages_answered htext hreply
    · rw [← hstages]
      exact result_openStages_answered hother hreply
  · intro hfirst hsecond
    have hactivities : second.node.activities = first.node.activities := by
      rw [← Xml.Node.activities_gist hfirst, ← Xml.Node.activities_gist hsecond, hgist]
    refine ⟨first.node.activities, ?_⟩
    intro body hbody
    obtain rfl | rfl : body = text ∨ body = other := by simpa using hbody
    · exact ⟨activities_answered htext, closeOutcome_answered htext⟩
    · rw [← hactivities]
      exact ⟨activities_answered hother, closeOutcome_answered hother⟩

set_option maxRecDepth 4000 in
/-- A listing and a log in one line each, and both with a comment and white space. -/
theorem answers_ignore_formatting_indented :
    (∃ stages : Except Query (List Stage), ∀ body ∈
        ["<stagingProfileRepository><profileId>p</profileId><repositoryId>s</repositoryId>" ++
            "<type>open</type></stagingProfileRepository>",
          "<stagingProfileRepository><profileId>p</profileId> <repositoryId>s</repositoryId>" ++
            "<type>open<!--1-->\n</type></stagingProfileRepository>"],
      ∀ (σ : Type) (environment : Environment σ) (world : World σ) (client : Client),
        let request := Request.get (listingEndpoint client.base)
        (world.exchange environment request).reply = .ok ⟨200, body⟩ →
        (client.openStages.runIn environment world).result = some (stages.mapError fun query =>
          .missingNode request.url.text query.expression)) ∧
    ∃ activities : Except Query (List Activity), ∀ body ∈
        ["<list><stagingActivity><name>close</name></stagingActivity></list>",
          "<list> <stagingActivity><name>close</name><!--1--></stagingActivity></list>"],
      (∀ source, (Report.ofText source body >>= Activity.ofReport) =
        activities.mapError fun query => .missingNode source query.expression) ∧
      ∀ request, Exchange.closeOutcome ⟨request, .ok ⟨200, body⟩⟩ =
        (CloseOutcome.ofLog <$> activities).mapError fun query =>
          .missingNode request.url.text query.expression := by
  have hlisting : Xml.Document.ofString?
      ("<stagingProfileRepository><profileId>p</profileId><repositoryId>s</repositoryId>" ++
        "<type>open</type></stagingProfileRepository>") =
      some ⟨[], "stagingProfileRepository", [.element "profileId" [.text "p"],
        .element "repositoryId" [.text "s"], .element "type" [.text "open"]], []⟩ := by
    with_unfolding_all rfl
  have hlisting' : Xml.Document.ofString?
      ("<stagingProfileRepository><profileId>p</profileId> <repositoryId>s</repositoryId>" ++
        "<type>open<!--1-->\n</type></stagingProfileRepository>") =
      some ⟨[], "stagingProfileRepository", [.element "profileId" [.text "p"], .text " ",
        .element "repositoryId" [.text "s"],
        .element "type" [.text "open", .comment "1", .text "\n"]], []⟩ := by
    with_unfolding_all rfl
  have hlog : Xml.Document.ofString?
      "<list><stagingActivity><name>close</name></stagingActivity></list>" =
      some ⟨[], "list", [.element "stagingActivity" [.element "name" [.text "close"]]], []⟩ := by
    with_unfolding_all rfl
  have hlog' : Xml.Document.ofString?
      "<list> <stagingActivity><name>close</name><!--1--></stagingActivity></list>" =
      some ⟨[], "list", [.text " ", .element "stagingActivity"
        [.element "name" [.text "close"], .comment "1"]], []⟩ := by
    with_unfolding_all rfl
  exact ⟨(answers_ignore_formatting hlisting hlisting' (by cbv)).1 (by decide) (by decide),
    (answers_ignore_formatting hlog hlog' (by cbv)).2 (by decide) (by decide)⟩

end ReleaseStaging
