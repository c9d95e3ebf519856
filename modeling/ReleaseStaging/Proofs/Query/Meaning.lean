import ReleaseStaging.Proofs.Query.Canonical
import ReleaseStaging.Proofs.Query.Order

/-!
# What a query means

A step leads from a site to children that it picks: of the site itself, or of every site within
it. It picks among the children of one parent that have its name, and each predicate judges a
candidate by its node and by its position among the candidates of this parent that are left. A path
leads along its steps from the document or from the context. What is selected is exactly what the
path leads to, each site once and in document order.
-/

namespace ReleaseStaging.Query

open ReleaseStaging.Xml

/-! ## The meaning of predicates, steps and paths -/

/-- Whether a node meets a condition as the candidate at a position, counted from 1, of so many. -/
def Predicate.HoldsOf (predicate : Predicate) (position size : Nat) (node : Node) : Prop :=
  match predicate with
  | .position index => position = index
  | .last => position = size
  | .hasChild name => ∃ child ∈ node.children, child.isNamed name = true
  | .childEquals name literal =>
    ∃ child ∈ node.children, child.isNamed name = true ∧ Text.trimmed child.stringValue = literal

instance (predicate : Predicate) (position size : Nat) (node : Node) :
    Decidable (predicate.HoldsOf position size node) :=
  match predicate with
  | .position index => inferInstanceAs (Decidable (position = index))
  | .last => inferInstanceAs (Decidable (position = size))
  | .hasChild name =>
    inferInstanceAs (Decidable (∃ child ∈ node.children, child.isNamed name = true))
  | .childEquals name literal =>
    inferInstanceAs (Decidable (∃ child ∈ node.children, child.isNamed name = true ∧
      Text.trimmed child.stringValue = literal))

/-- The candidates that meet a condition. -/
def Predicate.narrow (predicate : Predicate) (candidates : List Site) : List Site :=
  ((candidates.zipIdx 1).filter fun candidate =>
    predicate.HoldsOf candidate.2 candidates.length candidate.1.node).map Prod.fst

/-- Whether a node is an element of the name that a step asks for. -/
def Step.AsksFor (step : Step) (node : Node) : Prop :=
  ∃ name, node.name? = some name ∧ (step.name = none ∨ step.name = some name)

/-- The name test of a step asks for elements of its name. -/
theorem matchesName_iff {step : Step} {node : Node} :
    step.matchesName node = true ↔ step.AsksFor node := by
  unfold Step.matchesName Step.AsksFor
  cases node.name? with
  | none => simp
  | some name =>
    cases step.name with
    | none => simp
    | some other => simp

instance (step : Step) (node : Node) : Decidable (step.AsksFor node) :=
  decidable_of_iff (step.matchesName node = true) matchesName_iff

/-- The children of a site that a step picks. -/
def Step.picks (step : Step) (parent : Site) : List Site :=
  step.predicates.foldl (fun candidates predicate => predicate.narrow candidates)
    (parent.children.filter fun site => step.AsksFor site.node)

/-- Whether an axis leads from a site to a parent whose children are looked at. -/
def Axis.Reaches (axis : Axis) (site parent : Site) : Prop :=
  match axis with
  | .child => parent = site
  | .descendant => site.IsWithin parent

/-- Whether a step leads from one site to another. -/
def Step.Leads (step : Step) (site target : Site) : Prop :=
  ∃ parent, step.axis.Reaches site parent ∧ target ∈ step.picks parent

/-- Whether steps lead from one site to another. -/
def LeadAlong : List Step → Site → Site → Prop
  | [], site, target => target = site
  | step :: steps, site, target => ∃ via, step.Leads site via ∧ LeadAlong steps via target

/-- Whether a path names a site of a document as seen from a context. -/
def Path.Denotes (path : Path) (document : Document) (context target : Site) : Prop :=
  LeadAlong path.steps (if path.isAbsolute then .ofDocument document else context) target

/-! ## Predicates -/

/-- No candidate has a number below the first one. -/
private theorem filter_position_eq_nil (sites : List Site) {start index : Nat}
    (h : index < start) : (sites.zipIdx start).filter (fun c => c.2 = index) = [] := by
  rw [List.filter_eq_nil_iff]
  intro candidate hmem
  have hle : start ≤ candidate.2 := List.le_snd_of_mem_zipIdx hmem
  simp only [decide_eq_true_eq]
  omega

/-- The candidate of a number among candidates that are numbered from another one on. -/
private theorem filter_position (sites : List Site) (start index : Nat) :
    ((sites.zipIdx start).filter fun candidate => candidate.2 = start + index).map Prod.fst =
      sites[index]?.toList := by
  induction sites generalizing start index with
  | nil => rfl
  | cons site sites ih =>
    rw [List.zipIdx_cons]
    cases index with
    | zero =>
      have hlater : (sites.zipIdx (start + 1)).filter (fun c => c.2 = start + 0) = [] :=
        filter_position_eq_nil sites (Nat.lt_succ_self start)
      rw [List.filter_cons_of_pos (by simp), hlater]
      rfl
    | succ index =>
      have hnext : start + (index + 1) = start + 1 + index := by omega
      rw [List.filter_cons_of_neg (by simp), hnext, ih (start + 1) index]
      rfl

/-- A predicate that judges nodes alone keeps the candidates with such nodes. -/
private theorem narrow_eq_filter {predicate : Predicate} {holds : Node → Bool}
    (h : ∀ position size node, predicate.HoldsOf position size node ↔ holds node = true)
    (candidates : List Site) :
    predicate.narrow candidates = candidates.filter fun site => holds site.node := by
  have hfst : (candidates.zipIdx 1).map Prod.fst = candidates := List.zipIdx_map_fst 1 candidates
  have hholds (candidate : Site × Nat) :
      decide (predicate.HoldsOf candidate.2 candidates.length candidate.1.node) =
        holds candidate.1.node := by
    rw [Bool.eq_iff_iff, decide_eq_true_iff]
    exact h _ _ _
  calc
    predicate.narrow candidates =
        ((candidates.zipIdx 1).filter fun candidate => holds candidate.1.node).map Prod.fst := by
      simp only [Predicate.narrow, hholds]
    _ = ((candidates.zipIdx 1).map Prod.fst).filter fun site => holds site.node := by
      rw [List.filter_map]
      rfl
    _ = candidates.filter fun site => holds site.node := by rw [hfst]

/-- What a predicate keeps are the candidates that meet it. -/
theorem keep_eq_narrow (predicate : Predicate) (candidates : List Site) :
    predicate.keep candidates = predicate.narrow candidates := by
  cases predicate with
  | position index =>
    cases index with
    | zero =>
      have hnone : (candidates.zipIdx 1).filter (fun c => c.2 = 0) = [] :=
        filter_position_eq_nil candidates Nat.zero_lt_one
      change [] = ((candidates.zipIdx 1).filter fun c => c.2 = 0).map Prod.fst
      rw [hnone]
      rfl
    | succ index =>
      have hposition := filter_position candidates 1 index
      rw [Nat.add_comm 1 index] at hposition
      exact hposition.symm
  | last =>
    cases candidates with
    | nil => rfl
    | cons site sites =>
      have hposition := filter_position (site :: sites) 1 sites.length
      rw [Nat.add_comm 1 sites.length] at hposition
      rw [Predicate.keep, List.getLast?_eq_getElem?]
      exact hposition.symm
  | hasChild name =>
    have hholds (position size : Nat) (node : Node) :
        (Predicate.hasChild name).HoldsOf position size node ↔
          (!(node.childrenNamed name).isEmpty) = true := by
      simp [Predicate.HoldsOf, Node.childrenNamed]
    exact (narrow_eq_filter hholds candidates).symm
  | childEquals name literal =>
    have hholds (position size : Nat) (node : Node) :
        (Predicate.childEquals name literal).HoldsOf position size node ↔
          ((node.childrenNamed name).any fun child =>
            Text.trimmed child.stringValue == literal) = true := by
      simp [Predicate.HoldsOf, Node.childrenNamed]
    exact (narrow_eq_filter hholds candidates).symm

private theorem narrow_sublist (predicate : Predicate) (candidates : List Site) :
    (predicate.narrow candidates).Sublist candidates := by
  have hfilter := (List.filter_sublist (l := candidates.zipIdx 1) (p := fun candidate =>
    decide (predicate.HoldsOf candidate.2 candidates.length candidate.1.node))).map Prod.fst
  rwa [List.zipIdx_map_fst] at hfilter

/-! ## Steps -/

/-- What a step takes among the children of a site is what it picks. -/
theorem take_eq_picks (step : Step) (parent : Site) : step.take parent = step.picks parent := by
  have hname (site : Site) : step.matchesName site.node = decide (step.AsksFor site.node) := by
    rw [Bool.eq_iff_iff, decide_eq_true_iff]
    exact matchesName_iff
  simp only [Step.take, Step.picks, keep_eq_narrow, hname]

/-- What a step picks is a child that the step asks for. -/
theorem isChild_of_mem_picks {step : Step} {parent target : Site}
    (h : target ∈ step.picks parent) : parent.IsChild target ∧ step.AsksFor target.node := by
  have hsublist (predicates : List Predicate) (candidates : List Site) :
      (predicates.foldl (fun candidates predicate => predicate.narrow candidates)
        candidates).Sublist candidates := by
    induction predicates generalizing candidates with
    | nil => exact .refl candidates
    | cons predicate predicates ih =>
      exact (ih (predicate.narrow candidates)).trans (narrow_sublist predicate candidates)
  obtain ⟨hchild, hname⟩ := List.mem_filter.mp ((hsublist step.predicates _).mem h)
  exact ⟨Site.mem_children.mp hchild, of_decide_eq_true hname⟩

/-- A step with a condition on what a child says picks the children of its name that meet it. -/
theorem mem_picks_childEquals {axis : Axis} {name child literal : String} {parent target : Site} :
    target ∈ Step.picks ⟨axis, some name, [.childEquals child literal]⟩ parent ↔
      (parent.IsChild target ∧ target.node.isNamed name = true) ∧
        ∃ node ∈ target.node.children, node.isNamed child = true ∧
          Text.trimmed node.stringValue = literal := by
  have hnamed : Step.matchesName ⟨axis, some name, [.childEquals child literal]⟩ target.node =
      target.node.isNamed name := by
    rw [Step.matchesName, Node.isNamed]
    cases target.node.name? <;> simp [eq_comm]
  have hsays : ((target.node.childrenNamed child).any fun node =>
        Text.trimmed node.stringValue == literal) = true ↔
      ∃ node ∈ target.node.children, node.isNamed child = true ∧
        Text.trimmed node.stringValue = literal := by
    simp [Node.childrenNamed]
  simp only [← take_eq_picks, Step.take, Predicate.keep, List.foldl_cons, List.foldl_nil,
    List.mem_filter, Site.mem_children, hnamed, hsays]

/-- A site with children is an element. -/
private theorem isElement_of_isChild {parent child : Site} (h : parent.IsChild child) :
    parent.node.isElement = true := by
  obtain ⟨position, hnode, -⟩ := h
  cases hparent : parent.node with
  | element name nodes => rfl
  | text _ => simp [hparent, Node.children] at hnode
  | comment _ => simp [hparent, Node.children] at hnode
  | instruction _ _ => simp [hparent, Node.children] at hnode

/-- What a step takes from one site is what it leads to. -/
theorem mem_taken_iff {step : Step} {site target : Site} :
    target ∈ (step.parents site).flatMap step.take ↔ step.Leads site target := by
  rw [List.mem_flatMap, Step.Leads, Step.parents]
  simp only [take_eq_picks]
  cases step.axis with
  | child => simp [Axis.Reaches]
  | descendant =>
    constructor
    · rintro ⟨parent, hparent, htarget⟩
      exact ⟨parent, (Site.mem_elements.mp hparent).1, htarget⟩
    · rintro ⟨parent, hwithin, htarget⟩
      have helement := isElement_of_isChild (isChild_of_mem_picks htarget).1
      exact ⟨parent, Site.mem_elements.mpr ⟨hwithin, helement⟩, htarget⟩

/-- A step leads to elements below. -/
theorem Step.Leads.isBelow {step : Step} {site target : Site} (h : step.Leads site target) :
    site.IsBelow target ∧ target.node.isElement = true := by
  obtain ⟨parent, hreach, htarget⟩ := h
  obtain ⟨hchild, name, hname, -⟩ := isChild_of_mem_picks htarget
  refine ⟨?_, ?_⟩
  · cases haxis : step.axis with
    | child =>
      obtain rfl : parent = site := by simpa [haxis, Axis.Reaches] using hreach
      exact .single hchild
    | descendant =>
      have hwithin : site.IsWithin parent := by simpa [haxis, Axis.Reaches] using hreach
      exact Relation.TransGen.tail' hwithin hchild
  · cases hnode : target.node with
    | element _ _ => rfl
    | text _ => simp [hnode, Node.name?] at hname
    | comment _ => simp [hnode, Node.name?] at hname
    | instruction _ _ => simp [hnode, Node.name?] at hname

/-- From sites of one tree, following a step reaches exactly what the step leads to. -/
theorem mem_follow {step : Step} {top : Site} {sites : List Site}
    (h : ∀ site ∈ sites, top.IsWithin site) {target : Site} :
    target ∈ step.follow sites ↔ ∃ site ∈ sites, step.Leads site target := by
  have hmem {target : Site} :
      target ∈ sites.flatMap (fun site => (step.parents site).flatMap step.take) ↔
        ∃ site ∈ sites, step.Leads site target := by
    rw [List.mem_flatMap]
    simp only [mem_taken_iff]
  have hwithin : ∀ target ∈ sites.flatMap (fun site => (step.parents site).flatMap step.take),
      top.IsWithin target := by
    intro target htarget
    obtain ⟨site, hsite, hleads⟩ := hmem.mp htarget
    exact (h site hsite).trans hleads.isBelow.1.to_reflTransGen
  rw [Step.follow, Site.mem_inOrder hwithin, hmem]

/-! ## Paths -/

/-- Some steps and further ones lead where the further ones lead from where the former do. -/
theorem leadAlong_append {steps more : List Step} {site target : Site} :
    LeadAlong (steps ++ more) site target ↔
      ∃ via, LeadAlong steps site via ∧ LeadAlong more via target := by
  induction steps generalizing site with
  | nil => simp [LeadAlong]
  | cons step steps ih =>
    simp only [List.cons_append, LeadAlong, ih]
    constructor
    · rintro ⟨first, hfirst, via, hvia, hmore⟩
      exact ⟨via, ⟨first, hfirst, hvia⟩, hmore⟩
    · rintro ⟨via, ⟨first, hfirst, hvia⟩, hmore⟩
      exact ⟨first, hfirst, via, hvia, hmore⟩

/-- Following steps in turn reaches exactly what they lead to together. -/
theorem mem_followAll {top : Site} (steps : List Step) {sites : List Site}
    (h : ∀ site ∈ sites, top.IsWithin site) {target : Site} :
    target ∈ steps.foldl (fun sites step => step.follow sites) sites ↔
      ∃ site ∈ sites, LeadAlong steps site target := by
  induction steps generalizing sites with
  | nil => simp [LeadAlong]
  | cons step steps ih =>
    have hnext : ∀ site ∈ step.follow sites, top.IsWithin site := by
      intro via hvia
      obtain ⟨site, hsite, hleads⟩ := (mem_follow h).mp hvia
      exact (h site hsite).trans hleads.isBelow.1.to_reflTransGen
    rw [List.foldl_cons, ih hnext]
    constructor
    · rintro ⟨via, hvia, halong⟩
      obtain ⟨site, hsite, hleads⟩ := (mem_follow h).mp hvia
      exact ⟨site, hsite, via, hleads, halong⟩
    · rintro ⟨site, hsite, via, hleads, halong⟩
      exact ⟨via, (mem_follow h).mpr ⟨site, hsite, hleads⟩, halong⟩

/-- Following steps in turn from sites in document order ends in document order. -/
theorem pairwise_followAll (steps : List Step) {sites : List Site}
    (h : sites.Pairwise Site.ComesBefore) :
    (steps.foldl (fun sites step => step.follow sites) sites).Pairwise Site.ComesBefore := by
  induction steps generalizing sites with
  | nil => exact h
  | cons step steps ih => exact ih (Site.pairwise_inOrder _)

/-- At least one step leads to elements below. -/
theorem LeadAlong.isBelow {steps : List Step} {site target : Site} (hne : steps ≠ [])
    (h : LeadAlong steps site target) : site.IsBelow target ∧ target.node.isElement = true := by
  induction steps generalizing site with
  | nil => exact absurd rfl hne
  | cons step steps ih =>
    obtain ⟨via, hleads, halong⟩ := h
    cases steps with
    | nil =>
      obtain rfl : target = via := halong
      exact hleads.isBelow
    | cons next steps =>
      obtain ⟨hbelow, helement⟩ := ih (List.cons_ne_nil next steps) halong
      exact ⟨hleads.isBelow.1.trans hbelow, helement⟩

/-- What a path selects is exactly what it names. -/
theorem mem_select {path : Path} {document : Document} {context target : Site} :
    target ∈ path.select document context ↔ path.Denotes document context target := by
  have hstart (start : Site) :
      target ∈ path.steps.foldl (fun sites step => step.follow sites) [start] ↔
        LeadAlong path.steps start target := by
    have hwithin : ∀ site ∈ [start], start.IsWithin site := by
      intro site hsite
      rw [List.mem_singleton] at hsite
      rw [hsite]
      exact .refl
    rw [mem_followAll path.steps hwithin]
    simp
  exact hstart _

/-- What a path selects stands in document order, each site once. -/
theorem pairwise_select (path : Path) (document : Document) (context : Site) :
    (path.select document context).Pairwise Site.ComesBefore :=
  pairwise_followAll path.steps (List.pairwise_singleton _ _)

/-! ## Compiled queries -/

/-- A condition of a path query asks for no position zero. -/
private theorem ConditionText.ne_position_zero {condition : List Char} {predicate : Predicate}
    (h : ConditionText condition predicate) : predicate ≠ .position 0 := by
  intro heq
  cases h with
  | position _ hpos _ =>
    injection heq with heq
    omega
  | last => injection heq
  | hasChild => injection heq
  | childEquals => injection heq

/-- A step of a path query asks for no position zero. -/
private theorem PredicatesText.position_zero_not_mem {text : List Char}
    {predicates : List Predicate} (h : PredicatesText text predicates) :
    .position 0 ∉ predicates := by
  induction h with
  | nil => exact List.not_mem_nil
  | cons hpredicate _ ih =>
    rw [List.mem_cons, not_or]
    cases hpredicate with
    | bracketed _ hcondition _ => exact ⟨hcondition.ne_position_zero.symm, ih⟩

private theorem StepsText.position_zero_not_mem {axis : Axis} {text : List Char}
    {steps : List Step} (h : StepsText axis text steps) :
    ∀ step ∈ steps, .position 0 ∉ step.predicates := by
  have hone {axis : Axis} {text : List Char} {step : Step} (h : StepText axis text step) :
      .position 0 ∉ step.predicates := by
    cases h with
    | mk _ hpredicates => exact hpredicates.position_zero_not_mem
  induction h with
  | single hstep =>
    intro step hmem
    obtain rfl : step = _ := List.mem_singleton.mp hmem
    exact hone hstep
  | cons hstep _ ih =>
    intro step hmem
    rcases List.mem_cons.mp hmem with rfl | hmem
    · exact hone hstep
    · exact ih step hmem

/-- A path query has steps, and none of them asks for position zero. -/
theorem PathText.steps {text : List Char} {path : Path} (h : PathText text path) :
    path.steps ≠ [] ∧ ∀ step ∈ path.steps, .position 0 ∉ step.predicates := by
  have hne {axis : Axis} {text : List Char} {steps : List Step} (h : StepsText axis text steps) :
      steps ≠ [] := by
    cases h with
    | single => exact List.cons_ne_nil _ _
    | cons => exact List.cons_ne_nil _ _
  cases h with
  | relative h => exact ⟨hne h, h.position_zero_not_mem⟩
  | absolute h => exact ⟨hne h, h.position_zero_not_mem⟩

/-- A compiled query selects exactly the elements that its path names, strictly in document order.
An absolute one does so whatever the context, a relative one below the context only, and no step
counts back from position zero. -/
theorem select_exactly_denoted {expression : String} {query : Query}
    (h : compile expression = .ok query) (document : Document) (context : Site) :
    (∀ site, site ∈ query.path.select document context ↔
        query.path.Denotes document context site) ∧
      (query.path.select document context).Pairwise Site.ComesBefore ∧
      (∀ site ∈ query.path.select document context, site.node.isElement = true) ∧
      (query.path.isAbsolute = true → ∀ other : Site,
        query.path.select document context = query.path.select document other) ∧
      (query.path.isAbsolute = false → ∀ site ∈ query.path.select document context,
        context.IsBelow site) ∧
      ∀ step ∈ query.path.steps, .position 0 ∉ step.predicates := by
  obtain ⟨hne, hpositive⟩ := (compile_eq_ok_iff.mp h).2.steps
  refine ⟨fun site => mem_select, pairwise_select _ document context, ?_, ?_, ?_, hpositive⟩
  · intro site hsite
    exact (LeadAlong.isBelow hne (mem_select.mp hsite)).2
  · intro habsolute other
    rw [Path.select, Path.select, habsolute]
    rfl
  · intro hrelative site hsite
    have halong := mem_select.mp hsite
    rw [Path.Denotes, hrelative] at halong
    exact (LeadAlong.isBelow hne halong).1

/-- The first element of a name below each parent, in a document that nests the name. -/
theorem select_exactly_denoted_nested :
    compile "//a[1]" = .ok ⟨"//a[1]", true, [⟨.descendant, some "a", [.position 1]⟩]⟩ ∧
      ⟨[0, 1], .element "a" [.text "x"]⟩ ∈
        Path.select ⟨true, [⟨.descendant, some "a", [.position 1]⟩]⟩
          ⟨[], "a", [.comment "", .element "a" [.text "x"]], []⟩ ⟨[0, 1, 0], .text "x"⟩ := by
  have hcondition : ConditionText ['1'] (.position 1) :=
    .position (List.all_eq_true.mp rfl) (by decide) (by decide)
  have hpredicate : PredicateText ['[', '1', ']'] (.position 1) :=
    @PredicateText.bracketed [] ['1'] [] _ isGap_nil hcondition isGap_nil
  have hname : IsName ['a'] := by decide
  have hstep : StepText .descendant ['a', '[', '1', ']']
      ⟨.descendant, some "a", [.position 1]⟩ := .mk (.named hname) (.cons hpredicate .nil)
  have hcompile : compile "//a[1]" =
      .ok ⟨"//a[1]", true, [⟨.descendant, some "a", [.position 1]⟩]⟩ :=
    compile_eq_ok_iff.mpr ⟨rfl, .absolute (.single hstep)⟩
  refine ⟨hcompile, ((select_exactly_denoted hcompile _ _).1 _).mpr ⟨_, ?_, rfl⟩⟩
  refine ⟨⟨[0], .element "a" [.comment "", .element "a" [.text "x"]]⟩, ?_, ?_⟩
  · exact .single ⟨0, rfl, rfl⟩
  · exact List.mem_singleton.mpr rfl

end ReleaseStaging.Query
