import ReleaseStaging.Proofs.Query.Meaning
import ReleaseStaging.Report

/-!
# Plain paths

A path through children of given names reaches sites of one depth. Those come in document order by
themselves, so what the path selects are the children of the first name, their children of the
second name, and so on, each one's children next to each other. A site is reached in this way from
one site of a document only.
-/

namespace ReleaseStaging.Query

open ReleaseStaging.Xml

namespace Site

private theorem withoutRepeats_eq_self {sites : List Site} (h : sites.Pairwise ComesBefore) :
    withoutRepeats sites = sites := by
  fun_induction withoutRepeats sites with
  | case1 => rfl
  | case2 site => rfl
  | case3 a b sites heq ih =>
    have hab : a.place < b.place := (List.pairwise_cons.mp h).1 b List.mem_cons_self
    rw [heq] at hab
    exact absurd hab (lt_irrefl b.place)
  | case4 a b sites hne ih => rw [ih (List.pairwise_cons.mp h).2]

/-- Sites in document order, each once, stay as they are. -/
theorem inOrder_eq_self {sites : List Site} (h : sites.Pairwise ComesBefore) :
    inOrder sites = sites := by
  have hsorted : sites.mergeSort precedes = sites := by
    refine List.mergeSort_of_pairwise (h.imp ?_)
    intro a b hab
    exact isBefore_eq_true_iff.mpr (le_of_lt hab)
  rw [inOrder, hsorted, withoutRepeats_eq_self h]

/-- Of two places of one length, everything below the former comes before everything below the
latter. -/
private theorem append_lt_append {place other : List Nat} (hlength : place.length = other.length)
    (h : place < other) (way way' : List Nat) : place ++ way < other ++ way' := by
  induction place generalizing other with
  | nil =>
    obtain rfl : other = [] := List.eq_nil_of_length_eq_zero hlength.symm
    exact absurd h (lt_irrefl [])
  | cons a place ih =>
    cases other with
    | nil => exact absurd h (List.not_lt_nil _)
    | cons b other =>
      rw [List.cons_append, List.cons_append, List.cons_lt_cons_iff]
      rcases List.cons_lt_cons_iff.mp h with hlt | ⟨heq, hrest⟩
      · exact .inl hlt
      · exact .inr ⟨heq, ih (Nat.succ.inj hlength) hrest⟩

/-- The nodes of the children of a site. -/
theorem map_node_children (site : Site) : site.children.map node = site.node.children := by
  have hfrom (place : List Nat) (nodes : List Node) (start : Nat) :
      (ofChildren place start nodes).map node = nodes := by
    induction nodes generalizing start with
    | nil => rfl
    | cons child nodes ih => rw [ofChildren, List.map_cons, ih]
  exact hfrom site.place site.node.children 0

/-- Sites of one depth in document order, each once. -/
def AreLevel (depth : Nat) (sites : List Site) : Prop :=
  sites.Pairwise ComesBefore ∧ ∀ site ∈ sites, site.place.length = depth

theorem areLevel_singleton (site : Site) : AreLevel site.place.length [site] := by
  refine ⟨List.pairwise_singleton _ _, ?_⟩
  intro other hother
  rw [List.mem_singleton.mp hother]

/-- The children of sites of one depth are sites of the next one. -/
theorem AreLevel.children {depth : Nat} {sites : List Site} (h : AreLevel depth sites) :
    AreLevel (depth + 1) (sites.flatMap children) := by
  obtain ⟨hordered, hdepth⟩ := h
  constructor
  · rw [List.pairwise_flatMap]
    refine ⟨fun site _ => pairwise_children site, ?_⟩
    refine List.Pairwise.imp_of_mem ?_ hordered
    intro a b ha hb hab child hchild other hother
    obtain ⟨position, -, hplace⟩ := mem_children.mp hchild
    obtain ⟨position', -, hplace'⟩ := mem_children.mp hother
    have hlength : a.place.length = b.place.length := (hdepth a ha).trans (hdepth b hb).symm
    rw [ComesBefore, hplace, hplace']
    exact append_lt_append hlength hab [position] [position']
  · intro child hchild
    obtain ⟨site, hsite, hmem⟩ := List.mem_flatMap.mp hchild
    obtain ⟨position, -, hplace⟩ := mem_children.mp hmem
    rw [hplace, List.length_append, hdepth site hsite]
    rfl

theorem AreLevel.filter {depth : Nat} {sites : List Site} (h : AreLevel depth sites)
    (p : Site → Bool) : AreLevel depth (sites.filter p) := by
  obtain ⟨hordered, hdepth⟩ := h
  exact ⟨hordered.filter p, fun site hsite => hdepth site (List.mem_filter.mp hsite).1⟩

end Site

/-- A plain step asks for its name. -/
private theorem matchesName_toChild (name : String) (node : Node) :
    (Step.toChild name).matchesName node = node.isNamed name := by
  unfold Step.matchesName Node.isNamed
  cases node.name? with
  | none => rfl
  | some found =>
    have hsymm : (name == found) = (found == name) := BEq.comm
    simp [Step.toChild, hsymm]

/-- A plain step takes the children of its name. -/
theorem take_toChild (name : String) (site : Site) : (Step.toChild name).take site =
    site.children.filter fun child => child.node.isNamed name := by
  have hname (node : Node) := matchesName_toChild name node
  simp only [Step.toChild] at hname
  simp [Step.take, Step.toChild, hname]

/-- From sites of one depth a plain step leads to their children of its name. -/
theorem follow_toChild {depth : Nat} {sites : List Site} (h : Site.AreLevel depth sites)
    (name : String) : (Step.toChild name).follow sites =
      (sites.flatMap Site.children).filter fun child => child.node.isNamed name := by
  have htaken (site : Site) : ((Step.toChild name).parents site).flatMap (Step.toChild name).take =
      site.children.filter fun child => child.node.isNamed name := by
    rw [← take_toChild]
    exact List.flatMap_singleton ..
  have hlevel := (h.children.filter fun child => child.node.isNamed name).1
  rw [List.filter_flatMap] at hlevel ⊢
  simp only [Step.follow, htaken]
  exact Site.inOrder_eq_self hlevel

/-- The nodes that children of given names, one below the other, lead to. -/
def nodesBelow (names : List String) (nodes : List Node) : List Node :=
  names.foldl (fun nodes name => nodes.flatMap (Node.childrenNamed name)) nodes

/-- The nodes of the children of some sites are the children of their nodes. -/
theorem map_node_children_filter (sites : List Site) (name : String) :
    ((sites.flatMap Site.children).filter fun child => child.node.isNamed name).map Site.node =
      (sites.map Site.node).flatMap (Node.childrenNamed name) := by
  have hcomp : (fun child : Site => child.node.isNamed name) = Node.isNamed name ∘ Site.node := rfl
  rw [hcomp, ← List.filter_map, List.map_flatMap, List.filter_flatMap, List.flatMap_map]
  simp only [Site.map_node_children]
  rfl

/-- Plain steps from sites of one depth lead to the nodes that their names lead to. -/
theorem map_node_followAll {depth : Nat} {sites : List Site} (h : Site.AreLevel depth sites)
    (names : List String) :
    ((names.map Step.toChild).foldl (fun sites step => step.follow sites) sites).map Site.node =
      nodesBelow names (sites.map Site.node) := by
  induction names generalizing depth sites with
  | nil => rfl
  | cons name names ih =>
    have hnext := h.children.filter fun child => child.node.isNamed name
    rw [List.map_cons, List.foldl_cons, follow_toChild h, ih hnext, map_node_children_filter]
    rfl

/-- A plain path from the context selects the nodes that its names lead to. -/
theorem map_node_select_below (names : List String) (document : Document) (context : Site) :
    ((Path.below names).select document context).map Site.node =
      nodesBelow names [context.node] :=
  map_node_followAll (Site.areLevel_singleton context) names

/-- A plain path from the document selects the nodes that its names lead to, whatever the
context. -/
theorem map_node_select_fromTop (names : List String) (document : Document) (context : Site) :
    ((Path.fromTop names).select document context).map Site.node =
      nodesBelow names [(Site.ofDocument document).node] :=
  map_node_followAll (Site.areLevel_singleton (.ofDocument document)) names

/-! ## What is reached -/

/-- A site is reached from another one through children of the given names. -/
def Site.Reaches : List String → Site → Site → Prop
  | [], top, site => site = top
  | name :: names, top, site =>
    ∃ child, top.IsChild child ∧ child.node.isNamed name = true ∧ Reaches names child site

/-- A plain step leads to the children of its name. -/
theorem leads_toChild {name : String} {site child : Site} :
    (Step.toChild name).Leads site child ↔
      site.IsChild child ∧ child.node.isNamed name = true := by
  have hleads : (Step.toChild name).Leads site child ↔ child ∈ (Step.toChild name).take site := by
    rw [take_eq_picks]
    simp [Step.Leads, Axis.Reaches, Step.toChild]
  rw [hleads, take_toChild, List.mem_filter, Site.mem_children]

/-- Plain steps lead to what is reached through their names. -/
theorem leadAlong_toChild {names : List String} {top site : Site} :
    LeadAlong (names.map Step.toChild) top site ↔ top.Reaches names site := by
  induction names generalizing top with
  | nil => exact Iff.rfl
  | cons name names ih =>
    simp only [List.map_cons, LeadAlong, Site.Reaches, leads_toChild, ih, and_assoc]

/-- What is reached through some names and further ones is reached through the further ones from
what the former reach. -/
theorem Site.reaches_append {names more : List String} {top site : Site} :
    top.Reaches (names ++ more) site ↔ ∃ via, top.Reaches names via ∧ via.Reaches more site := by
  simp only [← leadAlong_toChild, List.map_append, leadAlong_append]

/-- What is reached lies as deep as there are names. -/
theorem Site.Reaches.length_place {names : List String} {top site : Site}
    (h : top.Reaches names site) : site.place.length = top.place.length + names.length := by
  induction names generalizing top with
  | nil =>
    obtain rfl : site = top := h
    rfl
  | cons name names ih =>
    obtain ⟨child, ⟨position, -, hplace⟩, -, hreaches⟩ := h
    rw [ih hreaches, hplace, List.length_append, List.length_singleton, List.length_cons]
    omega

/-- A plain path selects what is reached from the context. -/
theorem areAll_select_below (names : List String) (document : Document) (context : Site) :
    AreAll (context.Reaches names) ((Path.below names).select document context) :=
  ⟨pairwise_select _ _ _, fun _ => mem_select.trans leadAlong_toChild⟩

/-- A plain path from the document selects what is reached from there. -/
theorem areAll_select_fromTop (names : List String) (document : Document) (context : Site) :
    AreAll ((Site.ofDocument document).Reaches names)
      ((Path.fromTop names).select document context) :=
  ⟨pairwise_select _ _ _, fun _ => mem_select.trans leadAlong_toChild⟩

/-- What is reached lies within the site. -/
theorem Site.Reaches.isWithin {names : List String} {top site : Site}
    (h : top.Reaches names site) : top.IsWithin site := by
  induction names generalizing top with
  | nil =>
    obtain rfl : site = top := h
    exact .refl
  | cons name names ih =>
    obtain ⟨child, hchild, -, hreaches⟩ := h
    exact .head hchild (ih hreaches)

/-- A site has one parent in a document. -/
theorem Site.IsChild.unique {top parent other child : Site} (hparent : top.IsWithin parent)
    (hother : top.IsWithin other) (h : parent.IsChild child) (h' : other.IsChild child) :
    parent = other := by
  obtain ⟨position, -, hplace⟩ := h
  obtain ⟨position', -, hplace'⟩ := h'
  have hplaces : parent.place ++ [position] = other.place ++ [position'] :=
    hplace.symm.trans hplace'
  exact hparent.eq_of_place hother (List.append_inj_left' hplaces rfl)

/-- A site is reached from one site of a document only. -/
theorem Site.Reaches.unique {names : List String} {document a b site : Site}
    (ha : document.IsWithin a) (hb : document.IsWithin b) (h : a.Reaches names site)
    (h' : b.Reaches names site) : a = b := by
  induction names generalizing a b with
  | nil => exact Eq.trans (Eq.symm h) h'
  | cons name names ih =>
    obtain ⟨child, hchild, -, hreaches⟩ := h
    obtain ⟨other, hother, -, hreaches'⟩ := h'
    obtain rfl : child = other := ih (.tail ha hchild) (.tail hb hother) hreaches hreaches'
    exact hchild.unique ha hb hother

end ReleaseStaging.Query

namespace ReleaseStaging.Report

/-- The text at a plain path from the document is that of the first node its names lead to. -/
theorem rawText?_fromTop (report : Report) (context : Query.Site) (names : List String) :
    report.rawText? context (.fromTop names) =
      (Query.nodesBelow names [(Query.Site.ofDocument report.document).node]).head?.map
        Xml.Node.stringValue := by
  rw [← Query.map_node_select_fromTop names report.document context, List.head?_map,
    Option.map_map]
  rfl

end ReleaseStaging.Report
