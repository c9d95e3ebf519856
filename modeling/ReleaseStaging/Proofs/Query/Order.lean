import Mathlib.Data.List.Lex
import Mathlib.Data.List.Sort
import Mathlib.Logic.Relation
import ReleaseStaging.Query.Selection

/-!
# Places and the order of a document

The sites of a tree are what is reached from its top by going from parents to children. The place
of such a site determines it, and comparing places position by position orders the sites like the
document does. Sorting by that order and dropping repeated places therefore lists every site of a
tree exactly once.
-/

namespace ReleaseStaging.Query

open ReleaseStaging.Xml

namespace Site

/-! ## Parents and children -/

/-- A site is a child of another one. -/
def IsChild (parent child : Site) : Prop :=
  ∃ position, parent.node.children[position]? = some child.node ∧
    child.place = parent.place ++ [position]

/-- A site is the given one or lies below it. -/
def IsWithin (top site : Site) : Prop := Relation.ReflTransGen IsChild top site

/-- A site lies below the given one. -/
def IsBelow (top site : Site) : Prop := Relation.TransGen IsChild top site

/-- A site comes before another one in the document. -/
def ComesBefore (a b : Site) : Prop := a.place < b.place

instance : Std.Asymm ComesBefore := ⟨fun _ _ => lt_asymm⟩

theorem mem_ofChildren {place : List Nat} {nodes : List Node} {start : Nat} {site : Site} :
    site ∈ ofChildren place start nodes ↔
      ∃ index, nodes[index]? = some site.node ∧ site.place = place ++ [start + index] := by
  obtain ⟨where', what⟩ := site
  induction nodes generalizing start with
  | nil => simp [ofChildren]
  | cons node nodes ih =>
    rw [ofChildren, List.mem_cons, ih]
    constructor
    · rintro (heq | ⟨index, hnode, hplace⟩)
      · obtain ⟨rfl, rfl⟩ : where' = place ++ [start] ∧ what = node := by simpa using heq
        exact ⟨0, rfl, rfl⟩
      · refine ⟨index + 1, hnode, ?_⟩
        rw [hplace, Nat.add_right_comm, Nat.add_assoc]
    · rintro ⟨index, hnode, hplace⟩
      cases index with
      | zero =>
        left
        obtain rfl : node = what := by simpa using hnode
        simpa using hplace
      | succ index =>
        right
        refine ⟨index, hnode, ?_⟩
        rw [hplace, Nat.add_right_comm, Nat.add_assoc]

/-- The children of a site are its children. -/
theorem mem_children {parent child : Site} : child ∈ parent.children ↔ IsChild parent child := by
  rw [children, mem_ofChildren]
  simp only [Nat.zero_add, IsChild]

mutual

private theorem isWithin_of_mem_elementsAt {place : List Nat} {site : Site} (node : Node)
    (h : site ∈ elementsAt place node) :
    IsWithin ⟨place, node⟩ site ∧ site.node.isElement = true := by
  match node with
  | .element name nodes =>
    rw [elementsAt, List.mem_cons] at h
    rcases h with rfl | h
    · exact ⟨.refl, rfl⟩
    · obtain ⟨index, child, hchild, hwithin, helement⟩ := exists_of_mem_elementsAmong nodes h
      refine ⟨Relation.ReflTransGen.head ?_ hwithin, helement⟩
      exact ⟨index, hchild, by rw [Nat.zero_add]⟩
  | .text _ | .comment _ | .instruction _ _ => simp [elementsAt] at h

private theorem exists_of_mem_elementsAmong {place : List Nat} {start : Nat} {site : Site}
    (nodes : List Node) (h : site ∈ elementsAmong place start nodes) :
    ∃ index child, nodes[index]? = some child ∧
      IsWithin ⟨place ++ [start + index], child⟩ site ∧ site.node.isElement = true := by
  match nodes with
  | [] => simp [elementsAmong] at h
  | node :: nodes =>
    rw [elementsAmong, List.mem_append] at h
    rcases h with h | h
    · exact ⟨0, node, rfl, isWithin_of_mem_elementsAt node h⟩
    · obtain ⟨index, child, hchild, hrest⟩ := exists_of_mem_elementsAmong nodes h
      refine ⟨index + 1, child, hchild, ?_⟩
      rwa [Nat.add_assoc, Nat.add_comm 1] at hrest

end

private theorem mem_elementsAmong {place : List Nat} {site : Site} {child : Node} {index : Nat}
    {nodes : List Node} {start : Nat} (hchild : nodes[index]? = some child)
    (h : site ∈ elementsAt (place ++ [start + index]) child) :
    site ∈ elementsAmong place start nodes := by
  induction nodes generalizing start index with
  | nil => simp at hchild
  | cons node nodes ih =>
    rw [elementsAmong, List.mem_append]
    cases index with
    | zero =>
      left
      obtain rfl : node = child := by simpa using hchild
      exact h
    | succ index =>
      right
      apply ih hchild
      rwa [Nat.add_assoc, Nat.add_comm 1]

private theorem mem_elements_of_child {parent child site : Site} (hchild : IsChild parent child)
    (h : site ∈ child.elements) : site ∈ parent.elements := by
  obtain ⟨position, hnode, hplace⟩ := hchild
  obtain ⟨place, node⟩ := parent
  cases node with
  | element name nodes =>
    rw [elements, elementsAt, List.mem_cons]
    right
    apply mem_elementsAmong hnode
    rwa [Nat.zero_add, ← hplace]
  | text _ => simp [Node.children] at hnode
  | comment _ => simp [Node.children] at hnode
  | instruction _ _ => simp [Node.children] at hnode

/-- The elements listed at a site are those within it. -/
theorem mem_elements {top site : Site} :
    site ∈ top.elements ↔ IsWithin top site ∧ site.node.isElement = true := by
  constructor
  · exact isWithin_of_mem_elementsAt top.node
  · rintro ⟨hwithin, helement⟩
    induction hwithin using Relation.ReflTransGen.head_induction_on with
    | refl =>
      obtain ⟨place, node⟩ := site
      cases node with
      | element name nodes => simp [elements, elementsAt]
      | text _ => simp [Node.isElement] at helement
      | comment _ => simp [Node.isElement] at helement
      | instruction _ _ => simp [Node.isElement] at helement
    | head hchild _ ih => exact mem_elements_of_child hchild ih

/-! ## A place determines its site -/

/-- The node at the end of a way down through positions among siblings. -/
def nodeAt : Node → List Nat → Option Node
  | node, [] => some node
  | node, position :: way => node.children[position]?.bind (nodeAt · way)

theorem nodeAt_concat (node : Node) (way : List Nat) (position : Nat) :
    nodeAt node (way ++ [position]) = (nodeAt node way).bind (·.children[position]?) := by
  induction way generalizing node with
  | nil =>
    rw [List.nil_append, nodeAt, nodeAt, Option.bind_some]
    cases node.children[position]? <;> rfl
  | cons first way ih =>
    rw [List.cons_append, nodeAt, nodeAt]
    cases node.children[first]? with
    | none => rfl
    | some child => exact ih child

/-- What is reached lies at the end of the way that its place adds. -/
theorem IsWithin.exists_way {top site : Site} (h : IsWithin top site) :
    ∃ way, site.place = top.place ++ way ∧ nodeAt top.node way = some site.node := by
  induction h with
  | refl => exact ⟨[], by rw [List.append_nil], rfl⟩
  | tail _ hchild ih =>
    obtain ⟨way, hplace, hnode⟩ := ih
    obtain ⟨position, hchild, hend⟩ := hchild
    refine ⟨way ++ [position], ?_, ?_⟩
    · rw [hend, hplace, List.append_assoc]
    · rw [nodeAt_concat, hnode, Option.bind_some, hchild]

/-- Sites of one tree with the same place are the same. -/
theorem IsWithin.eq_of_place {top a b : Site} (ha : IsWithin top a) (hb : IsWithin top b)
    (h : a.place = b.place) : a = b := by
  obtain ⟨way, hplace, hnode⟩ := ha.exists_way
  obtain ⟨other, hplace', hnode'⟩ := hb.exists_way
  obtain rfl : way = other := by
    rw [hplace, hplace'] at h
    exact List.append_cancel_left h
  have heq : a.node = b.node := by
    rw [hnode] at hnode'
    injection hnode'
  cases a
  cases b
  simp_all

/-! ## Document order -/

private theorem cons_le_cons_iff {a b : Nat} {place other : List Nat} :
    a :: place ≤ b :: other ↔ a < b ∨ a = b ∧ place ≤ other := by
  rw [le_iff_lt_or_eq, le_iff_lt_or_eq, List.cons_lt_cons_iff, List.cons.injEq]
  constructor
  · rintro ((hlt | ⟨heq, hrest⟩) | ⟨heq, hrest⟩)
    · exact .inl hlt
    · exact .inr ⟨heq, .inl hrest⟩
    · exact .inr ⟨heq, .inr hrest⟩
  · rintro (hlt | ⟨heq, hrest | hrest⟩)
    · exact .inl (.inl hlt)
    · exact .inl (.inr ⟨heq, hrest⟩)
    · exact .inr ⟨heq, hrest⟩

/-- Comparing places position by position is the order of lists. -/
theorem isBefore_eq_true_iff {place other : List Nat} :
    isBefore place other = true ↔ place ≤ other := by
  induction place generalizing other with
  | nil =>
    cases other with
    | nil => exact iff_of_true rfl (le_refl [])
    | cons b other => exact iff_of_true rfl (le_of_lt (List.nil_lt_cons b other))
  | cons a place ih =>
    cases other with
    | nil => exact iff_of_false Bool.false_ne_true (not_le_of_gt (List.nil_lt_cons a place))
    | cons b other => simp [isBefore, ih, cons_le_cons_iff]

/-- The children of a site come in document order. -/
theorem pairwise_children (site : Site) : site.children.Pairwise ComesBefore := by
  have hfrom (place : List Nat) (nodes : List Node) (start : Nat) :
      (ofChildren place start nodes).Pairwise ComesBefore := by
    induction nodes generalizing start with
    | nil => exact .nil
    | cons node nodes ih =>
      refine List.pairwise_cons.mpr ⟨?_, ih (start + 1)⟩
      intro child hchild
      obtain ⟨index, -, hplace⟩ := mem_ofChildren.mp hchild
      have hlater : start < start + 1 + index := by omega
      rw [ComesBefore, hplace]
      exact List.append_left_lt (List.cons_lt_cons_iff.mpr (.inl hlater))
  exact hfrom site.place site.node.children 0

/-- What is listed among siblings lies at a position of them or below it. -/
private theorem place_of_mem_elementsAmong {place : List Nat} {start : Nat} {site : Site}
    {nodes : List Node} (h : site ∈ elementsAmong place start nodes) :
    ∃ index way, start ≤ index ∧ site.place = place ++ index :: way := by
  obtain ⟨index, child, -, hwithin, -⟩ := exists_of_mem_elementsAmong nodes h
  obtain ⟨way, hplace, -⟩ := hwithin.exists_way
  refine ⟨start + index, way, Nat.le_add_right start index, ?_⟩
  rw [hplace, List.append_assoc, List.singleton_append]

mutual

private theorem pairwise_elementsAt (place : List Nat) (node : Node) :
    (elementsAt place node).Pairwise ComesBefore := by
  match node with
  | .element name nodes =>
    rw [elementsAt, List.pairwise_cons]
    refine ⟨?_, pairwise_elementsAmong place 0 nodes⟩
    intro site hsite
    obtain ⟨index, way, -, hplace⟩ := place_of_mem_elementsAmong hsite
    have hbelow : place ++ [] < place ++ index :: way :=
      List.append_left_lt (List.nil_lt_cons index way)
    rwa [List.append_nil, ← hplace] at hbelow
  | .text _ | .comment _ | .instruction _ _ =>
    rw [elementsAt]
    · exact .nil
    · intro name nodes heq
      injection heq

private theorem pairwise_elementsAmong (place : List Nat) (start : Nat) (nodes : List Node) :
    (elementsAmong place start nodes).Pairwise ComesBefore := by
  match nodes with
  | [] =>
    rw [elementsAmong]
    exact .nil
  | node :: nodes =>
    rw [elementsAmong, List.pairwise_append]
    refine ⟨pairwise_elementsAt (place ++ [start]) node,
      pairwise_elementsAmong place (start + 1) nodes, ?_⟩
    intro a ha b hb
    obtain ⟨way, ha, -⟩ := (isWithin_of_mem_elementsAt node ha).1.exists_way
    obtain ⟨index, way', hindex, hb⟩ := place_of_mem_elementsAmong hb
    rw [ComesBefore, ha, hb, List.append_assoc, List.singleton_append]
    exact List.append_left_lt (List.cons_lt_cons_iff.mpr (.inl hindex))

end

/-- The elements of a site are listed in document order. -/
theorem pairwise_elements (site : Site) : site.elements.Pairwise ComesBefore :=
  pairwise_elementsAt site.place site.node

/-- Sites sorted by document order stand in it. -/
theorem pairwise_sorted (sites : List Site) :
    (sites.mergeSort precedes).Pairwise fun a b => a.place ≤ b.place := by
  have htrans (a b c : Site) (hab : precedes a b = true) (hbc : precedes b c = true) :
      precedes a c = true := by
    rw [precedes, isBefore_eq_true_iff] at hab hbc ⊢
    exact le_trans hab hbc
  have htotal (a b : Site) : (precedes a b || precedes b a) = true := by
    rw [Bool.or_eq_true, precedes, precedes, isBefore_eq_true_iff, isBefore_eq_true_iff]
    exact le_total a.place b.place
  exact (List.pairwise_mergeSort htrans htotal sites).imp isBefore_eq_true_iff.mp

private theorem withoutRepeats_sublist (sites : List Site) :
    (withoutRepeats sites).Sublist sites := by
  fun_induction withoutRepeats sites with
  | case1 => exact .refl _
  | case2 site => exact .refl _
  | case3 a b sites heq ih => exact ih.trans ((List.sublist_cons_self b sites).cons_cons a)
  | case4 a b sites hne ih => exact ih.cons_cons a

/-- In document order, dropping repeated places leaves each place once. -/
theorem pairwise_withoutRepeats {sites : List Site}
    (h : sites.Pairwise fun a b => a.place ≤ b.place) :
    (withoutRepeats sites).Pairwise ComesBefore := by
  fun_induction withoutRepeats sites with
  | case1 => exact .nil
  | case2 site => exact List.pairwise_singleton _ _
  | case3 a b sites heq ih =>
    exact ih (h.sublist ((List.sublist_cons_self b sites).cons_cons a))
  | case4 a b sites hne ih =>
    obtain ⟨hfirst, hrest⟩ := List.pairwise_cons.mp h
    refine List.pairwise_cons.mpr ⟨?_, ih hrest⟩
    intro site hsite
    have hab : a.place < b.place := lt_of_le_of_ne (hfirst b List.mem_cons_self) hne
    have hb : b.place ≤ site.place := by
      rcases List.mem_cons.mp ((withoutRepeats_sublist _).mem hsite) with rfl | hmem
      · exact le_refl _
      · exact (List.pairwise_cons.mp hrest).1 site hmem
    exact lt_of_lt_of_le hab hb

/-- If a place determines its site, dropping repeated places loses no site. -/
theorem mem_withoutRepeats {sites : List Site}
    (h : ∀ a ∈ sites, ∀ b ∈ sites, a.place = b.place → a = b) {site : Site} :
    site ∈ withoutRepeats sites ↔ site ∈ sites := by
  fun_induction withoutRepeats sites with
  | case1 => exact Iff.rfl
  | case2 other => exact Iff.rfl
  | case3 a b sites heq ih =>
    obtain rfl : a = b := h a (by simp) b (by simp) heq
    rw [ih fun c hc d hd => h c (List.mem_cons_of_mem a hc) d (List.mem_cons_of_mem a hd)]
    simp
  | case4 a b sites hne ih =>
    rw [List.mem_cons, List.mem_cons,
      ih fun c hc d hd => h c (List.mem_cons_of_mem a hc) d (List.mem_cons_of_mem a hd)]

/-- Sites in order are strictly in document order. -/
theorem pairwise_inOrder (sites : List Site) : (inOrder sites).Pairwise ComesBefore :=
  pairwise_withoutRepeats (pairwise_sorted sites)

/-- Putting sites of one tree in order loses none of them. -/
theorem mem_inOrder {top : Site} {sites : List Site} (h : ∀ site ∈ sites, IsWithin top site)
    {site : Site} : site ∈ inOrder sites ↔ site ∈ sites := by
  have hmem {site : Site} : site ∈ sites.mergeSort precedes ↔ site ∈ sites :=
    (List.mergeSort_perm sites precedes).mem_iff
  rw [inOrder, mem_withoutRepeats, hmem]
  intro a ha b hb
  exact (h a (hmem.mp ha)).eq_of_place (h b (hmem.mp hb))

end Site

/-- Some sites are all those with a property, each once and in document order. -/
structure AreAll (property : Site → Prop) (sites : List Site) : Prop where
  /-- They stand in document order. -/
  ordered : sites.Pairwise Site.ComesBefore
  /-- No other site has the property. -/
  mem_iff : ∀ site, site ∈ sites ↔ property site

/-- There is one way to list all sites with a property. -/
theorem AreAll.unique {property : Site → Prop} {sites others : List Site}
    (h : AreAll property sites) (hothers : AreAll property others) : sites = others :=
  h.ordered.eq_of_mem_iff hothers.ordered fun site => (h.mem_iff site).trans
    (hothers.mem_iff site).symm

/-- A site is the first one in document order that has a property. -/
structure IsEarliest (property : Site → Prop) (site : Site) : Prop where
  /-- It has the property. -/
  holds : property site
  /-- None that has it comes before. -/
  not_before : ∀ other, property other → ¬other.ComesBefore site

end ReleaseStaging.Query
