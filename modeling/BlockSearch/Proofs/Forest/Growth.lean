import BlockSearch.Proofs.Forest.Descent

/-!
# Growing a tree from outlines

Attaching outlines to a node adds their nodes at the end of the array, each before those
inside it. The new nodes spell the outlines, and all other nodes stay what they were. So a
document that is made of an outline has this outline, and its nodes lie in document order.
-/

namespace BlockSearch
namespace Tree

/-- Where a document is stored. -/
def header (tree : Tree) : String × String × String × String :=
  (tree.id, tree.box, tree.path, tree.hpath)

/-! ## Subtrees that stay the same -/

/-- Two trees have the same node at a place, with the same children. -/
def AgreesAt (tree other : Tree) (i : NodeId) : Prop :=
  (other.node i).payload = (tree.node i).payload ∧ other.children i = tree.children i

/-- Forests that agree on a subtree have the same outline and the same descendants there. -/
theorem IsForest.outlineAt_congr
    {tree other : Tree}
    (forest : tree.IsForest)
    (otherForest : other.IsForest)
    (larger : tree.size ≤ other.size)
    {i : NodeId}
    (inside : i < tree.size)
    (agrees : ∀ j ∈ tree.descendants i, AgreesAt tree other j) :
    other.outlineAt i = tree.outlineAt i ∧ other.descendants i = tree.descendants i := by
  revert inside agrees
  induction i using forest.induction with
  | step i inductionHypothesis =>
      intro inside agrees
      have otherInside := Nat.lt_of_lt_of_le inside larger
      rw [forest.descendants_eq inside, List.forall_mem_cons, List.forall_mem_flatMap] at agrees
      obtain ⟨⟨payload, children⟩, agreesBelow⟩ := agrees
      have below : ∀ j ∈ tree.children i,
          other.outlineAt j = tree.outlineAt j ∧ other.descendants j = tree.descendants j :=
        fun j member => inductionHypothesis j member (forest.lt_of_mem_children member)
          (agreesBelow j member)
      simp only [Node.payload, Prod.mk.injEq] at payload
      obtain ⟨kind, id, attributes⟩ := payload
      rw [forest.outlineAt_eq inside, otherForest.outlineAt_eq otherInside,
        forest.descendants_eq inside, otherForest.descendants_eq otherInside, children]
      refine ⟨?_, ?_⟩
      · rw [Tree.kind, Tree.kind, kind, id, attributes,
          List.map_congr_left fun j member => (below j member).1]
      · rw [List.flatMap_congr fun j member => (below j member).2]

/-! ## Growth -/

/--
A tree has grown by new nodes at the end of its array. They are the last children of a
parent and what lies below these, spell outlines, and lie in document order.
-/
structure Grown (tree other : Tree) (parent : NodeId) (outlines : List Outline) : Prop where
  /-- The nodes still form a forest. -/
  forest : other.IsForest
  /-- No node is lost. -/
  larger : tree.size ≤ other.size
  /-- The document stays where it is stored. -/
  header : other.header = tree.header
  /-- Every old node holds what it held. -/
  payload : ∀ i, i < tree.size → (other.node i).payload = (tree.node i).payload
  /-- Every old node but the parent has the children that it had. -/
  children : ∀ i, i < tree.size → i ≠ parent → other.children i = tree.children i
  /-- The parent gets children that spell the outlines. -/
  added : ∃ added, other.children parent = tree.children parent ++ added ∧
    added.map other.outlineAt = outlines ∧
    added.flatMap other.descendants = List.range' tree.size (other.size - tree.size)

theorem Grown.refl
    {tree : Tree}
    (forest : tree.IsForest)
    (parent : NodeId) :
    Grown tree tree parent [] := by
  refine ⟨forest, Nat.le_refl _, rfl, fun _ _ => rfl, fun _ _ _ => rfl, [], ?_, rfl, ?_⟩
  · rw [List.append_nil]
  · rw [Nat.sub_self]
    rfl

/-- What has grown under a parent stays the same when more grows there. -/
theorem Grown.trans
    {tree other third : Tree}
    {parent : NodeId}
    {outlines more : List Outline}
    (inside : parent < tree.size)
    (first : Grown tree other parent outlines)
    (second : Grown other third parent more) :
    Grown tree third parent (outlines ++ more) := by
  obtain ⟨added, children, outlinesOf, places⟩ := first.added
  obtain ⟨addedLater, childrenLater, outlinesLater, placesLater⟩ := second.added
  have same : ∀ i ∈ added, third.outlineAt i = other.outlineAt i ∧
      third.descendants i = other.descendants i := by
    intro i member
    have child : i ∈ other.children parent := by
      rw [children]
      exact List.mem_append_right _ member
    have iInside := first.forest.lt_of_mem_children child
    apply first.forest.outlineAt_congr second.forest second.larger iInside
    intro j below
    -- The nodes below a new child are new, so none of them is the parent.
    have place : j ∈ List.range' tree.size (other.size - tree.size) := by
      rw [← places]
      exact List.mem_flatMap.2 ⟨i, member, below⟩
    have jInside := first.forest.lt_of_mem_descendants iInside below
    have notParent : j ≠ parent :=
      Nat.ne_of_gt (Nat.lt_of_lt_of_le inside (List.mem_range'_1.1 place).1)
    exact ⟨second.payload j jInside, second.children j jInside notParent⟩
  refine ⟨second.forest, first.larger.trans second.larger, second.header.trans first.header,
    ?_, ?_, added ++ addedLater, ?_, ?_, ?_⟩
  · intro i old
    exact (second.payload i (Nat.lt_of_lt_of_le old first.larger)).trans (first.payload i old)
  · intro i old different
    rw [second.children i (Nat.lt_of_lt_of_le old first.larger) different,
      first.children i old different]
  · rw [childrenLater, children, List.append_assoc]
  · rw [List.map_append, outlinesLater, List.map_congr_left fun i member => (same i member).1,
      outlinesOf]
  · have sizes : third.size - tree.size =
        (other.size - tree.size) + (third.size - other.size) := by
      have := first.larger
      have := second.larger
      omega
    have border : other.size = tree.size + (other.size - tree.size) := by
      have := first.larger
      omega
    rw [List.flatMap_append, placesLater,
      List.flatMap_congr fun i member => (same i member).2, places, sizes,
      ← List.range'_append_1, ← border]

/-! ## Attaching -/

theorem header_appendChild
    (tree : Tree)
    (parent child : NodeId) :
    (tree.appendChild parent child).header = tree.header := by
  cases last : (tree.node parent).lastChild <;> simp [appendChild, last, header, modify]

theorem children_of_size_le
    {tree : Tree}
    {i : NodeId}
    (outside : tree.size ≤ i) :
    tree.children i = [] := by
  rw [children, node_of_size_le outside]
  cases tree.size <;> rfl

/-- A node with attributes that has just been added is detached, and nothing else has changed. -/
theorem IsForest.addNode_attributes
    {tree : Tree}
    (forest : tree.IsForest)
    (kind : Kind)
    (id : Option String)
    (attributes : List (String × String)) :
    let added := (tree.addNode kind id).modify tree.size fun node =>
      { node with attributes := attributes }
    added.IsForest ∧ added.size = tree.size + 1 ∧
      (∀ i, added.node i = if i = tree.size then { kind, id, attributes } else tree.node i) ∧
      (∀ i, added.children i = tree.children i) ∧
      ∀ i, i < tree.size → ¬ added.Holds tree.size i := by
  obtain ⟨added, children⟩ := forest.addNode kind id
  have marked : SameLinks (tree.addNode kind id) ((tree.addNode kind id).modify tree.size
      fun node => { node with attributes := attributes }) :=
    SameLinks.modify (by intro node; rfl) _ _
  refine ⟨marked.isForest added, by simp, fun i => ?_, fun i => ?_, fun i inside => ?_⟩
  · rw [node_modify (by simp), node_addNode]
    by_cases new : i = tree.size <;> simp [new]
  · rw [marked.children, children]
  · rw [Holds, marked.isParent]
    exact not_holds_addNode forest inside kind id

/-- A node with attributes that has just been appended, and nothing else, is new. -/
theorem appendChild_fresh
    {tree : Tree}
    (forest : tree.IsForest)
    {parent : NodeId}
    (inside : parent < tree.size)
    (kind : Kind)
    (id : Option String)
    (attributes : List (String × String)) :
    let fresh := ((tree.addNode kind id).modify tree.size fun node =>
      { node with attributes := attributes }).appendChild parent tree.size
    fresh.IsForest ∧ fresh.size = tree.size + 1 ∧ fresh.header = tree.header ∧
      (∀ i, i < tree.size → (fresh.node i).payload = (tree.node i).payload) ∧
      (fresh.node tree.size).payload = (kind, id, attributes) ∧
      ∀ i, fresh.children i =
        if i = parent then tree.children parent ++ [tree.size] else tree.children i := by
  obtain ⟨added, size, node, addedChildren, outside⟩ :=
    forest.addNode_attributes kind id attributes
  obtain ⟨grown, children⟩ := added.appendChild
    (by simpa using Nat.lt_succ_of_lt inside) (by simp) (by rw [node, if_pos rfl])
    (outside parent inside)
  refine ⟨grown, by simp, header_appendChild _ _ _, ?_, ?_, ?_⟩
  · intro i old
    rw [payload_appendChild, node, if_neg (Nat.ne_of_lt old)]
  · rw [payload_appendChild, node, if_pos rfl]
    rfl
  · intro i
    rw [children, addedChildren, addedChildren]

/-- Outlines that each grow under their parent grow there in order. -/
theorem grown_attachAll
    {outlines : List Outline}
    (each : ∀ outline ∈ outlines, ∀ {tree : Tree}, tree.IsForest → ∀ {parent : NodeId},
      parent < tree.size → Grown tree (tree.attach parent outline) parent [outline])
    {tree : Tree}
    (forest : tree.IsForest)
    {parent : NodeId}
    (inside : parent < tree.size) :
    Grown tree (tree.attachAll parent outlines) parent outlines := by
  induction outlines generalizing tree with
  | nil => exact Grown.refl forest parent
  | cons outline outlines inductionHypothesis =>
      have first := each outline List.mem_cons_self forest inside
      have others := inductionHypothesis
        (fun other member => each other (List.mem_cons_of_mem _ member))
        first.forest (Nat.lt_of_lt_of_le inside first.larger)
      rw [attachAll]
      exact first.trans inside others

/-- An attached outline grows under its parent. -/
theorem grown_attach
    (outline : Outline)
    {tree : Tree}
    (forest : tree.IsForest)
    {parent : NodeId}
    (inside : parent < tree.size) :
    Grown tree (tree.attach parent outline) parent [outline] := by
  induction outline using Outline.induction generalizing tree parent with
  | step kind id attributes children inductionHypothesis =>
      obtain ⟨freshForest, freshSize, freshHeader, freshPayload, newPayload, freshChildren⟩ :=
        appendChild_fresh forest inside kind id attributes
      rw [attach]
      generalize (((tree.addNode kind id).modify tree.size fun node =>
        { node with attributes := attributes }).appendChild parent tree.size) = fresh at *
      have new : tree.size < fresh.size := by omega
      have below := grown_attachAll
        (fun child member _ forest _ inside => inductionHypothesis child member forest inside)
        freshForest new
      generalize fresh.attachAll tree.size children = grown at *
      obtain ⟨added, addedChildren, outlines, places⟩ := below.added
      have parentOld : parent ≠ tree.size := Nat.ne_of_lt inside
      have noChildren : fresh.children tree.size = [] := by
        rw [freshChildren, if_neg parentOld.symm, children_of_size_le (Nat.le_refl _)]
      rw [noChildren, List.nil_append] at addedChildren
      have newInside : tree.size < grown.size := Nat.lt_of_lt_of_le new below.larger
      refine ⟨below.forest, Nat.le_of_lt newInside, below.header.trans freshHeader, ?_, ?_,
        [tree.size], ?_, ?_, ?_⟩
      · intro i old
        rw [below.payload i (by omega), freshPayload i old]
      · intro i old different
        rw [below.children i (by omega) (Nat.ne_of_lt old), freshChildren, if_neg different]
      · rw [below.children parent (Nat.lt_trans inside new) parentOld, freshChildren, if_pos rfl]
      · have payload := (below.payload tree.size new).trans newPayload
        simp only [Node.payload, Prod.mk.injEq] at payload
        obtain ⟨kindOf, idOf, attributesOf⟩ := payload
        rw [List.map_singleton, below.forest.outlineAt_eq newInside, Tree.kind, kindOf, idOf,
          attributesOf, addedChildren, outlines]
      · have sizes : grown.size - tree.size = (grown.size - fresh.size) + 1 := by
          have := below.larger
          omega
        rw [List.flatMap_singleton, below.forest.descendants_eq newInside, addedChildren, places,
          sizes, List.range'_succ, freshSize]

/-! ## Documents made of outlines -/

/-- A document made of an outline has this outline, and its nodes lie in document order. -/
theorem ofOutline_spec
    {id box path hpath : String}
    {outline : Outline}
    {tree : Tree}
    (made : ofOutline id box path hpath outline = tree) :
    tree.IsForest ∧ tree.header = (id, box, path, hpath) ∧ root < tree.size ∧
      tree.outline = .node .document (some id) outline.attributes outline.children ∧
      tree.descendants root = List.range tree.size := by
  have marked : SameLinks (Tree.new id box path hpath) ((Tree.new id box path hpath).modify root
      fun node => { node with attributes := outline.attributes }) :=
    SameLinks.modify (by intro node; rfl) _ _
  have forest := marked.isForest (isForest_new id box path hpath)
  have inside : root < ((Tree.new id box path hpath).modify root
      fun node => { node with attributes := outline.attributes }).size := Nat.zero_lt_one
  have grown : Grown _ (ofOutline id box path hpath outline) root outline.children :=
    grown_attachAll
      (fun child _ _ forest _ inside => grown_attach child forest inside) forest inside
  rw [made] at grown
  have payload : (tree.node root).payload = (.document, some id, outline.attributes) :=
    grown.payload root inside
  simp only [Node.payload, Prod.mk.injEq] at payload
  obtain ⟨kindOf, idOf, attributesOf⟩ := payload
  have bigger : root < tree.size := Nat.lt_of_lt_of_le inside grown.larger
  obtain ⟨added, children, outlines, places⟩ := grown.added
  have rootChildren : tree.children root = added := children
  refine ⟨grown.forest, grown.header, bigger, ?_, ?_⟩
  · have spelled := grown.forest.outlineAt_eq bigger
    rw [Tree.kind, kindOf, idOf, attributesOf, rootChildren, outlines] at spelled
    exact spelled
  · obtain ⟨others, size⟩ := Nat.exists_eq_add_one_of_ne_zero (Nat.ne_of_gt bigger)
    have below : added.flatMap tree.descendants = List.range' 1 (tree.size - 1) := places
    rw [grown.forest.descendants_eq bigger, rootChildren, below, List.range_eq_range', size,
      List.range'_succ]
    rfl

end Tree
end BlockSearch
