import BlockSearch.Proofs.Document.RoundTrip

/-!
# Stored documents as they are

A document whose nodes all lie in document order is determined by its outline. What is read
from a text is such a document, so it is read back as it is when it is written again.
-/

namespace BlockSearch

/-- A node is its links and its payload. -/
theorem Node.eq_of_links_of_payload
    {left right : Node}
    (links : left.links = right.links)
    (payload : left.payload = right.payload) :
    left = right := by
  cases left
  cases right
  simp_all [Node.links, Node.payload]

namespace Tree

/-! ## Links that lists determine -/

/-- The links of the members of a list follow from the list. -/
theorem Linked.eq_of_linked
    {tree other : Tree}
    {before behind : Option NodeId}
    {list : List NodeId}
    (linked : tree.Linked before list behind)
    (otherLinked : other.Linked before list behind)
    {i : NodeId}
    (member : i ∈ list) :
    (other.node i).previous = (tree.node i).previous ∧
      (other.node i).next = (tree.node i).next := by
  induction list generalizing before with
  | nil => contradiction
  | cons first rest inductionHypothesis =>
      obtain ⟨previous, next, linked⟩ := linked
      obtain ⟨otherPrevious, otherNext, otherLinked⟩ := otherLinked
      rcases List.mem_cons.1 member with rfl | member
      · exact ⟨otherPrevious.trans previous.symm, otherNext.trans next.symm⟩
      · exact inductionHypothesis linked otherLinked member

/-- Forests with the same lists of children have the same links. -/
theorem IsForest.sameLinks
    {tree other : Tree}
    (forest : tree.IsForest)
    (otherForest : other.IsForest)
    (size : other.size = tree.size)
    (children : ∀ i, other.children i = tree.children i) :
    SameLinks tree other := by
  have parent : ∀ i, (other.node i).parent = (tree.node i).parent := by
    intro i
    apply Option.ext
    intro j
    constructor
    · intro parentOf
      have member := otherForest.mem_children_of_parent parentOf
      rw [children] at member
      exact forest.parent_of_mem_children member
    · intro parentOf
      have member := forest.mem_children_of_parent parentOf
      rw [← children] at member
      exact otherForest.parent_of_mem_children member
  have siblings : ∀ i, (other.node i).previous = (tree.node i).previous ∧
      (other.node i).next = (tree.node i).next := by
    intro i
    cases parentOf : (tree.node i).parent with
    | none =>
        obtain ⟨previous, next⟩ := forest.detached i parentOf
        obtain ⟨otherPrevious, otherNext⟩ := otherForest.detached i ((parent i).trans parentOf)
        exact ⟨otherPrevious.trans previous.symm, otherNext.trans next.symm⟩
    | some j =>
        have linked := otherForest.linked j
        rw [children] at linked
        exact (forest.linked j).eq_of_linked linked (forest.mem_children_of_parent parentOf)
  refine ⟨size, fun i => ?_⟩
  rw [Node.links, Node.links, parent, otherForest.first, otherForest.last, children,
    forest.first, forest.last, (siblings i).1, (siblings i).2]

/-- Trees with the same links and the same payloads are equal. -/
theorem SameLinks.eq
    {tree other : Tree}
    (same : SameLinks tree other)
    (header : other.header = tree.header)
    (payload : ∀ i, (other.node i).payload = (tree.node i).payload) :
    other = tree := by
  have node : ∀ i, other.node i = tree.node i := fun i =>
    Node.eq_of_links_of_payload (same.links i) (payload i)
  have nodes : other.nodes = tree.nodes := by
    apply Array.ext
    · exact same.size
    · intro i left right
      have equal := node i
      simpa [Tree.node, left, right] using equal
  simp only [Tree.header, Prod.mk.injEq] at header
  obtain ⟨id, box, path, hpath⟩ := header
  cases other
  cases tree
  simp_all

/-! ## Nodes in document order -/

/-- Subtrees with the same outline have the same number of nodes. -/
theorem IsForest.length_descendants_eq
    {tree other : Tree}
    (forest : tree.IsForest)
    (otherForest : other.IsForest)
    {i j : NodeId}
    (inside : i < tree.size)
    (otherInside : j < other.size)
    (same : tree.outlineAt i = other.outlineAt j) :
    (tree.descendants i).length = (other.descendants j).length := by
  induction i using forest.induction generalizing j with
  | step i inductionHypothesis =>
      rw [forest.outlineAt_eq inside, otherForest.outlineAt_eq otherInside,
        Outline.node.injEq] at same
      obtain ⟨_, _, _, children⟩ := same
      rw [forest.descendants_eq inside, otherForest.descendants_eq otherInside, List.length_cons,
        List.length_cons, List.length_flatMap, List.length_flatMap]
      congr 2
      rw [← List.forall₂_eq_eq_eq, List.forall₂_map_left_iff, List.forall₂_map_right_iff,
        List.forall₂_iff_zip] at children ⊢
      refine ⟨children.1, fun {k l} pair => ?_⟩
      obtain ⟨left, right⟩ := List.of_mem_zip pair
      exact inductionHypothesis k left (forest.lt_of_mem_children left)
        (otherForest.lt_of_mem_children right) (children.2 pair)

/-- Siblings whose subtrees fill the same places with the same outlines are the same. -/
theorem IsForest.eq_of_places
    {tree other : Tree}
    (forest : tree.IsForest)
    (otherForest : other.IsForest)
    {list otherList : List NodeId}
    (inside : ∀ i ∈ list, i < tree.size)
    (otherInside : ∀ i ∈ otherList, i < other.size)
    (same : List.Forall₂ (fun i j => tree.outlineAt i = other.outlineAt j) list otherList)
    {first count : Nat}
    (places : list.flatMap tree.descendants = List.range' first count)
    (otherPlaces : otherList.flatMap other.descendants = List.range' first count) :
    otherList = list ∧ ∀ i ∈ list, tree.outlineAt i = other.outlineAt i ∧
      other.descendants i = tree.descendants i ∧
      ∃ count, tree.descendants i = List.range' i count := by
  induction same generalizing first count with
  | nil => exact ⟨rfl, by simp⟩
  | @cons i j list otherList outline _ inductionHypothesis =>
      rw [List.forall_mem_cons] at inside otherInside
      have length := forest.length_descendants_eq otherForest inside.1 otherInside.1 outline
      have both := places.trans otherPlaces.symm
      rw [List.flatMap_cons, List.flatMap_cons] at both
      obtain ⟨descendants, rest⟩ := List.append_inj both length
      have top : j = i := by
        rw [forest.descendants_eq inside.1, otherForest.descendants_eq otherInside.1] at descendants
        exact (List.cons.inj descendants).1.symm
      subst top
      rw [List.flatMap_cons] at places
      obtain ⟨size, _, ownPlaces, restPlaces⟩ := List.range'_eq_append_iff.1 places.symm
      have start : first = j := by
        have listed := forest.descendants_eq inside.1
        rw [ownPlaces] at listed
        exact (List.range'_eq_cons_iff.1 listed).1
      obtain ⟨lists, below⟩ := inductionHypothesis inside.2 otherInside.2 restPlaces
        (rest.symm.trans restPlaces)
      refine ⟨by rw [lists], List.forall_mem_cons.2 ⟨⟨outline, descendants.symm, ?_⟩, below⟩⟩
      exact ⟨_, start ▸ ownPlaces⟩

/-- Subtrees that fill the same places with the same outline agree everywhere. -/
theorem IsForest.agreesAt_of_places
    {tree other : Tree}
    (forest : tree.IsForest)
    (otherForest : other.IsForest)
    {i : NodeId}
    (inside : i < tree.size)
    (otherInside : i < other.size)
    (outline : tree.outlineAt i = other.outlineAt i)
    (descendants : other.descendants i = tree.descendants i)
    {count : Nat}
    (places : tree.descendants i = List.range' i count) :
    ∀ j ∈ tree.descendants i, AgreesAt tree other j := by
  induction i using forest.induction generalizing count with
  | step i inductionHypothesis =>
      have otherPlaces := descendants.trans places
      rw [forest.outlineAt_eq inside, otherForest.outlineAt_eq otherInside,
        Outline.node.injEq] at outline
      obtain ⟨kind, id, attributes, outlines⟩ := outline
      rw [forest.descendants_eq inside, eq_comm, List.range'_eq_cons_iff] at places
      rw [otherForest.descendants_eq otherInside, eq_comm, List.range'_eq_cons_iff] at otherPlaces
      rw [← List.forall₂_eq_eq_eq, List.forall₂_map_left_iff, List.forall₂_map_right_iff]
        at outlines
      obtain ⟨children, below⟩ := forest.eq_of_places otherForest
        (fun j member => forest.lt_of_mem_children member)
        (fun j member => otherForest.lt_of_mem_children member)
        outlines places.2.2 otherPlaces.2.2
      rw [forest.descendants_eq inside, List.forall_mem_cons, List.forall_mem_flatMap]
      refine ⟨⟨?_, children⟩, fun j member => ?_⟩
      · rw [Node.payload, Node.payload, id, attributes]
        exact congrArg (·, _) kind.symm
      · obtain ⟨outline, descendants, count, places⟩ := below j member
        have otherMember : j ∈ other.children i := children ▸ member
        exact inductionHypothesis j member (forest.lt_of_mem_children member)
          (otherForest.lt_of_mem_children otherMember) outline descendants places

/-! ## Stored documents -/

/--
What every document is that has been read: a forest of nodes in document order below a
document node with the identifier of the tree, not nested too deep to be stored.
-/
structure Stored (tree : Tree) : Prop where
  /-- The nodes form a forest. -/
  forest : tree.IsForest
  /-- The root is a document node. -/
  document : tree.kind root = .document
  /-- The root has the identifier of the tree. -/
  named : (tree.node root).id = some tree.id
  /-- All nodes lie below the root, in document order. -/
  order : tree.descendants root = List.range tree.size
  /-- The text of the document can be read. -/
  shallow : tree.toJson.depth ≤ Outline.depthLimit

namespace Stored

variable {tree other : Tree}

theorem inside
    (stored : tree.Stored) :
    root < tree.size := (stored.forest.outline_eq stored.document stored.named).1

/-- The outline and the place of a stored document say all about it. -/
theorem eq_of_outline
    (stored : tree.Stored)
    (otherStored : other.Stored)
    (header : other.header = tree.header)
    (outline : other.outline = tree.outline) :
    other = tree := by
  have length := stored.forest.length_descendants_eq otherStored.forest stored.inside
    otherStored.inside outline.symm
  rw [stored.order, otherStored.order, List.length_range, List.length_range] at length
  have descendants : other.descendants root = tree.descendants root := by
    rw [stored.order, otherStored.order, length]
  have agrees := stored.forest.agreesAt_of_places otherStored.forest stored.inside
    otherStored.inside outline.symm descendants (stored.order.trans List.range_eq_range')
  have everywhere : ∀ i, AgreesAt tree other i := by
    intro i
    rcases Nat.lt_or_ge i tree.size with inside | outside
    · apply agrees
      rw [stored.order]
      exact List.mem_range.2 inside
    · have otherOutside : other.size ≤ i := length ▸ outside
      rw [AgreesAt, node_of_size_le outside, node_of_size_le otherOutside,
        children_of_size_le outside, children_of_size_le otherOutside]
      exact ⟨rfl, rfl⟩
  have links := stored.forest.sameLinks otherStored.forest length.symm fun i => (everywhere i).2
  exact links.eq header fun i => (everywhere i).1

/-- Documents made of shallow outlines are stored documents. -/
theorem of_ofOutline
    {id box path hpath : String}
    {outline : Outline}
    (shallow : outline.toJson.depth ≤ Outline.depthLimit - 1)
    (made : ofOutline id box path hpath outline = tree) :
    tree.Stored := by
  obtain ⟨forest, header, inside, spelled, order⟩ := ofOutline_spec made
  have same : tree.id = id := congrArg (·.1) header
  have top : tree.outline = _ := forest.outlineAt_eq inside
  rw [spelled, Outline.node.injEq] at top
  obtain ⟨kind, id, _⟩ := top
  refine ⟨forest, kind.symm, by rw [← id, same], order, ?_⟩
  have bound : Outline.depthLimit - 1 = 125 + 1 := rfl
  have limit : Outline.depthLimit = 126 + 1 := rfl
  rw [depth_toJson, limit, Nat.add_le_add_iff_right, spelled]
  cases outline with
  | node kind id attributes children =>
      rw [bound, Outline.depth_toJson_le_iff] at shallow
      exact Outline.depth_toJson_le_iff.2 shallow

/-- A stored document is read back as it is. -/
theorem read_eq_ok
    (stored : tree.Stored) :
    read tree.print = .ok tree := by
  obtain ⟨_, spelled⟩ := stored.forest.outline_eq stored.document stored.named
  have document : tree.outline.kind = .document := by
    rw [spelled]
    rfl
  have shallow : tree.outline.toJson.depth ≤ Outline.depthLimit - 1 := by
    have whole := stored.shallow
    rw [depth_toJson] at whole
    omega
  rw [tree.read_print_eq document stored.shallow]
  obtain ⟨_, header, _, outline, _⟩ :=
    ofOutline_spec (rfl : ofOutline tree.id tree.box tree.path tree.hpath tree.outline = _)
  rw [← spelled] at outline
  rw [stored.eq_of_outline (of_ofOutline shallow rfl) header outline]

/-- What is read from a text is a stored document. -/
theorem of_read
    {text : String}
    (read : Tree.read text = .ok tree) :
    tree.Stored := by
  unfold Tree.read at read
  split at read
  · rename_i json _
    unfold ofJson? at read
    split at read
    · split at read
      · rename_i outline readOutline
        split_ifs at read
        cases read
        exact of_ofOutline (Outline.depth_toJson_le_of_ofJson? readOutline) rfl
      · contradiction
    · contradiction
  · contradiction

end Stored

/-! ## Documents that stay stored -/

/-- Subtrees with the same links and attributes are nested equally deep. -/
theorem SameLinks.depth_outlineAt_le_iff
    {tree other : Tree}
    (same : SameLinks tree other)
    (forest : tree.IsForest)
    {i : NodeId}
    (inside : i < tree.size)
    (attributes : ∀ j ∈ tree.descendants i,
      (other.node j).attributes = (tree.node j).attributes)
    {bound : Nat} :
    (other.outlineAt i).toJson.depth ≤ bound ↔ (tree.outlineAt i).toJson.depth ≤ bound := by
  induction i using forest.induction generalizing bound with
  | step i inductionHypothesis =>
      rw [forest.descendants_eq inside, List.forall_mem_cons, List.forall_mem_flatMap] at attributes
      rw [forest.outlineAt_eq inside, (same.isForest forest).outlineAt_eq (same.size ▸ inside),
        same.children, attributes.1]
      cases bound with
      | zero => simp [Outline.toJson, Json.depth]
      | succ bound =>
          have below : (Json.array (((tree.children i).map other.outlineAt).map
              Outline.toJson)).depth ≤ bound ↔
                (Json.array (((tree.children i).map tree.outlineAt).map
                  Outline.toJson)).depth ≤ bound := by
            cases bound with
            | zero => simp [Json.depth]
            | succ bound =>
                rw [Json.depth_array_le_iff, Json.depth_array_le_iff, List.map_map, List.map_map,
                  List.forall_mem_map, List.forall_mem_map]
                refine forall₂_congr fun j member => ?_
                exact inductionHypothesis j member (forest.lt_of_mem_children member)
                  (attributes.2 j member)
          rw [Outline.depth_toJson_le_iff, Outline.depth_toJson_le_iff, below]
          simp

theorem depth_pairs_le (attributes : List (String × String)) :
    (Json.array (attributes.map Attribute.pairToJson)).depth ≤ 2 := by
  rw [Json.depth_array_le_iff, List.forall_mem_map]
  intro pair _
  rfl

/--
A stored document stays one when its links and identifiers stay, and its attributes do
except at the root.
-/
theorem Stored.of_sameLinks
    {tree other : Tree}
    (stored : tree.Stored)
    (same : SameLinks tree other)
    (id : other.id = tree.id)
    (rootId : (other.node root).id = (tree.node root).id)
    (document : other.kind root = .document)
    (attributes : ∀ i, i ≠ root → (other.node i).attributes = (tree.node i).attributes) :
    other.Stored := by
  have forest := stored.forest
  have otherForest := same.isForest forest
  have inside := stored.inside
  refine ⟨otherForest, document, by rw [rootId, id, stored.named], ?_, ?_⟩
  · rw [same.descendants, same.size, stored.order]
  · have whole : tree.toJson.depth ≤ 125 + 1 + 1 := stored.shallow
    show other.toJson.depth ≤ 125 + 1 + 1
    have spelled : tree.outline = _ := forest.outlineAt_eq inside
    have otherSpelled : other.outline = _ := otherForest.outlineAt_eq (same.size ▸ inside)
    rw [depth_toJson, Nat.add_le_add_iff_right, spelled, Outline.depth_toJson_le_iff] at whole
    rw [depth_toJson, Nat.add_le_add_iff_right, otherSpelled, Outline.depth_toJson_le_iff,
      same.children]
    refine ⟨by omega, fun _ => (depth_pairs_le _).trans (by omega), fun given => ?_⟩
    have below := whole.2.2 (by simpa using given)
    rw [Json.depth_array_le_iff, List.map_map, List.forall_mem_map] at below ⊢
    intro i member
    have iInside := forest.lt_of_mem_children member
    refine (same.depth_outlineAt_le_iff forest iInside fun j held => ?_).2 (below i member)
    apply attributes
    rintro rfl
    exact forest.not_holds_of_mem_children member ((forest.mem_descendants iInside).1 held)

end Tree
end BlockSearch
