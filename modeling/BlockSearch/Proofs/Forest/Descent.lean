import BlockSearch.Document.Outline
import BlockSearch.Proofs.Forest.Edit
import Mathlib.Data.Finset.Card
import Mathlib.Data.Finset.Range
import Mathlib.Data.List.Basic

/-!
# Subtrees of a forest

The nodes below a node of a forest are those that its subtree holds, each listed once. The
number of nodes strictly below a node shrinks on every way down, so it bounds the depth of
every descent, and it gives an induction over forests from the leaves up. Edits of kinds,
identifiers and attributes keep all links, and with them everything that is found by following links.
-/

namespace BlockSearch

/-- What holds of an outline when it holds of its children holds of every outline. -/
theorem Outline.induction
    {property : Outline → Prop}
    (step : ∀ kind id attributes children,
      (∀ child ∈ children, property child) → property (.node kind id attributes children))
    (outline : Outline) :
    property outline := by
  refine @Outline.rec property (fun outlines => ∀ child ∈ outlines, property child)
    ?_ ?_ ?_ outline
  · exact step
  · simp
  · intro child children first others
    simpa using ⟨first, others⟩

namespace Tree

open scoped Classical in
/-- The number of nodes strictly below a node. -/
noncomputable def height (tree : Tree) (i : NodeId) : Nat :=
  ((Finset.range tree.size).filter fun j => Relation.TransGen tree.IsParent i j).card

namespace IsForest

variable {tree : Tree}

theorem isParent_of_mem_children
    (forest : tree.IsForest)
    {i j : NodeId}
    (member : j ∈ tree.children i) :
    tree.IsParent i j := forest.parent_of_mem_children member

/-- Children have fewer nodes below them than their parent. -/
theorem height_lt
    (forest : tree.IsForest)
    {i j : NodeId}
    (member : j ∈ tree.children i) :
    tree.height j < tree.height i := by
  classical
  have edge := forest.isParent_of_mem_children member
  apply Finset.card_lt_card
  rw [Finset.ssubset_iff_of_subset]
  · refine ⟨j, ?_, ?_⟩
    · simp [forest.lt_of_mem_children member, Relation.TransGen.single edge]
    · simp [forest.acyclic j]
  · intro k below
    rw [Finset.mem_filter] at below ⊢
    exact ⟨below.1, .head edge below.2⟩

/-- A node has fewer nodes below it than there are. -/
theorem height_lt_size
    (forest : tree.IsForest)
    {i : NodeId}
    (inside : i < tree.size) :
    tree.height i < tree.size := by
  classical
  have fewer : tree.height i < (Finset.range tree.size).card := by
    apply Finset.card_lt_card
    rw [Finset.ssubset_iff_of_subset (Finset.filter_subset _ _)]
    exact ⟨i, by simpa using inside, by simp [forest.acyclic i]⟩
  simpa using fewer

/-- What holds of a node when it holds of its children holds of every node. -/
theorem induction
    (forest : tree.IsForest)
    {property : NodeId → Prop}
    (step : ∀ i, (∀ j ∈ tree.children i, property j) → property i)
    (i : NodeId) :
    property i := by
  induction height : tree.height i using Nat.strong_induction_on generalizing i with
  | _ bound inductionHypothesis =>
      apply step
      intro j member
      apply inductionHypothesis (tree.height j) _ j rfl
      rw [← height]
      exact forest.height_lt member

/-! ## Descendants -/

/-- Every depth beyond the height of a node finds the same nodes. -/
theorem descendantsWithin_eq
    (forest : tree.IsForest)
    {i : NodeId}
    {depth other : Nat}
    (deep : tree.height i < depth)
    (otherDeep : tree.height i < other) :
    tree.descendantsWithin depth i = tree.descendantsWithin other i := by
  revert depth other
  induction i using forest.induction with
  | step i inductionHypothesis =>
      intro depth other deep otherDeep
      obtain ⟨depth, rfl⟩ := Nat.exists_eq_add_one_of_ne_zero (Nat.ne_zero_of_lt deep)
      obtain ⟨other, rfl⟩ := Nat.exists_eq_add_one_of_ne_zero (Nat.ne_zero_of_lt otherDeep)
      rw [descendantsWithin, descendantsWithin]
      congr 1
      apply List.flatMap_congr
      intro j member
      have lower := forest.height_lt member
      exact inductionHypothesis j member (by omega) (by omega)

/-- The nodes of a subtree: its top, and those of the subtrees of its children in order. -/
theorem descendants_eq
    (forest : tree.IsForest)
    {i : NodeId}
    (inside : i < tree.size) :
    tree.descendants i = i :: (tree.children i).flatMap tree.descendants := by
  have deep := forest.height_lt_size inside
  obtain ⟨depth, size⟩ := Nat.exists_eq_add_one_of_ne_zero (Nat.ne_zero_of_lt deep)
  rw [descendants, size, descendantsWithin]
  congr 1
  apply List.flatMap_congr
  intro j member
  have lower := forest.height_lt member
  have inside := forest.lt_of_mem_children member
  exact forest.descendantsWithin_eq (by omega) (forest.height_lt_size inside)

/-- The descendants of a node are the nodes that its subtree holds. -/
theorem mem_descendants
    (forest : tree.IsForest)
    {i j : NodeId}
    (inside : i < tree.size) :
    j ∈ tree.descendants i ↔ tree.Holds i j := by
  revert inside
  induction i using forest.induction with
  | step i inductionHypothesis =>
      intro inside
      rw [forest.descendants_eq inside, List.mem_cons, List.mem_flatMap, Holds,
        Relation.ReflTransGen.cases_head_iff, eq_comm]
      refine or_congr Iff.rfl (exists_congr fun k => ?_)
      constructor
      · intro ⟨member, below⟩
        have inside := forest.lt_of_mem_children member
        exact ⟨forest.isParent_of_mem_children member,
          (inductionHypothesis k member inside).1 below⟩
      · intro ⟨edge, below⟩
        have member := forest.mem_children_of_parent edge
        exact ⟨member, (inductionHypothesis k member (forest.lt_of_mem_children member)).2 below⟩

/-- Of two nodes whose subtrees hold the same node, one holds the other. -/
theorem holds_or_holds
    {i j k : NodeId}
    (left : tree.Holds i k)
    (right : tree.Holds j k) :
    tree.Holds i j ∨ tree.Holds j i := by
  have unique : Relator.RightUnique (Function.swap tree.IsParent) := by
    intro child parent other edge otherEdge
    exact Option.some.inj (edge.symm.trans otherEdge)
  rcases Relation.ReflTransGen.total_of_right_unique unique left.swap right.swap with path | path
  · exact .inr path.swap
  · exact .inl path.swap

/-- A node below a child of its own does not exist. -/
theorem not_holds_of_mem_children
    (forest : tree.IsForest)
    {i j : NodeId}
    (member : j ∈ tree.children i) :
    ¬ tree.Holds j i := fun path =>
  forest.acyclic i (.head' (forest.isParent_of_mem_children member) path)

/-- The subtrees of different children of a node hold different nodes. -/
theorem eq_of_holds
    (forest : tree.IsForest)
    {parent i j k : NodeId}
    (left : i ∈ tree.children parent)
    (right : j ∈ tree.children parent)
    (leftBelow : tree.Holds i k)
    (rightBelow : tree.Holds j k) :
    i = j := by
  -- A child that lies in the subtree of another would have the parent there too.
  have apart : ∀ {i j}, i ∈ tree.children parent → j ∈ tree.children parent →
      tree.Holds i j → i = j := by
    intro i j left right path
    rcases Relation.ReflTransGen.cases_tail path with same | ⟨above, path, edge⟩
    · exact same.symm
    · have sameParent : above = parent :=
        Option.some.inj (edge.symm.trans (forest.parent_of_mem_children right))
      exact absurd (sameParent ▸ path) (forest.not_holds_of_mem_children left)
  rcases holds_or_holds leftBelow rightBelow with path | path
  · exact apart left right path
  · exact (apart right left path).symm

/-- No node is listed twice among the descendants of a node. -/
theorem nodup_descendants
    (forest : tree.IsForest)
    {i : NodeId}
    (inside : i < tree.size) :
    (tree.descendants i).Nodup := by
  revert inside
  induction i using forest.induction with
  | step i inductionHypothesis =>
      intro inside
      rw [forest.descendants_eq inside, List.nodup_cons, List.nodup_flatMap]
      refine ⟨?_, ?_, ?_⟩
      · intro member
        obtain ⟨j, child, below⟩ := List.mem_flatMap.1 member
        rw [forest.mem_descendants (forest.lt_of_mem_children child)] at below
        exact forest.not_holds_of_mem_children child below
      · intro j child
        exact inductionHypothesis j child (forest.lt_of_mem_children child)
      · apply (forest.nodup_children i).pairwise_of_forall_ne
        intro j child k other different
        refine List.disjoint_left.2 fun l below belowOther => ?_
        rw [forest.mem_descendants (forest.lt_of_mem_children child)] at below
        rw [forest.mem_descendants (forest.lt_of_mem_children other)] at belowOther
        exact different (forest.eq_of_holds child other below belowOther)

theorem lt_of_holds
    {i j : NodeId}
    (inside : i < tree.size)
    (path : tree.Holds i j) :
    j < tree.size := by
  rcases Relation.ReflTransGen.cases_tail path with same | ⟨_, _, edge⟩
  · exact same ▸ inside
  · exact lt_of_parent edge

/-- A node of a subtree is one of the nodes of the array. -/
theorem lt_of_mem_descendants
    (forest : tree.IsForest)
    {i j : NodeId}
    (inside : i < tree.size)
    (below : j ∈ tree.descendants i) :
    j < tree.size := lt_of_holds inside ((forest.mem_descendants inside).1 below)

end IsForest

/-! ## Outlines -/

/-- The outline of a node with everything below it. -/
def outlineAt (tree : Tree) (i : NodeId) : Outline := tree.outlineWithin tree.size i

namespace IsForest

variable {tree : Tree}

/-- Every depth beyond the height of a node gives the same outline. -/
theorem outlineWithin_eq
    (forest : tree.IsForest)
    {i : NodeId}
    {depth other : Nat}
    (deep : tree.height i < depth)
    (otherDeep : tree.height i < other) :
    tree.outlineWithin depth i = tree.outlineWithin other i := by
  revert depth other
  induction i using forest.induction with
  | step i inductionHypothesis =>
      intro depth other deep otherDeep
      obtain ⟨depth, rfl⟩ := Nat.exists_eq_add_one_of_ne_zero (Nat.ne_zero_of_lt deep)
      obtain ⟨other, rfl⟩ := Nat.exists_eq_add_one_of_ne_zero (Nat.ne_zero_of_lt otherDeep)
      rw [outlineWithin, outlineWithin]
      congr 1
      apply List.map_congr_left
      intro j member
      have lower := forest.height_lt member
      exact inductionHypothesis j member (by omega) (by omega)

/-- The outline of a node has the outlines of its children in order. -/
theorem outlineAt_eq
    (forest : tree.IsForest)
    {i : NodeId}
    (inside : i < tree.size) :
    tree.outlineAt i =
      .node (tree.kind i) (tree.node i).id (tree.node i).attributes
        ((tree.children i).map tree.outlineAt) := by
  have deep := forest.height_lt_size inside
  obtain ⟨depth, size⟩ := Nat.exists_eq_add_one_of_ne_zero (Nat.ne_zero_of_lt deep)
  rw [outlineAt, size, outlineWithin]
  congr 1
  apply List.map_congr_left
  intro j member
  have lower := forest.height_lt member
  have inside := forest.lt_of_mem_children member
  exact forest.outlineWithin_eq (by omega) (forest.height_lt_size inside)

end IsForest
end Tree

/-! ## Trees with the same links -/

/-- The links of a node, without what it holds. -/
def Node.links (node : Node) :
    Option NodeId × Option NodeId × Option NodeId × Option NodeId × Option NodeId :=
  (node.parent, node.firstChild, node.lastChild, node.previous, node.next)

namespace Tree

/-- Two trees have the same number of nodes, with the same links. -/
structure SameLinks (tree other : Tree) : Prop where
  /-- The number of nodes is the same. -/
  size : other.size = tree.size
  /-- Every node has the same links. -/
  links : ∀ i, (other.node i).links = (tree.node i).links

namespace SameLinks

variable {tree other third : Tree}

theorem refl (tree : Tree) : SameLinks tree tree := ⟨rfl, fun _ => rfl⟩

theorem trans
    (same : SameLinks tree other)
    (again : SameLinks other third) :
    SameLinks tree third :=
  ⟨again.size.trans same.size, fun i => (again.links i).trans (same.links i)⟩

/-- A change of what a node holds keeps the links. -/
theorem modify
    {change : Node → Node}
    (keeps : ∀ node, (change node).links = node.links)
    (tree : Tree)
    (i : NodeId) :
    SameLinks tree (tree.modify i change) :=
  ⟨size_modify _ _ _, field_modify Node.links keeps tree i⟩

theorem parent
    (same : SameLinks tree other)
    (i : NodeId) :
    (other.node i).parent = (tree.node i).parent := congrArg (·.1) (same.links i)

theorem firstChild
    (same : SameLinks tree other)
    (i : NodeId) :
    (other.node i).firstChild = (tree.node i).firstChild := congrArg (·.2.1) (same.links i)

theorem lastChild
    (same : SameLinks tree other)
    (i : NodeId) :
    (other.node i).lastChild = (tree.node i).lastChild := congrArg (·.2.2.1) (same.links i)

theorem previous
    (same : SameLinks tree other)
    (i : NodeId) :
    (other.node i).previous = (tree.node i).previous := congrArg (·.2.2.2.1) (same.links i)

theorem next
    (same : SameLinks tree other)
    (i : NodeId) :
    (other.node i).next = (tree.node i).next := congrArg (·.2.2.2.2) (same.links i)

theorem isParent
    (same : SameLinks tree other) :
    other.IsParent = tree.IsParent := by
  funext i j
  rw [IsParent, IsParent, same.parent]

theorem children
    (same : SameLinks tree other)
    (i : NodeId) :
    other.children i = tree.children i := by
  have chains : ∀ fuel start, other.chainFrom fuel start = tree.chainFrom fuel start := by
    intro fuel
    induction fuel with
    | zero => exact fun start => by cases start <;> rfl
    | succ fuel inductionHypothesis =>
        intro start
        cases start with
        | none => rfl
        | some j => rw [chainFrom, chainFrom, same.next, inductionHypothesis]
  rw [Tree.children, Tree.children, same.size, same.firstChild, chains]

theorem descendantsWithin
    (same : SameLinks tree other)
    (depth : Nat)
    (i : NodeId) :
    other.descendantsWithin depth i = tree.descendantsWithin depth i := by
  induction depth generalizing i with
  | zero => rfl
  | succ depth inductionHypothesis =>
      rw [Tree.descendantsWithin, Tree.descendantsWithin, same.children]
      congr 1
      exact List.flatMap_congr fun j _ => inductionHypothesis j

theorem descendants
    (same : SameLinks tree other)
    (i : NodeId) :
    other.descendants i = tree.descendants i := by
  rw [Tree.descendants, Tree.descendants, same.size, same.descendantsWithin]

/-- A tree with the links of a forest is one. -/
theorem isForest
    (same : SameLinks tree other)
    (forest : tree.IsForest) :
    other.IsForest := by
  refine (IsForest.of_lists tree.children ?_ ?_ ?_ ?_ forest.nodup_children ?_ ?_).1
  · exact fun i => (forest.linked i).congr fun j _ => ⟨same.previous j, same.next j⟩
  · exact fun i => (same.firstChild i).trans (forest.first i)
  · exact fun i => (same.lastChild i).trans (forest.last i)
  · intro i j
    rw [same.size, same.isParent, forest.mem_children]
  · intro i
    rw [same.parent, same.previous, same.next]
    exact forest.detached i
  · rw [same.isParent]
    exact forest.acyclic

end SameLinks
end Tree
end BlockSearch
