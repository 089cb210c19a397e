import BlockSearch.Document.Walk
import Mathlib.Data.List.Nodup
import Mathlib.Data.List.Perm.Subperm
import Mathlib.Logic.Relation

/-!
# Ordered forests in an array of nodes

The links of the nodes of a tree form an ordered forest when the children of every node are
a doubly linked list, every node lies in at most one other, and no node lies below itself.
The main lemma here turns any assignment of lists to nodes that agrees with the links into a
proof that the nodes form a forest with these lists as their children.
-/

namespace BlockSearch
namespace Tree

/-! ## Single nodes -/

@[simp] theorem size_modify
    (tree : Tree)
    (i : NodeId)
    (change : Node → Node) :
    (tree.modify i change).size = tree.size := by
  simp [modify, size]

@[simp] theorem size_addNode
    (tree : Tree)
    (kind : Kind)
    (id : Option String) :
    (tree.addNode kind id).size = tree.size + 1 := by
  simp [addNode, size]

/-- Outside the array every node is an empty one. -/
theorem node_of_size_le
    {tree : Tree}
    {i : NodeId}
    (outside : tree.size ≤ i) :
    tree.node i = { kind := .document } := by
  simp only [size] at outside
  simp [node, outside]

theorem node_modify
    {tree : Tree}
    {i : NodeId}
    (inside : i < tree.size)
    (change : Node → Node)
    (j : NodeId) :
    (tree.modify i change).node j = if j = i then change (tree.node j) else tree.node j := by
  simp only [size] at inside
  by_cases same : j = i
  · subst same
    simp [node, modify, inside, Array.getElem_modify_self]
  · simp [node, modify, same, Ne.symm same, Array.getElem?_modify]

/-- No place outside the array can be changed. -/
theorem modify_of_size_le
    {tree : Tree}
    {i : NodeId}
    (outside : tree.size ≤ i)
    (change : Node → Node) :
    tree.modify i change = tree := by
  have same : tree.nodes.modify i change = tree.nodes := by
    apply Array.ext_getElem?
    intro j
    rw [Array.getElem?_modify]
    split
    case isTrue same =>
      subst same
      rw [Array.getElem?_eq_none outside]
      rfl
    case isFalse => rfl
  rw [modify, same]

/-- What a change keeps of every node it keeps of all nodes. -/
theorem field_modify
    {α : Type}
    (field : Node → α)
    {change : Node → Node}
    (keeps : ∀ node, field (change node) = field node)
    (tree : Tree)
    (i j : NodeId) :
    field ((tree.modify i change).node j) = field (tree.node j) := by
  by_cases inside : i < tree.size
  · rw [node_modify inside]
    split
    case isTrue => exact keeps _
    case isFalse => rfl
  · rw [modify_of_size_le (Nat.le_of_not_lt inside)]

theorem node_addNode
    (tree : Tree)
    (kind : Kind)
    (id : Option String)
    (j : NodeId) :
    (tree.addNode kind id).node j = if j = tree.size then { kind, id } else tree.node j := by
  by_cases new : j = tree.size
  · subst new
    simp [node, addNode, size]
  · simp only [size] at new
    simp [node, addNode, size, Array.getElem?_push, new]

/-! ## Doubly linked lists -/

/--
The links of a list of siblings: `previous` and `next` of its members lead along the list,
from `before` at its front to `behind` at its end.
-/
def Linked (tree : Tree) :
    (before : Option NodeId) → List NodeId → (behind : Option NodeId) → Prop
  | _, [], _ => True
  | before, i :: rest, behind =>
      (tree.node i).previous = before ∧ (tree.node i).next = rest.head?.or behind ∧
        tree.Linked (some i) rest behind

@[simp] theorem linked_nil
    (tree : Tree)
    (before behind : Option NodeId) :
    tree.Linked before [] behind := trivial

theorem linked_cons
    {tree : Tree}
    {before behind : Option NodeId}
    {i : NodeId}
    {rest : List NodeId} :
    tree.Linked before (i :: rest) behind ↔
      (tree.node i).previous = before ∧ (tree.node i).next = rest.head?.or behind ∧
        tree.Linked (some i) rest behind := Iff.rfl

/-- A list is linked when its two parts are, each up to the border of the other. -/
theorem linked_append
    {tree : Tree}
    {before behind : Option NodeId}
    {front back : List NodeId} :
    tree.Linked before (front ++ back) behind ↔
      tree.Linked before front (back.head?.or behind) ∧
        tree.Linked (front.getLast?.or before) back behind := by
  induction front generalizing before with
  | nil => simp
  | cons i front inductionHypothesis =>
      have lastOfCons : (i :: front).getLast?.or before = front.getLast?.or (some i) := by
        rw [List.getLast?_cons]
        cases front.getLast? <;> rfl
      rw [List.cons_append, linked_cons, linked_cons, inductionHypothesis, lastOfCons,
        List.head?_append, Option.or_assoc, and_assoc, and_assoc]

/-- Only the links of its members decide whether a list is linked. -/
theorem Linked.congr
    {tree other : Tree}
    {before behind : Option NodeId}
    {list : List NodeId}
    (linked : tree.Linked before list behind)
    (same : ∀ i ∈ list, (other.node i).previous = (tree.node i).previous ∧
      (other.node i).next = (tree.node i).next) :
    other.Linked before list behind := by
  induction list generalizing before with
  | nil => trivial
  | cons i rest inductionHypothesis =>
      obtain ⟨previous, next, restLinked⟩ := linked
      obtain ⟨samePrevious, sameNext⟩ := same i List.mem_cons_self
      refine ⟨samePrevious.trans previous, sameNext.trans next, ?_⟩
      exact inductionHypothesis restLinked fun j member => same j (List.mem_cons_of_mem i member)

/-- The end of a list can be linked to another node behind it. -/
theorem Linked.change_behind
    {tree other : Tree}
    {before behind newBehind : Option NodeId}
    {list : List NodeId}
    (linked : tree.Linked before list behind)
    (nodup : list.Nodup)
    (samePrevious : ∀ i ∈ list, (other.node i).previous = (tree.node i).previous)
    (sameNext : ∀ i ∈ list, list.getLast? ≠ some i →
      (other.node i).next = (tree.node i).next)
    (lastNext : ∀ i, list.getLast? = some i → (other.node i).next = newBehind) :
    other.Linked before list newBehind := by
  rcases List.eq_nil_or_concat list with rfl | ⟨front, last, rfl⟩
  · trivial
  · rw [List.concat_eq_append] at *
    rw [linked_append] at linked ⊢
    have fresh : ∀ i ∈ front, i ≠ last := by
      intro i member equal
      rw [List.nodup_append] at nodup
      exact nodup.2.2 i member last (by simp) equal
    refine ⟨linked.1.congr fun i member => ?_, ?_, ?_, trivial⟩
    · refine ⟨samePrevious i (by simp [member]), sameNext i (by simp [member]) ?_⟩
      simpa using Ne.symm (fresh i member)
    · rw [samePrevious last (by simp)]
      exact linked.2.1
    · simpa using lastNext last (by simp)

/-- The front of a list can be linked to another node before it. -/
theorem Linked.change_before
    {tree other : Tree}
    {before behind newBefore : Option NodeId}
    {first : NodeId}
    {rest : List NodeId}
    (linked : tree.Linked before (first :: rest) behind)
    (firstPrevious : (other.node first).previous = newBefore)
    (firstNext : (other.node first).next = (tree.node first).next)
    (same : ∀ i ∈ rest, (other.node i).previous = (tree.node i).previous ∧
      (other.node i).next = (tree.node i).next) :
    other.Linked newBefore (first :: rest) behind :=
  ⟨firstPrevious, firstNext.trans linked.2.1, linked.2.2.congr same⟩

/-- Following the links from the first member of a linked list finds the list. -/
theorem Linked.chainFrom_head?
    {tree : Tree}
    {before : Option NodeId}
    {list : List NodeId}
    {fuel : Nat}
    (linked : tree.Linked before list none)
    (enough : list.length ≤ fuel) :
    tree.chainFrom fuel list.head? = list := by
  induction list generalizing before fuel with
  | nil => cases fuel <;> rfl
  | cons i rest inductionHypothesis =>
      cases fuel with
      | zero => simp at enough
      | succ fuel =>
          obtain ⟨_, next, restLinked⟩ := linked
          rw [Option.or_none] at next
          rw [List.head?_cons, chainFrom, next]
          rw [inductionHypothesis restLinked (Nat.le_of_succ_le_succ enough)]

/-! ## Forests -/

/-- One node lies directly in another. -/
def IsParent (tree : Tree) (parent child : NodeId) : Prop :=
  (tree.node child).parent = some parent

/--
The nodes form an ordered forest: the children of a node are exactly the nodes that name it
as their parent, each once, linked in both directions between its first and its last child.
A node without a parent has no siblings, and no node lies below itself.
-/
structure IsForest (tree : Tree) : Prop where
  /-- The children of a node are linked in both directions. -/
  linked : ∀ i, tree.Linked none (tree.children i) none
  /-- The first child begins the children. -/
  first : ∀ i, (tree.node i).firstChild = (tree.children i).head?
  /-- The last child ends the children. -/
  last : ∀ i, (tree.node i).lastChild = (tree.children i).getLast?
  /-- The children are the nodes that name this one as their parent. -/
  mem_children : ∀ {i j}, j ∈ tree.children i ↔ j < tree.size ∧ tree.IsParent i j
  /-- No child is listed twice. -/
  nodup_children : ∀ i, (tree.children i).Nodup
  /-- A node without a parent has no siblings. -/
  detached : ∀ i, (tree.node i).parent = none →
    (tree.node i).previous = none ∧ (tree.node i).next = none
  /-- No node lies below itself. -/
  acyclic : ∀ i, ¬ Relation.TransGen tree.IsParent i i

/-- A list of different nodes of a tree is not longer than the tree. -/
theorem length_le_size
    {tree : Tree}
    {list : List NodeId}
    (nodup : list.Nodup)
    (inside : ∀ i ∈ list, i < tree.size) :
    list.length ≤ tree.size := by
  have contained : list ⊆ List.range tree.size := by
    intro i member
    exact List.mem_range.2 (inside i member)
  simpa using (List.subperm_of_subset nodup contained).length_le

/-- Lists that agree with the links are the children of the nodes, which form a forest. -/
theorem IsForest.of_lists
    {tree : Tree}
    (lists : NodeId → List NodeId)
    (linked : ∀ i, tree.Linked none (lists i) none)
    (first : ∀ i, (tree.node i).firstChild = (lists i).head?)
    (last : ∀ i, (tree.node i).lastChild = (lists i).getLast?)
    (mem_lists : ∀ i j, j ∈ lists i ↔ j < tree.size ∧ tree.IsParent i j)
    (nodup : ∀ i, (lists i).Nodup)
    (detached : ∀ i, (tree.node i).parent = none →
      (tree.node i).previous = none ∧ (tree.node i).next = none)
    (acyclic : ∀ i, ¬ Relation.TransGen tree.IsParent i i) :
    tree.IsForest ∧ ∀ i, tree.children i = lists i := by
  have children_eq : ∀ i, tree.children i = lists i := by
    intro i
    have enough : (lists i).length ≤ tree.size :=
      length_le_size (nodup i) fun j member => ((mem_lists i j).1 member).1
    rw [children, first, (linked i).chainFrom_head? enough]
  refine ⟨?_, children_eq⟩
  constructor
  case detached => exact detached
  case acyclic => exact acyclic
  all_goals
    intros
    rw [children_eq]
  · exact linked _
  · exact first _
  · exact last _
  · exact mem_lists _ _
  · exact nodup _

namespace IsForest

variable {tree : Tree}

theorem lt_of_mem_children
    (forest : tree.IsForest)
    {i j : NodeId}
    (member : j ∈ tree.children i) :
    j < tree.size := (forest.mem_children.1 member).1

theorem parent_of_mem_children
    (forest : tree.IsForest)
    {i j : NodeId}
    (member : j ∈ tree.children i) :
    (tree.node j).parent = some i := (forest.mem_children.1 member).2

/-- A node with a parent is one of the nodes of the array. -/
theorem lt_of_parent
    {i j : NodeId}
    (parent : (tree.node j).parent = some i) :
    j < tree.size := by
  by_contra outside
  rw [node_of_size_le (Nat.le_of_not_lt outside)] at parent
  simp at parent

theorem mem_children_of_parent
    (forest : tree.IsForest)
    {i j : NodeId}
    (parent : (tree.node j).parent = some i) :
    j ∈ tree.children i := forest.mem_children.2 ⟨lt_of_parent parent, parent⟩

/-- A node with a child is one of the nodes of the array. -/
theorem parent_lt
    (forest : tree.IsForest)
    {i j : NodeId}
    (parent : (tree.node j).parent = some i) :
    i < tree.size := by
  by_contra outside
  have member := forest.mem_children_of_parent parent
  have nothing := forest.first i
  rw [node_of_size_le (Nat.le_of_not_lt outside)] at nothing
  rw [List.head?_eq_none_iff.1 nothing.symm] at member
  simp at member

/-- The children of two nodes have nothing in common. -/
theorem eq_of_mem_children
    (forest : tree.IsForest)
    {i j child : NodeId}
    (left : child ∈ tree.children i)
    (right : child ∈ tree.children j) :
    i = j := by
  have parentLeft := forest.parent_of_mem_children left
  have parentRight := forest.parent_of_mem_children right
  rw [parentLeft] at parentRight
  exact Option.some.inj parentRight

end IsForest
end Tree
end BlockSearch
