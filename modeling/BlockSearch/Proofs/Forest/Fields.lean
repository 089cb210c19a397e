import BlockSearch.Proofs.Forest.Basic

/-!
# Nodes behind an edit

What every field of every node is when a node has been appended, inserted or unlinked, as
one equation for each edit. The kind, the identifier and the attributes of a node are its
payload; edits leave them alone.
-/

namespace BlockSearch

/-- What a node holds, without its links. -/
def Node.payload (node : Node) : Kind × Option String × List (String × String) :=
  (node.kind, node.id, node.attributes)

namespace Tree

/-! ## Fields -/

theorem node_appendChild
    {tree : Tree}
    {parent child : NodeId}
    (parentInside : parent < tree.size)
    (childInside : child < tree.size)
    (lastInside : ∀ i, (tree.node parent).lastChild = some i → i < tree.size ∧ i ≠ child)
    (j : NodeId) :
    (tree.appendChild parent child).node j =
      { tree.node j with
        parent := if j = child then some parent else (tree.node j).parent
        previous :=
          if j = child then (tree.node parent).lastChild else (tree.node j).previous
        next :=
          if j = child then none
          else if some j = (tree.node parent).lastChild then some child
          else (tree.node j).next
        firstChild :=
          if j = parent ∧ (tree.node parent).lastChild = none then some child
          else (tree.node j).firstChild
        lastChild := if j = parent then some child else (tree.node j).lastChild } := by
  cases last : (tree.node parent).lastChild with
  | none =>
      simp only [appendChild, last, node_modify, size_modify, parentInside, childInside]
      by_cases isChild : j = child <;> by_cases isParent : j = parent <;> simp_all
  | some i =>
      obtain ⟨iInside, different⟩ := lastInside i last
      simp only [appendChild, last, node_modify, size_modify, parentInside, childInside, iInside]
      by_cases isChild : j = child <;> by_cases isParent : j = parent <;>
        by_cases isLast : j = i <;> simp_all

theorem node_insertBefore
    {tree : Tree}
    {parent target new : NodeId}
    (parentOf : (tree.node target).parent = some parent)
    (parentInside : parent < tree.size)
    (targetInside : target < tree.size)
    (newInside : new < tree.size)
    (different : new ≠ target)
    (previousInside : ∀ i, (tree.node target).previous = some i → i < tree.size ∧ i ≠ new)
    (j : NodeId) :
    (tree.insertBefore target new).node j =
      { tree.node j with
        parent := if j = new then some parent else (tree.node j).parent
        previous :=
          if j = new then (tree.node target).previous
          else if j = target then some new
          else (tree.node j).previous
        next :=
          if j = new then some target
          else if some j = (tree.node target).previous then some new
          else (tree.node j).next
        firstChild :=
          if j = parent ∧ (tree.node target).previous = none then some new
          else (tree.node j).firstChild } := by
  cases previous : (tree.node target).previous with
  | none =>
      simp only [insertBefore, previous, parentOf, node_modify, size_modify, parentInside,
        targetInside, newInside]
      by_cases isNew : j = new <;> by_cases isTarget : j = target <;>
        by_cases isParent : j = parent <;> simp_all
  | some i =>
      obtain ⟨iInside, distinct⟩ := previousInside i previous
      simp only [insertBefore, previous, parentOf, node_modify, size_modify, iInside,
        targetInside, newInside]
      by_cases isNew : j = new <;> by_cases isTarget : j = target <;>
        by_cases isPrevious : j = i <;> simp_all

theorem node_unlink
    {tree : Tree}
    {parent i : NodeId}
    (parentOf : (tree.node i).parent = some parent)
    (parentInside : parent < tree.size)
    (inside : i < tree.size)
    (previousInside : ∀ j, (tree.node i).previous = some j → j < tree.size ∧ j ≠ i)
    (nextInside : ∀ j, (tree.node i).next = some j → j < tree.size ∧ j ≠ i)
    (j : NodeId) :
    (tree.unlink i).node j =
      { tree.node j with
        parent := if j = i then none else (tree.node j).parent
        previous :=
          if j = i then none
          else if some j = (tree.node i).next then (tree.node i).previous
          else (tree.node j).previous
        next :=
          if j = i then none
          else if some j = (tree.node i).previous then (tree.node i).next
          else (tree.node j).next
        firstChild :=
          if j = parent ∧ (tree.node i).previous = none then (tree.node i).next
          else (tree.node j).firstChild
        lastChild :=
          if j = parent ∧ (tree.node i).next = none then (tree.node i).previous
          else (tree.node j).lastChild } := by
  cases previous : (tree.node i).previous with
  | none =>
      cases next : (tree.node i).next with
      | none =>
          simp only [unlink, previous, next, parentOf, node_modify, size_modify, parentInside,
            inside]
          by_cases isNode : j = i <;> by_cases isParent : j = parent <;> simp_all
      | some k =>
          obtain ⟨nextInside, nextDifferent⟩ := nextInside k next
          simp only [unlink, previous, next, parentOf, node_modify, size_modify, parentInside,
            inside, nextInside]
          by_cases isNode : j = i <;> by_cases isParent : j = parent <;>
            by_cases isNext : j = k <;> simp_all
  | some k =>
      obtain ⟨previousInside, previousDifferent⟩ := previousInside k previous
      cases next : (tree.node i).next with
      | none =>
          simp only [unlink, previous, next, parentOf, node_modify, size_modify, parentInside,
            inside, previousInside]
          by_cases isNode : j = i <;> by_cases isParent : j = parent <;>
            by_cases isPrevious : j = k <;> simp_all
      | some l =>
          obtain ⟨nextInside, nextDifferent⟩ := nextInside l next
          simp only [unlink, previous, next, parentOf, node_modify, size_modify, inside,
            previousInside, nextInside]
          by_cases isNode : j = i <;> by_cases isPrevious : j = k <;>
            by_cases isNext : j = l <;> simp_all

/-! ## Sizes -/

@[simp] theorem size_appendChild
    (tree : Tree)
    (parent child : NodeId) :
    (tree.appendChild parent child).size = tree.size := by
  cases last : (tree.node parent).lastChild <;> simp [appendChild, last]

@[simp] theorem size_insertBefore
    (tree : Tree)
    (target new : NodeId) :
    (tree.insertBefore target new).size = tree.size := by
  cases previous : (tree.node target).previous <;> cases parent : (tree.node target).parent <;>
    simp [insertBefore, previous, parent]

@[simp] theorem size_unlink
    (tree : Tree)
    (i : NodeId) :
    (tree.unlink i).size = tree.size := by
  cases previous : (tree.node i).previous <;> cases next : (tree.node i).next <;>
    cases parent : (tree.node i).parent <;> simp [unlink, previous, next, parent]

/-! ## Payloads -/

/-- A change of links keeps all payloads. -/
theorem payload_modify
    {change : Node → Node}
    (keeps : ∀ node, (change node).payload = node.payload)
    (tree : Tree)
    (i j : NodeId) :
    ((tree.modify i change).node j).payload = (tree.node j).payload :=
  field_modify Node.payload keeps tree i j

theorem payload_appendChild
    (tree : Tree)
    (parent child j : NodeId) :
    ((tree.appendChild parent child).node j).payload = (tree.node j).payload := by
  cases last : (tree.node parent).lastChild <;>
    simp only [appendChild, last] <;>
    repeat rw [payload_modify]
  all_goals exact fun _ => rfl

theorem payload_insertBefore
    (tree : Tree)
    (target new j : NodeId) :
    ((tree.insertBefore target new).node j).payload = (tree.node j).payload := by
  cases previous : (tree.node target).previous <;>
    cases parent : (tree.node target).parent <;>
    simp only [insertBefore, previous, parent] <;>
    repeat rw [payload_modify]
  all_goals exact fun _ => rfl

theorem payload_unlink
    (tree : Tree)
    (i j : NodeId) :
    ((tree.unlink i).node j).payload = (tree.node j).payload := by
  cases previous : (tree.node i).previous <;> cases next : (tree.node i).next <;>
    cases parent : (tree.node i).parent <;>
    simp only [unlink, previous, next, parent] <;>
    repeat rw [payload_modify]
  all_goals exact fun _ => rfl

end Tree
end BlockSearch
