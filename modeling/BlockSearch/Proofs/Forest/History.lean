import BlockSearch.Proofs.Forest.Edit

/-!
# Histories of edits

A tree that begins as an empty document and is edited any number of times is an ordered
forest, provided that only detached nodes are linked and none is put below itself. Every edit
then has its effect on one list of children and on nothing else.
-/

namespace BlockSearch
namespace Tree

/-- A structural edit of a tree. -/
inductive Edit
  /-- Add a detached node. -/
  | addNode (kind : Kind) (id : Option String)
  /-- Add a node as the last child of a parent. -/
  | appendNew (parent : NodeId) (kind : Kind) (id : Option String)
  /-- Make a detached node the last child of a parent. -/
  | appendChild (parent child : NodeId)
  /-- Put a detached node right before another. -/
  | insertBefore (target new : NodeId)
  /-- Take a node out of its parent. -/
  | unlink (i : NodeId)

namespace Edit

/-- The tree behind an edit. -/
def run (tree : Tree) : Edit → Tree
  | addNode kind id => tree.addNode kind id
  | appendNew parent kind id => tree.appendNew parent kind id
  | appendChild parent child => tree.appendChild parent child
  | insertBefore target new => tree.insertBefore target new
  | unlink i => tree.unlink i

/--
Whether an edit may be made: its nodes are nodes of the tree, a node that is linked is
detached, the place where it goes lies outside its subtree, and a target has a parent.
-/
def Allowed (tree : Tree) : Edit → Prop
  | addNode _ _ => True
  | appendNew parent _ _ => parent < tree.size
  | appendChild parent child =>
      parent < tree.size ∧ child < tree.size ∧ (tree.node child).parent = none ∧
        ¬ tree.Holds child parent
  | insertBefore target new =>
      new < tree.size ∧ (tree.node new).parent = none ∧ (tree.node target).parent ≠ none ∧
        ¬ tree.Holds new target
  | unlink i => i < tree.size

/-- What an edit does to the lists of children. -/
def Effect (before after : Tree) : Edit → Prop
  | addNode _ _ => ∀ i, after.children i = before.children i
  | appendNew parent _ _ =>
      after.children parent = before.children parent ++ [before.size] ∧
        ∀ i, i ≠ parent → after.children i = before.children i
  | appendChild parent child =>
      after.children parent = before.children parent ++ [child] ∧
        ∀ i, i ≠ parent → after.children i = before.children i
  | insertBefore target new =>
      ∃ parent front back,
        (before.node target).parent = some parent ∧
        before.children parent = front ++ target :: back ∧
        after.children parent = front ++ new :: target :: back ∧
        ∀ i, i ≠ parent → after.children i = before.children i
  | unlink i => ∀ j, after.children j = (before.children j).erase i

/-- The payloads of the nodes that an edit adds. -/
def added : Edit → List (Kind × Option String × List (String × String))
  | addNode kind id => [(kind, id, [])]
  | appendNew _ kind id => [(kind, id, [])]
  | appendChild _ _ | insertBefore _ _ | unlink _ => []

end Edit

/-- The payloads of all nodes, reachable or not, in the order of their places. -/
def payloads (tree : Tree) : List (Kind × Option String × List (String × String)) :=
  (List.range tree.size).map fun i => (tree.node i).payload

/-- The trees that allowed edits lead to from an empty document. -/
inductive Built : Tree → Prop
  /-- An empty document. -/
  | new (id box path hpath : String) : Built (Tree.new id box path hpath)
  /-- An edit that may be made. -/
  | edit {tree : Tree} (edit : Edit) : Built tree → edit.Allowed tree → Built (edit.run tree)

theorem Built.appendNew
    {tree : Tree}
    (built : tree.Built)
    {parent : NodeId}
    (inside : parent < tree.size)
    (kind : Kind)
    (id : Option String) :
    (tree.appendNew parent kind id).Built := .edit (.appendNew parent kind id) built inside

theorem Built.unlink
    {tree : Tree}
    (built : tree.Built)
    {i : NodeId}
    (inside : i < tree.size) :
    (tree.unlink i).Built := .edit (.unlink i) built inside

/-! ## One edit -/

/-- An allowed edit keeps a forest a forest and has its effect on the lists of children. -/
theorem Edit.run_of_allowed
    {tree : Tree}
    (forest : tree.IsForest)
    (edit : Edit)
    (allowed : edit.Allowed tree) :
    (edit.run tree).IsForest ∧ edit.Effect tree (edit.run tree) := by
  cases edit with
  | addNode kind id => exact forest.addNode kind id
  | appendNew parent kind id =>
      obtain ⟨grown, same⟩ := forest.addNode kind id
      obtain ⟨result, children⟩ := grown.appendChild
        (by simpa using Nat.lt_succ_of_lt allowed) (by simp) (by simp [node_addNode])
        (not_holds_addNode forest allowed kind id)
      refine ⟨result, ?_, ?_⟩
      · rw [run, Tree.appendNew, children, if_pos rfl, same]
      · intro i different
        rw [run, Tree.appendNew, children, if_neg different, same]
  | appendChild parent child =>
      obtain ⟨parentInside, childInside, free, outside⟩ := allowed
      obtain ⟨result, children⟩ := forest.appendChild parentInside childInside free outside
      refine ⟨result, ?_, ?_⟩
      · rw [run, children, if_pos rfl]
      · intro i different
        rw [run, children, if_neg different]
  | insertBefore target new =>
      obtain ⟨newInside, free, hasParent, outside⟩ := allowed
      obtain ⟨parent, parentOf⟩ := Option.ne_none_iff_exists'.1 hasParent
      obtain ⟨front, back, around⟩ := forest.exists_around parentOf
      obtain ⟨result, children⟩ := forest.insertBefore around.split newInside free outside
      refine ⟨result, parent, front, back, parentOf, around.split, ?_, ?_⟩
      · rw [run, children, if_pos rfl]
      · intro i different
        rw [run, children, if_neg different]
  | unlink i =>
      cases parentOf : (tree.node i).parent with
      | none =>
          obtain ⟨previous, next⟩ := forest.detached i parentOf
          rw [run, unlink_of_detached parentOf previous next]
          refine ⟨forest, fun j => (List.erase_of_not_mem fun member => ?_).symm⟩
          exact forest.ne_of_mem_children parentOf member rfl
      | some parent =>
          obtain ⟨front, back, around⟩ := forest.exists_around parentOf
          obtain ⟨result, children⟩ := forest.unlink around.split
          refine ⟨result, fun j => ?_⟩
          rw [run, children]
          by_cases changed : j = parent
          · rw [if_pos changed, changed, around.split,
              List.erase_append_right _ around.frontFresh, List.erase_cons_head]
          · have absent : i ∉ tree.children j := fun member =>
              changed (forest.eq_of_mem_children member (forest.mem_children_of_parent parentOf))
            rw [if_neg changed, List.erase_of_not_mem absent]

/-- Edits that add no node keep the list of payloads. -/
theorem payloads_congr
    {tree other : Tree}
    (size : other.size = tree.size)
    (same : ∀ i, (other.node i).payload = (tree.node i).payload) :
    other.payloads = tree.payloads := by
  simp only [payloads, size, same]

theorem payloads_addNode
    (tree : Tree)
    (kind : Kind)
    (id : Option String) :
    (tree.addNode kind id).payloads = tree.payloads ++ [(kind, id, [])] := by
  simp only [payloads, size_addNode, List.range_succ, List.map_append, List.map_cons,
    List.map_nil]
  congr 1
  · apply List.map_congr_left
    intro i inside
    rw [node_addNode, if_neg (Nat.ne_of_lt (List.mem_range.1 inside))]
  · rw [node_addNode, if_pos rfl]
    rfl

/-- An edit changes no payload, and adds those of its new nodes at the end. -/
theorem Edit.payloads_run
    (tree : Tree)
    (edit : Edit) :
    (edit.run tree).payloads = tree.payloads ++ edit.added := by
  cases edit with
  | addNode kind id => exact payloads_addNode tree kind id
  | appendNew parent kind id =>
      rw [run, Tree.appendNew, added, ← payloads_addNode]
      exact payloads_congr (size_appendChild _ _ _) (payload_appendChild _ _ _)
  | appendChild parent child =>
      rw [run, added, List.append_nil]
      exact payloads_congr (size_appendChild _ _ _) (payload_appendChild _ _ _)
  | insertBefore target new =>
      rw [run, added, List.append_nil]
      exact payloads_congr (size_insertBefore _ _ _) (payload_insertBefore _ _ _)
  | unlink i =>
      rw [run, added, List.append_nil]
      exact payloads_congr (size_unlink _ _) (payload_unlink _ _)

/-! ## Histories -/

/-- The links to the next and to the previous sibling are inverse to each other. -/
theorem IsForest.next_eq_some_iff
    {tree : Tree}
    (forest : tree.IsForest)
    {i j : NodeId} :
    (tree.node i).next = some j ↔ (tree.node j).previous = some i := by
  constructor
  · intro next
    have hasParent : (tree.node i).parent ≠ none := fun free => by
      simp [(forest.detached i free).2] at next
    obtain ⟨parent, parentOf⟩ := Option.ne_none_iff_exists'.1 hasParent
    obtain ⟨front, back, around⟩ := forest.exists_around parentOf
    obtain ⟨back, rfl⟩ := List.head?_eq_some_iff.1 (around.next.symm.trans next)
    exact around.backLinked.1
  · intro previous
    have hasParent : (tree.node j).parent ≠ none := fun free => by
      simp [(forest.detached j free).1] at previous
    obtain ⟨parent, parentOf⟩ := Option.ne_none_iff_exists'.1 hasParent
    obtain ⟨front, back, around⟩ := forest.exists_around parentOf
    obtain ⟨front, rfl⟩ := List.getLast?_eq_some_iff.1 (around.previous.symm.trans previous)
    have linked := around.frontLinked
    rw [linked_append, linked_cons] at linked
    exact linked.2.2.1

/-- Every tree that allowed edits lead to is a forest. -/
theorem Built.isForest
    {tree : Tree}
    (built : tree.Built) :
    tree.IsForest := by
  induction built with
  | new id box path hpath => exact isForest_new id box path hpath
  | edit edit _ allowed inductionHypothesis =>
      exact (edit.run_of_allowed inductionHypothesis allowed).1

/--
A tree with any history of allowed edits is an ordered forest whose sibling links are inverse
to each other, and every edit that may be made next has exactly its effect on the lists of
children and changes no payload.
-/
theorem Built.ordered_forest_with_exact_edits
    {tree : Tree}
    (built : tree.Built) :
    tree.IsForest ∧
      (∀ i j, (tree.node i).next = some j ↔ (tree.node j).previous = some i) ∧
      ∀ edit : Edit, edit.Allowed tree →
        edit.Effect tree (edit.run tree) ∧
          (edit.run tree).payloads = tree.payloads ++ edit.added := by
  have forest := built.isForest
  refine ⟨forest, fun i j => forest.next_eq_some_iff, fun edit allowed => ?_⟩
  exact ⟨(edit.run_of_allowed forest allowed).2, edit.payloads_run tree⟩

/-- Two children are appended to a document, and unlinking the first leaves the second. -/
theorem Built.two_children_unlink_first :
    let tree := ((Tree.new "d" "b" "/d.sy" "/D").appendNew 0 .paragraph (some "p")).appendNew 0
      .list (some "l")
    tree.Built ∧ tree.IsForest ∧ (tree.unlink 1).children 0 = [2] := by
  have built := ((Built.new "d" "b" "/d.sy" "/D").appendNew (by decide : 0 < _) .paragraph
    (some "p")).appendNew (by decide : 0 < _) .list (some "l")
  obtain ⟨forest, _, effects⟩ := built.ordered_forest_with_exact_edits
  refine ⟨built, forest, ?_⟩
  have unlinked := (effects (.unlink 1) (Nat.one_lt_succ_succ 1)).1 0
  exact unlinked.trans (by decide)

end Tree
end BlockSearch
