import BlockSearch.Proofs.Forest.Fields

/-!
# Edits of a forest

Every edit changes the list of children of one node at most. One lemma for each edit says
that the nodes still form a forest and what the lists of children are now.
-/

namespace BlockSearch
namespace Tree

/-! ## Subtrees -/

/-- A node lies in the subtree of another: it is that node, or its parent lies there. -/
def Holds (tree : Tree) (top i : NodeId) : Prop := Relation.ReflTransGen tree.IsParent top i

/-- A relation without cycles gets none from a new edge to a node that does not lead back. -/
theorem acyclic_of_new_edge
    {old new : NodeId → NodeId → Prop}
    {source target : NodeId}
    (edges : ∀ i j, new i j → old i j ∨ (i = source ∧ j = target))
    (acyclic : ∀ i, ¬ Relation.TransGen old i i)
    (outside : ¬ Relation.ReflTransGen old target source)
    (i : NodeId) :
    ¬ Relation.TransGen new i i := by
  -- A path of the new relation is an old one, or it passes the new edge.
  have paths : ∀ {i j}, Relation.TransGen new i j →
      Relation.TransGen old i j ∨
        (Relation.ReflTransGen old i source ∧ Relation.ReflTransGen old target j) := by
    intro i j path
    induction path with
    | single edge =>
        rcases edges _ _ edge with edge | ⟨rfl, rfl⟩
        · exact .inl (.single edge)
        · exact .inr ⟨.refl, .refl⟩
    | tail _ edge inductionHypothesis =>
        rcases edges _ _ edge with edge | ⟨rfl, rfl⟩
        · rcases inductionHypothesis with path | ⟨front, back⟩
          · exact .inl (path.tail edge)
          · exact .inr ⟨front, back.tail edge⟩
        · rcases inductionHypothesis with path | ⟨front, _⟩
          · exact .inr ⟨path.to_reflTransGen, .refl⟩
          · exact .inr ⟨front, .refl⟩
  intro cycle
  rcases paths cycle with cycle | ⟨front, back⟩
  · exact acyclic i cycle
  · exact outside (back.trans front)

/-! ## A child and those around it -/

/-- The children of a node around one of them: which they are, and how they are linked. -/
structure Around (tree : Tree) (parent i : NodeId) (front back : List NodeId) : Prop where
  /-- These are all children of the node. -/
  split : tree.children parent = front ++ i :: back
  /-- Those in front are linked up to the child. -/
  frontLinked : tree.Linked none front (some i)
  /-- The last one in front comes before the child. -/
  previous : (tree.node i).previous = front.getLast?
  /-- The first one behind comes after the child. -/
  next : (tree.node i).next = back.head?
  /-- Those behind are linked from the child on. -/
  backLinked : tree.Linked (some i) back none
  /-- None in front is listed twice. -/
  frontNodup : front.Nodup
  /-- The child is none of those in front. -/
  frontFresh : i ∉ front
  /-- The child is none of those behind. -/
  backFresh : i ∉ back
  /-- None in front is one of those behind. -/
  apart : ∀ j ∈ front, j ∉ back

theorem IsForest.around
    {tree : Tree}
    (forest : tree.IsForest)
    {parent i : NodeId}
    {front back : List NodeId}
    (split : tree.children parent = front ++ i :: back) :
    Around tree parent i front back := by
  have nodup := forest.nodup_children parent
  have linked := forest.linked parent
  rw [split] at nodup linked
  rw [linked_append, linked_cons] at linked
  obtain ⟨frontLinked, previous, next, backLinked⟩ := linked
  simp only [Option.or_none, List.head?_cons] at previous next frontLinked
  obtain ⟨frontNodup, ⟨backFresh, _⟩, apart⟩ := by
    simpa only [List.nodup_append, List.nodup_cons] using nodup
  refine ⟨split, frontLinked, previous, next, backLinked, frontNodup, ?_, backFresh, ?_⟩
  · exact fun listed => apart i listed i List.mem_cons_self rfl
  · exact fun j listed below => apart j listed j (List.mem_cons_of_mem _ below) rfl

/-- Every child has others, or none, around it. -/
theorem IsForest.exists_around
    {tree : Tree}
    (forest : tree.IsForest)
    {parent i : NodeId}
    (parentOf : (tree.node i).parent = some parent) :
    ∃ front back, Around tree parent i front back := by
  obtain ⟨front, back, split⟩ := List.append_of_mem (forest.mem_children_of_parent parentOf)
  exact ⟨front, back, forest.around split⟩

namespace Around

variable {tree : Tree} {parent i : NodeId} {front back : List NodeId}

theorem member
    (around : Around tree parent i front back) :
    i ∈ tree.children parent := by
  simp [around.split]

theorem mem_of_front
    (around : Around tree parent i front back)
    {j : NodeId}
    (listed : j ∈ front) :
    j ∈ tree.children parent := by
  simp [around.split, listed]

theorem mem_of_back
    (around : Around tree parent i front back)
    {j : NodeId}
    (listed : j ∈ back) :
    j ∈ tree.children parent := by
  simp [around.split, listed]

/-- What is no child of the node is not the one before the child. -/
theorem ne_getLast?
    (around : Around tree parent i front back)
    {j : NodeId}
    (absent : j ∉ tree.children parent) :
    some j ≠ front.getLast? := fun last =>
  absent (around.mem_of_front (List.mem_of_getLast? last.symm))

/-- What is no child of the node is not the one behind the child. -/
theorem ne_head?
    (around : Around tree parent i front back)
    {j : NodeId}
    (absent : j ∉ tree.children parent) :
    some j ≠ back.head? := fun first =>
  absent (around.mem_of_back (List.mem_of_head? first.symm))

/-- The last one in front is none of those behind, and not the child. -/
theorem back_ne_getLast?
    (around : Around tree parent i front back)
    {j : NodeId}
    (listed : j ∈ i :: back) :
    some j ≠ front.getLast? := by
  intro last
  have inFront := List.mem_of_getLast? last.symm
  rcases List.mem_cons.1 listed with rfl | behind
  · exact around.frontFresh inFront
  · exact around.apart j inFront behind

/-- The first one behind is none of those in front. -/
theorem front_ne_head?
    (around : Around tree parent i front back)
    {j : NodeId}
    (listed : j ∈ front) :
    some j ≠ back.head? := fun first =>
  around.apart j listed (List.mem_of_head? first.symm)

end Around

/-! ## Forests behind an edit -/

namespace IsForest

variable {tree other : Tree}

/-- An edit that gives one node another list of children keeps a forest a forest. -/
theorem of_change
    (forest : tree.IsForest)
    (changed : NodeId)
    (list : List NodeId)
    (linked : other.Linked none list none)
    (sameLinks : ∀ i, i ≠ changed → ∀ j ∈ tree.children i,
      (other.node j).previous = (tree.node j).previous ∧
        (other.node j).next = (tree.node j).next)
    (first : ∀ i, (other.node i).firstChild =
      if i = changed then list.head? else (tree.node i).firstChild)
    (last : ∀ i, (other.node i).lastChild =
      if i = changed then list.getLast? else (tree.node i).lastChild)
    (mem : ∀ i j, j ∈ (if i = changed then list else tree.children i) ↔
      j < other.size ∧ other.IsParent i j)
    (nodup : list.Nodup)
    (detached : ∀ i, (other.node i).parent = none →
      (other.node i).previous = none ∧ (other.node i).next = none)
    (acyclic : ∀ i, ¬ Relation.TransGen other.IsParent i i) :
    other.IsForest ∧ ∀ i, other.children i = if i = changed then list else tree.children i := by
  apply of_lists _ _ _ _ mem _ detached acyclic
  · intro i
    split
    case isTrue => exact linked
    case isFalse different => exact (forest.linked i).congr (sameLinks i different)
  · intro i
    rw [first]
    split
    case isTrue => rfl
    case isFalse => exact forest.first i
  · intro i
    rw [last]
    split
    case isTrue => rfl
    case isFalse => exact forest.last i
  · intro i
    split
    case isTrue => exact nodup
    case isFalse => exact forest.nodup_children i

/-- A new node lies in no other node and holds none. -/
theorem addNode
    (forest : tree.IsForest)
    (kind : Kind)
    (id : Option String) :
    (tree.addNode kind id).IsForest ∧
      ∀ i, (tree.addNode kind id).children i = tree.children i := by
  have empty := node_of_size_le (Nat.le_refl tree.size)
  have old : ∀ {i j}, j ∈ tree.children i → j ≠ tree.size := by
    intro i j member
    exact Nat.ne_of_lt (forest.lt_of_mem_children member)
  have parentOf : ∀ i j, (tree.addNode kind id).IsParent i j ↔ tree.IsParent i j := by
    intro i j
    rw [IsParent, IsParent, node_addNode]
    by_cases new : j = tree.size <;> simp [new, empty]
  apply of_lists tree.children
  · intro i
    apply (forest.linked i).congr
    intro j member
    simp [node_addNode, old member]
  · intro i
    by_cases new : i = tree.size
    · simp [node_addNode, new, ← forest.first, empty]
    · simp [node_addNode, new, forest.first]
  · intro i
    by_cases new : i = tree.size
    · simp [node_addNode, new, ← forest.last, empty]
    · simp [node_addNode, new, forest.last]
  · intro i j
    rw [forest.mem_children, parentOf, size_addNode]
    constructor
    · exact fun ⟨inside, parent⟩ => ⟨Nat.lt_succ_of_lt inside, parent⟩
    · exact fun ⟨_, parent⟩ => ⟨lt_of_parent parent, parent⟩
  · exact forest.nodup_children
  · intro i
    by_cases new : i = tree.size
    · simp [node_addNode, new]
    · simpa [node_addNode, new] using forest.detached i
  · intro i cycle
    refine forest.acyclic i (Relation.TransGen.mono ?_ i i cycle)
    exact fun j k edge => (parentOf j k).1 edge

/-- A node without a parent is nobody's child. -/
theorem ne_of_mem_children
    (forest : tree.IsForest)
    {i j free : NodeId}
    (parent : (tree.node free).parent = none)
    (member : j ∈ tree.children i) :
    j ≠ free := by
  rintro rfl
  have listed := forest.parent_of_mem_children member
  rw [parent] at listed
  exact absurd listed (by simp)

/-- A node without a parent is listed nowhere. -/
theorem not_mem_children
    (forest : tree.IsForest)
    {i free : NodeId}
    (parent : (tree.node free).parent = none) :
    free ∉ tree.children i := fun member => forest.ne_of_mem_children parent member rfl

/-- A child of one node is no child of another. -/
theorem not_mem_of_mem_children
    (forest : tree.IsForest)
    {i j child : NodeId}
    (different : i ≠ j)
    (member : child ∈ tree.children i) :
    child ∉ tree.children j := fun other => different (forest.eq_of_mem_children member other)

/-- Appending puts the new child at the end of the children of its parent. -/
theorem appendChild
    (forest : tree.IsForest)
    {parent child : NodeId}
    (parentInside : parent < tree.size)
    (childInside : child < tree.size)
    (free : (tree.node child).parent = none)
    (outside : ¬ tree.Holds child parent) :
    (tree.appendChild parent child).IsForest ∧
      ∀ i, (tree.appendChild parent child).children i =
        if i = parent then tree.children parent ++ [child] else tree.children i := by
  have lastInside : ∀ i, (tree.node parent).lastChild = some i → i < tree.size ∧ i ≠ child := by
    intro i last
    rw [forest.last] at last
    have member := List.mem_of_getLast? last
    exact ⟨forest.lt_of_mem_children member, forest.ne_of_mem_children free member⟩
  have node := node_appendChild parentInside childInside lastInside
  apply forest.of_change parent (tree.children parent ++ [child])
  case linked =>
    rw [linked_append]
    refine ⟨?_, ?_, ?_, trivial⟩
    · apply (forest.linked parent).change_behind (forest.nodup_children parent)
      · intro i member
        simp [node, forest.ne_of_mem_children free member]
      · intro i member notLast
        rw [← forest.last] at notLast
        simp [node, forest.ne_of_mem_children free member, Ne.symm notLast]
      · intro i last
        have member := List.mem_of_getLast? last
        rw [← forest.last] at last
        simp [node, forest.ne_of_mem_children free member, last]
    · simp [node, forest.last]
    · simp [node]
  case sameLinks =>
    intro i different j member
    have notLast : some j ≠ (tree.node parent).lastChild := by
      intro last
      rw [forest.last] at last
      have listed := List.mem_of_getLast? last.symm
      exact different (forest.eq_of_mem_children member listed)
    simp [node, forest.ne_of_mem_children free member, notLast]
  case first =>
    intro i
    by_cases changed : i = parent
    · subst changed
      cases children : tree.children i <;> simp [node, forest.last, forest.first, children]
    · simp [node, changed]
  case last =>
    intro i
    by_cases changed : i = parent <;> simp [node, changed]
  case mem =>
    intro i j
    rw [size_appendChild, IsParent, node]
    by_cases isChild : j = child
    · subst isChild
      by_cases changed : i = parent
      · simp [changed, childInside]
      · have absent : j ∉ tree.children i := fun member =>
          forest.ne_of_mem_children free member rfl
        simp [changed, Ne.symm changed, absent]
    · by_cases changed : i = parent
      · subst changed
        simpa [isChild, IsParent] using forest.mem_children
      · simpa [isChild, changed, IsParent] using forest.mem_children
  case nodup =>
    rw [List.nodup_append]
    refine ⟨forest.nodup_children parent, by simp, ?_⟩
    intro i member j isChild
    rw [List.mem_singleton.1 isChild]
    exact forest.ne_of_mem_children free member
  case detached =>
    intro i noParent
    have different : i ≠ child := by
      rintro rfl
      simp [node] at noParent
    have noParent : (tree.node i).parent = none := by simpa [node, different] using noParent
    have notLast : some i ≠ (tree.node parent).lastChild := by
      intro last
      rw [forest.last] at last
      exact forest.ne_of_mem_children noParent (List.mem_of_getLast? last.symm) rfl
    simpa [node, different, notLast] using forest.detached i noParent
  case acyclic =>
    apply acyclic_of_new_edge _ forest.acyclic outside
    intro i j edge
    rw [IsParent, node] at edge
    by_cases isChild : j = child
    · right
      simpa [isChild, eq_comm] using edge
    · left
      simpa [isChild, IsParent] using edge

/-- Inserting puts the new node right before its target. -/
theorem insertBefore
    (forest : tree.IsForest)
    {parent target new : NodeId}
    {front back : List NodeId}
    (split : tree.children parent = front ++ target :: back)
    (newInside : new < tree.size)
    (free : (tree.node new).parent = none)
    (outside : ¬ tree.Holds new target) :
    (tree.insertBefore target new).IsForest ∧
      ∀ i, (tree.insertBefore target new).children i =
        if i = parent then front ++ new :: target :: back else tree.children i := by
  have around := forest.around split
  have member := around.member
  have parentOf := forest.parent_of_mem_children member
  have newApart : ∀ {i j}, j ∈ tree.children i → j ≠ new := forest.ne_of_mem_children free
  have previousInside : ∀ i, (tree.node target).previous = some i → i < tree.size ∧ i ≠ new := by
    intro i isPrevious
    rw [around.previous] at isPrevious
    have listed := around.mem_of_front (List.mem_of_getLast? isPrevious)
    exact ⟨forest.lt_of_mem_children listed, newApart listed⟩
  have node := node_insertBefore parentOf (forest.parent_lt parentOf)
    (forest.lt_of_mem_children member) newInside (newApart member).symm previousInside
  rw [around.previous] at node
  have frontApart : ∀ i ∈ front, i ≠ target := fun i listed equal =>
    around.frontFresh (equal ▸ listed)
  apply forest.of_change parent (front ++ new :: target :: back)
  case linked =>
    rw [linked_append, linked_cons, linked_cons]
    refine ⟨?_, ?_, ?_, ?_, ?_, ?_⟩
    · apply around.frontLinked.change_behind around.frontNodup
      · intro i listed
        simp [node, frontApart i listed, newApart (around.mem_of_front listed)]
      · intro i listed notLast
        simp [node, newApart (around.mem_of_front listed), Ne.symm notLast]
      · intro i last
        simp [node, newApart (around.mem_of_front (List.mem_of_getLast? last)), last]
    · simp [node]
    · simp [node]
    · simp [node, newApart member]
    · simp [node, newApart member, around.back_ne_getLast? List.mem_cons_self, around.next]
    · apply around.backLinked.congr
      intro i listed
      have different : i ≠ target := fun equal => around.backFresh (equal ▸ listed)
      have notPrevious := around.back_ne_getLast? (List.mem_cons_of_mem _ listed)
      simp [node, newApart (around.mem_of_back listed), different, notPrevious]
  case sameLinks =>
    intro i different j listed
    have absent := forest.not_mem_of_mem_children different listed
    have notTarget : j ≠ target := fun equal => absent (equal ▸ member)
    simp [node, newApart listed, notTarget, around.ne_getLast? absent]
  case first =>
    intro i
    by_cases changed : i = parent
    · subst changed
      have firstOf := forest.first i
      rw [split] at firstOf
      cases front <;> simp_all
    · simp [node, changed]
  case last =>
    intro i
    by_cases changed : i = parent
    · subst changed
      simp [node, forest.last, split]
    · simp [node, changed]
  case mem =>
    intro i j
    rw [size_insertBefore, IsParent, node]
    by_cases isNew : j = new
    · subst isNew
      by_cases changed : i = parent
      · simp [changed, newInside]
      · simp [changed, Ne.symm changed, forest.not_mem_children free]
    · by_cases changed : i = parent
      · subst changed
        simpa [isNew, split, IsParent] using forest.mem_children (i := i)
      · simpa [isNew, changed, IsParent] using forest.mem_children
  case nodup =>
    rw [List.nodup_middle, List.nodup_cons, ← split]
    exact ⟨forest.not_mem_children free, forest.nodup_children parent⟩
  case detached =>
    intro i noParent
    have different : i ≠ new := by
      rintro rfl
      simp [node] at noParent
    have noParent : (tree.node i).parent = none := by simpa [node, different] using noParent
    have notTarget : i ≠ target := (forest.ne_of_mem_children noParent member).symm
    have notPrevious := around.ne_getLast? (forest.not_mem_children noParent)
    simpa [node, different, notTarget, notPrevious] using forest.detached i noParent
  case acyclic =>
    have parentOutside : ¬ tree.Holds new parent := fun path => outside (path.tail parentOf)
    apply acyclic_of_new_edge _ forest.acyclic parentOutside
    intro i j edge
    rw [IsParent, node] at edge
    by_cases isNew : j = new
    · right
      simpa [isNew, eq_comm] using edge
    · left
      simpa [isNew, IsParent] using edge

/-- Unlinking takes exactly one node out of the children of its parent. -/
theorem unlink
    (forest : tree.IsForest)
    {parent i : NodeId}
    {front back : List NodeId}
    (split : tree.children parent = front ++ i :: back) :
    (tree.unlink i).IsForest ∧
      ∀ j, (tree.unlink i).children j =
        if j = parent then front ++ back else tree.children j := by
  have around := forest.around split
  have member := around.member
  have parentOf := forest.parent_of_mem_children member
  have frontApart : ∀ j ∈ front, j ≠ i := fun j listed equal => around.frontFresh (equal ▸ listed)
  have backApart : ∀ j ∈ back, j ≠ i := fun j listed equal => around.backFresh (equal ▸ listed)
  have previousInside : ∀ j, (tree.node i).previous = some j → j < tree.size ∧ j ≠ i := by
    intro j isPrevious
    rw [around.previous] at isPrevious
    have listed := List.mem_of_getLast? isPrevious
    exact ⟨forest.lt_of_mem_children (around.mem_of_front listed), frontApart j listed⟩
  have nextInside : ∀ j, (tree.node i).next = some j → j < tree.size ∧ j ≠ i := by
    intro j isNext
    rw [around.next] at isNext
    have listed := List.mem_of_head? isNext
    exact ⟨forest.lt_of_mem_children (around.mem_of_back listed), backApart j listed⟩
  have node := node_unlink parentOf (forest.parent_lt parentOf) (forest.lt_of_mem_children member)
    previousInside nextInside
  rw [around.previous, around.next] at node
  apply forest.of_change parent (front ++ back)
  case linked =>
    rw [linked_append]
    constructor
    · apply around.frontLinked.change_behind around.frontNodup
      · intro j listed
        simp [node, frontApart j listed, around.front_ne_head? listed]
      · intro j listed notLast
        simp [node, frontApart j listed, Ne.symm notLast]
      · intro j last
        simp [node, frontApart j (List.mem_of_getLast? last), last]
    · cases back with
      | nil => trivial
      | cons first back =>
          have notPrevious : ∀ j ∈ first :: back, some j ≠ front.getLast? := fun j listed =>
            around.back_ne_getLast? (List.mem_cons_of_mem _ listed)
          have nodup := (split ▸ forest.nodup_children parent).of_append_right.of_cons
          apply around.backLinked.change_before
          · simp [node, backApart]
          · simp [node, backApart, notPrevious]
          · intro j listed
            have notFirst : j ≠ first := fun equal => (List.nodup_cons.1 nodup).1 (equal ▸ listed)
            have below : j ∈ first :: back := List.mem_cons_of_mem _ listed
            simp [node, backApart j below, notPrevious j below, notFirst]
  case sameLinks =>
    intro j different k listed
    have absent := forest.not_mem_of_mem_children different listed
    have notNode : k ≠ i := fun equal => absent (equal ▸ member)
    simp [node, notNode, around.ne_getLast? absent, around.ne_head? absent]
  case first =>
    intro j
    by_cases changed : j = parent
    · subst changed
      have firstOf := forest.first j
      rw [split] at firstOf
      cases front <;> simp_all
    · simp [node, changed]
  case last =>
    intro j
    by_cases changed : j = parent
    · subst changed
      have lastOf := forest.last j
      rw [split] at lastOf
      have lastOfCons : (i :: back).getLast? = some (back.getLast?.getD i) := List.getLast?_cons
      cases last : back.getLast? with
      | none => simp_all
      | some last =>
          have notEmpty : back ≠ [] := by
            rintro rfl
            simp at last
          simp_all
    · simp [node, changed]
  case mem =>
    intro j k
    rw [size_unlink, IsParent, node]
    by_cases isNode : k = i
    · subst isNode
      by_cases changed : j = parent
      · simp [changed, around.frontFresh, around.backFresh]
      · simp [changed, forest.not_mem_of_mem_children (Ne.symm changed) member]
    · by_cases changed : j = parent
      · subst changed
        simpa [isNode, split, IsParent] using forest.mem_children (i := j) (j := k)
      · simpa [isNode, changed, IsParent] using forest.mem_children
  case nodup =>
    have nodup := forest.nodup_children parent
    rw [split] at nodup
    exact nodup.sublist (List.Sublist.append_left (List.sublist_cons_self i back) front)
  case detached =>
    intro j noParent
    by_cases isNode : j = i
    · simp [node, isNode]
    · have noParent : (tree.node j).parent = none := by simpa [node, isNode] using noParent
      have absent : j ∉ tree.children parent := forest.not_mem_children noParent
      simpa [node, isNode, around.ne_getLast? absent, around.ne_head? absent] using
        forest.detached j noParent
  case acyclic =>
    intro j cycle
    refine forest.acyclic j (Relation.TransGen.mono ?_ j j cycle)
    intro k l edge
    rw [IsParent, node] at edge
    by_cases isNode : l = i
    · simp [isNode] at edge
    · simpa [isNode, IsParent] using edge

end IsForest

/-- Unlinking a node without links changes nothing. -/
theorem unlink_of_detached
    {tree : Tree}
    {i : NodeId}
    (parent : (tree.node i).parent = none)
    (previous : (tree.node i).previous = none)
    (next : (tree.node i).next = none) :
    tree.unlink i = tree := by
  have same : tree.nodes.modify i (fun node =>
      { node with parent := none, previous := none, next := none }) = tree.nodes := by
    apply Array.ext (by simp)
    intro j inside _
    rw [Array.getElem_modify]
    split
    case isFalse => rfl
    case isTrue isNode =>
      subst isNode
      have found : tree.node i = tree.nodes[i] := by
        simp only [Array.size_modify] at inside
        simp [node, inside]
      rw [found] at parent previous next
      generalize tree.nodes[i] = node at parent previous next
      cases node
      simp_all
  simp [unlink, parent, previous, next, modify, same]

/-! ## New nodes -/

/-- A document without content is a forest. -/
theorem isForest_new (id box path hpath : String) : (Tree.new id box path hpath).IsForest := by
  have node : ∀ i, (Tree.new id box path hpath).node i =
      { kind := .document, id := if i = 0 then some id else none } := by
    intro i
    cases i <;> simp [Tree.node, Tree.new]
  refine (IsForest.of_lists (fun _ => []) ?_ ?_ ?_ ?_ ?_ ?_ ?_).1
  · exact fun _ => trivial
  · simp [node]
  · simp [node]
  · simp [node, IsParent]
  · simp
  · simp [node]
  · intro i cycle
    obtain ⟨j, _, edge⟩ := Relation.TransGen.tail'_iff.1 cycle
    simp [IsParent, node] at edge

/-- A node that has just been added is detached and holds nothing but itself. -/
theorem not_holds_addNode
    {tree : Tree}
    (forest : tree.IsForest)
    {i : NodeId}
    (inside : i < tree.size)
    (kind : Kind)
    (id : Option String) :
    ¬ (tree.addNode kind id).Holds tree.size i := by
  intro path
  rcases Relation.ReflTransGen.cases_head path with same | ⟨j, edge, _⟩
  · exact absurd same.symm (Nat.ne_of_lt inside)
  · obtain ⟨grown, children⟩ := forest.addNode kind id
    have member := grown.mem_children_of_parent edge
    rw [children] at member
    exact absurd (forest.parent_lt (forest.parent_of_mem_children member)) (Nat.lt_irrefl _)

end Tree
end BlockSearch
