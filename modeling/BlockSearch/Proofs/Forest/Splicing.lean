import BlockSearch.Edit.Highlight
import BlockSearch.Proofs.Forest.Growth
import BlockSearch.Proofs.Forest.History

/-!
# Nodes that are put in and taken out in a row

New nodes that are put before a node one after the other stand there in order, nodes that are
taken out are missing among the children of all nodes, and nothing else has changed. So when the
node itself is taken out, with some right behind it, the new nodes stand in their place.

New text, marks and span attributes can be put before nodes that lie in a tree. However many are put
in, the nodes that were there before keep what they hold, the nodes they lie in and their order.
-/

namespace BlockSearch

/-- Whether a node is text, a mark, or the attributes of one. -/
def Kind.isSpan : Kind → Bool
  | .text _ | .textMark _ | .spanAttributes _ => true
  | _ => false

theorem Kind.isBlock_of_isSpan
    {kind : Kind}
    (span : kind.isSpan = true) :
    kind.isBlock = false := by
  cases kind with
  | text | textMark | spanAttributes => rfl
  | _ => contradiction

namespace Tree

/-- The children of a node are what names it as the node that it lies in. -/
theorem IsForest.parent_eq_some_iff
    {tree : Tree}
    (forest : tree.IsForest)
    {i j : NodeId} :
    (tree.node j).parent = some i ↔ j ∈ tree.children i :=
  ⟨forest.mem_children_of_parent, forest.parent_of_mem_children⟩

/-- A new node right before another one that lies in a node, and nothing else, is new. -/
theorem IsForest.insertNew
    {tree : Tree}
    (forest : tree.IsForest)
    {parent target : NodeId}
    {front back : List NodeId}
    (split : tree.children parent = front ++ target :: back)
    (kind : Kind)
    (attributes : List (String × String)) :
    (tree.insertNew target kind attributes).IsForest ∧
      (tree.insertNew target kind attributes).size = tree.size + 1 ∧
      (∀ i, i < tree.size →
        ((tree.insertNew target kind attributes).node i).payload = (tree.node i).payload) ∧
      ((tree.insertNew target kind attributes).node tree.size).payload =
        (kind, none, attributes) ∧
      ∀ i, (tree.insertNew target kind attributes).children i =
        if i = parent then front ++ tree.size :: target :: back else tree.children i := by
  obtain ⟨added, size, node, addedChildren, outside⟩ :=
    forest.addNode_attributes kind none attributes
  have inside : target < tree.size := forest.lt_of_mem_children (forest.around split).member
  rw [← addedChildren] at split
  obtain ⟨grown, children⟩ := added.insertBefore split (by simp) (by rw [node, if_pos rfl])
    (outside target inside)
  refine ⟨grown, by simp [Tree.insertNew], ?_, ?_, ?_⟩
  · intro i old
    rw [Tree.insertNew, payload_insertBefore, node, if_neg (Nat.ne_of_lt old)]
  · rw [Tree.insertNew, payload_insertBefore, node, if_pos rfl]
    rfl
  · intro i
    rw [Tree.insertNew, children, addedChildren]

/-! ## Trees with more nodes between those that they had -/

/--
A tree has got new text, marks and span attributes, all beside nodes that it had before. The
old nodes keep what they hold and are still the children of the same nodes, in their order.
-/
structure Interspersed (tree other : Tree) : Prop where
  /-- The nodes still form a forest. -/
  forest : other.IsForest
  /-- No node is lost. -/
  larger : tree.size ≤ other.size
  /-- Every old node holds what it held. -/
  payload : ∀ i, i < tree.size → (other.node i).payload = (tree.node i).payload
  /-- The old ones among the children of a node are the children that it had. -/
  children : ∀ i, (other.children i).filter (fun j => decide (j < tree.size)) = tree.children i
  /-- A node without children gets none. -/
  empty : ∀ i, tree.children i = [] → other.children i = []
  /-- Every new node is text, a mark, or the attributes of one. -/
  span : ∀ i, tree.size ≤ i → i < other.size → (other.kind i).isSpan = true

namespace Interspersed

variable {tree other third : Tree}

theorem refl
    (forest : tree.IsForest) :
    Interspersed tree tree where
  forest := forest
  larger := Nat.le_refl _
  payload _ _ := rfl
  children i := List.filter_eq_self.2 fun j member => by
    simpa using forest.lt_of_mem_children member
  empty _ none := none
  span i outside inside := absurd inside (Nat.not_lt.2 outside)

theorem kind
    (interspersed : Interspersed tree other)
    {i : NodeId}
    (inside : i < tree.size) :
    other.kind i = tree.kind i := congrArg (·.1) (interspersed.payload i inside)

theorem trans
    (first : Interspersed tree other)
    (second : Interspersed other third) :
    Interspersed tree third where
  forest := second.forest
  larger := first.larger.trans second.larger
  payload i inside :=
    (second.payload i (Nat.lt_of_lt_of_le inside first.larger)).trans (first.payload i inside)
  children i := by
    -- What was there at first was still there when the second nodes came.
    have both : (fun j => decide (j < tree.size)) =
        fun j => decide (j < tree.size) && decide (j < other.size) := by
      funext j
      by_cases old : j < tree.size
      · simp [old, Nat.lt_of_lt_of_le old first.larger]
      · simp [old]
    rw [← first.children i, ← second.children i, List.filter_filter, ← both]
  empty i none := second.empty i (first.empty i none)
  span i outside inside := by
    by_cases old : i < other.size
    · rw [second.kind old]
      exact first.span i outside old
    · exact second.span i (Nat.le_of_not_lt old) inside

/-- Old nodes lie where they lay. -/
theorem parent
    (interspersed : Interspersed tree other)
    (forest : tree.IsForest)
    {i : NodeId}
    (inside : i < tree.size) :
    (other.node i).parent = (tree.node i).parent := by
  apply Option.ext
  intro above
  rw [interspersed.forest.parent_eq_some_iff, forest.parent_eq_some_iff,
    ← interspersed.children above, List.mem_filter]
  simp [inside]

/-- A child is one of the children that a node had, or it is new. -/
theorem mem_children
    (interspersed : Interspersed tree other)
    {i j : NodeId}
    (member : j ∈ other.children i) :
    j ∈ tree.children i ∨
      (tree.size ≤ j ∧ (other.kind j).isSpan = true ∧ other.children j = []) := by
  by_cases old : j < tree.size
  · left
    rw [← interspersed.children i, List.mem_filter]
    exact ⟨member, by simpa using old⟩
  · right
    have outside := Nat.le_of_not_lt old
    exact ⟨outside, interspersed.span j outside (interspersed.forest.lt_of_mem_children member),
      interspersed.empty j (children_of_size_le outside)⟩

/-- One new node before a node that lies in another. -/
theorem insertNew
    (forest : tree.IsForest)
    {target : NodeId}
    (lies : (tree.node target).parent ≠ none)
    {kind : Kind}
    (span : kind.isSpan = true)
    (attributes : List (String × String)) :
    Interspersed tree (tree.insertNew target kind attributes) := by
  obtain ⟨parent, parentOf⟩ := Option.ne_none_iff_exists'.1 lies
  obtain ⟨front, back, around⟩ := forest.exists_around parentOf
  obtain ⟨grown, size, payload, newPayload, children⟩ :=
    forest.insertNew around.split kind attributes
  have old : ∀ {i}, ∀ j ∈ tree.children i, decide (j < tree.size) = true := fun j member => by
    simpa using forest.lt_of_mem_children member
  refine ⟨grown, by omega, payload, fun i => ?_, fun i none => ?_, fun i outside inside => ?_⟩
  · rw [children]
    split_ifs with here
    · subst here
      have before := List.filter_eq_self.2 (old (i := i))
      rw [around.split] at before ⊢
      simpa using before
    · exact List.filter_eq_self.2 old
  · rw [children]
    split_ifs with here
    · rw [here, around.split] at none
      simp at none
    · exact none
  · have last : i = tree.size := by omega
    rw [last, Tree.kind, show (Node.kind _) = kind from congrArg (·.1) newPayload]
    exact span

end Interspersed

/-! ## Several new nodes before one -/

/-- What a new node is, and its attributes. -/
abbrev Entry := Kind × List (String × String)

/-- What a node with the entry holds. -/
def Entry.payload (entry : Entry) : Kind × Option String × List (String × String) :=
  (entry.1, none, entry.2)

/-- Put new nodes right before another one, in order. -/
def insertAll (target : NodeId) (tree : Tree) (entries : List Entry) : Tree :=
  entries.foldl (fun tree entry => tree.insertNew target entry.1 entry.2) tree

/-- A node, and new nodes before it if it is the target. -/
def putBefore (target : NodeId) (new : List NodeId) (i : NodeId) : List NodeId :=
  if i = target then new ++ [i] else [i]

section PutBefore

variable {target : NodeId} {nodes : List NodeId}

theorem flatMap_putBefore_of_not_mem
    (absent : target ∉ nodes)
    (new : List NodeId) :
    nodes.flatMap (putBefore target new) = nodes := by
  have same : ∀ i ∈ nodes, putBefore target new i = [i] := fun i member =>
    if_neg (ne_of_mem_of_not_mem member absent)
  rw [List.flatMap_congr same, List.flatMap_singleton']

theorem flatMap_putBefore_append_cons
    {front back : List NodeId}
    (frontFresh : target ∉ front)
    (backFresh : target ∉ back)
    (new : List NodeId) :
    (front ++ target :: back).flatMap (putBefore target new) = front ++ (new ++ target :: back) := by
  rw [List.flatMap_append, List.flatMap_cons, flatMap_putBefore_of_not_mem frontFresh,
    flatMap_putBefore_of_not_mem backFresh, putBefore, if_pos rfl, List.append_assoc]
  rfl

/-- New nodes that are put before the target later stand behind those that are there already. -/
theorem flatMap_putBefore_putBefore
    {first : List NodeId}
    (fresh : target ∉ first)
    (second nodes : List NodeId) :
    (nodes.flatMap (putBefore target first)).flatMap (putBefore target second) =
      nodes.flatMap (putBefore target (first ++ second)) := by
  rw [List.flatMap_assoc]
  refine List.flatMap_congr fun i _ => ?_
  by_cases here : i = target
  · rw [here, putBefore, if_pos rfl, flatMap_putBefore_append_cons fresh (by simp), putBefore,
      if_pos rfl, List.append_assoc]
  · rw [putBefore, if_neg here, putBefore, if_neg here, List.flatMap_singleton, putBefore,
      if_neg here]

end PutBefore

/-- New nodes have been put right before another one, and nothing else has changed. -/
structure Preceded (tree other : Tree) (target : NodeId) (entries : List Entry) : Prop where
  /-- The nodes still form a forest. -/
  forest : other.IsForest
  /-- The new nodes are the last ones of the array. -/
  size : other.size = tree.size + entries.length
  /-- Every old node holds what it held. -/
  payload : ∀ i, i < tree.size → (other.node i).payload = (tree.node i).payload
  /-- The new nodes hold the entries. -/
  added : (List.range' tree.size entries.length).map (fun i => (other.node i).payload) =
    entries.map Entry.payload
  /-- The new nodes stand before the target. -/
  children : ∀ i, other.children i =
    (tree.children i).flatMap (putBefore target (List.range' tree.size entries.length))

namespace Preceded

variable {tree other third : Tree} {target : NodeId} {first second : List Entry}

theorem kind
    (preceded : Preceded tree other target first)
    {i : NodeId}
    (old : i < tree.size) :
    other.kind i = tree.kind i := congrArg (·.1) (preceded.payload i old)

theorem size_le (preceded : Preceded tree other target first) : tree.size ≤ other.size :=
  preceded.size ▸ Nat.le_add_right _ _

theorem refl
    (forest : tree.IsForest)
    (target : NodeId) :
    Preceded tree tree target [] := by
  refine ⟨forest, rfl, fun _ _ => rfl, rfl, fun i => ?_⟩
  have same : putBefore target [] = fun i => [i] := by
    funext i
    exact ite_self _
  rw [List.length_nil, List.range'_zero, same, List.flatMap_singleton']

/-- Nodes that are put in later stand behind those that were put in before. -/
theorem trans
    (inside : target < tree.size)
    (before : Preceded tree other target first)
    (later : Preceded other third target second) :
    Preceded tree third target (first ++ second) := by
  have sizes := before.size
  have both : List.range' tree.size (first ++ second).length =
      List.range' tree.size first.length ++ List.range' other.size second.length := by
    rw [sizes, List.range'_append_1, List.length_append]
  refine ⟨later.forest, ?_, fun i old => ?_, ?_, fun i => ?_⟩
  · rw [later.size, sizes, List.length_append, Nat.add_assoc]
  · exact (later.payload i (by omega)).trans (before.payload i old)
  · rw [both, List.map_append, later.added, List.map_append, ← before.added]
    congr 1
    refine List.map_congr_left fun i member => later.payload i ?_
    rw [List.mem_range'_1] at member
    omega
  · have fresh : target ∉ List.range' tree.size first.length := by
      rw [List.mem_range'_1]
      exact fun range => Nat.not_lt.2 range.1 inside
    rw [later.children, before.children, flatMap_putBefore_putBefore fresh, both]

/-- The target lies where it lay. -/
theorem lies
    (preceded : Preceded tree other target first)
    (forest : tree.IsForest)
    (lies : (tree.node target).parent ≠ none) :
    (other.node target).parent ≠ none := by
  obtain ⟨parent, parentOf⟩ := Option.ne_none_iff_exists'.1 lies
  have member : target ∈ other.children parent := by
    rw [preceded.children]
    refine List.mem_flatMap.2 ⟨target, forest.mem_children_of_parent parentOf, ?_⟩
    simp [putBefore]
  rw [preceded.forest.parent_of_mem_children member]
  exact Option.some_ne_none parent

end Preceded

/-- A new node before a node that lies in another. -/
theorem IsForest.preceded_insertNew
    {tree : Tree}
    (forest : tree.IsForest)
    {target : NodeId}
    (lies : (tree.node target).parent ≠ none)
    (entry : Entry) :
    Preceded tree (tree.insertNew target entry.1 entry.2) target [entry] := by
  obtain ⟨parent, parentOf⟩ := Option.ne_none_iff_exists'.1 lies
  obtain ⟨front, back, around⟩ := forest.exists_around parentOf
  obtain ⟨grown, size, payload, newPayload, children⟩ :=
    forest.insertNew around.split entry.1 entry.2
  refine ⟨grown, size, payload, ?_, fun i => ?_⟩
  · rw [List.length_singleton, List.range'_one, List.map_singleton, newPayload]
    rfl
  · rw [children, List.length_singleton, List.range'_one]
    split_ifs with here
    · rw [here, around.split, flatMap_putBefore_append_cons around.frontFresh around.backFresh]
      rfl
    · refine (flatMap_putBefore_of_not_mem (fun member => here ?_) _).symm
      exact Option.some.inj ((forest.parent_of_mem_children member).symm.trans parentOf)

/-- New nodes before a node that lies in another. -/
theorem IsForest.preceded_insertAll
    {tree : Tree}
    (forest : tree.IsForest)
    {target : NodeId}
    (lies : (tree.node target).parent ≠ none)
    (entries : List Entry) :
    Preceded tree (tree.insertAll target entries) target entries := by
  induction entries generalizing tree with
  | nil => exact .refl forest target
  | cons entry entries inductionHypothesis =>
      obtain ⟨parent, parentOf⟩ := Option.ne_none_iff_exists'.1 lies
      have first := forest.preceded_insertNew lies entry
      exact first.trans (lt_of_parent parentOf)
        (inductionHypothesis first.forest (first.lies forest lies))

/-! ## Nodes that are taken out -/

/-- A tree without some nodes: these lie in no other node any more. -/
structure Pruned (tree other : Tree) (taken : List NodeId) : Prop where
  /-- The nodes still form a forest. -/
  forest : other.IsForest
  /-- The number of nodes is the same. -/
  size : other.size = tree.size
  /-- Every node holds what it held. -/
  payload : ∀ i, (other.node i).payload = (tree.node i).payload
  /-- The children of a node are those that have not been taken out. -/
  children : ∀ i, other.children i = (tree.children i).filter fun j => decide (j ∉ taken)

theorem Pruned.kind
    {tree other : Tree}
    {taken : List NodeId}
    (pruned : Pruned tree other taken)
    (i : NodeId) :
    other.kind i = tree.kind i := congrArg (·.1) (pruned.payload i)

/-- Nodes that are taken out one after the other are missing, and no others are. -/
theorem IsForest.pruned_foldl_unlink
    {tree : Tree}
    (forest : tree.IsForest)
    {taken : List NodeId}
    (inside : ∀ i ∈ taken, i < tree.size) :
    Pruned tree (taken.foldl Tree.unlink tree) taken := by
  induction taken generalizing tree with
  | nil => exact ⟨forest, rfl, fun _ => rfl, fun i => by simp⟩
  | cons first taken inductionHypothesis =>
      rw [List.forall_mem_cons] at inside
      obtain ⟨unlinked, effect⟩ := Edit.run_of_allowed forest (.unlink first) inside.1
      have later := inductionHypothesis unlinked fun i member =>
        Nat.lt_of_lt_of_eq (inside.2 i member) (size_unlink tree first).symm
      refine ⟨later.forest, later.size.trans (size_unlink tree first), fun i => ?_, fun i => ?_⟩
      · exact (later.payload i).trans (payload_unlink tree first i)
      · have erased : (tree.unlink first).children i = (tree.children i).erase first := effect i
        have missing : (fun j => decide (j ∉ first :: taken)) =
            fun j => decide (j ∉ taken) && (j != first) := by
          funext j
          by_cases here : j = first <;> simp [here]
        rw [missing, ← List.filter_filter, ← (forest.nodup_children i).erase_eq_filter, ← erased]
        exact later.children i

/-! ## New nodes in the place of old ones -/

/-- Some children of a node in a row have been replaced by new nodes, and nothing else changed. -/
structure Spliced
    (tree other : Tree)
    (parent : NodeId)
    (front old back : List NodeId)
    (entries : List Entry) : Prop where
  /-- The nodes still form a forest. -/
  forest : other.IsForest
  /-- The children as they were. -/
  before : tree.children parent = front ++ (old ++ back)
  /-- The new nodes stand in the place of the old ones. -/
  after : other.children parent = front ++ (List.range' tree.size entries.length ++ back)
  /-- The new nodes hold the entries. -/
  added : (List.range' tree.size entries.length).map (fun j => (other.node j).payload) =
    entries.map Entry.payload
  /-- All other nodes have the children that they had. -/
  children : ∀ j, j ≠ parent → other.children j = tree.children j
  /-- All old nodes hold what they held. -/
  payload : ∀ j, j < tree.size → (other.node j).payload = (tree.node j).payload

/-- When a node and some right behind it are taken out, those put before it are in their place. -/
theorem Preceded.spliced
    {tree next : Tree}
    {i parent : NodeId}
    {entries : List Entry}
    {behind front back : List NodeId}
    (preceded : Preceded tree next i entries)
    (forest : tree.IsForest)
    (split : tree.children parent = front ++ (i :: behind ++ back)) :
    Spliced tree ((i :: behind).foldl unlink next) parent front (i :: behind) back entries := by
  have nodup := forest.nodup_children parent
  have around := forest.around (split.trans (by rw [List.cons_append]))
  rw [split, List.nodup_append, List.nodup_append] at nodup
  obtain ⟨_, ⟨_, _, backApart⟩, frontApart⟩ := nodup
  have taken : ∀ j ∈ i :: behind, j ∈ tree.children parent := fun j member => by
    rw [split]
    exact List.mem_append_right _ (List.mem_append_left _ member)
  have inside : ∀ j ∈ i :: behind, j < next.size := fun j member =>
    Nat.lt_of_lt_of_le (forest.lt_of_mem_children (taken j member)) preceded.size_le
  have pruned := preceded.forest.pruned_foldl_unlink inside
  have kept : ∀ {list : List NodeId}, (∀ j ∈ list, j ∉ i :: behind) →
      list.filter (fun j => decide (j ∉ i :: behind)) = list := fun apart =>
    List.filter_eq_self.2 fun j member => decide_eq_true (apart j member)
  have gone : (i :: behind).filter (fun j => decide (j ∉ i :: behind)) = [] :=
    List.filter_eq_nil_iff.2 fun j member => by rwa [decide_eq_true_eq, not_not]
  refine ⟨pruned.forest, split, ?_, ?_, fun j other => ?_, fun j old => ?_⟩
  · have new : ∀ j ∈ List.range' tree.size entries.length, j ∉ i :: behind := fun j member later =>
      Nat.not_lt.2 (List.mem_range'_1.1 member).1 (forest.lt_of_mem_children (taken j later))
    rw [pruned.children, preceded.children, around.split,
      flatMap_putBefore_append_cons around.frontFresh around.backFresh, ← List.cons_append,
      List.filter_append, List.filter_append, List.filter_append, gone, List.nil_append, kept new,
      kept fun j member later => frontApart j member j (List.mem_append_left _ later) rfl,
      kept fun j member later => backApart j later j member rfl]
  · rw [← preceded.added]
    exact List.map_congr_left fun j _ => pruned.payload j
  · have apart : ∀ k ∈ tree.children j, k ∉ i :: behind := fun k member later => other
      (Option.some.inj ((forest.parent_of_mem_children member).symm.trans
        (forest.parent_of_mem_children (taken k later))))
    rw [pruned.children, preceded.children,
      flatMap_putBefore_of_not_mem fun member => apart i member List.mem_cons_self, kept apart]
  · exact (pruned.payload j).trans (preceded.payload j old)

end Tree
end BlockSearch
