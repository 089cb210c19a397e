import BlockSearch.Proofs.Forest.Splicing
import BlockSearch.Proofs.Highlight.Progress
import BlockSearch.Proofs.Lists

/-!
# Blocks of a highlighted document

Highlighting puts in and takes out text, marks and attributes of marks only. When blocks lie
in blocks only, the blocks of the document are the same afterwards, with all that they hold,
where they lie and in their order.
-/

namespace BlockSearch
namespace Tree

/-- Whether the node at a place is a block. -/
def isBlockAt (tree : Tree) (i : NodeId) : Bool := (tree.kind i).isBlock

/-- The blocks of a document in document order, with what they hold and the nodes they lie in. -/
def blocks (tree : Tree) :
    List (NodeId × (Kind × Option String × List (String × String)) × Option NodeId) :=
  ((tree.descendants root).filter tree.isBlockAt).map fun i =>
    (i, (tree.node i).payload, (tree.node i).parent)

/-- Blocks lie in blocks only. -/
def BlocksInBlocks (tree : Tree) : Prop :=
  ∀ i ∈ tree.descendants root, ∀ j ∈ tree.children i,
    tree.isBlockAt j = true → tree.isBlockAt i = true

/-- The identifiers of the blocks are among what the blocks hold. -/
theorem blockIds_eq (tree : Tree) :
    tree.blockIds = tree.blocks.filterMap fun entry => entry.2.1.2.1 := by
  rw [blockIds, blocks, List.filterMap_map, ← List.filterMap_eq_filter, List.filterMap_filterMap]
  apply List.filterMap_congr
  intro i _
  rw [blockId?, Option.guard, isBlockAt]
  cases (tree.kind i).isBlock <;> rfl

/-! ## Documents with other spans -/

/-- A document with other text, marks and attributes of marks between the same blocks. -/
structure Respelled (tree other : Tree) : Prop where
  /-- The nodes still form a forest. -/
  forest : other.IsForest
  /-- No node is lost. -/
  larger : tree.size ≤ other.size
  /-- Every old node holds what it held. -/
  payload : ∀ i, i < tree.size → (other.node i).payload = (tree.node i).payload
  /-- The blocks among the children of a node are the same. -/
  blocks : ∀ i, (other.children i).filter other.isBlockAt = (tree.children i).filter tree.isBlockAt
  /-- A child is an old one, or a span without children. -/
  mem_children : ∀ i j, j ∈ other.children i →
    j ∈ tree.children i ∨
      (tree.size ≤ j ∧ (other.kind j).isSpan = true ∧ other.children j = [])

/-- Spans have been put between the nodes of a document, and spans have been taken out. -/
theorem Interspersed.respelled
    {tree other third : Tree}
    (interspersed : Interspersed tree other)
    {taken : List NodeId}
    (pruned : Pruned other third taken)
    (spans : ∀ i ∈ taken, (other.kind i).isSpan = true) :
    Respelled tree third where
  forest := pruned.forest
  larger := pruned.size ▸ interspersed.larger
  payload i inside := (pruned.payload i).trans (interspersed.payload i inside)
  blocks i := by
    have sameBlocks : third.isBlockAt = other.isBlockAt := by
      funext j
      rw [isBlockAt, isBlockAt, pruned.kind]
    rw [pruned.children, ← interspersed.children, List.filter_filter, List.filter_filter,
      sameBlocks]
    apply List.filter_congr
    intro j member
    -- A block is neither new nor taken out.
    by_cases block : other.isBlockAt j = true
    · have noSpan : ¬ (other.kind j).isSpan = true := fun span => by
        rw [isBlockAt, Kind.isBlock_of_isSpan span] at block
        contradiction
      have old : j < tree.size := by
        by_contra outside
        exact noSpan (interspersed.span j (Nat.le_of_not_lt outside)
          (interspersed.forest.lt_of_mem_children member))
      have kept : j ∉ taken := fun member => noSpan (spans j member)
      have blockBefore : tree.isBlockAt j = true := by
        rwa [isBlockAt, ← interspersed.kind old]
      simp [block, kept, old, blockBefore]
    · by_cases old : j < tree.size
      · have noBlockBefore : tree.isBlockAt j = other.isBlockAt j := by
          rw [isBlockAt, isBlockAt, interspersed.kind old]
        simp [block, noBlockBefore]
      · simp [block, old]
  mem_children i j member := by
    rw [pruned.children, List.mem_filter] at member
    rcases interspersed.mem_children member.1 with old | ⟨outside, span, empty⟩
    · exact .inl old
    · rw [pruned.kind, pruned.children, empty]
      exact .inr ⟨outside, span, rfl⟩

namespace Respelled

variable {tree other : Tree}

theorem kind
    (respelled : Respelled tree other)
    {i : NodeId}
    (inside : i < tree.size) :
    other.kind i = tree.kind i := congrArg (·.1) (respelled.payload i inside)

/-- What lies below an old node lay there before, or it is a new span. -/
theorem holds
    (respelled : Respelled tree other)
    (forest : tree.IsForest)
    {i j : NodeId}
    (path : other.Holds i j) :
    tree.Holds i j ∨
      (tree.size ≤ j ∧ (other.kind j).isSpan = true ∧ other.children j = []) := by
  induction path with
  | refl => exact .inl .refl
  | tail _ edge inductionHypothesis =>
      have member := respelled.forest.mem_children_of_parent edge
      rcases inductionHypothesis with path | ⟨_, _, empty⟩
      · rcases respelled.mem_children _ _ member with old | new
        · exact .inl (path.tail (forest.isParent_of_mem_children old))
        · exact .inr new
      · rw [empty] at member
        contradiction

end Respelled

/-- Nothing below a node that is no block is a block. -/
theorem BlocksInBlocks.not_isBlockAt
    {tree : Tree}
    (nested : tree.BlocksInBlocks)
    (forest : tree.IsForest)
    (rooted : root < tree.size)
    {i j : NodeId}
    (reached : tree.Holds root i)
    (noBlock : tree.isBlockAt i = false)
    (path : tree.Holds i j) :
    tree.isBlockAt j = false := by
  induction path with
  | refl => exact noBlock
  | tail path edge inductionHypothesis =>
      by_contra block
      rw [Bool.not_eq_false] at block
      have above := (forest.mem_descendants rooted).2 (reached.trans path)
      have blockAbove := nested _ above _ (forest.mem_children_of_parent edge) block
      rw [inductionHypothesis] at blockAbove
      contradiction

/-- The blocks below a block: the block itself, and those below the blocks in it, in order. -/
theorem IsForest.filter_descendants
    {tree : Tree}
    (forest : tree.IsForest)
    {i : NodeId}
    (inside : i < tree.size)
    (noBlocks : ∀ j ∈ tree.children i, tree.isBlockAt j = false →
      ∀ k, tree.Holds j k → tree.isBlockAt k = false) :
    (tree.descendants i).filter tree.isBlockAt =
      (if tree.isBlockAt i then [i] else []) ++
        ((tree.children i).filter tree.isBlockAt).flatMap fun j =>
          (tree.descendants j).filter tree.isBlockAt := by
  rw [forest.descendants_eq inside, List.filter_cons, ← Lists.filter_flatMap_filter]
  · split_ifs <;> rfl
  · intro j member noBlock
    rw [List.filter_eq_nil_iff]
    intro k below
    rw [forest.mem_descendants (forest.lt_of_mem_children member)] at below
    simp [noBlocks j member noBlock k below]

/-- The blocks below a node are the same, in the same order. -/
theorem Respelled.filter_descendants
    {tree other : Tree}
    (respelled : Respelled tree other)
    (forest : tree.IsForest)
    (nested : tree.BlocksInBlocks)
    (rooted : root < tree.size)
    {i : NodeId}
    (inside : i < tree.size)
    (reached : tree.Holds root i) :
    (other.descendants i).filter other.isBlockAt = (tree.descendants i).filter tree.isBlockAt := by
  -- By induction on the tree below the node: what is new below it is spans, and no span and
  -- no inline node holds a block, so only the children that are blocks count.
  revert inside reached
  induction i using forest.induction with
  | step i inductionHypothesis =>
      intro inside reached
      have otherInside := Nat.lt_of_lt_of_le inside respelled.larger
      have below : ∀ {j}, j ∈ tree.children i → tree.Holds root j := fun member =>
        reached.tail (forest.isParent_of_mem_children member)
      rw [forest.filter_descendants inside fun j member noBlock k path =>
          nested.not_isBlockAt forest rooted (below member) noBlock path,
        respelled.forest.filter_descendants otherInside, respelled.blocks, isBlockAt, isBlockAt,
        respelled.kind inside]
      · congr 1
        apply List.flatMap_congr
        intro j member
        have child := (List.mem_filter.1 member).1
        exact inductionHypothesis j child (forest.lt_of_mem_children child) (below child)
      · intro j member noBlock k path
        rcases respelled.mem_children i j member with old | ⟨_, span, empty⟩
        · have oldInside := forest.lt_of_mem_children old
          rw [isBlockAt, respelled.kind oldInside] at noBlock
          rcases respelled.holds forest path with oldPath | ⟨_, span, _⟩
          · rw [isBlockAt, respelled.kind (IsForest.lt_of_holds oldInside oldPath)]
            exact nested.not_isBlockAt forest rooted (below old) noBlock oldPath
          · exact Kind.isBlock_of_isSpan span
        · -- A new span has nothing below it.
          rcases Relation.ReflTransGen.cases_head path with rfl | ⟨_, edge, _⟩
          · exact Kind.isBlock_of_isSpan span
          · have child := respelled.forest.mem_children_of_parent edge
            rw [empty] at child
            contradiction

/-- A document with other spans has the same blocks. -/
theorem Respelled.blocks_eq
    {tree other : Tree}
    (respelled : Respelled tree other)
    (forest : tree.IsForest)
    (nested : tree.BlocksInBlocks)
    (rooted : root < tree.size) :
    other.blocks = tree.blocks := by
  rw [Tree.blocks, Tree.blocks, respelled.filter_descendants forest nested rooted rooted .refl]
  apply List.map_congr_left
  intro i member
  obtain ⟨below, block⟩ := List.mem_filter.1 member
  have inside := forest.lt_of_mem_descendants rooted below
  have parent : (other.node i).parent = (tree.node i).parent := by
    apply Option.ext
    intro above
    have sameBlock : other.isBlockAt i = true := by
      rwa [isBlockAt, respelled.kind inside]
    have listed := congrArg (i ∈ ·) (respelled.blocks above)
    simp only [List.mem_filter, block, sameBlock, and_true, eq_iff_iff] at listed
    rw [respelled.forest.parent_eq_some_iff, forest.parent_eq_some_iff, listed]
  rw [respelled.payload i inside, parent]

/-! ## Highlighting -/

/-- The texts and marks of a document lie in other nodes. -/
theorem parent_ne_none_of_isInlineText
    {tree : Tree}
    (forest : tree.IsForest)
    (rooted : root < tree.size)
    (document : tree.isBlockAt root = true)
    {i : NodeId}
    (below : i ∈ tree.descendants root)
    (isText : tree.isInlineText i = true) :
    (tree.node i).parent ≠ none := by
  rw [forest.mem_descendants rooted] at below
  rcases Relation.ReflTransGen.cases_tail below with rfl | ⟨above, _, edge⟩
  · rw [isBlockAt, Kind.isBlock_of_isSpan (isSpan_of_isInlineText isText)] at document
    contradiction
  · rw [show (tree.node i).parent = some above from edge]
    simp

/-- Highlighting puts in the stretches of all texts and marks, and then takes these out. -/
theorem IsForest.exists_progress
    {tree : Tree}
    (forest : tree.IsForest)
    (rooted : root < tree.size)
    (document : tree.isBlockAt root = true)
    (highlight : Highlight) :
    ∃ state,
      Progress tree highlight ((tree.descendants root).filter tree.isInlineText) state ∧
        tree.highlight highlight = (state.unlinks.foldl Tree.unlink state.tree, state.count) := by
  refine ⟨_, ?_, rfl⟩
  have start : Progress tree highlight [] ⟨tree, [], 0⟩ :=
    ⟨.refl forest, by simp, by simp, rfl, rfl⟩
  apply start.foldl_highlightNode forest
  intro i member
  obtain ⟨below, isText⟩ := List.mem_filter.1 member
  exact parent_ne_none_of_isInlineText forest rooted document below isText

/-- Of the texts and marks those lie in no node any more in which a keyword occurs. -/
theorem Progress.parent_eq_none_iff
    {tree other : Tree}
    {highlight : Highlight}
    {done : List NodeId}
    {state : Highlighted}
    (progress : Progress tree highlight done state)
    (forest : tree.IsForest)
    (pruned : Pruned state.tree other state.unlinks)
    {i : NodeId}
    (member : i ∈ done)
    (isText : tree.isInlineText i = true)
    (lies : (tree.node i).parent ≠ none) :
    (other.node i).parent = none ↔ tree.hasMatch highlight i = true := by
  obtain ⟨above, parentOf⟩ := Option.ne_none_iff_exists'.1 lies
  have old : i < tree.size := IsForest.lt_of_parent parentOf
  rw [← progress.interspersed.parent forest old,
    progress.interspersed.forest.parent_eq_some_iff] at parentOf
  have taken : i ∈ state.unlinks ↔ tree.hasMatch highlight i = true := by
    have listed := congrArg (i ∈ ·) progress.replaced
    simpa [member, isText] using listed
  rw [← taken]
  constructor
  · intro free
    by_contra kept
    have still : i ∈ other.children above := by
      rw [pruned.children]
      exact List.mem_filter.2 ⟨parentOf, by simpa using kept⟩
    rw [pruned.forest.parent_of_mem_children still] at free
    contradiction
  · intro gone
    by_contra lying
    obtain ⟨later, laterOf⟩ := Option.ne_none_iff_exists'.1 lying
    rw [pruned.forest.parent_eq_some_iff, pruned.children, List.mem_filter] at laterOf
    simp [gone] at laterOf

/--
Highlighting any keywords keeps the blocks of a document whose blocks lie in blocks only:
they hold what they held, lie where they lay and have their order. Whatever else is in the
document afterwards was there and holds what it held, or is text, a mark or the attributes of
one. The texts and marks in which a keyword occurs are those that have been taken out, and
the number of these is returned.
-/
theorem IsForest.highlight_keeps_blocks
    {tree : Tree}
    (forest : tree.IsForest)
    (document : tree.isBlockAt root = true)
    (nested : tree.BlocksInBlocks)
    (highlight : Highlight) :
    let result := (tree.highlight highlight).1
    result.IsForest ∧
      result.blocks = tree.blocks ∧
      result.contentOrder = tree.contentOrder ∧
      (∀ i ∈ result.descendants root, (result.kind i).isSpan = false →
        i ∈ tree.descendants root ∧ (result.node i).payload = (tree.node i).payload) ∧
      (∀ i ∈ tree.descendants root, tree.isInlineText i = true →
        ((result.node i).parent = none ↔ tree.hasMatch highlight i = true)) ∧
      (tree.highlight highlight).2 =
        ((tree.descendants root).filter fun i =>
          tree.isInlineText i && decide ((result.node i).parent = none)).length := by
  intro result
  rcases Nat.eq_zero_or_pos tree.size with empty | (rooted : root < tree.size)
  · -- Without nodes there is nothing to highlight.
    have nowhere : tree.descendants root = [] := by
      rw [descendants, empty, descendantsWithin]
    have unchanged : tree.highlight highlight = (tree, 0) := by
      rw [Tree.highlight, nowhere]
      rfl
    have same : result = tree := congrArg Prod.fst unchanged
    rw [unchanged, same, nowhere]
    exact ⟨forest, rfl, rfl, by simp only [List.not_mem_nil, false_implies, implies_true],
      by simp only [List.not_mem_nil, false_implies, implies_true], rfl⟩
  obtain ⟨state, progress, outcome⟩ := forest.exists_progress rooted document highlight
  have pruned : Pruned state.tree result state.unlinks := by
    have last : result = state.unlinks.foldl Tree.unlink state.tree := congrArg Prod.fst outcome
    exact last ▸ progress.interspersed.forest.pruned_foldl_unlink progress.inside
  have respelled := progress.interspersed.respelled pruned progress.span
  have sameBlocks := respelled.blocks_eq forest nested rooted
  have detached : ∀ i ∈ tree.descendants root, tree.isInlineText i = true →
      ((result.node i).parent = none ↔ tree.hasMatch highlight i = true) := fun i below isText =>
    progress.parent_eq_none_iff forest pruned (List.mem_filter.2 ⟨below, isText⟩) isText
      (parent_ne_none_of_isInlineText forest rooted document below isText)
  refine ⟨pruned.forest, sameBlocks, ?_, ?_, detached, ?_⟩
  · rw [contentOrder, contentOrder, blockIds_eq, blockIds_eq, sameBlocks]
  · intro i below noSpan
    rw [respelled.forest.mem_descendants (Nat.lt_of_lt_of_le rooted respelled.larger)] at below
    rcases respelled.holds forest below with path | ⟨_, span, _⟩
    · have before := (forest.mem_descendants rooted).2 path
      exact ⟨before, respelled.payload i (forest.lt_of_mem_descendants rooted before)⟩
    · rw [span] at noSpan
      contradiction
  · have counted : (tree.highlight highlight).2 = state.count := congrArg Prod.snd outcome
    rw [counted, progress.count, List.filter_filter]
    congr 1
    apply List.filter_congr
    intro i below
    by_cases isText : tree.isInlineText i = true
    · simp [isText, detached i below isText]
    · simp [isText]

/-- A text and a mark with attributes in one paragraph are replaced; the paragraph stays. -/
theorem IsForest.highlight_keeps_blocks_of_paragraph :
    let tree := ((((Tree.new "d" "b" "/d.sy" "/D").appendNew 0 .paragraph (some "p")).appendNew 1
      (.text "My ABC note") none).appendNew 1 (.textMark { types := "strong", text := "abc" })
        none).appendNew 1 (.spanAttributes "red") none
    let highlight : Highlight := ⟨["abc"], .insensitive, "mark"⟩
    let result := (tree.highlight highlight).1
    tree.IsForest ∧ tree.isBlockAt root = true ∧ tree.BlocksInBlocks ∧
      result.IsForest ∧ result.blocks = tree.blocks ∧
      result.contentOrder = [("d", 0), ("p", 1)] ∧
      result.descendants root = [0, 1, 5, 6, 7, 8, 9] ∧
      (result.node 2).parent = none ∧ (result.node 3).parent = none ∧
      (tree.highlight highlight).2 = 2 := by
  intro tree highlight result
  have forest : tree.IsForest :=
    (((((Built.new "d" "b" "/d.sy" "/D").appendNew (by decide) .paragraph (some "p")).appendNew
      (by decide) (.text "My ABC note") none).appendNew (by decide)
        (.textMark { types := "strong", text := "abc" }) none).appendNew (by decide)
          (.spanAttributes "red") none).isForest
  have nested : tree.BlocksInBlocks := by
    unfold BlocksInBlocks
    decide
  obtain ⟨resultForest, blocks, order, _, detached, _⟩ :=
    forest.highlight_keeps_blocks rfl nested highlight
  refine ⟨forest, rfl, nested, resultForest, blocks, order, by decide +kernel, ?_, ?_,
    by decide +kernel⟩
  · exact (detached 2 (by decide) rfl).2 (by decide +kernel)
  · exact (detached 3 (by decide) rfl).2 (by decide +kernel)

end Tree
end BlockSearch
