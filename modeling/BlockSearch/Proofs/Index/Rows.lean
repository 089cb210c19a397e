import BlockSearch.Proofs.Forest.History
import BlockSearch.Proofs.Forest.Traversal
import BlockSearch.Proofs.Index.Records

/-!
# The rows of a document

The rows of a document are those of the blocks that are reached from the root through blocks
and have an identifier, in document order; of several blocks with one identifier the first has
a row. The row of the root comes first. The parent of every other row is an earlier one, so the
parents of a row lead to the root: a block that is recorded stands behind all blocks it lies
in, and of the blocks with one identifier the one that is recorded stands before the others.
-/

namespace BlockSearch
namespace Tree

variable {tree : Tree}

/-! ## Blocks that are reached through blocks -/

/-- A node is reached from another, which is a block, through blocks only. -/
def HoldsThroughBlocks (tree : Tree) (top i : NodeId) : Prop :=
  (tree.kind top).isBlock = true ∧
    Relation.ReflTransGen
      (fun above below => tree.IsParent above below ∧ (tree.kind below).isBlock = true) top i

namespace HoldsThroughBlocks

theorem isBlock
    {top i : NodeId}
    (path : tree.HoldsThroughBlocks top i) :
    (tree.kind i).isBlock = true := by
  obtain ⟨block, steps⟩ := path
  rcases Relation.ReflTransGen.cases_tail steps with same | ⟨_, _, step⟩
  · exact same ▸ block
  · exact step.2

theorem holds
    {top i : NodeId}
    (path : tree.HoldsThroughBlocks top i) :
    tree.Holds top i := by
  obtain ⟨_, steps⟩ := path
  induction steps with
  | refl => exact .refl
  | tail _ step inductionHypothesis => exact inductionHypothesis.tail step.1

/-- The nodes on the way to a node that is reached through blocks are reached so, too. -/
theorem of_holds
    (forest : tree.IsForest)
    {top i j : NodeId}
    (path : tree.HoldsThroughBlocks top i)
    (below : tree.Holds top j)
    (above : tree.Holds j i) :
    tree.HoldsThroughBlocks top j := by
  obtain ⟨block, steps⟩ := path
  induction steps with
  | refl =>
      rcases Relation.reflTransGen_iff_eq_or_transGen.1 above with same | proper
      · exact same ▸ ⟨block, .refl⟩
      · exact absurd (proper.trans_right below) (forest.acyclic _)
  | tail steps step inductionHypothesis =>
      rcases Relation.ReflTransGen.cases_tail above with same | ⟨parent, above, edge⟩
      · exact same ▸ ⟨block, steps.tail step⟩
      · have sameParent := Option.some.inj (edge.symm.trans step.1)
        exact inductionHypothesis (sameParent ▸ above)

end HoldsThroughBlocks

open scoped Classical in
/-- Whether a node has an identifier and is reached from another through blocks. -/
noncomputable def isNamedBelow (tree : Tree) (top i : NodeId) : Bool :=
  decide (tree.HoldsThroughBlocks top i ∧ (tree.node i).id.isSome = true)

theorem isNamedBelow_eq_true
    {top i : NodeId} :
    tree.isNamedBelow top i = true ↔
      tree.HoldsThroughBlocks top i ∧ (tree.node i).id.isSome = true := by
  simp only [isNamedBelow, decide_eq_true_iff]

/-- The blocks below a node that have an identifier and are reached from it through blocks. -/
noncomputable def namedBelow (tree : Tree) (i : NodeId) : List NodeId :=
  (tree.descendants i).filter (tree.isNamedBelow i)

namespace IsForest

/-- Below a child, a block reaches through blocks what its child does. -/
theorem holdsThroughBlocks_child
    (forest : tree.IsForest)
    {i child j : NodeId}
    (member : child ∈ tree.children i)
    (below : tree.Holds child j) :
    tree.HoldsThroughBlocks i j ↔
      (tree.kind i).isBlock = true ∧ tree.HoldsThroughBlocks child j := by
  have edge := forest.isParent_of_mem_children member
  constructor
  · intro path
    refine ⟨path.1, ?_⟩
    rcases Relation.ReflTransGen.cases_head path.2 with rfl | ⟨other, step, steps⟩
    · exact absurd below (forest.not_holds_of_mem_children member)
    · have later : tree.HoldsThroughBlocks other j := ⟨step.2, steps⟩
      obtain rfl := forest.eq_of_holds (forest.mem_children_of_parent step.1) member
        later.holds below
      exact later
  · rintro ⟨block, childBlock, steps⟩
    exact ⟨block, .head ⟨edge, childBlock⟩ steps⟩

theorem mem_namedBelow
    (forest : tree.IsForest)
    {i j : NodeId}
    (inside : i < tree.size) :
    j ∈ tree.namedBelow i ↔
      tree.HoldsThroughBlocks i j ∧ (tree.node j).id.isSome = true := by
  rw [namedBelow, List.mem_filter, isNamedBelow_eq_true, and_iff_right_iff_imp]
  intro ⟨path, _⟩
  exact (forest.mem_descendants inside).2 path.holds

/-- The named blocks below a block: itself, and those below its children. -/
theorem namedBelow_eq
    (forest : tree.IsForest)
    {i : NodeId}
    (inside : i < tree.size) :
    tree.namedBelow i =
      if (tree.kind i).isBlock = true then
        (if (tree.node i).id.isSome = true then [i] else []) ++
          (tree.children i).flatMap tree.namedBelow
      else [] := by
  have top : tree.isNamedBelow i i = ((tree.kind i).isBlock && (tree.node i).id.isSome) := by
    rw [Bool.eq_iff_iff, isNamedBelow_eq_true, Bool.and_eq_true]
    exact and_congr_left' ⟨HoldsThroughBlocks.isBlock, fun block => ⟨block, .refl⟩⟩
  have below : ((tree.children i).flatMap tree.descendants).filter (tree.isNamedBelow i) =
      if (tree.kind i).isBlock = true then (tree.children i).flatMap tree.namedBelow else [] := by
    split_ifs with block
    · rw [List.filter_flatMap]
      refine List.flatMap_congr fun child member => List.filter_congr fun j held => ?_
      rw [forest.mem_descendants (forest.lt_of_mem_children member)] at held
      rw [Bool.eq_iff_iff, isNamedBelow_eq_true, isNamedBelow_eq_true,
        forest.holdsThroughBlocks_child member held, and_iff_right block]
    · rw [List.filter_eq_nil_iff]
      exact fun j _ listed => block (isNamedBelow_eq_true.1 listed).1.1
  rw [namedBelow, forest.descendants_eq inside, List.filter_cons, below, top]
  by_cases block : (tree.kind i).isBlock = true
  · by_cases named : (tree.node i).id.isSome = true <;> simp [block, named]
  · simp [block]

/-- The walk that collects blocks collects those that are reached through blocks. -/
theorem visitBelow_visitBlock
    (forest : tree.IsForest)
    {i : NodeId}
    (inside : i < tree.size)
    (found : List NodeId) :
    tree.visitBelow tree.visitBlock found i =
      ((tree.namedBelow i).reverse ++ found, true) := by
  revert inside found
  induction i using forest.induction with
  | step i inductionHypothesis =>
      intro inside found
      have each : ∀ list, (∀ j ∈ list, j ∈ tree.children i) → ∀ found,
          visitEach (tree.visitBelow tree.visitBlock) found list =
            ((list.flatMap tree.namedBelow).reverse ++ found, true) := by
        intro list
        induction list with
        | nil => exact fun _ found => rfl
        | cons j list others =>
            intro members found
            rw [List.forall_mem_cons] at members
            rw [visitEach, inductionHypothesis j members.1 (forest.lt_of_mem_children members.1)]
            simp only [others members.2, List.flatMap_cons, List.reverse_append,
              List.append_assoc]
      rw [forest.visitBelow_eq _ inside, forest.namedBelow_eq inside, visitBlock]
      by_cases block : (tree.kind i).isBlock = true
      · rw [if_pos block, if_pos block]
        simp only [each _ fun _ member => member]
        split_ifs <;> simp
      · rw [if_neg block, if_neg block]
        rfl

/-- The blocks that a document records are the named ones that its root reaches through blocks. -/
theorem namedBlocks_eq
    (forest : tree.IsForest)
    (rooted : root < tree.size) :
    tree.namedBlocks = tree.namedBelow root := by
  rw [namedBlocks, forest.walk_eq _ rooted, forest.visitBelow_visitBlock rooted]
  simp

/-! ## Parents -/

/-- The root is in no block. -/
theorem parentId_root
    (top : (tree.node root).parent = none) :
    tree.parentId root = "" := by
  have none : tree.ancestors root = [] := by
    rw [ancestors, top]
    cases tree.size <;> rfl
  rw [parentId, none]
  rfl

/-- The parent of a row that is not that of the root is a block above its block. -/
theorem exists_above
    (forest : tree.IsForest)
    (top : (tree.node root).parent = none)
    (rootNamed : (tree.node root).id.isSome = true)
    {i : NodeId}
    (path : tree.HoldsThroughBlocks root i)
    (different : i ≠ root) :
    ∃ j, tree.HoldsThroughBlocks root j ∧ tree.Holds j i ∧ j ≠ i ∧
      (tree.node j).id = some (tree.parentId i) := by
  have rootAbove : Relation.TransGen tree.IsParent root i :=
    (Relation.reflTransGen_iff_eq_or_transGen.1 path.holds).resolve_left different
  have found : ((tree.ancestors i).reverse.findSome? fun j => (tree.node j).id).isSome = true := by
    rw [List.findSome?_isSome_iff]
    exact ⟨root, List.mem_reverse.2 (forest.mem_ancestors.2 rootAbove), rootNamed⟩
  obtain ⟨id, idOf⟩ := Option.isSome_iff_exists.1 found
  obtain ⟨j, member, named⟩ := List.exists_of_findSome?_eq_some idOf
  rw [List.mem_reverse, forest.mem_ancestors] at member
  have below : tree.Holds root j := by
    rcases holds_or_holds path.holds member.to_reflTransGen with below | above
    · exact below
    · rcases Relation.ReflTransGen.cases_tail above with same | ⟨_, _, edge⟩
      · exact same ▸ .refl
      · rw [IsParent, top] at edge
        contradiction
  refine ⟨j, path.of_holds forest below member.to_reflTransGen, member.to_reflTransGen, ?_, ?_⟩
  · rintro rfl
    exact forest.acyclic j member
  · rw [named, parentId, idOf, Option.getD_some]

end IsForest

/-- The row that a row names as its parent. -/
def parentRow (records : List Record) (record : Record) : Record :=
  (records.find? fun other => other.id == record.parentId).getD record

/-- When the parent of every row but the first is an earlier one, parents lead to the first. -/
theorem exists_iterate_parentRow
    {records : List Record}
    (once : (records.map Record.id).Nodup)
    (earlier : ∀ before record after, records = before ++ record :: after → before ≠ [] →
      ∃ parent ∈ before, parent.id = record.parentId)
    {before after : List Record}
    {record : Record}
    (split : records = before ++ record :: after) :
    ∃ steps ≤ before.length, records.head? = some ((parentRow records)^[steps] record) := by
  induction length : before.length using Nat.strong_induction_on
    generalizing before record after with
  | _ bound inductionHypothesis =>
      by_cases first : before = []
      · subst first
        exact ⟨0, Nat.zero_le _, by rw [split]; rfl⟩
      · obtain ⟨parent, member, parentOf⟩ := earlier before record after split first
        obtain ⟨front, back, rfl⟩ := List.append_of_mem member
        have parentSplit : records = front ++ parent :: (back ++ record :: after) := by
          rw [split, List.append_assoc, List.cons_append]
        have shorter : front.length < bound := by
          rw [← length, List.length_append, List.length_cons]
          omega
        have next : parentRow records record = parent := by
          have listed : parent ∈ records := by
            rw [parentSplit]
            simp
          rw [parentRow, (Lists.find?_eq_some_iff_of_nodup once).2 ⟨listed, parentOf⟩,
            Option.getD_some]
        obtain ⟨steps, few, leads⟩ := inductionHypothesis _ shorter parentSplit rfl
        refine ⟨steps + 1, by omega, ?_⟩
        rw [Function.iterate_succ_apply, next, leads]

/-! ## Rows -/

/--
A block with an identifier that the root reaches through blocks, and the first in document
order that has its identifier.
-/
structure IsRecorded (tree : Tree) (i : NodeId) : Prop where
  /-- The root reaches the block through blocks. -/
  path : tree.HoldsThroughBlocks root i
  /-- The block has an identifier. -/
  named : (tree.node i).id.isSome = true
  /-- No earlier such block has the identifier. -/
  first : ∃ before after, tree.descendants root = before ++ i :: after ∧
    ∀ j ∈ before, tree.HoldsThroughBlocks root j → (tree.node j).id ≠ (tree.node i).id

/-- The rows of a document and the nodes that they belong to. -/
structure HasRows (tree : Tree) (nodes : List NodeId) (records : List Record) : Prop where
  /-- The nodes are in document order. -/
  order : nodes.Sublist (tree.descendants root)
  /-- The nodes are the first blocks with their identifiers. -/
  mem_nodes : ∀ i, i ∈ nodes ↔ tree.IsRecorded i
  /-- Every node has a row, with its identifier. -/
  rows : List.Forall₂
    (fun i record => tree.record? i = some record ∧ (tree.node i).id = some record.id)
    nodes records
  /-- No two rows have the same identifier. -/
  once : (records.map Record.id).Nodup
  /-- The first row is that of the document, which has no parent. -/
  document : ∃ document others, records = document :: others ∧
    tree.record? root = some document ∧ document.id = tree.id ∧ document.type = "d" ∧
    document.parentId = ""
  /-- The parent of every other row is an earlier one. -/
  earlier : ∀ before record after, records = before ++ record :: after → before ≠ [] →
    ∃ parent ∈ before, parent.id = record.parentId
  /-- The parents of every row lead to the first. -/
  upwards : ∀ before record after, records = before ++ record :: after →
    ∃ steps ≤ before.length, records.head? = some ((parentRow records)^[steps] record)

/-- The identifier of a node; empty when it has none. -/
def idText (tree : Tree) (i : NodeId) : String := (tree.node i).id.getD ""

/-- The nodes whose blocks are recorded, in document order. -/
def recordedNodes (tree : Tree) : List NodeId := distinctBy tree.idText tree.namedBlocks

namespace IsForest

theorem mem_recordedNodes
    (forest : tree.IsForest)
    (rooted : root < tree.size)
    {i : NodeId} :
    i ∈ tree.recordedNodes ↔ tree.IsRecorded i := by
  have different : ∀ {i j}, (tree.node i).id.isSome = true → (tree.node j).id.isSome = true →
      (tree.idText j ≠ tree.idText i ↔ (tree.node j).id ≠ (tree.node i).id) := by
    intro i j named otherNamed
    obtain ⟨id, idOf⟩ := Option.isSome_iff_exists.1 named
    obtain ⟨other, otherOf⟩ := Option.isSome_iff_exists.1 otherNamed
    simp [idText, idOf, otherOf]
  rw [recordedNodes, forest.namedBlocks_eq rooted, namedBelow, mem_distinctBy_filter_iff,
    isNamedBelow_eq_true]
  constructor
  · rintro ⟨⟨path, named⟩, before, after, split, new⟩
    refine ⟨path, named, before, after, split, fun j member otherPath same => ?_⟩
    have otherNamed : (tree.node j).id.isSome = true := same ▸ named
    exact (different named otherNamed).1
      (new j member (isNamedBelow_eq_true.2 ⟨otherPath, otherNamed⟩)) same
  · rintro ⟨path, named, before, after, split, first⟩
    refine ⟨⟨path, named⟩, before, after, split, fun j member listed => ?_⟩
    obtain ⟨otherPath, otherNamed⟩ := isNamedBelow_eq_true.1 listed
    exact (different named otherNamed).2 (first j member otherPath)

theorem recordedNodes_sublist
    (forest : tree.IsForest)
    (rooted : root < tree.size) :
    tree.recordedNodes.Sublist (tree.descendants root) := by
  rw [recordedNodes, forest.namedBlocks_eq rooted]
  exact (distinctFrom_sublist _ _ _).trans List.filter_sublist

/-- The root, a block with an identifier, is recorded first. -/
theorem exists_recordedNodes_eq_cons
    (forest : tree.IsForest)
    (rooted : root < tree.size)
    (block : (tree.kind root).isBlock = true)
    (named : (tree.node root).id.isSome = true) :
    ∃ others, tree.recordedNodes = root :: others := by
  rw [recordedNodes, forest.namedBlocks_eq rooted, forest.namedBelow_eq rooted, if_pos block,
    if_pos named, List.singleton_append, distinctBy, distinctFrom]
  exact ⟨_, rfl⟩

/-- The recorded nodes have the rows of the document, with their identifiers. -/
theorem forall₂_recordedNodes
    (forest : tree.IsForest)
    (rooted : root < tree.size)
    {records : List Record}
    (recorded : tree.records? = some records) :
    List.Forall₂
      (fun i record => tree.record? i = some record ∧ (tree.node i).id = some record.id)
      tree.recordedNodes records := by
  rw [records?, Option.map_eq_some_iff] at recorded
  obtain ⟨all, each, rfl⟩ := recorded
  have related : List.Forall₂ (fun i record => tree.record? i = some record)
      tree.namedBlocks all := Lists.mapM_eq_some_iff.1 each
  have sameId : ∀ i record, tree.record? i = some record → tree.idText i = record.id :=
    fun _ _ recordOf => (record?_eq_some recordOf).2.symm
  have rows : List.Forall₂ (fun i record => tree.record? i = some record)
      tree.recordedNodes (distinctBy Record.id all) := forall₂_distinctFrom sameId related []
  have named : ∀ i ∈ tree.recordedNodes, (tree.node i).id.isSome = true := fun i member =>
    ((forest.mem_recordedNodes rooted).1 member).named
  refine ((List.forall₂_and_left _ _).2 ⟨named, rows⟩).imp fun i record both => ⟨both.2, ?_⟩
  obtain ⟨id, idOf⟩ := Option.isSome_iff_exists.1 both.1
  rw [(record?_eq_some both.2).2, idOf, Option.getD_some]

/-- The parent of a row that is not the first stands before it. -/
theorem exists_earlier_parent
    (forest : tree.IsForest)
    (top : (tree.node root).parent = none)
    (block : (tree.kind root).isBlock = true)
    (named : (tree.node root).id.isSome = true)
    (rooted : root < tree.size)
    {records before after : List Record}
    {record : Record}
    (recorded : tree.records? = some records)
    (split : records = before ++ record :: after)
    (later : before ≠ []) :
    ∃ parent ∈ before, parent.id = record.parentId := by
  have rows := forest.forall₂_recordedNodes rooted recorded
  rw [split] at rows
  obtain ⟨front, i, back, nodes, frontRows, recordOf, _⟩ :=
    Lists.exists_of_forall₂_append_cons rows
  have sameIds : front.map tree.idText = before.map Record.id :=
    Lists.map_eq_of_forall₂ frontRows fun j other row => by rw [idText, row.2, Option.getD_some]
  have here : tree.IsRecorded i := (forest.mem_recordedNodes rooted).1 (by simp [nodes])
  -- The root stands first, so a node with a row before its own is another one.
  have different : i ≠ root := by
    rintro rfl
    obtain ⟨others, first⟩ := forest.exists_recordedNodes_eq_cons rooted block named
    have once := (forest.nodup_descendants rooted).sublist (forest.recordedNodes_sublist rooted)
    cases front with
    | nil =>
        have none : before.length = 0 := by rw [← frontRows.length_eq, List.length_nil]
        exact later (List.length_eq_zero_iff.1 none)
    | cons other front =>
        rw [nodes, List.cons_append] at once first
        obtain ⟨rfl, _⟩ := List.cons.inj first
        simp at once
  obtain ⟨j, path, above, apart, parentOf⟩ := forest.exists_above top named here.path different
  obtain ⟨early, _, nodesSplit, left⟩ := exists_of_distinctFrom_eq_append nodes
  have listed : j ∈ tree.namedBlocks := by
    rw [forest.namedBlocks_eq rooted, forest.mem_namedBelow rooted]
    exact ⟨path, by rw [parentOf, Option.isSome_some]⟩
  have ordered : tree.namedBlocks.Sublist (tree.descendants root) := by
    rw [forest.namedBlocks_eq rooted]
    exact List.filter_sublist
  have before := forest.mem_front_of_holds rooted ordered nodesSplit listed above apart
  -- The first block with the identifier of the parent stands before the node as well.
  have parentId : tree.idText j = record.parentId := by
    rw [idText, parentOf, Option.getD_some, parentId_of_record? recordOf]
  have known : tree.idText j ∈ front.map tree.idText := by
    rw [← left, map_distinctFrom, mem_distinctFrom]
    exact ⟨List.mem_map_of_mem before, List.not_mem_nil⟩
  rw [sameIds, parentId] at known
  exact List.mem_map.1 known

/--
The rows of a document are those of the first blocks with their identifiers that the root
reaches through blocks, in document order; the document comes first, every other row behind
its parent, and the parents of every row lead to the document.
-/
theorem exists_hasRows
    (forest : tree.IsForest)
    (top : (tree.node root).parent = none)
    (document : tree.kind root = .document)
    (named : (tree.node root).id = some tree.id)
    {records : List Record}
    (recorded : tree.records? = some records) :
    ∃ nodes, tree.HasRows nodes records := by
  have rooted : root < tree.size := by
    by_contra outside
    rw [node_of_size_le (Nat.le_of_not_lt outside)] at named
    contradiction
  have block : (tree.kind root).isBlock = true := by rw [document]; rfl
  have hasId : (tree.node root).id.isSome = true := by rw [named, Option.isSome_some]
  have rows := forest.forall₂_recordedNodes rooted recorded
  have once := nodup_records? recorded
  have earlier : ∀ before record after, records = before ++ record :: after → before ≠ [] →
      ∃ parent ∈ before, parent.id = record.parentId := fun _ _ _ split later =>
    forest.exists_earlier_parent top block hasId rooted recorded split later
  refine ⟨tree.recordedNodes, ?_⟩
  constructor
  case order => exact forest.recordedNodes_sublist rooted
  case mem_nodes => exact fun i => forest.mem_recordedNodes rooted
  case rows => exact rows
  case once => exact once
  case earlier => exact earlier
  case upwards => exact fun _ _ _ split => exists_iterate_parentRow once earlier split
  case document =>
    obtain ⟨others, first⟩ := forest.exists_recordedNodes_eq_cons rooted block hasId
    rw [first] at rows
    obtain ⟨row, behind, ⟨rowOf, idOf⟩, _, split⟩ := List.forall₂_cons_left_iff.1 rows
    refine ⟨row, behind, split, rowOf, ?_, ?_, ?_⟩
    · exact Option.some.inj (idOf.symm.trans named)
    · rw [type_of_record? rowOf, document]
      rfl
    · rw [parentId_of_record? rowOf, parentId_root top]

/-- A block below an item without an identifier lies in the list; its repetition has no row. -/
theorem exists_hasRows_of_repeated_id :
    let tree := ((((((Tree.new "d" "b" "/d.sy" "/D").appendNew 0 .list (some "l")).appendNew 1
      .listItem none).appendNew 2 .paragraph (some "p")).appendNew 0 .paragraph
        (some "p")).appendNew 4 .link none).appendNew 5 .paragraph (some "q")
    ∃ records nodes, tree.IsForest ∧ (tree.node root).parent = none ∧
      tree.kind root = .document ∧ (tree.node root).id = some tree.id ∧
      tree.records? = some records ∧ tree.HasRows nodes records ∧
      records.map (fun record => (record.id, record.parentId)) =
        [("d", ""), ("l", "d"), ("p", "l")] := by
  intro tree
  have forest : tree.IsForest :=
    ((((((Built.new "d" "b" "/d.sy" "/D").appendNew (by decide) .list (some "l")).appendNew
      (by decide) .listItem none).appendNew (by decide) .paragraph (some "p")).appendNew
        (by decide) .paragraph (some "p")).appendNew (by decide) .link none).appendNew
          (by decide) .paragraph (some "q") |>.isForest
  have ids : tree.records?.map (·.map fun record => (record.id, record.parentId)) =
      some [("d", ""), ("l", "d"), ("p", "l")] := by decide +kernel
  obtain ⟨records, recorded, same⟩ := Option.map_eq_some_iff.1 ids
  obtain ⟨nodes, rows⟩ := forest.exists_hasRows rfl rfl rfl recorded
  exact ⟨records, nodes, forest, rfl, rfl, rfl, recorded, rows, same⟩

end IsForest
end Tree
end BlockSearch
