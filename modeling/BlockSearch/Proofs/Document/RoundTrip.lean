import BlockSearch.Proofs.Document.Stored
import BlockSearch.Proofs.Forest.Growth
import BlockSearch.Proofs.Forest.History

/-!
# Reading stored documents

A document is read back from its text with everything that can be reached from its root.
Nodes that are detached are not stored, and the places of the others are their positions in
document order.
-/

namespace BlockSearch
namespace Tree

/--
A node of one tree and a node of another hold the same, and so do their children one by one
and everything below these.
-/
inductive Alike (tree other : Tree) : NodeId → NodeId → Prop
  /-- Two nodes with the same payload and children that are alike. -/
  | node
      {i j : NodeId}
      (payload : (other.node j).payload = (tree.node i).payload)
      (children : List.Forall₂ (Alike tree other) (tree.children i) (other.children j)) :
      Alike tree other i j

/-- Nodes with the same outline are alike. -/
theorem IsForest.alike
    {tree other : Tree}
    (forest : tree.IsForest)
    (otherForest : other.IsForest)
    {i j : NodeId}
    (inside : i < tree.size)
    (otherInside : j < other.size)
    (same : tree.outlineAt i = other.outlineAt j) :
    Alike tree other i j := by
  induction i using forest.induction generalizing j with
  | step i inductionHypothesis =>
      rw [forest.outlineAt_eq inside, otherForest.outlineAt_eq otherInside,
        Outline.node.injEq] at same
      obtain ⟨kind, id, attributes, children⟩ := same
      refine .node ?_ ?_
      · rw [Node.payload, Node.payload, id, attributes]
        exact congrArg (·, _) kind.symm
      · rw [← List.forall₂_eq_eq_eq, List.forall₂_map_left_iff, List.forall₂_map_right_iff,
          List.forall₂_iff_zip] at children
        refine List.forall₂_iff_zip.2 ⟨children.1, fun {k l} pair => ?_⟩
        obtain ⟨left, right⟩ := List.of_mem_zip pair
        exact inductionHypothesis k left (forest.lt_of_mem_children left)
          (otherForest.lt_of_mem_children right) (children.2 pair)

/-! ## Documents -/

theorem toJson_congr
    {tree other : Tree}
    (header : other.header = tree.header)
    (outline : other.outline = tree.outline) :
    other.toJson = tree.toJson := by
  simp only [Tree.header, Prod.mk.injEq] at header
  obtain ⟨id, box, path, hpath⟩ := header
  rw [toJson, toJson, id, box, path, hpath, outline]

theorem plain_toJson (tree : Tree) : tree.toJson.Plain := by
  apply Json.Plain.object
  simp [Json.Plain.string, Outline.plain_toJson]

/-- A document is as deep as its outline and one level more. -/
theorem depth_toJson (tree : Tree) : tree.toJson.depth = tree.outline.toJson.depth + 1 := by
  simp [toJson, Json.depth, Json.membersDepth]

theorem fields?_toJson (tree : Tree) :
    tree.toJson.fields? ["id", "box", "path", "hpath", "root"] =
      some [some (.string tree.id), some (.string tree.box), some (.string tree.path),
        some (.string tree.hpath), some tree.outline.toJson] := rfl

/-- The value of a document makes a document of its outline. -/
theorem ofJson?_toJson
    (tree : Tree)
    (isDocument : tree.outline.kind = .document)
    (shallow : tree.toJson.depth ≤ Outline.depthLimit) :
    ofJson? tree.toJson = .ok (ofOutline tree.id tree.box tree.path tree.hpath tree.outline) := by
  have outlineShallow : tree.outline.toJson.depth ≤ Outline.depthLimit - 1 := by
    rw [depth_toJson] at shallow
    omega
  rw [ofJson?, fields?_toJson]
  simp only [Outline.ofJson?_toJson _ outlineShallow, isDocument, if_true]

/-- The outline of a document has its root at the top. -/
theorem IsForest.outline_eq
    {tree : Tree}
    (forest : tree.IsForest)
    {id : String}
    (isDocument : tree.kind root = .document)
    (named : (tree.node root).id = some id) :
    root < tree.size ∧
      tree.outline = .node .document (some id) tree.outline.attributes tree.outline.children := by
  have inside : root < tree.size := by
    by_contra outside
    rw [node_of_size_le (Nat.le_of_not_lt outside)] at named
    contradiction
  have spelled : tree.outline = _ := forest.outlineAt_eq inside
  rw [isDocument, named] at spelled
  refine ⟨inside, ?_⟩
  rw [spelled]
  rfl

/-- What is read back from a text is made of the outline that the text was written for. -/
theorem read_print_eq
    (tree : Tree)
    (isDocument : tree.outline.kind = .document)
    (shallow : tree.toJson.depth ≤ Outline.depthLimit) :
    read tree.print = .ok (ofOutline tree.id tree.box tree.path tree.hpath tree.outline) := by
  rw [read, print, tree.plain_toJson.read?_pretty]
  exact tree.ofJson?_toJson isDocument shallow

/-- Whatever is read back from a text is stored where it was. -/
theorem header_of_read_print
    {tree back : Tree}
    (reads : read tree.print = .ok back) :
    back.header = tree.header := by
  rw [read, print, tree.plain_toJson.read?_pretty] at reads
  simp only [ofJson?, fields?_toJson] at reads
  split at reads
  · split_ifs at reads
    exact (ofOutline_spec (Except.ok.inj reads)).2.1
  · contradiction

/--
A forest whose root is a document with the identifier of the tree is read back from its text,
when the text is not nested too deep. The result is stored at the same place and has the same
nodes below its root, all in document order and none detached, and is written as the same text.
-/
theorem IsForest.read_print
    {tree : Tree}
    (forest : tree.IsForest)
    (isDocument : tree.kind root = .document)
    (named : (tree.node root).id = some tree.id)
    (shallow : tree.toJson.depth ≤ 127) :
    ∃ back, read tree.print = .ok back ∧ back.header = tree.header ∧
      Alike tree back root root ∧ back.outline = tree.outline ∧
      back.IsForest ∧ back.descendants root = List.range back.size ∧
      back.print = tree.print := by
  obtain ⟨inside, spelled⟩ := forest.outline_eq isDocument named
  have outlineKind : tree.outline.kind = .document := by
    rw [spelled]
    rfl
  obtain ⟨backForest, header, backInside, outline, order⟩ :=
    ofOutline_spec (rfl : ofOutline tree.id tree.box tree.path tree.hpath tree.outline = _)
  rw [← spelled] at outline
  refine ⟨_, tree.read_print_eq outlineKind shallow, header, ?_, outline, backForest, order, ?_⟩
  · exact forest.alike backForest inside backInside outline.symm
  · rw [print, print, toJson_congr header outline]

/-- A document with a detached node and with quotes, line breaks and attributes is read back. -/
theorem IsForest.read_print_with_detached_node :
    let tree := (((((Tree.new "d" "b" "/d.sy" "/D").appendNew 0 .list (some "l")).appendNew 0
      (.heading 2) none).appendNew 2 (.text "a\"\\b\n\x01é") none).unlink 1)
    tree.IsForest ∧ tree.kind root = .document ∧ (tree.node root).id = some tree.id ∧
      tree.toJson.depth ≤ 127 ∧
      ∃ back, read tree.print = .ok back ∧ back.header = tree.header ∧
        Alike tree back root root ∧ back.outline = tree.outline ∧
        back.IsForest ∧ back.descendants root = List.range back.size ∧
        back.print = tree.print := by
  intro tree
  have forest : tree.IsForest :=
    (((((Built.new "d" "b" "/d.sy" "/D").appendNew (by decide) .list (some "l")).appendNew
      (by decide) (.heading 2) none).appendNew (by decide) (.text "a\"\\b\n\x01é") none).unlink
        (by decide)).isForest
  have shallow : tree.toJson.depth ≤ 127 := by decide
  exact ⟨forest, rfl, rfl, shallow, forest.read_print rfl rfl shallow⟩

end Tree
end BlockSearch
