import BlockSearch.Engine.Replace
import BlockSearch.Proofs.Document.Compact
import Mathlib.Logic.Function.Iterate

/-!
# Rewritten documents

Replacing text in a document changes what its nodes say and nothing else: the links, the
identifiers and the attributes stay. A node is rewritten once for every block below which it
lies, and a block that lies below another one is walked again.
-/

namespace BlockSearch
namespace Tree

/-- A document with other texts in its nodes. -/
structure Reworded (tree other : Tree) : Prop where
  /-- It stays where it is stored. -/
  header : other.header = tree.header
  /-- All links stay. -/
  links : SameLinks tree other
  /-- All identifiers stay. -/
  ids : ∀ i, (other.node i).id = (tree.node i).id
  /-- All attributes stay. -/
  attributes : ∀ i, (other.node i).attributes = (tree.node i).attributes
  /-- A document node stays one, and no other node becomes one. -/
  document : ∀ i, other.kind i = .document ↔ tree.kind i = .document

namespace Reworded

variable {tree other third : Tree}

theorem refl (tree : Tree) : Reworded tree tree :=
  ⟨rfl, .refl tree, fun _ => rfl, fun _ => rfl, fun _ => Iff.rfl⟩

theorem symm
    (reworded : Reworded tree other) :
    Reworded other tree where
  header := reworded.header.symm
  links := ⟨reworded.links.size.symm, fun i => (reworded.links.links i).symm⟩
  ids i := (reworded.ids i).symm
  attributes i := (reworded.attributes i).symm
  document i := (reworded.document i).symm

theorem trans
    (first : Reworded tree other)
    (second : Reworded other third) :
    Reworded tree third where
  header := second.header.trans first.header
  links := first.links.trans second.links
  ids i := (second.ids i).trans (first.ids i)
  attributes i := (second.attributes i).trans (first.attributes i)
  document i := (second.document i).trans (first.document i)

theorem id_eq
    (reworded : Reworded tree other) :
    other.id = tree.id := congrArg (·.1) reworded.header

theorem box_eq
    (reworded : Reworded tree other) :
    other.box = tree.box := congrArg (·.2.1) reworded.header

theorem path_eq
    (reworded : Reworded tree other) :
    other.path = tree.path := congrArg (·.2.2.1) reworded.header

theorem hpath_eq
    (reworded : Reworded tree other) :
    other.hpath = tree.hpath := congrArg (·.2.2.2) reworded.header

theorem title_eq
    (reworded : Reworded tree other) :
    other.title = tree.title := by
  rw [title, title, reworded.attributes]

/-- A reworded node of the same kind is the same. -/
theorem node_eq_of_kind
    (reworded : Reworded tree other)
    {i : NodeId}
    (kind : other.kind i = tree.kind i) :
    other.node i = tree.node i := by
  apply Node.eq_of_links_of_payload (reworded.links.links i)
  rw [Node.payload, Node.payload, reworded.ids, reworded.attributes]
  exact congrArg (·, _, _) kind

/-- A reworded document with the same kinds is the same. -/
theorem eq_of_kind
    (reworded : Reworded tree other)
    (kind : ∀ i, other.kind i = tree.kind i) :
    other = tree :=
  reworded.links.eq reworded.header fun i =>
    congrArg Node.payload (reworded.node_eq_of_kind (kind i))

/-- The same nodes are found by their identifiers. -/
theorem findBlock?_eq
    (reworded : Reworded tree other) :
    other.findBlock? = tree.findBlock? := by
  funext id
  rw [findBlock?, findBlock?, reworded.links.descendants]
  simp only [reworded.ids]

end Reworded

/-! ## Nodes -/

theorem rewrite_eq_document
    (replacer : Replacer)
    (kind : Kind) :
    replacer.rewrite kind = .document ↔ kind = .document := by
  cases kind <;> simp [Replacer.rewrite]

theorem kind_rewriteNode
    (replacer : Replacer)
    (tree : Tree)
    (i j : NodeId) :
    (rewriteNode replacer tree i).kind j =
      if j = i then replacer.rewrite (tree.kind j) else tree.kind j := by
  by_cases inside : i < tree.size
  · rw [kind, rewriteNode, node_modify inside]
    split_ifs <;> rfl
  · rw [rewriteNode, modify_of_size_le (Nat.le_of_not_lt inside)]
    split_ifs with same
    · rw [kind, same, node_of_size_le (Nat.le_of_not_lt inside)]
      rfl
    · rfl

theorem reworded_rewriteNode
    (replacer : Replacer)
    (tree : Tree)
    (i : NodeId) :
    Reworded tree (rewriteNode replacer tree i) where
  header := rfl
  links := SameLinks.modify (by intro node; rfl) _ _
  ids j := field_modify Node.id (by intro node; rfl) tree i j
  attributes j := field_modify Node.attributes (by intro node; rfl) tree i j
  document j := by
    rw [kind_rewriteNode]
    split_ifs
    · exact rewrite_eq_document replacer _
    · exact Iff.rfl

theorem reworded_foldl_rewriteNode
    (replacer : Replacer)
    (tree : Tree)
    (nodes : List NodeId) :
    Reworded tree (nodes.foldl (rewriteNode replacer) tree) := by
  induction nodes generalizing tree with
  | nil => exact .refl tree
  | cons i nodes inductionHypothesis =>
      exact (reworded_rewriteNode replacer tree i).trans (inductionHypothesis _)

/-- A node is rewritten once for every time that it is listed. -/
theorem kind_foldl_rewriteNode
    (replacer : Replacer)
    (tree : Tree)
    (nodes : List NodeId)
    (j : NodeId) :
    (nodes.foldl (rewriteNode replacer) tree).kind j =
      replacer.rewrite^[nodes.count j] (tree.kind j) := by
  induction nodes generalizing tree with
  | nil => rfl
  | cons i nodes inductionHypothesis =>
      rw [List.foldl_cons, inductionHypothesis, kind_rewriteNode, List.count_cons]
      by_cases same : j = i
      · rw [if_pos same, if_pos (by simp [same]), Function.iterate_succ_apply]
      · rw [if_neg same, if_neg (by simpa using Ne.symm same), Nat.add_zero]

/-! ## Titles -/

/-- A title is reported when the subtree holds a document node and the title changes. -/
theorem newTitle?_eq_some_iff
    {tree : Tree}
    {replacer : Replacer}
    {i : NodeId}
    {title : String} :
    tree.newTitle? replacer i = some title ↔
      (∃ j ∈ tree.descendants i, tree.kind j = .document) ∧
        title = replacer.apply tree.title ∧ title ≠ tree.title := by
  have document : (tree.descendants i).any (fun j => tree.kind j == .document) = true ↔
      ∃ j ∈ tree.descendants i, tree.kind j = .document := by
    simp
  rw [newTitle?]
  simp only [Bool.and_eq_true, document, bne_iff_ne]
  split_ifs with changes
  · rw [Option.some.injEq]
    exact ⟨fun same => ⟨changes.1, same.symm, same ▸ changes.2⟩, fun reported => reported.2.1.symm⟩
  · constructor
    · intro none
      cases none
    · rintro ⟨holds, rfl, different⟩
      exact absurd ⟨holds, different⟩ changes

/-- The same nodes are below the same blocks, so the same new title is found there. -/
theorem Reworded.newTitle?_eq
    {tree other : Tree}
    (reworded : Reworded tree other)
    (replacer : Replacer)
    (i : NodeId) :
    other.newTitle? replacer i = tree.newTitle? replacer i := by
  have document : ∀ j, (other.kind j == .document) = (tree.kind j == .document) := by
    intro j
    rw [Bool.eq_iff_iff, beq_iff_eq, beq_iff_eq, reworded.document]
  rw [newTitle?, newTitle?, reworded.links.descendants, reworded.title_eq]
  simp only [document]

/-! ## Blocks -/

theorem reworded_replaceBelow
    (tree : Tree)
    (replacer : Replacer)
    (i : NodeId) :
    Reworded tree (tree.replaceBelow replacer i) := reworded_foldl_rewriteNode _ _ _

/-- The nodes in which the text of some blocks is replaced, once for every walk over them. -/
def walked (tree : Tree) (ids : List String) : List NodeId :=
  (ids.filterMap tree.findBlock?).flatMap tree.descendants

theorem Reworded.walked_eq
    {tree other : Tree}
    (reworded : Reworded tree other)
    (ids : List String) :
    other.walked ids = tree.walked ids := by
  rw [walked, walked, reworded.findBlock?_eq]
  exact List.flatMap_congr fun i _ => reworded.links.descendants i

theorem foldl_rewriteBlock
    (replacer : Replacer)
    (state : Rewriting)
    (ids : List String) :
    (ids.foldl (rewriteBlock replacer) state).tree =
      (state.tree.walked ids).foldl (rewriteNode replacer) state.tree := by
  induction ids generalizing state with
  | nil => rfl
  | cons id ids inductionHypothesis =>
      rw [List.foldl_cons, inductionHypothesis]
      cases found : state.tree.findBlock? id with
      | none =>
          rw [rewriteBlock, found, walked, walked, List.filterMap_cons_none found]
      | some i =>
          have same := (reworded_replaceBelow state.tree replacer i).walked_eq ids
          rw [rewriteBlock, found, same]
          rw [walked, walked, List.filterMap_cons_some found, List.flatMap_cons,
            List.foldl_append]
          rfl

/-- Replacing text in blocks rewrites the nodes of one walk after the other. -/
theorem tree_rewriteBlocks
    (tree : Tree)
    (replacer : Replacer)
    (ids : List String) :
    (tree.rewriteBlocks replacer ids).tree =
      (tree.walked ids).foldl (rewriteNode replacer) tree := foldl_rewriteBlock _ _ _

theorem reworded_rewriteBlocks
    (tree : Tree)
    (replacer : Replacer)
    (ids : List String) :
    Reworded tree (tree.rewriteBlocks replacer ids).tree := by
  rw [tree_rewriteBlocks]
  exact reworded_foldl_rewriteNode _ _ _

/-- The new titles that are found when text is replaced in some blocks. -/
def titlesIn (tree : Tree) (replacer : Replacer) (ids : List String) : List String :=
  ids.filterMap fun id => (tree.findBlock? id).bind (tree.newTitle? replacer)

theorem Reworded.titlesIn_eq
    {tree other : Tree}
    (reworded : Reworded tree other)
    (replacer : Replacer)
    (ids : List String) :
    other.titlesIn replacer ids = tree.titlesIn replacer ids := by
  have same : other.newTitle? replacer = tree.newTitle? replacer :=
    funext (reworded.newTitle?_eq replacer)
  rw [titlesIn, titlesIn, reworded.findBlock?_eq, same]

/-- All new titles of a document are the same. -/
theorem eq_of_mem_titlesIn
    {tree : Tree}
    {replacer : Replacer}
    {ids : List String}
    {title : String}
    (member : title ∈ tree.titlesIn replacer ids) :
    title = replacer.apply tree.title := by
  obtain ⟨id, _, found⟩ := List.mem_filterMap.1 member
  obtain ⟨i, _, reported⟩ := Option.bind_eq_some_iff.1 found
  exact (newTitle?_eq_some_iff.1 reported).2.1

theorem foldl_rewriteBlock_titles
    (replacer : Replacer)
    (state : Rewriting)
    (ids : List String) :
    (ids.foldl (rewriteBlock replacer) state).titles =
      (state.tree.titlesIn replacer ids).reverse ++ state.titles := by
  induction ids generalizing state with
  | nil => rfl
  | cons id ids inductionHypothesis =>
      rw [List.foldl_cons, inductionHypothesis]
      cases found : state.tree.findBlock? id with
      | none => simp only [rewriteBlock, found, titlesIn, List.filterMap_cons, Option.bind_none]
      | some i =>
          have same := (reworded_replaceBelow state.tree replacer i).titlesIn_eq replacer ids
          simp only [rewriteBlock, found, same]
          cases title : state.tree.newTitle? replacer i <;>
            simp [titlesIn, found, title]

/-- The new titles are found in the order of the blocks. -/
theorem reverse_titles_rewriteBlocks
    (tree : Tree)
    (replacer : Replacer)
    (ids : List String) :
    (tree.rewriteBlocks replacer ids).titles.reverse = tree.titlesIn replacer ids := by
  rw [rewriteBlocks, foldl_rewriteBlock_titles, List.append_nil, List.reverse_reverse]

end Tree
end BlockSearch
