import BlockSearch.Document.Walk

/-!
# Reading a tree

Blocks by their identifier, the text below a node, the first leaf of a container, the
section of a heading, and the order of blocks in a document.
-/

namespace BlockSearch
namespace Tree

/-- The first node in document order with an identifier. -/
def findBlock? (tree : Tree) (id : String) : Option NodeId :=
  (tree.descendants root).find? fun i => (tree.node i).id == some id

/-- The text of a node and all below it, in document order. -/
def text (tree : Tree) (i : NodeId) : String :=
  String.join ((tree.descendants i).filterMap fun j => (tree.kind j).ownText?)

/-- Look for a leaf block; nodes that are not blocks hold none. -/
def visitLeaf (tree : Tree) (_ : Option NodeId) (i : NodeId) : Option NodeId × Verdict :=
  let kind := tree.kind i
  if kind.isBlock && !kind.isContainer then (some i, .stop)
  else if kind.isBlock then (none, .descend)
  else (none, .skip)

/-- The first block below a node, or the node itself, that is not a container. -/
def firstLeaf? (tree : Tree) (i : NodeId) : Option NodeId :=
  tree.walk tree.visitLeaf none i

/-- Whether a node is a heading of this level or a higher one. -/
def endsSection (tree : Tree) (level : UInt8) (i : NodeId) : Bool :=
  match (tree.kind i).headingLevel? with
  | some other => other ≤ level
  | none => false

/-- The siblings behind a heading, up to the next heading of its level or a higher one. -/
def headingSection (tree : Tree) (i : NodeId) : List NodeId :=
  match (tree.kind i).headingLevel? with
  | some level => (tree.followingSiblings i).takeWhile fun j => !tree.endsSection level j
  | none => []

/-- The identifier of a node that is a block and has one. -/
def blockId? (tree : Tree) (i : NodeId) : Option String :=
  if (tree.kind i).isBlock then (tree.node i).id else none

/-- The identifiers of all blocks, in document order. -/
def blockIds (tree : Tree) : List String :=
  (tree.descendants root).filterMap tree.blockId?

/-- The place of each block in document order; of a repeated identifier the last counts. -/
def contentOrder (tree : Tree) : List (String × Nat) := tree.blockIds.zipIdx

/-- The place of a block in document order. -/
def position? (tree : Tree) (id : String) : Option Nat :=
  (tree.contentOrder.reverse.find? (·.1 == id)).map (·.2)

end Tree
end BlockSearch
