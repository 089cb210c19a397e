import BlockSearch.Document.Tree

/-!
# Walking a tree

The children of a node, everything below a node in document order, and walks that can
leave out the children of a node or end early. No chain of links in a forest is longer
than its number of nodes, so that number bounds every search here.
-/

namespace BlockSearch
namespace Tree

/-- A node and those behind it, at most `fuel` of them. -/
def chainFrom (tree : Tree) : (fuel : Nat) → Option NodeId → List NodeId
  | _, none => []
  | 0, some _ => []
  | fuel + 1, some i => i :: tree.chainFrom fuel (tree.node i).next

/-- The children of a node, in order. -/
def children (tree : Tree) (i : NodeId) : List NodeId :=
  tree.chainFrom tree.size (tree.node i).firstChild

/-- The nodes behind a node in the same parent, in order. -/
def followingSiblings (tree : Tree) (i : NodeId) : List NodeId :=
  tree.chainFrom tree.size (tree.node i).next

/-- A node and all below it in document order, at most `depth` levels. -/
def descendantsWithin (tree : Tree) : (depth : Nat) → NodeId → List NodeId
  | 0, _ => []
  | depth + 1, i => i :: (tree.children i).flatMap (tree.descendantsWithin depth)

/-- A node and all below it, in document order. -/
def descendants (tree : Tree) (i : NodeId) : List NodeId :=
  tree.descendantsWithin tree.size i

/-- The nodes above a node from the nearest on, at most `fuel` of them. -/
def parentsFrom (tree : Tree) : (fuel : Nat) → Option NodeId → List NodeId
  | _, none => []
  | 0, some _ => []
  | fuel + 1, some i => i :: tree.parentsFrom fuel (tree.node i).parent

/-- The nodes above a node, from the root on. -/
def ancestors (tree : Tree) (i : NodeId) : List NodeId :=
  (tree.parentsFrom tree.size (tree.node i).parent).reverse

/-- What a visitor wants after it has seen a node. -/
inductive Verdict
  /-- Go on with the children of the node. -/
  | descend
  /-- Leave out the children of the node. -/
  | skip
  /-- End the walk. -/
  | stop
  deriving DecidableEq, Repr

/-- Visit the nodes of a stack, each before its children, at most `fuel` nodes. -/
def walkStack
    {σ : Type}
    (tree : Tree)
    (visit : σ → NodeId → σ × Verdict) : (fuel : Nat) → σ → List NodeId → σ
  | 0, state, _ => state
  | _ + 1, state, [] => state
  | fuel + 1, state, i :: stack =>
      match visit state i with
      | (state, .stop) => state
      | (state, .skip) => tree.walkStack visit fuel state stack
      | (state, .descend) => tree.walkStack visit fuel state (tree.children i ++ stack)

/--
Visit a node and those below it in document order. No walk makes more visits than the
one that leaves nothing out.
-/
def walk
    {σ : Type}
    (tree : Tree)
    (visit : σ → NodeId → σ × Verdict)
    (state : σ)
    (start : NodeId) : σ :=
  tree.walkStack visit (tree.descendants start).length state [start]

end Tree
end BlockSearch
