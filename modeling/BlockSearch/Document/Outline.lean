import BlockSearch.Document.Walk

/-!
# Outlines

The nodes of a document as a nested value. An outline is what a document is stored as:
it holds every node that can be reached from the root, and no links.
-/

namespace BlockSearch

/-- A node with the nodes inside it. -/
inductive Outline
  /-- A node, its identifier, its attributes and its children. -/
  | node
      (kind : Kind)
      (id : Option String)
      (attributes : List (String × String))
      (children : List Outline)
  deriving Repr, Inhabited

namespace Outline

/-- The kind of the outermost node. -/
def kind : Outline → Kind
  | .node kind _ _ _ => kind

/-- The attributes of the outermost node. -/
def attributes : Outline → List (String × String)
  | .node _ _ attributes _ => attributes

/-- The children of the outermost node. -/
def children : Outline → List Outline
  | .node _ _ _ children => children

end Outline

namespace Tree

/-- The outline of a node, at most `depth` levels. -/
def outlineWithin (tree : Tree) : (depth : Nat) → NodeId → Outline
  | 0, i => .node (tree.kind i) (tree.node i).id (tree.node i).attributes []
  | depth + 1, i =>
      .node (tree.kind i) (tree.node i).id (tree.node i).attributes
        ((tree.children i).map (tree.outlineWithin depth))

/-- The outline of the document. -/
def outline (tree : Tree) : Outline := tree.outlineWithin tree.size root

mutual

/-- Add an outline as the last child of a parent. -/
def attach (tree : Tree) (parent : NodeId) : Outline → Tree
  | .node kind id attributes children =>
      let added := (tree.addNode kind id).modify tree.size fun node =>
        { node with attributes := attributes }
      attachAll (added.appendChild parent tree.size) tree.size children

/-- Add outlines as the last children of a parent, in order. -/
def attachAll (tree : Tree) (parent : NodeId) : List Outline → Tree
  | [] => tree
  | outline :: outlines => attachAll (attach tree parent outline) parent outlines

end

/-- The document with the attributes and children of an outline. -/
def ofOutline (id box path hpath : String) (outline : Outline) : Tree :=
  let tree := (Tree.new id box path hpath).modify root fun node =>
    { node with attributes := outline.attributes }
  tree.attachAll root outline.children

end Tree
end BlockSearch
