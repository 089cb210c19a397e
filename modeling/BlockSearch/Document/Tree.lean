import BlockSearch.Document.Kind
import BlockSearch.Text.Attribute

/-!
# Document trees

The nodes of a document lie in one array and refer to each other by their place in it.
A node that is unlinked stays in the array; it can no longer be reached from the root,
which is the first node.
-/

namespace BlockSearch

/-- The place of a node in its tree. -/
abbrev NodeId := Nat

/-- A node and its links to the nodes around it. -/
structure Node where
  /-- What the node is. -/
  kind : Kind
  /-- The identifier of a block. -/
  id : Option String := none
  /-- The attributes, in order. -/
  attributes : List (String × String) := []
  /-- The node that this one lies in. -/
  parent : Option NodeId := none
  /-- The first node in this one. -/
  firstChild : Option NodeId := none
  /-- The last node in this one. -/
  lastChild : Option NodeId := none
  /-- The node before this one in the same parent. -/
  previous : Option NodeId := none
  /-- The node behind this one in the same parent. -/
  next : Option NodeId := none
  deriving DecidableEq, Repr, Inhabited

/-- A document: where it is stored, and its nodes. -/
structure Tree where
  /-- The identifier of the document. -/
  id : String
  /-- The notebook that holds the document. -/
  box : String
  /-- The path of the document in its notebook. -/
  path : String
  /-- The path made of titles. -/
  hpath : String
  /-- The nodes. -/
  nodes : Array Node
  deriving DecidableEq, Repr, Inhabited

namespace Tree

/-- A document without content. -/
def new (id box path hpath : String) : Tree :=
  { id, box, path, hpath, nodes := #[{ kind := .document, id := some id }] }

/-- The root of every tree is its first node. -/
def root : NodeId := 0

/-- The number of nodes, reachable or not. -/
def size (tree : Tree) : Nat := tree.nodes.size

/-- The node at a place. -/
def node (tree : Tree) (i : NodeId) : Node := tree.nodes[i]?.getD { kind := .document }

/-- Change the node at a place. -/
def modify (tree : Tree) (i : NodeId) (change : Node → Node) : Tree :=
  { tree with nodes := tree.nodes.modify i change }

/-- The kind of the node at a place. -/
def kind (tree : Tree) (i : NodeId) : Kind := (tree.node i).kind

/-- The title of the document. -/
def title (tree : Tree) : String :=
  (Attribute.get? (tree.node root).attributes "title").getD ""

/-- Give a node an attribute. -/
def setAttribute (tree : Tree) (i : NodeId) (name value : String) : Tree :=
  tree.modify i fun node => { node with attributes := Attribute.set name value node.attributes }

/-- Give the document a title. -/
def setTitle (tree : Tree) (title : String) : Tree := tree.setAttribute root "title" title

/-- Add a node that is not linked to any other. Its place is the old size. -/
def addNode (tree : Tree) (kind : Kind) (id : Option String) : Tree :=
  { tree with nodes := tree.nodes.push { kind, id } }

/-- Make a detached node the last child of a parent. -/
def appendChild (tree : Tree) (parent child : NodeId) : Tree :=
  let last := (tree.node parent).lastChild
  let tree := tree.modify child fun node =>
    { node with parent := some parent, previous := last, next := none }
  let tree :=
    match last with
    | some last => tree.modify last fun node => { node with next := some child }
    | none => tree.modify parent fun node => { node with firstChild := some child }
  tree.modify parent fun node => { node with lastChild := some child }

/-- Add a node as the last child of a parent. -/
def appendNew (tree : Tree) (parent : NodeId) (kind : Kind) (id : Option String) : Tree :=
  (tree.addNode kind id).appendChild parent tree.size

/-- Put a detached node right before another. -/
def insertBefore (tree : Tree) (target new : NodeId) : Tree :=
  let parent := (tree.node target).parent
  let previous := (tree.node target).previous
  let tree := tree.modify new fun node =>
    { node with parent := parent, previous := previous, next := some target }
  let tree := tree.modify target fun node => { node with previous := some new }
  match previous, parent with
  | some previous, _ => tree.modify previous fun node => { node with next := some new }
  | none, some parent => tree.modify parent fun node => { node with firstChild := some new }
  | none, none => tree

/-- Take a node, with all below it, out of its parent. -/
def unlink (tree : Tree) (i : NodeId) : Tree :=
  let parent := (tree.node i).parent
  let previous := (tree.node i).previous
  let next := (tree.node i).next
  let tree :=
    match previous, parent with
    | some previous, _ => tree.modify previous fun node => { node with next := next }
    | none, some parent => tree.modify parent fun node => { node with firstChild := next }
    | none, none => tree
  let tree :=
    match next, parent with
    | some next, _ => tree.modify next fun node => { node with previous := previous }
    | none, some parent => tree.modify parent fun node => { node with lastChild := previous }
    | none, none => tree
  tree.modify i fun node => { node with parent := none, previous := none, next := none }

end Tree
end BlockSearch
