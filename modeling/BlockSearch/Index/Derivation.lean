import BlockSearch.BlockId
import BlockSearch.Distinct
import BlockSearch.Document.Content
import BlockSearch.Index.Record

/-!
# Records of a document

The index holds one record for every block with an identifier that can be reached from the
root through blocks. Of several blocks with one identifier the first is taken.
-/

namespace BlockSearch

namespace BlockId

/-- The characters that take up exactly the first `size` bytes of a text. -/
def takeBytes? : (size : Nat) → List Char → Option (List Char)
  | 0, _ => some []
  | _ + 1, [] => none
  | size + 1, c :: rest =>
      if c.utf8Size ≤ size + 1 then
        (takeBytes? (size + 1 - c.utf8Size) rest).map (c :: ·)
      else none
termination_by _ text => text.length

/--
The creation time that an identifier begins with: its first fourteen bytes. A text that is
no identifier has an empty one. There is none when the bytes end inside a character, which
the digits of some scripts make possible.
-/
def stamp? (id : String) : Option String :=
  if isBlockId id then (takeBytes? stampLength id.toList).map String.ofList else some ""

end BlockId

/-- The rank of a type code in the default order of results. -/
def typeRank (code : String) : Int :=
  match code with
  | "d" => 0
  | "h" => 5
  | "p" => 10
  | "c" | "m" | "t" | "html" | "query_embed" => 20
  | _ => 30

namespace Tree

/-- Collect the blocks of a walk that have an identifier; inline nodes hold no blocks. -/
def visitBlock (tree : Tree) (found : List NodeId) (i : NodeId) : List NodeId × Verdict :=
  if (tree.kind i).isBlock then
    (if (tree.node i).id.isSome then i :: found else found, .descend)
  else (found, .skip)

/-- The blocks with an identifier that are reached through blocks, in document order. -/
def namedBlocks (tree : Tree) : List NodeId := (tree.walk tree.visitBlock [] root).reverse

/-- The identifier of the nearest node above a node that has one. -/
def parentId (tree : Tree) (i : NodeId) : String :=
  ((tree.ancestors i).reverse.findSome? fun j => (tree.node j).id).getD ""

/-- The attribute of a node with a name; empty when there is none. -/
def attributeText (tree : Tree) (i : NodeId) (name : String) : String :=
  (Attribute.get? (tree.node i).attributes name).getD ""

/-- The content of a block: the title of a document, and the text of any other block. -/
def blockContent (tree : Tree) (i : NodeId) : String :=
  match tree.kind i with
  | .document => tree.title
  | _ => tree.text i

/-- The text of the first child of a container. -/
def firstChildText (tree : Tree) (i : NodeId) : String :=
  if (tree.kind i).isContainer then
    match (tree.node i).firstChild with
    | some child => tree.text child
    | none => ""
  else ""

/-- The level of a heading, such as `h2`. -/
def blockSubtype (tree : Tree) (i : NodeId) : String :=
  match (tree.kind i).headingLevel? with
  | some level => "h" ++ toString level.toNat
  | none => ""

/-- The record of a block, unless its identifier has no creation time. -/
def record? (tree : Tree) (i : NodeId) : Option Record := do
  let id := (tree.node i).id.getD ""
  let created ← BlockId.stamp? id
  let type := (tree.kind i).typeCode?.getD ""
  let content := tree.blockContent i
  some {
    id
    parentId := tree.parentId i
    rootId := tree.id
    box := tree.box
    path := tree.path
    hpath := tree.hpath
    name := tree.attributeText i "name"
    aliases := tree.attributeText i "alias"
    memo := tree.attributeText i "memo"
    tag := tree.attributeText i "tags"
    content
    fcontent := tree.firstChildText i
    markdown := content
    length := content.length
    type
    subtype := tree.blockSubtype i
    ial := String.ofList (Attribute.print (tree.node i).attributes)
    sort := typeRank type
    created
    updated := (Attribute.get? (tree.node i).attributes "updated").getD created }

/-- The records of a document, unless an identifier has no creation time. -/
def records? (tree : Tree) : Option (List Record) :=
  (tree.namedBlocks.mapM tree.record?).map (distinctBy Record.id)

end Tree
end BlockSearch
