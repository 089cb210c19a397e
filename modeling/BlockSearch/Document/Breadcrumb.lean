import BlockSearch.Document.Content

/-!
# Breadcrumbs

The way from the root of a document to a block, as a list of named blocks.
-/

namespace BlockSearch

/-- One step of the way to a block. -/
structure Breadcrumb where
  /-- The identifier of the block. -/
  id : String
  /-- The title, the heading, or the beginning of the text. -/
  name : String
  /-- The type code. -/
  type : String
  /-- The level of a heading, such as `h2`. -/
  subtype : String
  deriving DecidableEq, Repr

/-- Most characters of a text that are shown in a breadcrumb. -/
def Breadcrumb.nameLimit : Nat := 24

namespace Tree

/-- The step for a block that has an identifier. -/
def breadcrumb? (tree : Tree) (i : NodeId) : Option Breadcrumb := do
  let type ← (tree.kind i).typeCode?
  let id ← (tree.node i).id
  match tree.kind i with
  | .document => some ⟨id, tree.title, type, ""⟩
  | .heading level => some ⟨id, tree.text i, type, "h" ++ toString level.toNat⟩
  | _ =>
      some ⟨id, String.ofList ((tree.text i).toList.take Breadcrumb.nameLimit), type, ""⟩

/-- The way from the root to a node, with the node itself. -/
def blockPath (tree : Tree) (i : NodeId) : List Breadcrumb :=
  (tree.ancestors i ++ [i]).filterMap tree.breadcrumb?

end Tree
end BlockSearch
