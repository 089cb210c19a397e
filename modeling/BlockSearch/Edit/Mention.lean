import BlockSearch.Document.Content
import BlockSearch.Mark.Segment
import BlockSearch.Mark.Truncate

/-!
# Mentions

The leaf blocks of a document that mention a keyword, with their text marked.
-/

namespace BlockSearch

/-- A block that mentions a keyword. -/
structure Mention where
  /-- The identifier of the block. -/
  id : String
  /-- The text of the block as HTML, with its marks. -/
  content : String
  deriving DecidableEq, Repr

namespace Tree

/-- The text of a block as HTML, with the keywords marked that do not end inside a word. -/
def markedText (tree : Tree) (mode : CaseMode) (keywords : List String) (i : NodeId) :
    List Char :=
  Mark.encloseWords mode (keywords.map fun keyword => Html.escape keyword.toList)
    Mark.openTag Mark.closeTag (Html.escape (tree.text i).toList)

/-- The mention in a leaf block, if a mark is left in its text. -/
def mention? (tree : Tree) (mode : CaseMode) (keywords : List String) (i : NodeId) :
    Option Mention :=
  let kind := tree.kind i
  if kind.isBlock && !kind.isContainer then
    match (tree.node i).id with
    | some id =>
        let marked := tree.markedText mode keywords i
        if Text.contains Mark.openTag marked then
          some ⟨id, String.ofList (Mark.bound Mark.contentLimit marked)⟩
        else none
    | none => none
  else none

/-- The mentions in a document, in order. -/
def mentions (tree : Tree) (mode : CaseMode) (keywords : List String) : List Mention :=
  (tree.descendants root).filterMap (tree.mention? mode keywords)

end Tree
end BlockSearch
