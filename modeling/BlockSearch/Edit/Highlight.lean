import BlockSearch.Document.Content
import BlockSearch.Document.Inline
import BlockSearch.Mark.Segment

/-!
# Highlighting keywords in a document

A text in which keywords occur is replaced by one node for every stretch of it. The new
nodes are put before the old one, which is taken out when all texts are done. A mark that
is cut into stretches gives each of them its types, target and attributes.
-/

namespace BlockSearch

/-- What to highlight, and how. -/
structure Highlight where
  /-- The keywords. -/
  keywords : List String
  /-- How letters are compared. -/
  mode : CaseMode
  /-- The type of the marks around keywords. -/
  spanType : String

namespace Highlight

/-- The type of marks around the keywords of a search. -/
def searchType : String := "search-mark"

/-- The types of marks whose text is not for reading. -/
def exemptTypes : List String := ["inline-math", "inline-memo"]

/-- The text with spans of the given types around the keywords. -/
def enclose (highlight : Highlight) (types text : List Char) : List Char :=
  Mark.enclose highlight.mode (highlight.keywords.map String.toList)
    (Inline.spanStart types) Inline.spanClose text

/-- The stretches of a text with spans. -/
def stretches (highlight : Highlight) (marked : List Char) : List Inline :=
  Inline.read highlight.spanType.toList marked

end Highlight

namespace Tree

/-- Add a node right before another. -/
def insertNew
    (tree : Tree)
    (target : NodeId)
    (kind : Kind)
    (attributes : List (String × String)) : Tree :=
  let added := (tree.addNode kind none).modify tree.size fun node =>
    { node with attributes := attributes }
  added.insertBefore target tree.size

/-- The node with span attributes right behind a node. -/
def spanAttributes? (tree : Tree) (i : NodeId) : Option NodeId :=
  match (tree.node i).next with
  | some next =>
      match tree.kind next with
      | .spanAttributes _ => some next
      | _ => none
  | none => none

/-- The mark for a stretch of a mark that was cut. -/
def piece (mark : TextMark) : Inline → TextMark
  | .text text => mark.copyTarget { types := mark.types, text := String.ofList text }
  | .mark types text =>
      mark.copyTarget { types := String.ofList types, text := String.ofList text }

/-- Put a stretch of a mark before it, with a copy of the span attributes behind it. -/
def insertPiece
    (i : NodeId)
    (mark : TextMark)
    (attributes : List (String × String))
    (trailing : Option Node)
    (tree : Tree)
    (stretch : Inline) : Tree :=
  let tree := tree.insertNew i (.textMark (piece mark stretch)) attributes
  match trailing with
  | some node => tree.insertNew i node.kind node.attributes
  | none => tree

/--
Put the stretches of a text or mark before it, if a keyword occurs in it. The result names
the nodes that are to be taken out.
-/
def splitAtKeywords? (tree : Tree) (highlight : Highlight) (i : NodeId) :
    Option (Tree × List NodeId) :=
  match tree.kind i with
  | .text text =>
      let marked := highlight.enclose highlight.spanType.toList text.toList
      if marked = text.toList then none
      else
        some
          ((highlight.stretches marked).foldl
            (fun tree stretch => tree.insertNew i stretch.kind []) tree,
          [i])
  | .textMark mark =>
      if Highlight.exemptTypes.any mark.hasType then none
      else
        let types := mark.types.toList ++ ' ' :: highlight.spanType.toList
        let marked := highlight.enclose types mark.text.toList
        if marked = mark.text.toList then none
        else
          let trailing := tree.spanAttributes? i
          some
            ((highlight.stretches marked).foldl
              (insertPiece i mark (tree.node i).attributes (trailing.map tree.node)) tree,
            i :: trailing.toList)
  | _ => none

/-- Whether a node is a text or a mark. -/
def isInlineText (tree : Tree) (i : NodeId) : Bool :=
  match tree.kind i with
  | .text _ | .textMark _ => true
  | _ => false

/-- A document that is being highlighted. -/
structure Highlighted where
  /-- The document. -/
  tree : Tree
  /-- The nodes to take out when all texts are done. -/
  unlinks : List NodeId
  /-- The number of nodes replaced so far. -/
  count : Nat

/-- Highlight the keywords in one node. -/
def highlightNode (highlight : Highlight) (state : Highlighted) (i : NodeId) : Highlighted :=
  match state.tree.splitAtKeywords? highlight i with
  | some (tree, unlinks) => ⟨tree, state.unlinks ++ unlinks, state.count + 1⟩
  | none => state

/-- Highlight the keywords in every text of a document, and count the nodes replaced. -/
def highlight (tree : Tree) (highlight : Highlight) : Tree × Nat :=
  let targets := (tree.descendants root).filter tree.isInlineText
  let state := targets.foldl (highlightNode highlight) ⟨tree, [], 0⟩
  (state.unlinks.foldl unlink state.tree, state.count)

end Tree
end BlockSearch
