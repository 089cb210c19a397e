import BlockSearch.Text.Blank

/-!
# Kinds of nodes

A document consists of blocks and of the inline nodes inside them. The kind of a node
says which it is and holds the text of the node.
-/

namespace BlockSearch

/-- A stretch of inline text with a list of types, such as a link or a highlight. -/
structure TextMark where
  /-- The types, between blanks. -/
  types : String := ""
  /-- The visible text. -/
  text : String := ""
  /-- The target of a link. -/
  href : String := ""
  /-- The title of a link. -/
  title : String := ""
  /-- The formula of an inline formula. -/
  formula : String := ""
  /-- The memo of an inline memo. -/
  memo : String := ""
  /-- The block that a reference points to. -/
  refId : String := ""
  /-- Whether a reference has a text of its own or follows its target. -/
  refSubtype : String := ""
  /-- The annotation that a reference into a file points to. -/
  fileRefId : String := ""
  deriving DecidableEq, Repr, Inhabited

namespace TextMark

/-- The words of a list of types. -/
def typeWords (types : String) : List String :=
  (Text.words types.toList).map String.ofList

/-- Whether a list of types names a type. -/
def typesInclude (types type : String) : Bool := (typeWords types).contains type

/-- Whether a mark has a type. -/
def hasType (mark : TextMark) (type : String) : Bool := typesInclude mark.types type

/-- Give a mark the target of another: of its link, reference or file reference. -/
def copyTarget (source target : TextMark) : TextMark :=
  if source.hasType "a" then { target with href := source.href, title := source.title }
  else if source.hasType "block-ref" then
    { target with refId := source.refId, refSubtype := source.refSubtype }
  else if source.hasType "file-annotation-ref" then
    { target with fileRefId := source.fileRefId }
  else target

end TextMark

/-- What a node is, with the text that it holds. -/
inductive Kind
  /-- The root of a document. -/
  | document
  /-- A heading. -/
  | heading (level : UInt8)
  /-- A paragraph. -/
  | paragraph
  /-- A list. -/
  | list
  /-- An item of a list. -/
  | listItem
  /-- A quotation. -/
  | blockquote
  /-- A container that lays out blocks. -/
  | superBlock
  /-- A block of code and its language. -/
  | codeBlock (info code : String)
  /-- A displayed formula. -/
  | mathBlock (content : String)
  /-- A table. -/
  | table
  /-- A block of HTML. -/
  | htmlBlock (html : String)
  /-- A block that shows the results of a statement. -/
  | queryEmbed (statement : String)
  /-- Plain inline text. -/
  | text (text : String)
  /-- A link, whose parts are its children. -/
  | link
  /-- The visible text of a link. -/
  | linkText (text : String)
  /-- The target of a link. -/
  | linkDest (dest : String)
  /-- The title of a link. -/
  | linkTitle (title : String)
  /-- Inline text with types. -/
  | textMark (mark : TextMark)
  /-- The attributes of the inline node before it. -/
  | spanAttributes (tokens : String)
  deriving DecidableEq, Repr, Inhabited

namespace Kind

/-- The code that the index stores for a block; inline nodes have none. -/
def typeCode? : Kind → Option String
  | .document => some "d"
  | .heading _ => some "h"
  | .paragraph => some "p"
  | .list => some "l"
  | .listItem => some "i"
  | .blockquote => some "b"
  | .superBlock => some "s"
  | .codeBlock _ _ => some "c"
  | .mathBlock _ => some "m"
  | .table => some "t"
  | .htmlBlock _ => some "html"
  | .queryEmbed _ => some "query_embed"
  | _ => none

/-- Whether a node of this kind is a block. -/
def isBlock (kind : Kind) : Bool := kind.typeCode?.isSome

/-- Whether the content of a block lies in the blocks inside it. -/
def isContainer : Kind → Bool
  | .document | .list | .listItem | .blockquote | .superBlock => true
  | _ => false

/-- The text that a node holds itself. -/
def ownText? : Kind → Option String
  | .text value => some value
  | .linkText value => some value
  | .codeBlock _ code => some code
  | .mathBlock content => some content
  | .htmlBlock html => some html
  | .textMark mark => some mark.text
  | _ => none

/-- The level of a heading. -/
def headingLevel? : Kind → Option UInt8
  | .heading level => some level
  | _ => none

end Kind
end BlockSearch
