/-!
# Block types

The types of blocks that a search can include or leave out. A type has a code in the
index, a name in requests, and a name in settings.
-/

namespace BlockSearch

/-- A type of blocks. -/
inductive BlockType
  /-- Documents. -/
  | document
  /-- Headings. -/
  | heading
  /-- Lists. -/
  | list
  /-- Items of lists. -/
  | listItem
  /-- Blocks of code. -/
  | codeBlock
  /-- Displayed formulas. -/
  | mathBlock
  /-- Tables. -/
  | table
  /-- Quotations. -/
  | blockquote
  /-- Containers that lay out blocks. -/
  | superBlock
  /-- Paragraphs. -/
  | paragraph
  /-- Blocks of HTML. -/
  | htmlBlock
  /-- Blocks that show the results of a statement. -/
  | embedBlock
  deriving DecidableEq, Repr

namespace BlockType

/-- All types, in the order in which a filter names them. -/
def all : List BlockType :=
  [.document, .heading, .list, .listItem, .codeBlock, .mathBlock, .table, .blockquote,
    .superBlock, .paragraph, .htmlBlock, .embedBlock]

/-- The code of a type in the index. -/
def code : BlockType → String
  | .document => "d"
  | .heading => "h"
  | .list => "l"
  | .listItem => "i"
  | .codeBlock => "c"
  | .mathBlock => "m"
  | .table => "t"
  | .blockquote => "b"
  | .superBlock => "s"
  | .paragraph => "p"
  | .htmlBlock => "html"
  | .embedBlock => "query_embed"

/-- The name of a type in requests. -/
def requestName : BlockType → String
  | .document => "document"
  | .heading => "heading"
  | .list => "list"
  | .listItem => "listItem"
  | .codeBlock => "codeBlock"
  | .mathBlock => "mathBlock"
  | .table => "table"
  | .blockquote => "blockquote"
  | .superBlock => "superBlock"
  | .paragraph => "paragraph"
  | .htmlBlock => "htmlBlock"
  | .embedBlock => "embedBlock"

/-- The name of a type in settings. -/
def settingName : BlockType → String
  | .document => "document"
  | .heading => "heading"
  | .list => "list"
  | .listItem => "list_item"
  | .codeBlock => "code_block"
  | .mathBlock => "math_block"
  | .table => "table"
  | .blockquote => "blockquote"
  | .superBlock => "super_block"
  | .paragraph => "paragraph"
  | .htmlBlock => "html_block"
  | .embedBlock => "embed_block"

/-- Containers are left out of searches unless settings say otherwise, and so are embeds. -/
def searchedByDefault : BlockType → Bool
  | .list | .listItem | .blockquote | .superBlock | .embedBlock => false
  | _ => true

/-- Every type is listed. -/
theorem mem_all (type : BlockType) : type ∈ all := by
  cases type <;> simp [all]

end BlockType
end BlockSearch
