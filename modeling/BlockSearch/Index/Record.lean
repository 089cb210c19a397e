/-!
# Records

What the index stores for a block and for a reference to a block.
-/

namespace BlockSearch

/-- A block as it is stored in the index. -/
structure Record where
  /-- The identifier of the block. -/
  id : String := ""
  /-- The block that this one lies in. -/
  parentId : String := ""
  /-- The document that the block lies in. -/
  rootId : String := ""
  /-- A hash of the content. -/
  hash : String := ""
  /-- The notebook. -/
  box : String := ""
  /-- The path of the document. -/
  path : String := ""
  /-- The path made of titles. -/
  hpath : String := ""
  /-- The name of the block. -/
  name : String := ""
  /-- The alias of the block. -/
  aliases : String := ""
  /-- The memo of the block. -/
  memo : String := ""
  /-- The tags of the block. -/
  tag : String := ""
  /-- The text of the block. -/
  content : String := ""
  /-- The text of the first child of a container. -/
  fcontent : String := ""
  /-- The text of the block as it was written. -/
  markdown : String := ""
  /-- The number of characters of the content. -/
  length : Int := 0
  /-- The type code. -/
  type : String := ""
  /-- The level of a heading. -/
  subtype : String := ""
  /-- The attributes as text. -/
  ial : String := ""
  /-- The rank of the type. -/
  sort : Int := 0
  /-- When the block was created. -/
  created : String := ""
  /-- When the block was last changed. -/
  updated : String := ""
  deriving DecidableEq, Repr, Inhabited

/-- A reference from one block to another. -/
structure Reference where
  /-- The block that is referred to. -/
  defBlockId : String := ""
  /-- The block that the target lies in. -/
  defBlockParentId : String := ""
  /-- The document that the target lies in. -/
  defBlockRootId : String := ""
  /-- The path of the document of the target. -/
  defBlockPath : String := ""
  /-- The block that holds the reference. -/
  blockId : String := ""
  /-- The document that holds the reference. -/
  rootId : String := ""
  /-- The notebook that holds the reference. -/
  box : String := ""
  /-- The path of the document that holds the reference. -/
  path : String := ""
  /-- The text of the reference. -/
  content : String := ""
  /-- The text of the reference as it was written. -/
  markdown : String := ""
  /-- The type of the reference. -/
  type : String := ""
  deriving DecidableEq, Repr, Inhabited

/-- A text of a record that can be searched. -/
inductive Field
  /-- The path made of titles. -/
  | hpath
  /-- The name. -/
  | name
  /-- The alias. -/
  | aliases
  /-- The memo. -/
  | memo
  /-- The tags. -/
  | tag
  /-- The content. -/
  | content
  /-- The content of the first child. -/
  | fcontent
  /-- The attributes. -/
  | ial
  deriving DecidableEq, Repr

namespace Field

/-- All fields, in the order of the columns of the index. -/
def all : List Field := [.hpath, .name, .aliases, .memo, .tag, .content, .fcontent, .ial]

/-- The name of the column that holds a field. -/
def columnName : Field → String
  | .hpath => "hpath"
  | .name => "name"
  | .aliases => "alias"
  | .memo => "memo"
  | .tag => "tag"
  | .content => "content"
  | .fcontent => "fcontent"
  | .ial => "ial"

/-- The place of a field among all fields. -/
def position : Field → Nat
  | .hpath => 0
  | .name => 1
  | .aliases => 2
  | .memo => 3
  | .tag => 4
  | .content => 5
  | .fcontent => 6
  | .ial => 7

end Field

namespace Record

/-- The text of a field. -/
def text (record : Record) : Field → String
  | .hpath => record.hpath
  | .name => record.name
  | .aliases => record.aliases
  | .memo => record.memo
  | .tag => record.tag
  | .content => record.content
  | .fcontent => record.fcontent
  | .ial => record.ial

/-- The record with another text in a field. -/
def setText (record : Record) (field : Field) (text : String) : Record :=
  match field with
  | .hpath => { record with hpath := text }
  | .name => { record with name := text }
  | .aliases => { record with aliases := text }
  | .memo => { record with memo := text }
  | .tag => { record with tag := text }
  | .content => { record with content := text }
  | .fcontent => { record with fcontent := text }
  | .ial => { record with ial := text }

end Record
end BlockSearch
