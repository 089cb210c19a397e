import BlockSearch.Index.Record
import BlockSearch.Mark.Score
import BlockSearch.Mark.Truncate
import BlockSearch.Text.Attribute

/-!
# Blocks for display

A record as it is shown: its texts are HTML with marks, and its attributes are read.
-/

namespace BlockSearch

/-- A block that a search found. -/
structure Block where
  /-- The notebook. -/
  box : String := ""
  /-- The path of the document. -/
  path : String := ""
  /-- The path made of titles, as HTML. -/
  hpath : String := ""
  /-- The identifier. -/
  id : String := ""
  /-- The document that the block lies in. -/
  rootId : String := ""
  /-- The block that this one lies in. -/
  parentId : String := ""
  /-- The name, as HTML. -/
  name : String := ""
  /-- The alias, as HTML. -/
  aliases : String := ""
  /-- The memo, as HTML. -/
  memo : String := ""
  /-- The tags. -/
  tag : String := ""
  /-- The content, as HTML. -/
  content : String := ""
  /-- The text of the first child. -/
  fcontent : String := ""
  /-- The text of the block as it was written. -/
  markdown : String := ""
  /-- The attributes, sorted by name. -/
  attributes : List (String × String) := []
  /-- The type code. -/
  type : String := ""
  /-- The level of a heading. -/
  subtype : String := ""
  /-- The rank in the order of results. -/
  sort : Int := 0
  /-- When the block was created. -/
  created : String := ""
  /-- When the block was last changed. -/
  updated : String := ""
  /-- The text of a reference to the block. -/
  referenceText : String := ""
  /-- The score; smaller is better. -/
  score : Float := 0.0
  deriving Repr, Inhabited

namespace Block

/-- The codes of blocks whose content lies in the blocks inside them. -/
def containerTypes : List String := ["l", "i", "b", "s"]

/-- Whether the content of the block lies in the blocks inside it. -/
def isContainer (block : Block) : Bool := containerTypes.contains block.type

/-- Most characters before the first mark in a content. -/
def contentContext : Nat := 36

/-- Most characters before the first mark in a path. -/
def pathContext : Nat := 18

/-- Most characters before the first mark in a name, alias or memo. -/
def metaContext : Nat := 256

/-- The pairs of a list sorted by name; of a repeated name the last pair is taken. -/
def sortedAttributes (pairs : List (String × String)) : List (String × String) :=
  pairs.foldl insertPair []
where
  /-- Put a pair into a sorted list. -/
  insertPair : List (String × String) → String × String → List (String × String)
    | [], pair => [pair]
    | first :: rest, pair =>
        if pair.1 < first.1 then pair :: first :: rest
        else if pair.1 = first.1 then pair :: rest
        else first :: insertPair rest pair

/-- A path begins with a slash. -/
def rooted (path : List Char) : List Char :=
  if path.head? == some '/' then path else '/' :: path

/-- A text for display. -/
def marked (mode : CaseMode) (keyword : List Char) (context : Nat) (text : String) : List Char :=
  (Mark.markSearch mode keyword context text.toList).text

/-- A name, alias or memo for display; an empty one stays empty. -/
def markedMeta (mode : CaseMode) (keyword : List Char) (text : String) : String :=
  if text.isEmpty then "" else String.ofList (marked mode keyword metaContext text)

/--
A record for display. The packed keywords are marked; without a keyword the markers of the
index become marks.
-/
def ofRecord (mode : CaseMode) (keyword : List Char) (record : Record) : Block :=
  let content := Mark.markSearch mode keyword contentContext record.content.toList
  {
    box := record.box
    path := record.path
    hpath := String.ofList (rooted (marked mode keyword pathContext record.hpath))
    id := record.id
    rootId := record.rootId
    parentId := record.parentId
    name := markedMeta mode keyword record.name
    aliases := markedMeta mode keyword record.aliases
    memo := markedMeta mode keyword record.memo
    tag := record.tag
    content := String.ofList (Mark.bound Mark.contentLimit content.text)
    fcontent := record.fcontent
    markdown := String.ofList (Mark.bound Mark.contentLimit record.markdown.toList)
    attributes := sortedAttributes (Attribute.read record.ial.toList)
    type := record.type
    subtype := record.subtype
    sort := record.sort
    created := record.created
    updated := record.updated
    score := content.score }

end Block
end BlockSearch
