import BlockSearch.Document.Breadcrumb
import BlockSearch.Library.Cache
import BlockSearch.Search.Block
import BlockSearch.Search.BlockType
import BlockSearch.Search.Request
import BlockSearch.Text.Html

/-!
# Embedded blocks

An embed shows the blocks that a statement selects. A heading is shown with its section.
-/

namespace BlockSearch

/-- A block that an embed shows. -/
structure Embedded where
  /-- The block. -/
  block : Block
  /-- The way to the block. -/
  path : List Breadcrumb
  deriving Repr, Inhabited

namespace Embedded

/-- The code of blocks that are embeds themselves. -/
def embedType : String := BlockType.embedBlock.code

/-- The records that an embed may show: neither embeds nor excluded blocks. -/
def shown (excluded : List String) (records : List Record) : List Record :=
  records.filter fun record => record.type != embedType && !excluded.contains record.id

/-- The nodes that are shown for a heading. -/
def headingNodes (tree : Tree) (mode : HeadingMode) (i : NodeId) : List NodeId :=
  match mode with
  | .withSection => i :: tree.headingSection i
  | .headingOnly => [i]
  | .sectionOnly => tree.headingSection i

/-- What is shown for a heading, as HTML. -/
def headingContent? (tree : Tree) (mode : HeadingMode) (i : NodeId) : Option String :=
  (tree.kind i).headingLevel?.map fun _ =>
    String.ofList <|
      ['\n'].intercalate ((headingNodes tree mode i).map fun j => Html.escape (tree.text j).toList)

/-- How an embed shows blocks. -/
structure Style where
  /-- What is shown for headings. -/
  heading : HeadingMode
  /-- Whether the way to each block is shown. -/
  breadcrumb : Bool
  /-- How letters are compared. -/
  mode : CaseMode
  /-- The names of notebooks. -/
  notebooks : List (String × String)

/-- The path with the name of its notebook in front, if there is one. -/
def Style.namedPath (style : Style) (block : Block) : String :=
  match style.notebooks.find? (·.1 == block.box) with
  | some (_, name) => name ++ block.hpath
  | none => block.hpath

/-- The block of a record in its document, if it is there. -/
def ofRecord? (style : Style) (tree : Tree) (record : Record) : Option Embedded :=
  (tree.findBlock? record.id).map fun i =>
    let block := Block.ofRecord style.mode [] record
    let content := (headingContent? tree style.heading i).getD block.content
    { block := { block with hpath := style.namedPath block, content }
      path := if style.breadcrumb then tree.blockPath i else [] }

/-- The blocks of records in their documents, as far as the cache gives these. -/
def ofRecords
    (style : Style)
    (load : String → Except TreeError Tree)
    (cache : TreeCache) : List Record → List Embedded
  | [] => []
  | record :: records =>
      let (tree, cache) := cache.get load record.rootId
      let rest := ofRecords style load cache records
      match tree.bind fun tree => ofRecord? style tree record with
      | some embedded => embedded :: rest
      | none => rest

end Embedded
end BlockSearch
