import BlockSearch.Engine.Format
import BlockSearch.Json.Printer
import BlockSearch.Terminal.Style
import BlockSearch.Terminal.Table

/-!
# Output of commands

Answers as lines for a reader: tables of blocks, and notes where there is nothing to show. The
marks of keywords are left out.
-/

namespace BlockSearch
namespace Output

/-- Most characters of the content of a block in a table. -/
def contentLimit : Nat := 80

/-- A text cut to the limit, with dots where something is missing. -/
def clip (text : List Char) : List Char :=
  if text.length ≤ contentLimit then text else text.take contentLimit ++ "...".toList

/-- A line. -/
def line (text : List Char) : List Char := text ++ ['\n']

/-- A line of less importance. -/
def note (text : String) : List Char := line (Style.dim text.toList)

/-- A line that tells of success. -/
def praise (text : String) : List Char := line (Style.success text.toList)

/-- A value as JSON over several lines. -/
def json (value : Json) : List Char := line value.pretty.toList

/-- A table as lines. -/
def table (header : List String) (rows : List (List (List Char))) : List Char :=
  line (Table.draw ⟨header.map String.toList, rows⟩)

/-- Blocks with their content. -/
def blocks (shown : List Block) : List Char :=
  table ["ID", "Type", "Path", "Content"] <|
    shown.map fun block =>
      [block.id.toList, block.type.toList, block.hpath.toList,
        clip (Style.stripMarks block.content.toList)]

/-- A document and its blocks. -/
def group (entry : Entry) : List Char :=
  line
      (Style.header (Style.stripMarks entry.block.content.toList) ++ ' ' ::
        Style.dim entry.block.hpath.toList) ++
    blocks entry.children

/-- The answer to a search. -/
def response (answer : Response) (grouped : Bool) : List Char :=
  if answer.entries.isEmpty then note "No results found."
  else
    (if grouped then answer.entries.flatMap group else blocks (answer.entries.map (·.block))) ++
      note (toString answer.blocks ++ " blocks in " ++ toString answer.documents ++ " documents")

/-- The answer to a search as JSON, with the query. -/
def responseJson (query : String) (answer : Response) : List Char :=
  json (.object (("query", .string query) :: answer.members))

/-- The way to a block. -/
def way (embedded : Embedded) : List Char :=
  line
    (embedded.block.id.toList ++ ' ' ::
      Style.dim (" > ".toList.intercalate (embedded.path.map fun step => step.name.toList)))

/-- The blocks of an embed. -/
def embed (shown : List Embedded) (breadcrumb : Bool) : List Char :=
  if shown.isEmpty then note "No blocks embedded."
  else
    blocks (shown.map (·.block)) ++ if breadcrumb then shown.flatMap way else []

/-- The targets for a reference. -/
def targets (shown : List Block) : List Char :=
  if shown.isEmpty then note "No reference targets found."
  else
    table ["ID", "Type", "Path", "Anchor"] <|
      shown.map fun block =>
        [block.id.toList, block.type.toList, block.hpath.toList, block.referenceText.toList]

/-- An offer of targets for a text. -/
def offer (answer : Offer) (keyword : String) : List Char :=
  targets answer.blocks ++
    if answer.newDocument then
      note
        ("No document named \"" ++ String.ofList (Text.trim keyword.toList) ++
          "\" exists here yet.")
    else []

/-- What a replacement has done. -/
def summary (done : ReplacementSummary) : List Char :=
  if done.written = 0 then note "Nothing replaced."
  else
    praise
      ("Rewrote " ++ toString done.written ++ " documents (" ++ toString done.renamed ++
        " renamed)")

/-- The blocks that mention keywords. -/
def mentions (shown : List Mention) : List Char :=
  if shown.isEmpty then note "No mentions found."
  else
    table ["ID", "Preview"] <|
      shown.map fun mention => [mention.id.toList, Style.stripMarks mention.content.toList]

end Output
end BlockSearch
