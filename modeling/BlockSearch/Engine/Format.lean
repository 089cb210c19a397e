import BlockSearch.Decimal.Layout
import BlockSearch.Engine.Basic
import BlockSearch.Engine.Replace
import BlockSearch.Engine.Search
import BlockSearch.Json.Value

/-!
# Answers as JSON

The answers of the engine as objects. Lists of blocks under a block and texts of references
are left out when they are empty.
-/

namespace BlockSearch

/-- The members of a block, with the blocks under it. -/
def Block.toJson (block : Block) (children : List Json) : Json :=
  .object <|
    [("box", .string block.box), ("path", .string block.path), ("hPath", .string block.hpath),
      ("id", .string block.id), ("rootId", .string block.rootId),
      ("parentId", .string block.parentId), ("name", .string block.name),
      ("alias", .string block.aliases), ("memo", .string block.memo), ("tag", .string block.tag),
      ("content", .string block.content), ("fcontent", .string block.fcontent),
      ("markdown", .string block.markdown),
      ("ial", .object (block.attributes.map fun pair => (pair.1, .string pair.2))),
      ("type", .string block.type), ("subType", .string block.subtype),
      ("sort", .ofInt block.sort), ("created", .string block.created),
      ("updated", .string block.updated)] ++
    (if children.isEmpty then [] else [("children", .array children)]) ++
    (if block.referenceText.isEmpty then []
      else [("refText", .string block.referenceText)]) ++
    [("score", .number (Decimal.json block.score))]

/-- An entry as an object. -/
def Entry.toJson (entry : Entry) : Json :=
  entry.block.toJson (entry.children.map (·.toJson []))

/-- The members of an answer to a search. -/
def Response.members (response : Response) : List (String × Json) :=
  [("blocks", .array (response.entries.map Entry.toJson)),
    ("matchedBlockCount", .ofNat response.blocks),
    ("matchedRootCount", .ofNat response.documents)]

/-- One step of the way to a block as an object. -/
def Breadcrumb.toJson (step : Breadcrumb) : Json :=
  .object [("id", .string step.id), ("name", .string step.name), ("type", .string step.type),
    ("subType", .string step.subtype)]

/-- A block of an embed as an object. -/
def Embedded.toJson (embedded : Embedded) : Json :=
  .object [("block", embedded.block.toJson []),
    ("blockPaths", .array (embedded.path.map Breadcrumb.toJson))]

/-- An offer of targets as an object. -/
def Offer.toJson (offer : Offer) : Json :=
  .object [("blocks", .array (offer.blocks.map (·.toJson []))),
    ("newDoc", .bool offer.newDocument)]

/-- What a replacement has done as an object. -/
def ReplacementSummary.toJson (summary : ReplacementSummary) : Json :=
  .object [("treesWritten", .ofNat summary.written), ("renamed", .ofNat summary.renamed)]

/-- A mention as an object. -/
def Mention.toJson (mention : Mention) : Json :=
  .object [("id", .string mention.id), ("content", .string mention.content)]

end BlockSearch
