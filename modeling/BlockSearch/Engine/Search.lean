import BlockSearch.BlockId
import BlockSearch.Engine.Basic
import BlockSearch.Search.Embed
import BlockSearch.Search.Group
import BlockSearch.Search.Reference
import BlockSearch.Search.Statement

/-!
# Answering searches

A search for a block identifier finds that block, whatever else the request asks for. An
empty query finds nothing.

The statement of an embed is run with the limit of the settings. The blocks it selects are
left to be indexed, whether their documents can be loaded or not.

Without a text the targets of the latest references are offered for a new one. Otherwise the
offer tells whether a document named like the text could be put below the current one.
-/

namespace BlockSearch

/-! ## Searches -/

/-- The answer to a search. -/
structure Response where
  /-- The results. -/
  entries : List Entry := []
  /-- The number of blocks that match. -/
  blocks : Nat := 0
  /-- The number of documents with blocks that match. -/
  documents : Nat := 0
  deriving Repr, Inhabited

namespace Engine

/-- What a query that is not empty finds. -/
def find (engine : Engine) (request : Request) (query : List Char) : Except SearchError Found :=
  let id := Query.removeInvisible query
  if BlockId.accepts id then .ok (Found.byId engine.store (String.ofList id))
  else
    Found.byMethod
      ⟨engine.store, engine.settings, Filter.ofRequest request engine.settings, request.order⟩
      request.method query

/-- The results for the records found. -/
def present
    (engine : Engine)
    (request : Request)
    (records : List Record) : Except SearchError (List Entry) :=
  let blocks := records.map (Block.ofRecord engine.mode [])
  match request.grouping with
  | .none => .ok (blocks.map fun block => ⟨block, []⟩)
  | .document =>
      Group.byDocument engine.store engine.library.load engine.mode request.order blocks

/-- The answer to a request. -/
def respond (engine : Engine) (request : Request) : Except SearchError Response :=
  let query := Text.trim request.query.toList
  if query.isEmpty then .ok {}
  else do
    let found ← engine.find request query
    let entries ← engine.present request found.records
    .ok ⟨entries, found.blocks, found.documents⟩

/-- Answer a search. -/
def search (engine : Engine) (request : Request) : Outcome Response :=
  (engine.respond request, engine.wait)

end Engine

/-! ## Embeds -/

/-- An embed to be resolved. -/
structure EmbedRequest where
  /-- The embed. -/
  id : String
  /-- The statement that selects blocks. -/
  statement : String
  /-- The blocks that are not shown. -/
  excluded : List String := []
  /-- What is shown for headings. -/
  heading : HeadingMode := .withSection
  /-- Whether the way to each block is shown. -/
  breadcrumb : Bool := false
  deriving Repr

namespace Engine

/-- The records that an embed shows. -/
def embeddedRecords? (engine : Engine) (request : EmbedRequest) : Option (List Record) :=
  let statement :=
    Statement.withLimit engine.settings.limit (Query.removeInvisible request.statement.toList)
  (Sql.records? engine.store (String.ofList statement) []).map (Embedded.shown request.excluded)

/-- Resolve an embed. -/
def embed (engine : Engine) (request : EmbedRequest) : Outcome (List Embedded) :=
  let engine := engine.wait
  match engine.embeddedRecords? request with
  | none => (.error .statement, engine)
  | some records =>
      let style : Embedded.Style :=
        ⟨request.heading, request.breadcrumb, engine.mode, engine.notebooks⟩
      (.ok (Embedded.ofRecords style engine.library.load .forRequest records),
        engine.addTask (.indexEmbed request.id (records.map Record.id)))

end Engine

/-! ## References -/

/-- Targets for a reference. -/
structure Offer where
  /-- The blocks that are offered. -/
  blocks : List Block := []
  /-- Whether there is no document yet that is named like the text written so far. -/
  newDocument : Bool := false
  deriving Repr, Inhabited

namespace Engine

/-- A block with the text of a reference to it. -/
def withReferenceText (engine : Engine) (block : Block) : Block :=
  { block with referenceText := engine.referenceText block.id }

/-- The targets of the latest references. -/
def recentBlocks (engine : Engine) : List Block :=
  (engine.store.recentTargets.filterMap engine.store.find?).map fun record =>
    engine.withReferenceText (Block.ofRecord engine.mode [] record)

/-- The records that answer a text, which may be a block identifier. -/
def targetRecords (engine : Engine) (keyword : String) : Except SearchError (List Record) :=
  if BlockId.isBlockId keyword then .ok (engine.store.find? keyword).toList
  else Target.records engine.store engine.settings keyword

/-- Whether no document is named like a text below the document of a block. -/
def offersDocument (engine : Engine) (id keyword : String) : Bool :=
  match engine.store.find? id with
  | some current =>
      !engine.store.hasDocument current.box (Target.childPath current.hpath keyword)
  | none => false

/-- The targets for a reference written in the block `id` of the document `rootId`. -/
def offer (engine : Engine) (id rootId keyword : String) : Except SearchError Offer :=
  let keyword := String.ofList (Query.removeInvisible keyword.toList)
  if keyword.isEmpty then .ok ⟨engine.recentBlocks, false⟩
  else
    (engine.targetRecords keyword).map fun records =>
      let blocks := records.map (Block.ofRecord engine.mode [])
      let permitted := Target.permitted engine.library.load .forRequest id rootId blocks
      ⟨permitted.map engine.withReferenceText, engine.offersDocument id keyword⟩

/-- Offer targets for a reference. -/
def references (engine : Engine) (id rootId keyword : String) : Outcome Offer :=
  (engine.offer id rootId keyword, engine.wait)

end Engine

end BlockSearch
