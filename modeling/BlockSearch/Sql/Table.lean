import BlockSearch.FullText.Match
import BlockSearch.Index.Store
import BlockSearch.Sql.Value

/-!
# Tables

A statement sees the records as a table, the references as another, and the full-text index
as two more, one for each way to compare letters. Hidden columns are not among all columns of
a table, but can be named.
-/

namespace BlockSearch
namespace Sql

/-- A column of a table. -/
structure Column where
  /-- The name. -/
  name : String
  /-- The kind of values it holds. -/
  affinity : Affinity
  /-- Whether it is left out of all columns. -/
  hidden : Bool := false
  deriving DecidableEq, Repr

/-- The order in which the rows of the table of records are visited. -/
inductive Visit
  /-- As they came in. -/
  | insertion
  /-- By identifier. -/
  | id
  /-- By document. -/
  | document
  /-- By notebook and path. -/
  | box
  deriving DecidableEq, Repr

/-- A table. -/
inductive Table
  /-- The records. -/
  | blocks
  /-- The references. -/
  | references
  /-- The full-text index. -/
  | index (mode : CaseMode)
  deriving DecidableEq, Repr

namespace Table

/-- The name of a table. -/
def name : Table → String
  | .blocks => "blocks"
  | .references => "refs"
  | .index .sensitive => "blocks_fts"
  | .index .insensitive => "blocks_fts_case_insensitive"

/-- All tables. -/
def all : List Table := [.blocks, .references, .index .sensitive, .index .insensitive]

/-- The names and affinities of the columns of a record. -/
def recordColumns : List (String × Affinity) :=
  [("id", .text), ("parent_id", .text), ("root_id", .text), ("hash", .text), ("box", .text),
    ("path", .text), ("hpath", .text), ("name", .text), ("alias", .text), ("memo", .text),
    ("tag", .text), ("content", .text), ("fcontent", .text), ("markdown", .text),
    ("length", .numeric), ("type", .text), ("subtype", .text), ("ial", .text),
    ("sort", .numeric), ("created", .text), ("updated", .text)]

/-- The names of the columns of a reference behind its number. -/
def referenceColumns : List String :=
  ["def_block_id", "def_block_parent_id", "def_block_root_id", "def_block_path", "block_id",
    "root_id", "box", "path", "content", "markdown", "type"]

/-- The hidden column that numbers the rows. -/
def rowNumber : Column := ⟨"rowid", .numeric, true⟩

/-- The columns of a table. -/
def columns : Table → List Column
  | .blocks => recordColumns.map (fun column => ⟨column.1, column.2, false⟩) ++ [rowNumber]
  | .references =>
      ⟨"id", .numeric, false⟩ :: referenceColumns.map (fun name => ⟨name, .text, false⟩) ++
        [rowNumber]
  | .index mode =>
      recordColumns.map (fun column => ⟨column.1, .none, false⟩) ++
        [rowNumber, ⟨(Table.index mode).name, .none, true⟩, ⟨"rank", .none, true⟩]

end Table

/-- The values of a row. -/
abbrev Row := List Value

/-- The values of a record. -/
def Record.toRow (record : Record) : Row :=
  [.text record.id, .text record.parentId, .text record.rootId, .text record.hash,
    .text record.box, .text record.path, .text record.hpath, .text record.name,
    .text record.aliases, .text record.memo, .text record.tag, .text record.content,
    .text record.fcontent, .text record.markdown, .integer record.length, .text record.type,
    .text record.subtype, .text record.ial, .integer record.sort, .text record.created,
    .text record.updated]

/-- The values of a reference. -/
def Reference.toRow (reference : Reference) : Row :=
  [.text reference.defBlockId, .text reference.defBlockParentId, .text reference.defBlockRootId,
    .text reference.defBlockPath, .text reference.blockId, .text reference.rootId,
    .text reference.box, .text reference.path, .text reference.content,
    .text reference.markdown, .text reference.type]

/-- The items of a list with their numbers from one. -/
def numbered {α : Type} (items : List α) : List (α × Nat) :=
  items.zipIdx.map fun item => (item.1, item.2 + 1)

/-- Whether a record may stand before another when records are visited in an order. -/
def Visit.allows (visit : Visit) (first second : Record) : Bool :=
  match visit with
  | .insertion => true
  | .id => !(second.id < first.id)
  | .document => !(second.rootId < first.rootId)
  | .box =>
      if first.box = second.box then !(second.hpath < first.hpath)
      else !(second.box < first.box)

/-- The rows of the records, with the hidden columns. -/
def blockRows (store : Store) (visit : Visit) : List Row :=
  let records := (numbered store.blocks).mergeSort fun a b => visit.allows a.1 b.1
  records.map fun record => Record.toRow record.1 ++ [.integer record.2]

/-- The rows of the references, with the hidden columns. -/
def referenceRows (store : Store) : List Row :=
  (numbered store.references).map fun reference =>
    .integer reference.2 :: Reference.toRow reference.1 ++ [.integer reference.2]

/-- The rows of the full-text index, with the hidden columns. -/
def indexRows (store : Store) : List Row :=
  (numbered store.blocks).map fun record =>
    Record.toRow record.1 ++ [.integer record.2, .null, .null]

/-- The rows of the full-text index that match an expression, with the hidden columns. -/
def matchingRows
    (store : Store)
    (mode : CaseMode)
    (expression : FullText.Expression) : List Row :=
  let corpus := FullText.Corpus.of (store.blocks.map (.ofRecord mode)) expression
  (numbered store.blocks).filterMap fun record =>
    let document := FullText.Document.ofRecord mode record.1
    if expression.holds document then
      let rank := FullText.rank corpus document (expression.instances document)
      some (Record.toRow record.1 ++ [.integer record.2, .null, .real rank])
    else none

/-- The rows of a table. -/
def Table.rows (store : Store) (visit : Visit) : Table → List Row
  | .blocks => blockRows store visit
  | .references => referenceRows store
  | .index _ => indexRows store

end Sql
end BlockSearch
