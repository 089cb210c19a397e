import BlockSearch.Index.Store
import BlockSearch.Json.Printer
import BlockSearch.Json.Reader

/-!
# Stored indexes

A store is written as a JSON object with its records and references. A member of a record
that is missing is empty or zero.
-/

namespace BlockSearch

namespace Json

/-- The text of a member; empty when there is none. -/
def textOf (json : Json) (name : String) : String := ((json.get? name).bind string?).getD ""

/-- The whole number of a member; zero when there is none. -/
def intOf (json : Json) (name : String) : Int := ((json.get? name).bind int?).getD 0

end Json

namespace Record

/-- A record as an object with the names of the columns. -/
def toJson (record : Record) : Json :=
  .object [
    ("id", .string record.id), ("parent_id", .string record.parentId),
    ("root_id", .string record.rootId), ("hash", .string record.hash),
    ("box", .string record.box), ("path", .string record.path),
    ("hpath", .string record.hpath), ("name", .string record.name),
    ("alias", .string record.aliases), ("memo", .string record.memo),
    ("tag", .string record.tag), ("content", .string record.content),
    ("fcontent", .string record.fcontent), ("markdown", .string record.markdown),
    ("length", .ofInt record.length), ("type", .string record.type),
    ("subtype", .string record.subtype), ("ial", .string record.ial),
    ("sort", .ofInt record.sort), ("created", .string record.created),
    ("updated", .string record.updated)]

/-- The record that an object holds. -/
def ofJson (json : Json) : Record where
  id := json.textOf "id"
  parentId := json.textOf "parent_id"
  rootId := json.textOf "root_id"
  hash := json.textOf "hash"
  box := json.textOf "box"
  path := json.textOf "path"
  hpath := json.textOf "hpath"
  name := json.textOf "name"
  aliases := json.textOf "alias"
  memo := json.textOf "memo"
  tag := json.textOf "tag"
  content := json.textOf "content"
  fcontent := json.textOf "fcontent"
  markdown := json.textOf "markdown"
  length := json.intOf "length"
  type := json.textOf "type"
  subtype := json.textOf "subtype"
  ial := json.textOf "ial"
  sort := json.intOf "sort"
  created := json.textOf "created"
  updated := json.textOf "updated"

end Record

namespace Reference

/-- A reference as an object with the names of the columns. -/
def toJson (reference : Reference) : Json :=
  .object [
    ("def_block_id", .string reference.defBlockId),
    ("def_block_parent_id", .string reference.defBlockParentId),
    ("def_block_root_id", .string reference.defBlockRootId),
    ("def_block_path", .string reference.defBlockPath),
    ("block_id", .string reference.blockId), ("root_id", .string reference.rootId),
    ("box", .string reference.box), ("path", .string reference.path),
    ("content", .string reference.content), ("markdown", .string reference.markdown),
    ("type", .string reference.type)]

/-- The reference that an object holds. -/
def ofJson (json : Json) : Reference where
  defBlockId := json.textOf "def_block_id"
  defBlockParentId := json.textOf "def_block_parent_id"
  defBlockRootId := json.textOf "def_block_root_id"
  defBlockPath := json.textOf "def_block_path"
  blockId := json.textOf "block_id"
  rootId := json.textOf "root_id"
  box := json.textOf "box"
  path := json.textOf "path"
  content := json.textOf "content"
  markdown := json.textOf "markdown"
  type := json.textOf "type"

end Reference

namespace Store

/-- A store as an object. -/
def toJson (store : Store) : Json :=
  .object [
    ("blocks", .array (store.blocks.map Record.toJson)),
    ("references", .array (store.references.map Reference.toJson))]

/-- The text that a store is kept as. -/
def print (store : Store) : String := store.toJson.compact

/-- The store that a text holds; an empty text holds an empty store. -/
def read? (text : String) : Option Store :=
  if text.isEmpty then some {}
  else do
    let json ← Json.read? text
    let blocks ← (json.get? "blocks").bind Json.items?
    let references ← (json.get? "references").bind Json.items?
    some ⟨blocks.map Record.ofJson, references.map Reference.ofJson⟩

end Store
end BlockSearch
