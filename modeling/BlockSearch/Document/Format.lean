import BlockSearch.Document.Error
import BlockSearch.Document.Outline
import BlockSearch.Json.Printer
import BlockSearch.Json.Reader

/-!
# Stored documents

A document is stored as a JSON object with its outline. Reading is strict about the
members it knows and ignores all others; lists and objects may be nested 127 deep.
-/

namespace BlockSearch

namespace TextMark

/-- The names of the fields, in their stored order. -/
def fieldNames : List String :=
  ["types", "text", "a_href", "a_title", "inline_math", "inline_memo", "block_ref_id",
    "block_ref_subtype", "file_annotation_ref_id"]

/-- The fields as members of an object. -/
def members (mark : TextMark) : List (String × Json) :=
  [("types", .string mark.types), ("text", .string mark.text), ("a_href", .string mark.href),
    ("a_title", .string mark.title), ("inline_math", .string mark.formula),
    ("inline_memo", .string mark.memo), ("block_ref_id", .string mark.refId),
    ("block_ref_subtype", .string mark.refSubtype),
    ("file_annotation_ref_id", .string mark.fileRefId)]

/-- A text that is empty when it is not given. -/
def textOrEmpty? : Option Json → Option String
  | none => some ""
  | some json => json.string?

/-- The mark whose fields a value holds; a field that is missing is empty. -/
def ofJson? (json : Json) : Option TextMark := do
  let fields ← json.fields? fieldNames
  let texts ← fields.mapM textOrEmpty?
  match texts with
  | [types, text, href, title, formula, memo, refId, refSubtype, fileRefId] =>
      some { types, text, href, title, formula, memo, refId, refSubtype, fileRefId }
  | _ => none

end TextMark

namespace Kind

/-- A kind as a value: its name under `type`, and its fields. -/
def toJson : Kind → Json
  | .document => .object [("type", .string "document")]
  | .heading level => .object [("type", .string "heading"), ("level", .ofNat level.toNat)]
  | .paragraph => .object [("type", .string "paragraph")]
  | .list => .object [("type", .string "list")]
  | .listItem => .object [("type", .string "list_item")]
  | .blockquote => .object [("type", .string "blockquote")]
  | .superBlock => .object [("type", .string "super_block")]
  | .codeBlock info code =>
      .object [("type", .string "code_block"), ("info", .string info), ("code", .string code)]
  | .mathBlock content => .object [("type", .string "math_block"), ("content", .string content)]
  | .table => .object [("type", .string "table")]
  | .htmlBlock html => .object [("type", .string "html_block"), ("html", .string html)]
  | .queryEmbed statement =>
      .object [("type", .string "query_embed"), ("stmt", .string statement)]
  | .text value => .object [("type", .string "text"), ("text", .string value)]
  | .link => .object [("type", .string "link")]
  | .linkText value => .object [("type", .string "link_text"), ("text", .string value)]
  | .linkDest dest => .object [("type", .string "link_dest"), ("dest", .string dest)]
  | .linkTitle title => .object [("type", .string "link_title"), ("title", .string title)]
  | .textMark mark => .object (("type", .string "text_mark") :: mark.members)
  | .spanAttributes tokens =>
      .object [("type", .string "kramdown_span_ial"), ("tokens", .string tokens)]

/-- The one text among the fields of a kind. -/
def textField? (name : String) (fields : Json) : Option String := do
  match ← fields.fields? [name] with
  | [some json] => json.string?
  | _ => none

/-- A kind without fields; an object may hold other members, a list must be at its end. -/
def withoutFields? (kind : Kind) : Json → Option Kind
  | .array (_ :: _) => none
  | _ => some kind

/-- The kind with a name, and the fields that a value holds. -/
def ofName? (name : String) (fields : Json) : Option Kind :=
  match name with
  | "document" => withoutFields? .document fields
  | "heading" => do
      match ← fields.fields? ["level"] with
      | [some json] =>
          let level ← json.nat?
          if level < 256 then some (.heading level.toUInt8) else none
      | _ => none
  | "paragraph" => withoutFields? .paragraph fields
  | "list" => withoutFields? .list fields
  | "list_item" => withoutFields? .listItem fields
  | "blockquote" => withoutFields? .blockquote fields
  | "super_block" => withoutFields? .superBlock fields
  | "code_block" => do
      match ← fields.fields? ["info", "code"] with
      | [some info, some code] => some (.codeBlock (← info.string?) (← code.string?))
      | _ => none
  | "math_block" => (textField? "content" fields).map .mathBlock
  | "table" => withoutFields? .table fields
  | "html_block" => (textField? "html" fields).map .htmlBlock
  | "query_embed" => (textField? "stmt" fields).map .queryEmbed
  | "text" => (textField? "text" fields).map .text
  | "link" => withoutFields? .link fields
  | "link_text" => (textField? "text" fields).map .linkText
  | "link_dest" => (textField? "dest" fields).map .linkDest
  | "link_title" => (textField? "title" fields).map .linkTitle
  | "text_mark" => (TextMark.ofJson? fields).map .textMark
  | "kramdown_span_ial" => (textField? "tokens" fields).map .spanAttributes
  | _ => none

/-- The kind that a value holds, by name or as a list that begins with the name. -/
def ofJson? : Json → Option Kind
  | .object members =>
      match members.filter (·.1 == "type") with
      | [(_, .string name)] => ofName? name (.object (members.filter (·.1 != "type")))
      | _ => none
  | .array (.string name :: fields) => ofName? name (.array fields)
  | _ => none

end Kind

/-- A pair of texts as a list. -/
def Attribute.pairToJson (pair : String × String) : Json := .ofStrings [pair.1, pair.2]

/-- The pair of texts that a list holds. -/
def Attribute.pairOfJson? : Json → Option (String × String)
  | .array [.string name, .string value] => some (name, value)
  | _ => none

namespace Outline

/-- How deep the lists and objects of a stored document may be nested. -/
def depthLimit : Nat := 127

mutual

/-- An outline as a value; what is empty is left out. -/
def toJson : Outline → Json
  | .node kind id attributes children =>
      .object <|
        ("kind", kind.toJson) ::
          ((id.map fun id => ("id", Json.string id)).toList ++
            (if attributes.isEmpty then []
              else [("ial", .array (attributes.map Attribute.pairToJson))]) ++
            (if children.isEmpty then [] else [("children", .array (allToJson children))]))

/-- The values of outlines, in order. -/
def allToJson : List Outline → List Json
  | [] => []
  | outline :: outlines => toJson outline :: allToJson outlines

end

/-- An identifier that may be missing or null. -/
def idOfJson? : Option Json → Option (Option String)
  | none => some none
  | some .null => some none
  | some (.string id) => some (some id)
  | some _ => none

/-- Attributes that may be missing, in at most `depth` levels. -/
def attributesOfJson? (depth : Nat) : Option Json → Option (List (String × String))
  | none => some []
  | some (.array items) =>
      if (Json.array items).depth ≤ depth then items.mapM Attribute.pairOfJson? else none
  | some _ => none

mutual

/-- The outline that a value holds, in at most `depth` levels of lists and objects. -/
def ofJson? : (depth : Nat) → Json → Option Outline
  | 0, _ => none
  | depth + 1, json => do
      match ← json.fields? ["kind", "id", "ial", "children"] with
      | [some kind, id, attributes, children] =>
          if depth < kind.depth then none
          else
            let kind ← Kind.ofJson? kind
            let id ← idOfJson? id
            let attributes ← attributesOfJson? depth attributes
            let children ← childrenOfJson? depth children
            some (.node kind id attributes children)
      | _ => none

/-- The outlines of a list that may be missing, in at most `depth` levels. -/
def childrenOfJson? : (depth : Nat) → Option Json → Option (List Outline)
  | _, none => some []
  | inner + 1, some (.array items) => items.mapM (ofJson? inner)
  | _, some _ => none

end

end Outline

namespace Tree

/-- A document as a value. -/
def toJson (tree : Tree) : Json :=
  .object [("id", .string tree.id), ("box", .string tree.box), ("path", .string tree.path),
    ("hpath", .string tree.hpath), ("root", tree.outline.toJson)]

/-- The text that a document is stored as. -/
def print (tree : Tree) : String := tree.toJson.pretty

/-- The document that a value holds. -/
def ofJson? (json : Json) : Except TreeError Tree :=
  match json.fields? ["id", "box", "path", "hpath", "root"] with
  | some [some (.string id), some (.string box), some (.string path), some (.string hpath),
      some root] =>
      match Outline.ofJson? (Outline.depthLimit - 1) root with
      | some outline =>
          if outline.kind = .document then .ok (ofOutline id box path hpath outline)
          else .error (.missingRoot id)
      | none => .error .json
  | _ => .error .json

/-- The document that a text holds. -/
def read (text : String) : Except TreeError Tree :=
  match Json.read? text with
  | some json => ofJson? json
  | none => .error .json

end Tree
end BlockSearch
