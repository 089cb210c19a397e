import BlockSearch.Library.Cache
import BlockSearch.Search.Block
import BlockSearch.Search.Found

/-!
# Targets of references

While a reference is written, blocks are offered as its targets. They are ranked by where the
text written so far occurs in them, and how.
-/

namespace BlockSearch
namespace Target

/-! ## The order of targets -/

/-- What is asked of a field. -/
inductive FieldTest
  /-- It is the keyword. -/
  | equals
  /-- It holds the keyword; wildcards in the keyword count. -/
  | holds
  deriving DecidableEq, Repr

/-- The text of what is asked of the field in a column, where `place` refers to the keyword. -/
def FieldTest.text (column place : String) : FieldTest → String
  | .equals => column ++ " = " ++ place
  | .holds => column ++ " LIKE '%' || " ++ place ++ " || '%'"

/-- What is asked of the type of a record. -/
inductive TypeTest
  /-- It has this code. -/
  | equals (code : String)
  /-- It has another code. -/
  | differs (code : String)
  deriving DecidableEq, Repr

/-- The text of what is asked of the type. -/
def TypeTest.text : TypeTest → String
  | .equals code => "type = '" ++ code ++ "'"
  | .differs code => "type != '" ++ code ++ "'"

/-- A rung of the ladder by which targets are ordered. -/
structure Rung where
  /-- The field that is tested. -/
  field : Field
  /-- What is asked of the field. -/
  test : FieldTest
  /-- What is asked of the type. -/
  types : List TypeTest := []
  /-- The rank of the records that are on this rung and on no earlier one. -/
  rank : Nat
  deriving DecidableEq, Repr

/-- The rungs, the best one first. -/
def ladder : List Rung :=
  [{ field := .name, test := .equals, rank := 10 },
    { field := .aliases, test := .equals, rank := 20 },
    { field := .memo, test := .equals, rank := 30 },
    { field := .content, test := .equals, types := [.equals "d"], rank := 40 },
    { field := .content, test := .holds, types := [.equals "d"], rank := 41 },
    { field := .name, test := .holds, rank := 50 },
    { field := .aliases, test := .holds, rank := 60 },
    { field := .content, test := .equals, types := [.equals "h"], rank := 70 },
    { field := .content, test := .holds, types := [.equals "h"], rank := 71 },
    { field := .fcontent, test := .equals, types := [.equals "i"], rank := 80 },
    { field := .fcontent, test := .holds, types := [.equals "i"], rank := 81 },
    { field := .memo, test := .holds, rank := 90 },
    { field := .content, test := .holds, types := [.differs "i", .differs "l"],
      rank := 100 }]

/-- The rank of a record that is on no rung. -/
def lastRank : Nat := 65535

/-- The conditions of a rung. -/
def Rung.text (table place : String) (rung : Rung) : String :=
  " AND ".intercalate
    (rung.test.text (table ++ "." ++ rung.field.columnName) place ::
      rung.types.map TypeTest.text)

/-- A rung as a condition of a case. -/
def Rung.choice (table place : String) (rung : Rung) : String :=
  " WHEN " ++ rung.text table place ++ " THEN " ++ toString rung.rank

/-- The order of targets: by rank, by type, and by length. -/
def order (table place : String) : String :=
  "ORDER BY CASE" ++ String.join (ladder.map (Rung.choice table place)) ++ " ELSE " ++
    toString lastRank ++ " END ASC, sort ASC, length ASC"

/-- The statement that selects the records that are offered for a keyword, with excerpts. -/
def statement (settings : SearchSettings) (keyword : String) : Sql.Fragment :=
  let table := (Sql.Table.index settings.mode).name
  let expression := settings.expression (Query.phraseQuery keyword.toList)
  let filter := Filter.ofSettings settings
  let (body, place) :=
    (Found.expressionBody settings filter (String.ofList expression)).bind keyword
  { body with
    text :=
      "SELECT " ++ Found.projections .window table ++ " " ++ body.text ++ " " ++
        order table place ++ " LIMIT " ++ toString settings.limit }

/-- The records that are offered for a keyword, with excerpts. -/
def records
    (store : Store)
    (settings : SearchSettings)
    (keyword : String) : Except SearchError (List Record) :=
  let query := statement settings keyword
  match Sql.records? store query.text query.values with
  | some records => .ok records
  | none => .error .statement

/-! ## Targets that are left out -/

/-- Whether the first leaf of a container is a block. -/
def leadsTo (tree : Tree) (container id : String) : Bool :=
  match (tree.findBlock? container).bind tree.firstLeaf? with
  | some leaf => (tree.node leaf).id == some id
  | none => false

/--
Whether a block is no target for a reference written in the block `id` of the document
`rootId`: it is one of these, or a container that begins with the block.
-/
def isExcluded
    (load : String → Except TreeError Tree)
    (cache : TreeCache)
    (id rootId : String)
    (block : Block) : Bool × TreeCache :=
  if block.id == id || block.id == rootId then (true, cache)
  else if block.isContainer then
    let (tree, cache) := cache.get load block.rootId
    ((tree.map fun tree => leadsTo tree block.id id).getD false, cache)
  else (false, cache)

/-- The blocks that are targets. -/
def permitted
    (load : String → Except TreeError Tree)
    (cache : TreeCache)
    (id rootId : String) : List Block → List Block
  | [] => []
  | block :: blocks =>
      let (excluded, cache) := isExcluded load cache id rootId block
      let rest := permitted load cache id rootId blocks
      if excluded then rest else block :: rest

/-- The path of titles of a document below another. -/
def childPath (hpath title : String) : String :=
  String.ofList
    ((hpath.toList.reverse.dropWhile (· == '/')).reverse ++
      '/' :: title.toList.dropWhile (· == '/'))

end Target
end BlockSearch
