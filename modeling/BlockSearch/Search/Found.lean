import BlockSearch.Distinct
import BlockSearch.FullText.Excerpt
import BlockSearch.FullText.Reader
import BlockSearch.Index.Store
import BlockSearch.Mark.Tag
import BlockSearch.Pattern.Basic
import BlockSearch.Query.Phrase
import BlockSearch.Search.Error
import BlockSearch.Search.Filter
import BlockSearch.Sql.Query

/-!
# What a search finds

Every method finds the records that match, puts them into an order, and takes as many as the
limit allows. The counts are those of all matches. A limit of zero asks for no record, and a
filter without types accepts none, so that even an expression that cannot be read finds nothing
instead of failing.
-/

namespace BlockSearch

/-- The records found, and how many there are without the limit. -/
structure Found where
  /-- The records. -/
  records : List Record := []
  /-- The number of matches. -/
  blocks : Nat := 0
  /-- The number of documents with matches. -/
  documents : Nat := 0
  deriving Repr

/-- The greatest limit of a statement. -/
def greatestLimit : Nat := 9223372036854775807

/-- Whether a record may stand before another in an order that does not need a rank. -/
def Order.allows (order : Order) (first second : Record) : Bool :=
  match order with
  | .createdAsc => !(second.created < first.created)
  | .createdDesc => !(first.created < second.created)
  | .updatedAsc => !(second.updated < first.updated)
  | .updatedDesc => !(first.updated < second.updated)
  | .type | .contentOrder | .relevanceAsc | .relevanceDesc => first.sort ≤ second.sort

/-- The clause of a statement for an order; relevance needs a rank. -/
def Order.clause (ranked : Bool) : Order → String
  | .createdAsc => "ORDER BY created ASC"
  | .createdDesc => "ORDER BY created DESC"
  | .updatedAsc => "ORDER BY updated ASC"
  | .updatedDesc => "ORDER BY updated DESC"
  | .relevanceAsc => if ranked then "ORDER BY rank DESC" else "ORDER BY sort ASC"
  | .relevanceDesc => if ranked then "ORDER BY rank" else "ORDER BY sort ASC"
  | .type | .contentOrder => "ORDER BY sort ASC"

/-- Everything that a search reads. -/
structure SearchContext where
  /-- The store. -/
  store : Store
  /-- The settings. -/
  settings : SearchSettings
  /-- The restriction of the search. -/
  filter : Filter
  /-- The order of results. -/
  order : Order

namespace SearchSettings

/-- The fields that are searched. -/
def searchedFields (settings : SearchSettings) : List Field :=
  [.content] ++ (if settings.name then [.name] else []) ++
    (if settings.aliases then [.aliases] else []) ++ (if settings.memo then [.memo] else []) ++
    (if settings.ial then [.ial] else []) ++ [.tag]

/-- The match expression that looks for a query in the searched fields. -/
def expression (settings : SearchSettings) (query : List Char) : List Char :=
  let columns := (settings.searchedFields.map fun field => field.columnName.toList)
  '{' :: [' '].intercalate columns ++ ['}', ':', '('] ++ query ++ [')']

end SearchSettings

namespace Found

/-- The record with an identifier, whatever the settings and the filter. -/
def byId (store : Store) (id : String) : Found :=
  match store.find? id with
  | some record => ⟨[record], 1, 1⟩
  | none => {}

/-- The counts of a statement; those of a statement that cannot be run are zero. -/
def countsOrZero (database : Sql.Database) (text : String) (values : List String) : Nat × Nat :=
  (database.counts? text values).getD (0, 0)

/--
The records that a statement selects, in an order and up to a limit, and the counts of another
one with the same body.
-/
def byBody
    (store : Store)
    (columns : String)
    (body : Sql.Fragment)
    (order : String)
    (limit : Nat) : Except SearchError Found :=
  let selecting :=
    "SELECT " ++ columns ++ " " ++ body.text ++ " " ++ order ++ " LIMIT " ++ toString limit
  match Sql.records? store selecting body.values with
  | none => .error .statement
  | some records =>
      let counting := "SELECT COUNT(id), COUNT(DISTINCT root_id) " ++ body.text
      let counts := countsOrZero (.ofStore store) counting body.values
      .ok ⟨records, counts.1, counts.2⟩

/-! ## Full text -/

/-- The markers that the index writes around phrases. -/
def indexMarkers : FullText.Markers := ⟨Mark.indexLeft, Mark.indexRight⟩

/-- The fields that are shown with marks. -/
def markedFields : List Field := [.hpath, .name, .aliases, .memo, .content]

/-- A record with the given excerpts in the fields that are shown with marks. -/
def withExcerpts
    (excerpt : FullText.Markers → List FullText.Instance → List Char → List Char)
    (mode : CaseMode)
    (expression : FullText.Expression)
    (record : Record) : Record :=
  let places := expression.instances (.ofRecord mode record)
  markedFields.foldl
    (fun shown field =>
      shown.setText field <| String.ofList <|
        excerpt indexMarkers (places.filter (·.field = field)) (record.text field).toList)
    record

/-- The records that match an expression and meet the conditions of a filter. -/
def expressionMatches
    (store : Store)
    (mode : CaseMode)
    (filter : Filter)
    (expression : FullText.Expression) : List Record :=
  store.blocks.filter fun record =>
    filter.accepts record && expression.holds (.ofRecord mode record)

/-- Whether no record can be found, whatever the expression. -/
def isVain (limit : Nat) (filter : Filter) : Bool := limit == 0 || filter.types.isEmpty

/-- What is written of the shape of an excerpt behind the other arguments: the gaps and the size. -/
def shapeText : FullText.Shape → String
  | .whole => ""
  | .window =>
      ", '" ++ String.ofList FullText.snippetGap ++ "', " ++ toString FullText.snippetSize

/-- A column by its name; one that is shown with marks is an excerpt that is made by its number. -/
def projection
    (shape : FullText.Shape)
    (table : String)
    (name : String)
    (number : Nat) : String :=
  if markedFields.any (·.columnName == name) then
    Sql.Reader.excerptFunction shape ++ "(" ++ table ++ ", " ++ toString number ++ ", '" ++
      String.ofList Mark.indexLeft ++ "', '" ++ String.ofList Mark.indexRight ++ "'" ++
      shapeText shape ++ ") AS " ++ name
  else name

/-- All columns of the index. -/
def projections (shape : FullText.Shape) (table : String) : String :=
  ", ".intercalate (Sql.Table.recordColumns.zipIdx.map fun column =>
    projection shape table column.1.1 column.2)

/-- The conditions that an expression matches and that a filter accepts a record. -/
def expressionBody
    (settings : SearchSettings)
    (filter : Filter)
    (expression : String) : Sql.Fragment :=
  let table := (Sql.Table.index settings.mode).name
  let (body, place) :=
    Sql.Fragment.bind ⟨"FROM " ++ table ++ " WHERE " ++ table ++ " MATCH ", []⟩ expression
  filter.write (body.push place)

/-- The matches of an expression given as text. -/
def byExpression (context : SearchContext) (text : List Char) : Except SearchError Found :=
  byBody context.store (projections .whole (Sql.Table.index context.settings.mode).name)
    (expressionBody context.settings context.filter (String.ofList text))
    (context.order.clause true) context.settings.limit

/-- The records in which every piece of a query occurs. -/
def byKeyword (context : SearchContext) (query : List Char) : Except SearchError Found :=
  byExpression context <|
    context.settings.expression (Query.phraseQuery (Query.removeInvisible query))

/-- The records that match a query in the language of match expressions. -/
def byQuerySyntax (context : SearchContext) (query : List Char) : Except SearchError Found :=
  byExpression context (context.settings.expression (Query.removeInvisible query))

/-! ## Patterns -/

/-- The conditions that a pattern occurs in a searched field and that a filter accepts a record. -/
def patternBody (settings : SearchSettings) (filter : Filter) (pattern : String) : Sql.Fragment :=
  let (body, place) := Sql.Fragment.bind ⟨"FROM blocks WHERE ", []⟩ pattern
  let tests := settings.searchedFields.map fun field => field.columnName ++ " REGEXP " ++ place
  filter.write (body.push ("(" ++ " OR ".intercalate tests ++ ")"))

/-- The records in which a text occurs, every character of which stands for itself. -/
def byLiteral (context : SearchContext) (query : List Char) : Except SearchError Found :=
  let pattern := String.ofList (Pattern.escape (Query.removeInvisible query))
  byBody context.store "*" (patternBody context.settings context.filter pattern)
    (context.order.clause false) context.settings.limit

end Found
end BlockSearch
