import BlockSearch.Index.Record
import BlockSearch.Search.Request
import BlockSearch.Search.Settings
import BlockSearch.Sql.Like
import BlockSearch.Sql.Query

/-!
# Filters

A filter restricts a search to types of blocks, to notebooks, and to beginnings of paths.
It is written as conditions of a statement, and it says which records meet them.
-/

namespace BlockSearch

/-- What a search is restricted to. -/
structure Filter where
  /-- The types to search. -/
  types : List BlockType
  /-- The notebooks to search; none means all. -/
  boxes : List String := []
  /-- The beginnings of the paths to search; none means all. -/
  paths : List String := []
  deriving DecidableEq, Repr

namespace Filter

/-- Whether a list of types, by name, includes a type; of a repeated name the last counts. -/
def includesType (types : List (String × Bool)) (type : BlockType) : Bool :=
  match types.reverse.find? (·.1 == type.requestName) with
  | some (_, included) => included
  | none => false

/-- The filter of a request; the types that a request names replace those of the settings. -/
def ofRequest (request : Request) (settings : SearchSettings) : Filter where
  types :=
    match request.types with
    | some types => BlockType.all.filter (includesType types)
    | none => settings.selectedTypes
  boxes := request.boxes
  paths := request.paths

/-- The filter that has only the types of the settings. -/
def ofSettings (settings : SearchSettings) : Filter where
  types := settings.selectedTypes

/-- The codes of the types. -/
def codes (filter : Filter) : List String := filter.types.map BlockType.code

/-- The pattern for paths with a beginning. -/
def pathPattern (path : String) : String :=
  String.ofList (Sql.Like.escaped path.toList ++ ['%'])

/-- A condition on one value. -/
inductive Condition
  /-- The notebook is this one. -/
  | box (value : String)
  /-- The path has the form of a pattern. -/
  | path (pattern : String)
  deriving DecidableEq, Repr

namespace Condition

/-- The value that the condition binds. -/
def value : Condition → String
  | .box value => value
  | .path pattern => pattern

/-- The text of the condition, where `place` refers to its value. -/
def text (place : String) : Condition → String
  | .box _ => "box = " ++ place
  | .path _ => "path LIKE " ++ place ++ " ESCAPE '\\'"

/-- Whether a record meets the condition. -/
def holds (record : Record) : Condition → Bool
  | .box value => record.box == value
  | .path pattern => Sql.Like.holds (some '\\') pattern.toList record.path.toList

end Condition

/-- The conditions on notebooks, of which one must hold. -/
def boxConditions (filter : Filter) : List Condition := filter.boxes.map .box

/-- The conditions on paths, of which one must hold. -/
def pathConditions (filter : Filter) : List Condition :=
  filter.paths.map fun path => .path (pathPattern path)

/-- The values bound, one after the other, and the texts of the conditions on them. -/
def bindConditions
    (fragment : Sql.Fragment) : List Condition → Sql.Fragment × List String
  | [] => (fragment, [])
  | condition :: conditions =>
      let (fragment, place) := fragment.bind condition.value
      let (fragment, texts) := bindConditions fragment conditions
      (fragment, condition.text place :: texts)

/-- Write that one of some conditions must hold; nothing is written when there are none. -/
def writeAny (fragment : Sql.Fragment) (conditions : List Condition) : Sql.Fragment :=
  if conditions.isEmpty then fragment
  else
    let (fragment, texts) := bindConditions fragment conditions
    fragment.push (" AND (" ++ " OR ".intercalate texts ++ ")")

/-- The condition on types; without types it never holds. -/
def typeText (filter : Filter) : String :=
  " AND type IN (" ++ ", ".intercalate (filter.codes.map fun code => "'" ++ code ++ "'") ++ ")"

/-- Write the conditions of a filter behind a statement. -/
def write (filter : Filter) (fragment : Sql.Fragment) : Sql.Fragment :=
  writeAny (writeAny (fragment.push filter.typeText) filter.boxConditions) filter.pathConditions

/-- Whether one of some conditions holds, or there are none. -/
def anyHolds (record : Record) (conditions : List Condition) : Bool :=
  conditions.isEmpty || conditions.any (·.holds record)

/-- Whether a record meets the conditions of a filter. -/
def accepts (filter : Filter) (record : Record) : Bool :=
  filter.codes.contains record.type && anyHolds record filter.boxConditions &&
    anyHolds record filter.pathConditions

end Filter
end BlockSearch
