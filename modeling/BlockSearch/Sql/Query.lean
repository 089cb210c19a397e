import BlockSearch.Sql.Evaluation
import BlockSearch.Sql.Reader

/-!
# Queries

A statement is read, resolved and run. Its rows become records by the names of the columns:
a column whose name is that of no field is left out, and of two columns for one field the
last one counts.

In the text of a statement a value is bound once and referred to by its number, so that no value
becomes part of the text.
-/

namespace BlockSearch
namespace Sql

/-! ## Text with parameters -/

/-- Text of a statement and the values of its parameters. -/
structure Fragment where
  /-- The text. -/
  text : String
  /-- The values, of which the first has the number one. -/
  values : List String := []
  deriving DecidableEq, Repr

namespace Fragment

/-- Write more text. -/
def push (fragment : Fragment) (text : String) : Fragment :=
  { fragment with text := fragment.text ++ text }

/-- Bind a value to the next number, which is the second result as text. -/
def bind (fragment : Fragment) (value : String) : Fragment × String :=
  let values := fragment.values ++ [value]
  ({ fragment with values := values }, "?" ++ toString values.length)

end Fragment

/-! ## Answers -/

/-- The rows of a statement, and the names of their columns. -/
structure Answer where
  /-- The names. -/
  names : List (Option String)
  /-- The rows. -/
  rows : List Row

/-- What answers statements. -/
structure Database where
  /-- The answer to a statement with values for its parameters, if it can be run. -/
  answer? : (text : String) → (parameters : List String) → Option Answer

/-- Run a statement with values for all its parameters, unless an expression in it is too high. -/
def answer? (store : Store) (text : String) (parameters : List String) : Option Answer := do
  let prepared ← Prepared.read? text.toList
  if prepared.select.height?.isNone || prepared.parameters != parameters.length then none
  else
    let resolved ← resolve? prepared.select parameters
    let rows ← resolved.plan.run store []
    some ⟨resolved.results.map Result.name, rows⟩

/-- The record with another value in the field of a column. -/
def setColumn (record : Record) (name : String) (value : Value) : Record :=
  match name with
  | "id" => { record with id := value.fieldText }
  | "parent_id" => { record with parentId := value.fieldText }
  | "root_id" => { record with rootId := value.fieldText }
  | "hash" => { record with hash := value.fieldText }
  | "box" => { record with box := value.fieldText }
  | "path" => { record with path := value.fieldText }
  | "hpath" => { record with hpath := value.fieldText }
  | "name" => { record with name := value.fieldText }
  | "alias" => { record with aliases := value.fieldText }
  | "memo" => { record with memo := value.fieldText }
  | "tag" => { record with tag := value.fieldText }
  | "content" => { record with content := value.fieldText }
  | "fcontent" => { record with fcontent := value.fieldText }
  | "markdown" => { record with markdown := value.fieldText }
  | "length" => { record with length := value.fieldInteger }
  | "type" => { record with type := value.fieldText }
  | "subtype" => { record with subtype := value.fieldText }
  | "ial" => { record with ial := value.fieldText }
  | "sort" => { record with sort := value.fieldInteger }
  | "created" => { record with created := value.fieldText }
  | "updated" => { record with updated := value.fieldText }
  | _ => record

/-- The record that a row makes up. -/
def toRecord (names : List (Option String)) (row : Row) : Record :=
  (names.zip row).foldl
    (fun record entry =>
      match entry.1 with
      | some name => setColumn record name entry.2
      | none => record)
    {}

/-- The records that the rows of an answer make up. -/
def Answer.records (answer : Answer) : List Record := answer.rows.map (toRecord answer.names)

/-- A count, which is never negative. -/
def toCount (value : Value) : Nat := value.fieldInteger.toNat

namespace Database

/-- The statements that a store answers. -/
def ofStore (store : Store) : Database := ⟨Sql.answer? store⟩

/-- The records that a statement selects. -/
def records?
    (database : Database)
    (text : String)
    (parameters : List String) : Option (List Record) :=
  (database.answer? text parameters).map Answer.records

/-- The two counts in the first row of a statement; without a row both are zero. -/
def counts?
    (database : Database)
    (text : String)
    (parameters : List String) : Option (Nat × Nat) := do
  let answer ← database.answer? text parameters
  match answer.rows with
  | [] => some (0, 0)
  | (first :: second :: _) :: _ => some (toCount first, toCount second)
  | _ => none

end Database

/-- The records that a statement selects from a store. -/
def records? (store : Store) (text : String) (parameters : List String) : Option (List Record) :=
  (Database.ofStore store).records? text parameters

/-- The two counts in the first row of a statement on a store. -/
def counts? (store : Store) (text : String) (parameters : List String) : Option (Nat × Nat) :=
  (Database.ofStore store).counts? text parameters

end Sql
end BlockSearch
