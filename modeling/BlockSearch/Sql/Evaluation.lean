import BlockSearch.FullText.Excerpt
import BlockSearch.Pattern.Match
import BlockSearch.Sql.Like
import BlockSearch.Sql.Resolution

/-!
# Running plans

A term has a value in a row, unless it asks for something that cannot be done. Conditions
have three truth values: a comparison with null is neither true nor false.

Rows behind the last one that is asked for are not looked at, unless all rows have to be sorted. The
sides of a condition are evaluated from left to right. A database may choose another order, which can
be told only where one of the sides asks for something that cannot be done.
-/

namespace BlockSearch
namespace Sql

/-- The opposite truth value. -/
def inverse (truth : Option Bool) : Option Bool := truth.map (!·)

/-- Whether both of two conditions hold. -/
def both : Option Bool → Option Bool → Option Bool
  | some false, _ => some false
  | _, some false => some false
  | some true, some true => some true
  | _, _ => none

/-- Whether at least one of two conditions holds. -/
def either : Option Bool → Option Bool → Option Bool
  | some true, _ => some true
  | _, some true => some true
  | some false, some false => some false
  | _, _ => none

/-- Whether two values are equal, unless one is null. -/
def equal? (regime : Regime) (left right : Value) : Option Bool :=
  (Value.compared? regime.affinity regime.collation left right).map (· == .eq)

/-- Whether two values are equal or both null. -/
def identical (regime : Regime) : Value → Value → Bool
  | .null, .null => true
  | left, right => (equal? regime left right).getD false

/-- Whether a value is one of a list; it may be one that is not known. -/
def isMember (regime : Regime) (value : Value) (items : List Value) : Option Bool :=
  items.foldl (fun found item => either found (equal? regime value item)) (some false)

/-- One text behind another. -/
def joinTexts : Value → Value → Value
  | .null, _ => .null
  | _, .null => .null
  | left, right => .text (String.ofList (left.toText ++ right.toText))

/-- Whether a text has the form of a pattern. -/
def hasForm (escape : Option Char) : (text pattern : Value) → Option Bool
  | .null, _ => none
  | _, .null => none
  | text, pattern => some (Like.holds escape pattern.toText text.toText)

/-- Whether a text has the form of a pattern, which must not be too long. -/
def hasForm? (escape : Option Char) (text pattern : Value) : Option (Option Bool) :=
  if Like.greatestSize < pattern.size then none else some (hasForm escape text pattern)

/-- Whether a text has the form of a pattern; the escape must be one character. -/
def hasEscapedForm? (text pattern : Value) : (escape : Value) → Option (Option Bool)
  | .null => (hasForm? none text pattern).map fun _ => none
  | escape =>
      match Text.beforeNull escape.toText with
      | [c] => hasForm? (some c) text pattern
      | _ => none

/-- Whether a pattern matches in a text; null matches nothing. -/
def matchesPattern : (text pattern : Value) → Bool
  | .null, _ => false
  | text, pattern => Pattern.occursIn pattern.fieldText.toList text.fieldText.toList

/-- The order of values that no column converts. -/
def plainOrdering (left right : Value) : Ordering := Value.ordering .binary left right

/-- The greatest or the least of some values; null is none of them. -/
def extremeOf (greatest : Bool) (values : List Value) : Value :=
  values.foldl
    (fun best value =>
      match best, value with
      | .null, value => value
      | best, .null => best
      | best, value =>
          if plainOrdering value best == (if greatest then .gt else .lt) then value else best)
    .null

/-- The values without those that are equal to an earlier one. -/
def distinctValues : List Value → List Value
  | [] => []
  | value :: values =>
      value :: (distinctValues values).filter fun other => plainOrdering value other != .eq

/-- The number of values that are not null. -/
def countValues (distinct : Bool) (values : List Value) : Nat :=
  let known := values.filter fun value =>
    match value with
    | .null => false
    | _ => true
  (if distinct then distinctValues known else known).length

/-- Whether two rows have equal values. -/
def sameRow (left right : Row) : Bool :=
  left.length == right.length &&
    (left.zip right).all fun pair => plainOrdering pair.1 pair.2 == .eq

/-- A row of results, and the values that it is ordered by. -/
structure Outcome where
  /-- The results. -/
  results : Row
  /-- The values that the row is ordered by. -/
  keys : Row

/-- The outcomes whose results are not those of an earlier one. -/
def distinctOutcomes : List Outcome → List Outcome
  | [] => []
  | outcome :: outcomes =>
      outcome ::
        (distinctOutcomes outcomes).filter fun other => !sameRow outcome.results other.results

/-- Whether keys may stand before others. -/
def keysAllow : List (Collation × Bool) → Row → Row → Bool
  | (collation, descending) :: rules, a :: left, b :: right =>
      match Value.ordering collation a b with
      | .lt => !descending
      | .gt => descending
      | .eq => keysAllow rules left right
  | _, _, _ => true

/-- The first items that pass a test; those behind them are not tested. -/
def firstPassing? {α : Type} (test : α → Option Bool) : (wanted : Nat) → List α → Option (List α)
  | 0, _ => some []
  | _ + 1, [] => some []
  | wanted + 1, item :: items => do
      if ← test item then
        let others ← firstPassing? test wanted items
        some (item :: others)
      else firstPassing? test (wanted + 1) items

/-- The values of the columns that a row is ordered by. -/
def Row.keys (row : Row) (order : List (Term × Collation × Bool)) : Row :=
  order.map fun rule =>
    match rule.1 with
    | .column 0 index => row[index]?.getD .null
    | _ => .null

/-- A whole number that a limit may be. -/
def limit? : Value → Option Int
  | .integer n => some n
  | .real x =>
      let n := Value.truncate x
      if Value.mixedOrdering n x == .eq then some n else none
  | .text value =>
      match Value.number? value.toList with
      | some (.integer n) => some n
      | some (.real x) =>
          let n := Value.truncate x
          if Value.mixedOrdering n x == .eq then some n else none
      | _ => none
  | _ => none

/-- The items that a limit leaves; a negative count leaves all. -/
def window {α : Type} (count skip : Int) (items : List α) : List α :=
  let rest := items.drop skip.toNat
  if count < 0 then rest else rest.take count.toNat

/-- The number of items up to the last one that a limit leaves, if there are `size` items. -/
def reach (count skip : Int) (size : Nat) : Nat :=
  if count < 0 then size else skip.toNat + count.toNat

/-- The row whose value is the greatest or the least, or the last row. -/
def leadingRow (leading : Option Bool) (valued : List (Row × Value)) : Row :=
  match leading with
  | some greatest =>
      let best := extremeOf greatest (valued.map (·.2))
      ((valued.find? fun entry => plainOrdering entry.2 best == .eq).map (·.1)).getD []
  | none => (valued.getLast?.map (·.1)).getD []

/-- The text of a field in a row of the full-text index. -/
def Row.text (row : Row) (field : Field) : List Char :=
  (row[recordColumn field.columnName]?.getD .null).toText

/--
An excerpt of a column of a row with texts around the places where phrases of an expression stand.
A column that is not indexed is shown whole.
-/
def Row.excerpt
    (row : Row)
    (shape : FullText.Shape)
    (mode : CaseMode)
    (expression : FullText.Expression)
    (column : Nat)
    (markers : FullText.Markers) : Value :=
  match Field.all.find? fun field => recordColumn field.columnName == column with
  | some field =>
      let places := expression.instances fun field => FullText.tokens mode (row.text field)
      .text (String.ofList
        (shape.excerpt markers (places.filter (·.field = field)) (row.text field)))
  | none => .text (String.ofList (Text.beforeNull (row[column]?.getD .null).toText))

mutual

/-- The value of a term in a row; rows of statements further out and of the group are given. -/
def Term.eval (store : Store) (outer group : List Row) (row : Row) : Term → Option Value
  | .value value => some value
  | .column 0 index => some (row[index]?.getD .null)
  | .column (depth + 1) index => some (((outer[depth]?).bind (·[index]?)).getD .null)
  | .negate body => do
      let value ← body.eval store outer group row
      some value.negate
  | .not body => do
      let value ← body.eval store outer group row
      some (.ofTruth (inverse value.truth))
  | .and left right => do
      let value ← left.eval store outer group row
      if value.truth = some false then some (.ofBool false)
      else
        let other ← right.eval store outer group row
        some (.ofTruth (both value.truth other.truth))
  | .or left right => do
      let value ← left.eval store outer group row
      if value.truth = some true then some (.ofBool true)
      else
        let other ← right.eval store outer group row
        some (.ofTruth (either value.truth other.truth))
  | .concat left right => do
      let value ← left.eval store outer group row
      let other ← right.eval store outer group row
      some (joinTexts value other)
  | .compare comparison regime left right => do
      let value ← left.eval store outer group row
      let other ← right.eval store outer group row
      let order := Value.compared? regime.affinity regime.collation value other
      some (.ofTruth (order.map comparison.holds))
  | .same regime left right => do
      let value ← left.eval store outer group row
      let other ← right.eval store outer group row
      some (.ofBool (identical regime value other))
  | .among regime body items => do
      let value ← body.eval store outer group row
      let values ← evalAll store outer group row items
      some (.ofTruth (isMember regime value values))
  | .within regime body plan => do
      let value ← body.eval store outer group row
      let rows ← plan.run store (row :: outer)
      some (.ofTruth (isMember regime value (rows.map fun found => found.head?.getD .null)))
  | .like text pattern => do
      let value ← text.eval store outer group row
      let form ← pattern.eval store outer group row
      let truth ← hasForm? none value form
      some (.ofTruth truth)
  | .likeEscaped text pattern escape => do
      let value ← text.eval store outer group row
      let form ← pattern.eval store outer group row
      let mark ← escape.eval store outer group row
      let truth ← hasEscapedForm? value form mark
      some (.ofTruth truth)
  | .regexp text pattern => do
      let value ← text.eval store outer group row
      let form ← pattern.eval store outer group row
      some (.ofBool (matchesPattern value form))
  | .excerpt shape mode expression column left right =>
      some (row.excerpt shape mode expression column ⟨left.toList, right.toList⟩)
  | .choose condition first second => do
      let value ← condition.eval store outer group row
      if value.truth = some true then first.eval store outer group row
      else second.eval store outer group row
  | .countRows => some (.integer group.length)
  | .count distinct body => do
      let values ← group.mapM fun member => body.eval store outer [] member
      some (.integer (countValues distinct values))
  | .extreme greatest body => do
      let values ← group.mapM fun member => body.eval store outer [] member
      some (extremeOf greatest values)

/-- The values of some terms in a row. -/
def evalAll (store : Store) (outer group : List Row) (row : Row) : List Term → Option (List Value)
  | [] => some []
  | term :: terms => do
      let value ← term.eval store outer group row
      let values ← evalAll store outer group row terms
      some (value :: values)

/-- The values that a row is ordered by. -/
def evalKeys (store : Store) (outer group : List Row) (row : Row) :
    List (Term × Collation × Bool) → Option (List Value)
  | [] => some []
  | (term, _, _) :: terms => do
      let value ← term.eval store outer group row
      let values ← evalKeys store outer group row terms
      some (value :: values)

/-- The rows of a source. -/
def Rows.rows (store : Store) (outer : List Row) : Rows → Option (List Row)
  | .unit => some [[]]
  | .table table visit reversed =>
      let rows := table.rows store visit
      some (if reversed then rows.reverse else rows)
  | .index mode expression => expression.map (matchingRows store mode)
  | .derived plan => plan.run store outer

/-- The value of a limit, which may be missing. -/
def evalLimit? (store : Store) (missing : Int) : Option Term → Option Int
  | none => some missing
  | some term => do limit? (← term.eval store [] [] [])

/-- The rows of a plan; when it is to take none, nothing is run. Rows that come in order are tested
one after the other until there are enough of them, all others before the first one is taken. -/
def Plan.run (store : Store) (outer : List Row) : Plan → Option (List Row)
  | .mk distinct grouped leading leader results rows condition order count skip => do
      let count ← evalLimit? store (-1) count
      if count = 0 then some []
      else
        let skip ← evalLimit? store 0 skip
        let visited ← rows.rows store outer
        let rules := order.map (·.2)
        let test (row : Row) : Option Bool := do
          let value ← condition.eval store outer [] row
          some (value.truth = some true)
        if rows.comeIn order && !distinct && !grouped then
          let sorted := visited.mergeSort fun a b => keysAllow rules (a.keys order) (b.keys order)
          let kept ← firstPassing? test (reach count skip visited.length) sorted
          (window count skip kept).mapM fun row => evalAll store outer [] row results
        else
          let kept ← visited.filterM test
          let outcomes ←
            if grouped then do
              let values ← kept.mapM fun row => leader.eval store outer [] row
              let row := leadingRow leading (kept.zip values)
              let found ← evalAll store outer kept row results
              some [⟨found, []⟩]
            else
              kept.mapM fun row => do
                let found ← evalAll store outer [] row results
                let keys ← evalKeys store outer [] row order
                some (⟨found, keys⟩ : Outcome)
          let outcomes := if distinct then distinctOutcomes outcomes else outcomes
          let sorted := outcomes.mergeSort fun a b => keysAllow rules a.keys b.keys
          some ((window count skip sorted).map Outcome.results)

end

end Sql
end BlockSearch
