import BlockSearch.FullText.Reader
import BlockSearch.Sql.Statement
import BlockSearch.Sql.Table

/-!
# Plans

A plan is a statement in which every name is resolved: columns are known by the row that
holds them and their place in it, parameters have their values, and comparisons know how they
convert and order their operands.
-/

namespace BlockSearch
namespace Sql

/-- How a comparison converts and orders its operands. -/
structure Regime where
  /-- The kind of values that both operands are converted to. -/
  affinity : Affinity
  /-- The order of texts. -/
  collation : Collation
  deriving DecidableEq, Repr

mutual

/-- An expression with resolved names. -/
inductive Term
  /-- A value. -/
  | value (value : Value)
  /-- A column of the row `depth` statements further out. -/
  | column (depth index : Nat)
  /-- The negative of a number. -/
  | negate (body : Term)
  /-- The opposite truth value. -/
  | not (body : Term)
  /-- Both of two conditions. -/
  | and (left right : Term)
  /-- At least one of two conditions. -/
  | or (left right : Term)
  /-- One text behind another. -/
  | concat (left right : Term)
  /-- A comparison. -/
  | compare (comparison : Comparison) (regime : Regime) (left right : Term)
  /-- Whether two values are equal or both null. -/
  | same (regime : Regime) (left right : Term)
  /-- Whether a value is one of a list. -/
  | among (regime : Regime) (body : Term) (items : List Term)
  /-- Whether a value is one of those that a plan selects. -/
  | within (regime : Regime) (body : Term) (plan : Plan)
  /-- Whether a text has the form of a pattern. -/
  | like (text pattern : Term)
  /-- Whether a text has the form of a pattern with an escape character. -/
  | likeEscaped (text pattern escape : Term)
  /-- Whether a pattern matches in a text. -/
  | regexp (text pattern : Term)
  /-- An excerpt of a column of the full-text index with texts around the matches. -/
  | excerpt
      (shape : FullText.Shape)
      (mode : CaseMode)
      (expression : FullText.Expression)
      (column : Nat)
      (left right : String)
  /-- The first of two values if a condition is true, and the second one otherwise. -/
  | choose (condition first second : Term)
  /-- The number of rows. -/
  | countRows
  /-- The number of values that are not null, counted once each if they are to be distinct. -/
  | count (distinct : Bool) (body : Term)
  /-- The greatest or the least value. -/
  | extreme (greatest : Bool) (body : Term)

/-- Where rows come from. -/
inductive Rows
  /-- There is one row without columns. -/
  | unit
  /-- A table. -/
  | table (table : Table) (visit : Visit) (reversed : Bool)
  /-- The rows of the full-text index that match an expression, if it could be read. -/
  | index (mode : CaseMode) (expression : Option FullText.Expression)
  /-- The rows of a plan. -/
  | derived (plan : Plan)

/-- A statement with resolved names. -/
inductive Plan
  /--
  A plan with all its parts. When it is grouped, all rows make up one result; its columns are
  those of the row with the greatest or the least value of the leader, if `leading` says so,
  and those of the last row otherwise. A negative `count` takes all rows.
  -/
  | mk
      (distinct grouped : Bool)
      (leading : Option Bool)
      (leader : Term)
      (results : List Term)
      (rows : Rows)
      (condition : Term)
      (order : List (Term × Collation × Bool))
      (count skip : Option Term)

end

/-- Rows from which a limit is taken off, and that limit. Only a plain selection without an order
and an offset gives up its limit. -/
def Rows.takeLimit? : Rows → Option (Rows × Term)
  | .derived (.mk false false leading leader results rows condition [] (some count) none) =>
      some (.derived (.mk false false leading leader results rows condition [] none none), count)
  | _ => none

namespace Term

/-- The conditions that a condition is the conjunction of. -/
def conjuncts : Term → List Term
  | .and left right => left.conjuncts ++ right.conjuncts
  | term => [term]

mutual

/-- Whether a term counts rows or takes an extreme of them. -/
def hasAggregate : Term → Bool
  | .countRows => true
  | .count _ _ => true
  | .extreme _ _ => true
  | .negate body => body.hasAggregate
  | .not body => body.hasAggregate
  | .and left right => left.hasAggregate || right.hasAggregate
  | .or left right => left.hasAggregate || right.hasAggregate
  | .concat left right => left.hasAggregate || right.hasAggregate
  | .compare _ _ left right => left.hasAggregate || right.hasAggregate
  | .same _ left right => left.hasAggregate || right.hasAggregate
  | .among _ body items => body.hasAggregate || anyAggregate items
  | .within _ body _ => body.hasAggregate
  | .like text pattern => text.hasAggregate || pattern.hasAggregate
  | .likeEscaped text pattern escape =>
      text.hasAggregate || pattern.hasAggregate || escape.hasAggregate
  | .regexp text pattern => text.hasAggregate || pattern.hasAggregate
  | .value _ => false
  | .column _ _ => false
  | .excerpt _ _ _ _ _ _ => false
  | .choose condition first second =>
      condition.hasAggregate || first.hasAggregate || second.hasAggregate

/-- Whether one of some terms counts rows or takes an extreme of them. -/
def anyAggregate : List Term → Bool
  | [] => false
  | term :: terms => term.hasAggregate || anyAggregate terms

end

mutual

/-- The columns of the innermost row that a term names. -/
def columns : Term → List Nat
  | .value _ => []
  | .column depth index => if depth = 0 then [index] else []
  | .negate body => body.columns
  | .not body => body.columns
  | .and left right => left.columns ++ right.columns
  | .or left right => left.columns ++ right.columns
  | .concat left right => left.columns ++ right.columns
  | .compare _ _ left right => left.columns ++ right.columns
  | .same _ left right => left.columns ++ right.columns
  | .among _ body items => body.columns ++ allColumns items
  | .within _ body _ => body.columns
  | .like text pattern => text.columns ++ pattern.columns
  | .likeEscaped text pattern escape => text.columns ++ pattern.columns ++ escape.columns
  | .regexp text pattern => text.columns ++ pattern.columns
  | .excerpt _ _ _ index _ _ => [index]
  | .choose condition first second => condition.columns ++ first.columns ++ second.columns
  | .countRows => []
  | .count _ body => body.columns
  | .extreme _ body => body.columns

/-- The columns of the innermost row that some terms name. -/
def allColumns : List Term → List Nat
  | [] => []
  | term :: terms => term.columns ++ allColumns terms

end

end Term

/-- The extremes among some terms, which are to be the greatest if they are marked. -/
def Term.extremes (terms : List Term) : List (Bool × Term) :=
  terms.filterMap fun term =>
    match term with
    | .extreme greatest body => some (greatest, body)
    | _ => none

/-- The one extreme among some terms. -/
def Term.leader? (terms : List Term) : Option (Bool × Term) :=
  match Term.extremes terms with
  | [leader] => some leader
  | _ => none

/-- The place of a column in the rows of the table of records. -/
def recordColumn (name : String) : Nat := Table.recordColumns.findIdx (·.1 == name)

/-- The order that visits records by a column, if there is one. -/
def Visit.ofColumn? (index : Nat) : Option Visit :=
  if index = recordColumn "id" then some .id
  else if index = recordColumn "root_id" then some .document
  else if index = recordColumn "box" then some .box
  else none

/-- A condition that an order of visits can make use of. -/
structure Access where
  /-- The order of visits. -/
  visit : Visit
  /-- Whether the condition gives the values themselves, and not a range. -/
  exact : Bool
  deriving DecidableEq, Repr

namespace Access

/-- The access by a column that is compared with something outside of its row. -/
def ofOperands? (exact : Bool) (left right : Term) : Option Access :=
  match left, right.columns with
  | .column 0 index, [] => (Visit.ofColumn? index).map fun visit => ⟨visit, exact⟩
  | _, _ => none

/-- The access that a condition makes possible. -/
def ofCondition? : Term → Option Access
  | .compare comparison _ left right =>
      let exact := comparison == .equal
      if comparison == .different then none
      else (ofOperands? exact left right).or (ofOperands? exact right left)
  | .among _ (.column 0 index) items =>
      if (Term.allColumns items).isEmpty then
        (Visit.ofColumn? index).map fun visit => ⟨visit, true⟩
      else none
  | .within _ (.column 0 index) _ => (Visit.ofColumn? index).map fun visit => ⟨visit, true⟩
  | .or left right =>
      match ofCondition? left, ofCondition? right with
      | some first, some second => if first = second && first.exact then some first else none
      | _, _ => none
  | _ => none

/-- How much an access is preferred. -/
def preference (access : Access) : Nat :=
  (if access.exact then 0 else 3) +
    match access.visit with
    | .id => 0
    | .document => 1
    | _ => 2

/-- The access that is preferred among those that some conditions make possible. -/
def best? (conditions : List Term) : Option Access :=
  (conditions.filterMap ofCondition?).foldl
    (fun best access =>
      match best with
      | some other => if access.preference < other.preference then some access else some other
      | none => some access)
    none

end Access

/-- The order of visits that an order of results is read off, and whether it is reversed. -/
def Visit.ofOrder? : List (Term × Collation × Bool) → Option (Visit × Bool)
  | (.column 0 index, .binary, descending) :: _ =>
      match Visit.ofColumn? index with
      | some .document => some (.document, descending)
      | some .box => some (.box, descending)
      | _ => none
  | _ => none

/-- The order of visits by an index that holds all of some columns. -/
def Visit.covering? (columns : List Nat) : Option Visit :=
  let boxColumns := [recordColumn "box", recordColumn "hpath"]
  if columns.isEmpty then none
  else if columns.all (· == recordColumn "id") then some .id
  else if columns.all (· == recordColumn "root_id") then some .document
  else if columns.all fun column => boxColumns.contains column then some .box
  else none

/-! ## Rows in order -/

/-- The place of the number of the row among the columns of the records and of the index. -/
def rowColumn : Nat := Table.recordColumns.length

/-- The columns that the records are ordered by when they are visited. -/
def Visit.columns : Visit → List Nat
  | .insertion => [rowColumn]
  | .id => [recordColumn "id"]
  | .document => [recordColumn "root_id", rowColumn]
  | .box => [recordColumn "box", recordColumn "hpath", rowColumn]

/-- All orders of visits. -/
def Visit.all : List Visit := [.insertion, .id, .document, .box]

/-- The columns of an order by nothing else, in one direction. -/
def orderColumns? (order : List (Term × Collation × Bool)) : Option (List Nat) :=
  if order.all fun rule => order.head?.all fun first => rule.2.2 == first.2.2 then
    order.mapM fun rule =>
      match rule with
      | (.column 0 index, .binary, _) => some index
      | _ => none
  else none

/-- Whether the rows of a table come in the order of some columns when they are visited. Records
that nothing else chooses can be visited in any order. -/
def Table.comeIn (visit : Visit) (columns : List Nat) : Table → Bool
  | .blocks =>
      (if visit = .insertion then Visit.all else [visit]).any fun visit =>
        columns.isPrefixOf visit.columns
  | .references => columns == [0] || columns == [referenceColumns.length + 1]
  | .index _ => columns == [rowColumn]

/-- Whether rows come in an order, so that they need not be sorted. -/
def Rows.comeIn (rows : Rows) (order : List (Term × Collation × Bool)) : Bool :=
  match orderColumns? order with
  | none => false
  | some columns =>
      columns.isEmpty ||
        match rows with
        | .table named visit _ => named.comeIn visit columns
        -- The index gives its rows by their numbers or by their ranks.
        | .index _ _ => columns == [rowColumn] || columns == [rowColumn + 2]
        | _ => false

/--
The order in which records are visited: by a condition that gives values of a column, or else
by the order of the results, or else by an index that holds all columns needed.
-/
def Visit.choose
    (conditions : List Term)
    (order : List (Term × Collation × Bool))
    (columns : List Nat) : Visit × Bool :=
  match Access.best? conditions with
  | some access => (access.visit, false)
  | none =>
      match Visit.ofOrder? order with
      | some choice => choice
      | none => ((Visit.covering? columns).getD .insertion, false)

end Sql
end BlockSearch
