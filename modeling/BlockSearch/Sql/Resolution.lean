import BlockSearch.Sql.Plan

/-!
# Resolving names

A name stands for a column of the innermost statement that has one, or else for a result of
that statement. Names are compared without regard to the case of ASCII letters. A statement
with a name that stands for nothing has no plan.
-/

namespace BlockSearch
namespace Sql

/-- A resolved expression, and how it takes part in comparisons. -/
structure Typed where
  /-- The expression. -/
  term : Term
  /-- The affinity of a column; other expressions have none. -/
  affinity : Option Affinity := none
  /-- The collation that is asked for. -/
  collation : Option Collation := none

namespace Typed

/-- The affinity of a comparison of two expressions. -/
def commonAffinity (left right : Typed) : Affinity :=
  match left.affinity, right.affinity with
  | some first, some second => if first = .numeric || second = .numeric then .numeric else .none
  | some first, none => first
  | none, some second => second
  | none, none => .none

/-- The collation of a comparison of two expressions. -/
def commonCollation (left right : Typed) : Collation :=
  (left.collation.or right.collation).getD .binary

/-- How two expressions are compared. -/
def regime (left right : Typed) : Regime := ⟨commonAffinity left right, commonCollation left right⟩

/-- How an expression is compared with those of a list. -/
def listRegime (body : Typed) : Regime :=
  ⟨body.affinity.getD .none, body.collation.getD .binary⟩

/-- The comparison of two expressions. -/
def compare (comparison : Comparison) (left right : Typed) : Typed :=
  ⟨.compare comparison (regime left right) left.term right.term, none, none⟩

end Typed

/-- A column that can be named. -/
structure ScopeColumn where
  /-- The table that the column belongs to. -/
  table : Option String
  /-- The name. -/
  name : Option String
  /-- The kind of values it holds. -/
  affinity : Option Affinity
  /-- Whether it is left out of all columns. -/
  hidden : Bool := false
  deriving DecidableEq, Repr

/-- A result of a statement. -/
structure Result where
  /-- The name. -/
  name : Option String
  /-- The expression. -/
  typed : Typed

/-- What the names in a statement stand for. -/
structure Scope where
  /-- The columns of its rows. -/
  columns : List ScopeColumn
  /-- Its named results, as far as they can be named. -/
  aliases : List (String × Typed) := []

/-- The full-text table of a statement, and what its rows match. -/
structure Matched where
  /-- How the table compares letters. -/
  mode : CaseMode
  /-- The match expression. -/
  expression : FullText.Expression

/-- What is known where an expression is resolved. -/
structure Environment where
  /-- The scopes, the innermost first. -/
  scopes : List Scope
  /-- The values of the parameters. -/
  parameters : List String
  /-- Whether rows may be counted. -/
  aggregates : Bool := false
  /-- Whether a match expression may stand here. -/
  matching : Bool := false
  /-- The full-text table whose matches can be marked. -/
  matched : Option Matched := none

/-- Whether two names are the same. -/
def sameName (left right : String) : Bool :=
  left.toList.map Char.toLower == right.toList.map Char.toLower

/-- The names of the number of a row. -/
def rowNumberNames : List String := ["rowid", "oid", "_rowid_"]

namespace Scope

/-- Whether a column has a name. -/
def matchesColumn (table : Option String) (name : String) (column : ScopeColumn) : Bool :=
  (match column.name with
    | some columnName => sameName columnName name
    | none => false) &&
  match table with
  | none => true
  | some table =>
      match column.table with
      | some columnTable => sameName columnTable table
      | none => false

/-- The place of the column with a name. -/
def columnIndex? (scope : Scope) (table : Option String) (name : String) : Option Nat :=
  (scope.columns.findIdx? (matchesColumn table name)).or <|
    if rowNumberNames.any (sameName name) then
      scope.columns.findIdx? fun column =>
        column.hidden && matchesColumn table Table.rowNumber.name column
    else none

end Scope

namespace Environment

/-- The column that a name stands for, from a depth on. -/
def findColumn? (table : Option String) (name : String) : (depth : Nat) → List Scope → Option Typed
  | _, [] => none
  | depth, scope :: scopes =>
      match scope.columnIndex? table name with
      | some index =>
          some ⟨.column depth index, (scope.columns[index]?).bind (·.affinity), none⟩
      | none =>
          let named :=
            if depth = 0 && table.isNone then
              (scope.aliases.find? fun entry => sameName entry.1 name).map (·.2)
            else none
          named.or (findColumn? table name (depth + 1) scopes)

/-- What a name stands for; a quoted name that stands for nothing is a text. -/
def column? (environment : Environment) (table : Option String) (name : String) (quoted : Bool) :
    Option Typed :=
  match findColumn? table name 0 environment.scopes with
  | some typed =>
      if typed.term.hasAggregate && !environment.aggregates then none else some typed
  | none => if quoted then some ⟨.value (.text name), none, none⟩ else none

/-- The value of a parameter. -/
def parameter? (environment : Environment) (number : Nat) : Option Typed :=
  (environment.parameters[number - 1]?).map fun value => ⟨.value (.text value), none, none⟩

/-- An excerpt of a column of the full-text table of the statement. -/
def excerpt?
    (environment : Environment)
    (shape : FullText.Shape)
    (table : String)
    (column : Nat)
    (left right : String) : Option Typed := do
  let matched ← environment.matched
  if sameName table (Table.index matched.mode).name && column < Table.recordColumns.length then
    some ⟨.excerpt shape matched.mode matched.expression column left right, none, none⟩
  else none

/-- The environment of the operands of an expression. -/
def inner (environment : Environment) : Environment := { environment with matching := false }

/-- The environment of what is counted. -/
def counted (environment : Environment) : Environment :=
  { environment with matching := false, aggregates := false, matched := none }

end Environment

/-- The match expressions among the conditions that a condition is the conjunction of. -/
def Expr.matchings : Expr → List (String × Expr)
  | .and left right => left.matchings ++ right.matchings
  | .matching table body => [(table, body)]
  | _ => []

/-- The text of a match expression. -/
def matchText? (environment : Environment) : Expr → Option String
  | .value (.text text) => some text
  | .value (.integer n) => some (toString n)
  | .parameter number => environment.parameters[number - 1]?
  | _ => none

/-- The match expression for a table or one of its columns. -/
def readMatching?
    (mode : CaseMode)
    (name text : String) : Option FullText.Expression :=
  (FullText.Expression.read? mode text.toList).map fun expression =>
    match FullText.fieldsNamed? name.toList with
    | some fields => expression.restrict fields
    | none => expression

/-- Whether a full-text table or one of its columns has a name. -/
def canMatch (mode : CaseMode) (name : String) : Bool :=
  sameName name (Table.index mode).name || (FullText.fieldsNamed? name.toList).isSome

/-- The texts of match expressions, each with the name of a table or column that can match it. -/
def matchTexts?
    (environment : Environment)
    (mode : CaseMode)
    (matchings : List (String × Expr)) : Option (List (String × String)) :=
  matchings.mapM fun matching =>
    if canMatch mode matching.1 then
      (matchText? environment matching.2).map fun text => (matching.1, text)
    else none

/-- The expression that must match where several must. -/
def readMatchings?
    (mode : CaseMode)
    (texts : List (String × String)) : Option FullText.Expression := do
  let expressions ← texts.mapM fun entry => readMatching? mode entry.1 entry.2
  match expressions with
  | first :: rest => some (rest.foldl FullText.Expression.and first)
  | [] => none

/-- The match expressions of a condition that may be missing. -/
def matchingsOf (condition : Option Expr) : List (String × Expr) :=
  (condition.map Expr.matchings).getD []

/-- The rows of a table for the match expressions of a condition. -/
def rowsOf?
    (environment : Environment)
    (condition : Option Expr)
    (table : Table)
    (visit : Visit × Bool) : Option Rows :=
  match table, matchingsOf condition with
  | table, [] => some (.table table visit.1 visit.2)
  | .index mode, matchings => do
      let texts ← matchTexts? environment mode matchings
      some (.index mode (readMatchings? mode texts))
  | _, _ :: _ => none

/-- What the rows of a table match; without a match expression nothing is marked. -/
def matchedOf?
    (environment : Environment)
    (condition : Option Expr) : Table → Option Matched
  | .index mode => do
      let texts ← matchTexts? environment mode (matchingsOf condition)
      some ⟨mode, (readMatchings? mode texts).getD .never⟩
  | _ => none

/-- The columns of a table as they can be named. -/
def scopeColumns (label : String) (table : Table) : List ScopeColumn :=
  table.columns.map fun column =>
    ⟨some label, some column.name, some column.affinity, column.hidden⟩

/-- A name that does not collide with earlier ones; a number is put behind it if need be. -/
def freshName (taken : List String) (name : String) : (fuel count : Nat) → String
  | 0, _ => name
  | fuel + 1, count =>
      let candidate := if count = 0 then name else name ++ ":" ++ toString count
      if taken.any (sameName candidate) then freshName taken name fuel (count + 1) else candidate

/-- The columns that the results of a statement make up, behind some names. -/
def derivedColumns (label : Option String) : (taken : List String) → List Result → List ScopeColumn
  | _, [] => []
  | taken, result :: results =>
      let name := result.name.map fun name => freshName taken name (taken.length + 1) 0
      ⟨label, name, result.typed.affinity, false⟩ ::
        derivedColumns label (name.toList ++ taken) results

/-- The results that stand for columns of a scope. -/
def columnResults (columns : List ScopeColumn) (wanted : ScopeColumn → Bool) : List Result :=
  columns.zipIdx.filterMap fun (column, index) =>
    if !column.hidden && wanted column then
      some ⟨column.name, ⟨.column 0 index, column.affinity, none⟩⟩
    else none

/-- The result that a term of an order names by its number or its name, if it does. -/
inductive Target
  /-- It names a result. -/
  | result (typed : Typed)
  /-- It names none, but it is a number. -/
  | outside
  /-- It is an expression of its own. -/
  | expression

/-- The number that a term of an order is, if it is a whole number of at most 32 bits. -/
def Expr.orderNumber? : Expr → Option Int
  | .value (.integer n) => if n.natAbs < 2147483648 then some n else none
  | .plus body => body.orderNumber?
  | .negate body => body.orderNumber?.map fun n => -n
  | _ => none

/-- What a term of an order stands for. -/
def Target.of (aliases : List (String × Typed)) (results : List Result) : Expr → Target
  | .collate body collation =>
      match Target.of aliases results body with
      | .result typed => .result { typed with collation := some collation }
      | other => other
  | .column none name _ =>
      match aliases.find? fun entry => sameName entry.1 name with
      | some entry => .result entry.2
      | none => .expression
  | body =>
      match body.orderNumber? with
      | none => .expression
      | some n =>
          if n ≤ 0 then .outside
          else
            match results[n.toNat - 1]? with
            | some found => .result found.typed
            | none => .outside

/-- The names that one item gives to its results: all columns keep theirs, an expression has its
label. -/
def Item.givenNames : Item → List Result → List (String × Typed)
  | .expression _ none, _ => []
  | .expression _ (some label), results => results.map fun result => (label, result.typed)
  | _, results => results.filterMap fun result => result.name.map fun name => (name, result.typed)

/-- The names that results are given. -/
def givenNames (items : List Item) (results : List (List Result)) : List (String × Typed) :=
  (items.zip results).flatMap fun (item, results) => item.givenNames results

/-- A plan and the names and affinities of its results. -/
structure Resolved where
  /-- The plan. -/
  plan : Plan
  /-- The results. -/
  results : List Result

/-- The source of a statement: its columns, and its rows for a condition and a visit. -/
structure ResolvedSource where
  /-- The columns. -/
  columns : List ScopeColumn
  /-- The table that is read, unless the rows come from elsewhere. -/
  table : Option Table
  /-- The rows, unless they come from a table. -/
  rows : Rows

/-- The rows of a source for the clauses of a statement. -/
def ResolvedSource.rowsFor?
    (source : ResolvedSource)
    (environment : Environment)
    (written : Option Expr)
    (condition : Term)
    (order : List (Term × Collation × Bool))
    (results : List Term) : Option Rows :=
  match source.table with
  | some table =>
      let columns :=
        Term.allColumns results ++ condition.columns ++ Term.allColumns (order.map (·.1))
      rowsOf? environment written table (Visit.choose condition.conjuncts order columns)
  | none =>
      if (matchingsOf written).isEmpty then some source.rows else none

mutual

/-- Resolve an expression. -/
def resolveExpr (environment : Environment) : Expr → Option Typed
  | .value value => some ⟨.value value, none, none⟩
  | .column table name quoted => environment.column? table name quoted
  | .parameter number => environment.parameter? number
  | .negate body => do
      let body ← resolveExpr environment.inner body
      some ⟨.negate body.term, none, none⟩
  | .plus body => do
      let body ← resolveExpr environment.inner body
      some ⟨body.term, none, body.collation⟩
  | .not body => do
      let body ← resolveExpr environment.inner body
      some ⟨.not body.term, none, none⟩
  | .and left right => do
      let left ← resolveExpr environment left
      let right ← resolveExpr environment right
      some ⟨.and left.term right.term, none, none⟩
  | .or left right => do
      let left ← resolveExpr environment.inner left
      let right ← resolveExpr environment.inner right
      some ⟨.or left.term right.term, none, none⟩
  | .concat left right => do
      let left ← resolveExpr environment.inner left
      let right ← resolveExpr environment.inner right
      some ⟨.concat left.term right.term, none, left.collation.or right.collation⟩
  | .compare comparison left right => do
      let left ← resolveExpr environment.inner left
      let right ← resolveExpr environment.inner right
      some (.compare comparison left right)
  | .same left right => do
      let left ← resolveExpr environment.inner left
      let right ← resolveExpr environment.inner right
      some ⟨.same (left.regime right) left.term right.term, none, none⟩
  | .between body low high => do
      let body ← resolveExpr environment.inner body
      let low ← resolveExpr environment.inner low
      let high ← resolveExpr environment.inner high
      some
        ⟨.and (Typed.compare .atLeast body low).term (Typed.compare .atMost body high).term,
          none, none⟩
  | .among _ [] => some ⟨.value (.integer 0), none, none⟩
  | .among body items => do
      let body ← resolveExpr environment.inner body
      let items ← resolveExprs environment.inner items
      some ⟨.among body.listRegime body.term (items.map Typed.term), none, none⟩
  | .within body select => do
      let body ← resolveExpr environment.inner body
      let selected ← resolveSelect environment.counted true select
      match selected.results with
      | [result] =>
          some ⟨.within (body.regime result.typed) body.term selected.plan, none, none⟩
      | _ => none
  | .like text pattern => do
      let text ← resolveExpr environment.inner text
      let pattern ← resolveExpr environment.inner pattern
      some ⟨.like text.term pattern.term, none, none⟩
  | .likeEscaped text pattern escape => do
      let text ← resolveExpr environment.inner text
      let pattern ← resolveExpr environment.inner pattern
      let escape ← resolveExpr environment.inner escape
      some ⟨.likeEscaped text.term pattern.term escape.term, none, none⟩
  | .regexp text pattern => do
      let text ← resolveExpr environment.inner text
      let pattern ← resolveExpr environment.inner pattern
      some ⟨.regexp text.term pattern.term, none, none⟩
  | .matching _ _ =>
      if environment.matching then some ⟨.value (.integer 1), none, none⟩ else none
  | .excerpt shape table column left right => environment.excerpt? shape table column left right
  | .choose condition first second => do
      let condition ← resolveExpr environment.inner condition
      let first ← resolveExpr environment.inner first
      let second ← resolveExpr environment.inner second
      some
        ⟨.choose condition.term first.term second.term, none,
          condition.collation.or (first.collation.or second.collation)⟩
  | .collate body collation => do
      let body ← resolveExpr environment.inner body
      some { body with collation := some collation }
  | .countRows => if environment.aggregates then some ⟨.countRows, none, none⟩ else none
  | .count distinct body => do
      let body ← resolveExpr environment.counted body
      if environment.aggregates then some ⟨.count distinct body.term, none, none⟩ else none
  | .extreme greatest body => do
      let body ← resolveExpr environment.counted body
      if environment.aggregates then some ⟨.extreme greatest body.term, none, none⟩ else none

/-- Resolve some expressions. -/
def resolveExprs (environment : Environment) : List Expr → Option (List Typed)
  | [] => some []
  | body :: bodies => do
      let first ← resolveExpr environment body
      let rest ← resolveExprs environment bodies
      some (first :: rest)

/-- Resolve an expression that may be missing. -/
def resolveOption (environment : Environment) : Option Expr → Option Term
  | none => some (.value (.integer 1))
  | some body => do
      let typed ← resolveExpr environment body
      some typed.term

/-- Resolve an order. -/
def resolveOrder
    (environment : Environment)
    (aliases : List (String × Typed))
    (results : List Result) : List (Expr × Bool) → Option (List (Term × Collation × Bool))
  | [] => some []
  | (body, descending) :: terms => do
      let typed ←
        match Target.of aliases results body with
        | .result typed => some typed
        | .outside => none
        | .expression => resolveExpr environment body
      let rest ← resolveOrder environment aliases results terms
      some ((typed.term, typed.collation.getD .binary, descending) :: rest)

/-- Resolve one item, which may stand for several results. -/
def resolveItem
    (environment : Environment)
    (columns : List ScopeColumn) : Item → Option (List Result)
  | .all =>
      let results := columnResults columns fun _ => true
      if columns.isEmpty then none else some results
  | .allOf table =>
      let results := columnResults columns fun column =>
        match column.table with
        | some name => sameName name table
        | none => false
      if results.isEmpty then none else some results
  | .expression body label => do
      let typed ← resolveExpr environment body
      let name :=
        match label, body, typed.term with
        | some label, _, _ => some label
        | none, .column _ _ _, .column depth index =>
            ((environment.scopes[depth]?).bind fun scope => scope.columns[index]?).bind (·.name)
        | none, _, _ => none
      some [⟨name, typed⟩]

/-- Resolve the items of a statement. -/
def resolveItems
    (environment : Environment)
    (columns : List ScopeColumn) : List Item → Option (List (List Result))
  | [] => some []
  | item :: items => do
      let first ← resolveItem environment columns item
      let rest ← resolveItems environment columns items
      some (first :: rest)

/-- Resolve the source of a statement, of which the order of rows may be wanted or not. -/
def resolveSource (environment : Environment) (ordered : Bool) : Source → Option ResolvedSource
  | .unit => some ⟨[], none, .unit⟩
  | .table name label => do
      let table ← Table.all.find? fun table => sameName table.name name
      some ⟨scopeColumns (label.getD table.name) table, some table, .unit⟩
  | .derived select label => do
      let selected ← resolveSelect environment ordered select
      some ⟨derivedColumns label [] selected.results, none, .derived selected.plan⟩

/-- Resolve a limit, which may be missing. -/
def resolveLimit (environment : Environment) : Option Expr → Option (Option Term)
  | none => some none
  | some body => do
      let typed ← resolveExpr environment body
      some (some typed.term)

/-- Resolve a statement. If it has no limit and the order of its rows is not wanted, they are not
put in order. A limit of its source that only its own order and results stand in front of becomes
its own, so that it takes rows after they are put in order. -/
def resolveSelect (environment : Environment) (ordered : Bool) : Select → Option Resolved
  | .mk distinct items source condition order count skip => do
      let source ← resolveSource environment.counted order.isEmpty source
      let matched := source.table.bind (matchedOf? environment condition)
      let scope : Scope := ⟨source.columns, []⟩
      let itemEnvironment : Environment :=
        { environment with scopes := scope :: environment.scopes, aggregates := true,
                           matching := false, matched := matched }
      let results ← resolveItems itemEnvironment source.columns items
      let aliases := givenNames items results
      let results := results.flatten
      let named : Scope := ⟨source.columns, aliases⟩
      let conditionEnvironment : Environment :=
        { environment with scopes := named :: environment.scopes, aggregates := false,
                           matching := true, matched := matched }
      let restriction ← resolveOption conditionEnvironment condition
      -- An order counts rows only where the results do.
      let terms := results.map (·.typed.term)
      let orderEnvironment : Environment :=
        { environment with scopes := named :: environment.scopes,
                           aggregates := Term.anyAggregate terms,
                           matching := false, matched := matched }
      let order ← resolveOrder orderEnvironment aliases results order
      let limitEnvironment : Environment :=
        { environment with scopes := [], aggregates := false, matching := false,
                           matched := none }
      let count ← resolveLimit limitEnvironment count
      let skip ← resolveLimit limitEnvironment skip
      let order := if ordered || count.isSome then order else []
      let rows ← source.rowsFor? environment condition restriction order terms
      let grouped := Term.anyAggregate terms || Term.anyAggregate (order.map (·.1))
      let leader := Term.leader? terms
      let leading := leader.map (·.1)
      let body := (leader.map (·.2)).getD (.value .null)
      let plain := !distinct && !grouped && condition.isNone && count.isNone
      let (rows, count) :=
        match rows.takeLimit?, plain with
        | some (rows, count), true => (rows, some count)
        | _, _ => (rows, count)
      some ⟨.mk distinct grouped leading body terms rows restriction order count skip, results⟩

end

/-- The plan of a prepared statement with values for its parameters. -/
def resolve? (select : Select) (parameters : List String) : Option Resolved :=
  resolveSelect { scopes := [], parameters } true select

end Sql
end BlockSearch
