import BlockSearch.FullText.Excerpt
import BlockSearch.Sql.Value

/-!
# Statements

A statement selects rows from a table or from another statement. Names in it are not yet
those of columns, and parameters do not have values yet.
-/

namespace BlockSearch
namespace Sql

/-- A comparison of two values. -/
inductive Comparison
  /-- Equal. -/
  | equal
  /-- Different. -/
  | different
  /-- Less. -/
  | less
  /-- Less or equal. -/
  | atMost
  /-- Greater. -/
  | greater
  /-- Greater or equal. -/
  | atLeast
  deriving DecidableEq, Repr

/-- Whether a comparison holds of values in an order. -/
def Comparison.holds : Comparison → Ordering → Bool
  | .equal, order => order == .eq
  | .different, order => order != .eq
  | .less, order => order == .lt
  | .atMost, order => order != .gt
  | .greater, order => order == .gt
  | .atLeast, order => order != .lt

mutual

/-- An expression. -/
inductive Expr
  /-- A value. -/
  | value (value : Value)
  /-- A column; a quoted name that is no column is a text. -/
  | column (table : Option String) (name : String) (quoted : Bool)
  /-- A parameter, by its number. -/
  | parameter (number : Nat)
  /-- The negative of a number. -/
  | negate (body : Expr)
  /-- The value itself, without the affinity of a column. -/
  | plus (body : Expr)
  /-- The opposite truth value. -/
  | not (body : Expr)
  /-- Both of two conditions. -/
  | and (left right : Expr)
  /-- At least one of two conditions. -/
  | or (left right : Expr)
  /-- One text behind another. -/
  | concat (left right : Expr)
  /-- A comparison. -/
  | compare (comparison : Comparison) (left right : Expr)
  /-- Whether two values are equal or both null. -/
  | same (left right : Expr)
  /-- Whether a value lies between two others. -/
  | between (body low high : Expr)
  /-- Whether a value is one of a list. -/
  | among (body : Expr) (items : List Expr)
  /-- Whether a value is one of those that a statement selects. -/
  | within (body : Expr) (select : Select)
  /-- Whether a text has the form of a pattern. -/
  | like (text pattern : Expr)
  /-- Whether a text has the form of a pattern with an escape character. -/
  | likeEscaped (text pattern escape : Expr)
  /-- Whether a pattern matches in a text. -/
  | regexp (text pattern : Expr)
  /-- Whether a record of a full-text table matches an expression. -/
  | matching (table : String) (expression : Expr)
  /-- An excerpt of a column of a full-text table, by its number, with texts around the matches. -/
  | excerpt (shape : FullText.Shape) (table : String) (column : Nat) (left right : String)
  /-- The first of two values if a condition is true, and the second one otherwise. -/
  | choose (condition first second : Expr)
  /-- A value with a way to compare it. -/
  | collate (body : Expr) (collation : Collation)
  /-- The number of rows. -/
  | countRows
  /-- The number of values that are not null, counted once each if they are to be distinct. -/
  | count (distinct : Bool) (body : Expr)
  /-- The greatest or the least value. -/
  | extreme (greatest : Bool) (body : Expr)

/-- One of the results of a statement. -/
inductive Item
  /-- All columns. -/
  | all
  /-- All columns of a table. -/
  | allOf (table : String)
  /-- An expression and its name. -/
  | expression (body : Expr) (label : Option String)

/-- Where rows come from. -/
inductive Source
  /-- There is one row without columns. -/
  | unit
  /-- A table. -/
  | table (name : String) (label : Option String)
  /-- The rows of a statement. -/
  | derived (select : Select) (label : Option String)

/-- A statement; without a limit it takes all rows, and without an offset it skips none. -/
inductive Select
  /-- A statement with all its clauses. -/
  | mk
      (distinct : Bool)
      (items : List Item)
      (source : Source)
      (condition : Option Expr)
      (order : List (Expr × Bool))
      (count skip : Option Expr)

end

/-! ## Heights -/

/-- The greatest height of an expression as a tree. -/
def greatestHeight : Nat := 1000

/-- The height of an expression above others of some height, unless it is too great. -/
def above? (height : Nat) : Option Nat :=
  if height < greatestHeight then some (height + 1) else none

mutual

/-- The height of an expression, unless one that it is made of is too high. -/
def Expr.height? : Expr → Option Nat
  | .value _ => some 1
  | .column _ _ _ => some 1
  | .parameter _ => some 1
  | .countRows => some 1
  | .excerpt _ _ _ _ _ => some 2
  | .negate body => do above? (← body.height?)
  | .plus body => do above? (← body.height?)
  -- A negative test for sameness is one expression.
  | .not (.same left right) => do above? (max (← left.height?) (← right.height?))
  | .not body => do above? (← body.height?)
  | .and left right => do above? (max (← left.height?) (← right.height?))
  | .or left right => do above? (max (← left.height?) (← right.height?))
  | .concat left right => do above? (max (← left.height?) (← right.height?))
  | .compare _ left right => do above? (max (← left.height?) (← right.height?))
  | .same left right => do above? (max (← left.height?) (← right.height?))
  | .between body low high => do
      let height ← body.height?
      -- The bounds are no part of the tree.
      let _ ← low.height?
      let _ ← high.height?
      above? height
  | .among body [] => do
      let _ ← body.height?
      some 1
  | .among body items => do above? (max (← body.height?) (← heights? items))
  | .within body select => do above? (max (← body.height?) (← select.height?))
  | .like text pattern => do above? (max (← text.height?) (← pattern.height?))
  | .likeEscaped text pattern escape => do
      above? (max (max (← text.height?) (← pattern.height?)) (← escape.height?))
  | .regexp text pattern => do above? (max (← text.height?) (← pattern.height?))
  | .matching _ expression => do above? (← expression.height?)
  -- Further conditions of a choice stand beside the first one.
  | .choose condition first (.choose second third rest) => do
      let others ← Expr.height? (.choose second third rest)
      above? (max (max (← condition.height?) (← first.height?)) (others - 1))
  | .choose condition first second => do
      above? (max (max (← condition.height?) (← first.height?)) (← second.height?))
  | .collate body _ => body.height?
  | .count _ body => do above? (← body.height?)
  | .extreme _ body => do above? (← body.height?)

/-- The greatest height among some expressions. -/
def heights? : List Expr → Option Nat
  | [] => some 0
  | body :: bodies => do some (max (← body.height?) (← heights? bodies))

/-- The height of an expression that may be missing. -/
def optionHeight? : Option Expr → Option Nat
  | none => some 0
  | some body => body.height?

/-- The greatest height in an order. -/
def orderHeight? : List (Expr × Bool) → Option Nat
  | [] => some 0
  | (body, _) :: terms => do some (max (← body.height?) (← orderHeight? terms))

/-- The height of one result. -/
def Item.height? : Item → Option Nat
  | .expression body _ => body.height?
  | _ => some 1

/-- The greatest height among some results. -/
def itemsHeight? : List Item → Option Nat
  | [] => some 0
  | item :: items => do some (max (← item.height?) (← itemsHeight? items))

/-- The height of a source, which is no part of the statement that reads it. -/
def Source.height? : Source → Option Nat
  | .derived select _ => select.height?
  | _ => some 0

/-- The greatest height in a statement, unless an expression in it is too high. -/
def Select.height? : Select → Option Nat
  | .mk _ items source condition order count skip => do
      let _ ← source.height?
      let rows := max (← itemsHeight? items) (← optionHeight? condition)
      let limit ← above? (max (← optionHeight? count) (← optionHeight? skip))
      some (max (max rows (← orderHeight? order)) limit)

end

namespace Expr

/-- Whether an expression is a plain zero. -/
def isZero : Expr → Bool
  | .value (.integer n) => n == 0
  | .among _ [] => true
  | _ => false

/-- The conjunction of two conditions. What is joined to a plain zero is not looked at, so that
the names in it need not stand for anything; but it must not be too high. -/
def conjoin (left right : Expr) : Expr :=
  if (left.isZero || right.isZero) && left.height?.isSome && right.height?.isSome then
    .value (.integer 0)
  else .and left right

end Expr

end Sql
end BlockSearch
