import BlockSearch.Sql.Statement
import BlockSearch.Sql.Token

/-!
# Reading statements

The operators of expressions bind, from loosest to tightest: `OR`, `AND`, `NOT`, equality and
the tests of membership and form, order, `||`, `COLLATE`, and the signs of numbers.

A part of the language is read: statements with one source at most, and of functions those that count,
the greatest and the least value, and those of the full-text tables. Arithmetic, `GLOB`, `EXISTS`,
`CAST`, joins, unions, groups and common tables are refused, although a database knows them. What holds
for all statements is therefore stated for every database, not for this reader alone.
-/

namespace BlockSearch
namespace Sql

/-- A reader takes tokens from the front of a list, or fails. -/
abbrev Reader (α : Type) := List Token → Option (α × List Token)

namespace Reader

/-- The words that are no names. -/
def reservedWords : List String :=
  ["add", "all", "alter", "and", "as", "autoincrement", "between", "case", "check", "collate",
    "commit", "constraint", "create", "default", "deferrable", "delete", "distinct", "drop",
    "else", "escape", "exists", "foreign", "from", "group", "having", "in", "index", "insert",
    "into", "is", "isnull", "join", "limit", "not", "nothing", "notnull", "null", "on", "or",
    "order", "primary", "references", "returning", "select", "set", "table", "then", "to",
    "transaction", "union", "unique", "update", "using", "values", "when", "where"]

/-- A text in lower case, as far as its letters are those of keywords. -/
def lowered (text : String) : String := String.ofList (text.toList.map Char.toLower)

/-- Whether a word is a keyword. -/
def isKeyword (text keyword : String) : Bool := lowered text == keyword

/-- Take a keyword, if it stands here. -/
def keyword? (keyword : String) : List Token → Option (List Token)
  | .word text :: rest => if isKeyword text keyword then some rest else none
  | _ => none

/-- Take a sign, if it stands here. -/
def sign? (sign : String) : List Token → Option (List Token)
  | .sign text :: rest => if text == sign then some rest else none
  | _ => none

/-- A name. -/
def name : Reader String
  | .word text :: rest => if reservedWords.contains (lowered text) then none else some (text, rest)
  | .quotedName text :: rest => some (text, rest)
  | .name text :: rest => some (text, rest)
  | .value (.text text) :: rest => some (text, rest)
  | _ => none

/-- The name behind `AS`, or a name that stands alone. -/
def label? (tokens : List Token) : Option (Option String × List Token) :=
  match keyword? "as" tokens with
  | some rest => (name rest).map fun part => (some part.1, part.2)
  | none =>
      match name tokens with
      | some (text, rest) => some (some text, rest)
      | none => some (none, tokens)

/-- A collation. -/
def collation : Reader Collation := fun tokens => do
  let (text, rest) ← name tokens
  match lowered text with
  | "binary" => some (.binary, rest)
  | "nocase" => some (.nocase, rest)
  | _ => none

/-- A comparison that binds like equality. -/
def equality? : List Token → Option (Comparison × List Token)
  | .sign "=" :: rest => some (.equal, rest)
  | .sign "<>" :: rest => some (.different, rest)
  | _ => none

/-- A comparison by order. -/
def inequality? : List Token → Option (Comparison × List Token)
  | .sign "<" :: rest => some (.less, rest)
  | .sign "<=" :: rest => some (.atMost, rest)
  | .sign ">" :: rest => some (.greater, rest)
  | .sign ">=" :: rest => some (.atLeast, rest)
  | _ => none

/-- The opposite of an expression, if it is asked for. -/
def negated (negative : Bool) (body : Expr) : Expr := if negative then .not body else body

/-- The column that a name, and perhaps a table in front of it, stands for. -/
def column : Reader Expr := fun tokens => do
  let quoted := match tokens with
    | .quotedName _ :: _ => true
    | _ => false
  let (first, rest) ← name tokens
  match sign? "." rest with
  | some rest => (name rest).map fun part => (.column (some first) part.1 false, part.2)
  | none => some (.column none first quoted, rest)

/-- The function that makes an excerpt of a shape. -/
def excerptFunction : FullText.Shape → String
  | .whole => "highlight"
  | .window => "snippet"

/-- What is said of the shape of an excerpt behind the other arguments: the gaps and the size. -/
def shapeArguments? : FullText.Shape → List Token → Option (List Token)
  | .whole, rest => some rest
  | .window, .sign "," :: .value (.text gap) :: .sign "," :: .number ⟨false, size, 0, true⟩ ::
      rest =>
      if gap.toList = FullText.snippetGap && size = FullText.snippetSize then some rest else none
  | .window, _ => none

/-- The arguments of an excerpt: a table, the number of a column, two texts, and its shape. -/
def excerpt (shape : FullText.Shape) : Reader Expr
  | .word table :: .sign "," :: .number ⟨false, column, 0, true⟩ :: .sign "," ::
      .value (.text left) :: .sign "," :: .value (.text right) :: rest => do
      let rest ← shapeArguments? shape rest
      let rest ← sign? ")" rest
      some (.excerpt shape table column left right, rest)
  | _ => none

mutual

/-- Conditions joined by `OR`. -/
def disjunction : (fuel : Nat) → Reader Expr
  | 0, _ => none
  | fuel + 1, tokens => do
      let (left, rest) ← conjunction fuel tokens
      moreDisjuncts fuel left rest

/-- The rest of conditions joined by `OR`. -/
def moreDisjuncts : (fuel : Nat) → Expr → Reader Expr
  | 0, _, _ => none
  | fuel + 1, left, tokens =>
      match keyword? "or" tokens with
      | some rest => do
          let (right, rest) ← conjunction fuel rest
          moreDisjuncts fuel (.or left right) rest
      | none => some (left, tokens)

/-- Conditions joined by `AND`. -/
def conjunction : (fuel : Nat) → Reader Expr
  | 0, _ => none
  | fuel + 1, tokens => do
      let (left, rest) ← inversion fuel tokens
      moreConjuncts fuel left rest

/-- The rest of conditions joined by `AND`. -/
def moreConjuncts : (fuel : Nat) → Expr → Reader Expr
  | 0, _, _ => none
  | fuel + 1, left, tokens =>
      match keyword? "and" tokens with
      | some rest => do
          let (right, rest) ← inversion fuel rest
          moreConjuncts fuel (left.conjoin right) rest
      | none => some (left, tokens)

/-- A condition behind any number of `NOT`. -/
def inversion : (fuel : Nat) → Reader Expr
  | 0, _ => none
  | fuel + 1, tokens =>
      match keyword? "not" tokens with
      | some rest => (inversion fuel rest).map fun part => (.not part.1, part.2)
      | none => do
          let (left, rest) ← relation fuel tokens
          moreTests fuel left rest

/-- Tests of equality, membership and form behind an operand. -/
def moreTests : (fuel : Nat) → Expr → Reader Expr
  | 0, _, _ => none
  | fuel + 1, left, tokens =>
      match equality? tokens with
      | some (comparison, rest) => do
          let (right, rest) ← relation fuel rest
          moreTests fuel (.compare comparison left right) rest
      | none =>
          match keyword? "is" tokens with
          | some rest => do
              let (negative, rest) := match keyword? "not" rest with
                | some rest => (true, rest)
                | none => (false, rest)
              let (right, rest) ← relation fuel rest
              moreTests fuel (negated negative (.same left right)) rest
          | none =>
              match keyword? "isnull" tokens, keyword? "notnull" tokens with
              | some rest, _ => moreTests fuel (.same left (.value .null)) rest
              | none, some rest => moreTests fuel (.not (.same left (.value .null))) rest
              | none, none =>
                  match keyword? "not" tokens with
                  | some rest => do
                      let (body, rest) ← negatedTest fuel left rest
                      moreTests fuel (.not body) rest
                  | none =>
                      match test fuel left tokens with
                      | some (some body, rest) => moreTests fuel body rest
                      | some (none, _) => some (left, tokens)
                      | none => none

/-- A test behind `NOT`. -/
def negatedTest : (fuel : Nat) → Expr → Reader Expr
  | 0, _, _ => none
  | fuel + 1, left, tokens =>
      match keyword? "null" tokens with
      | some rest => some (.same left (.value .null), rest)
      | none =>
          match test fuel left tokens with
          | some (some body, rest) => some (body, rest)
          | _ => none

/-- A test of membership or form, if one stands here. -/
def test : (fuel : Nat) → Expr → Reader (Option Expr)
  | 0, _, _ => none
  | fuel + 1, left, tokens =>
      match keyword? "like" tokens, keyword? "regexp" tokens, keyword? "match" tokens,
        keyword? "between" tokens, keyword? "in" tokens with
      | some rest, _, _, _, _ => do
          let (pattern, rest) ← relation fuel rest
          match keyword? "escape" rest with
          | some rest => do
              let (escape, rest) ← joined fuel rest
              some (some (.likeEscaped left pattern escape), rest)
          | none => some (some (.like left pattern), rest)
      | none, some rest, _, _, _ => do
          let (pattern, rest) ← relation fuel rest
          some (some (.regexp left pattern), rest)
      | none, none, some rest, _, _ => do
          let (expression, rest) ← relation fuel rest
          match left with
          | .column none table _ => some (some (.matching table expression), rest)
          | _ => none
      | none, none, none, some rest, _ => do
          let (low, rest) ← relation fuel rest
          let rest ← keyword? "and" rest
          let (high, rest) ← relation fuel rest
          some (some (.between left low high), rest)
      | none, none, none, none, some rest => do
          let rest ← sign? "(" rest
          match keyword? "select" rest with
          | some _ => do
              let (select, rest) ← selection fuel rest
              let rest ← sign? ")" rest
              some (some (.within left select), rest)
          | none =>
              match sign? ")" rest with
              | some rest => some (some (.among left []), rest)
              | none => do
                  let (items, rest) ← expressions fuel rest
                  let rest ← sign? ")" rest
                  some (some (.among left items), rest)
      | none, none, none, none, none => some (none, tokens)

/-- Operands compared by order. -/
def relation : (fuel : Nat) → Reader Expr
  | 0, _ => none
  | fuel + 1, tokens => do
      let (left, rest) ← joined fuel tokens
      moreRelations fuel left rest

/-- The rest of operands compared by order. -/
def moreRelations : (fuel : Nat) → Expr → Reader Expr
  | 0, _, _ => none
  | fuel + 1, left, tokens =>
      match inequality? tokens with
      | some (comparison, rest) => do
          let (right, rest) ← joined fuel rest
          moreRelations fuel (.compare comparison left right) rest
      | none => some (left, tokens)

/-- Texts joined by `||`. -/
def joined : (fuel : Nat) → Reader Expr
  | 0, _ => none
  | fuel + 1, tokens => do
      let (left, rest) ← collated fuel tokens
      moreJoined fuel left rest

/-- The rest of texts joined by `||`. -/
def moreJoined : (fuel : Nat) → Expr → Reader Expr
  | 0, _, _ => none
  | fuel + 1, left, tokens =>
      match sign? "||" tokens with
      | some rest => do
          let (right, rest) ← collated fuel rest
          moreJoined fuel (.concat left right) rest
      | none => some (left, tokens)

/-- An operand with collations behind it. -/
def collated : (fuel : Nat) → Reader Expr
  | 0, _ => none
  | fuel + 1, tokens => do
      let (body, rest) ← signed fuel tokens
      moreCollations fuel body rest

/-- Collations behind an operand. -/
def moreCollations : (fuel : Nat) → Expr → Reader Expr
  | 0, _, _ => none
  | fuel + 1, body, tokens =>
      match keyword? "collate" tokens with
      | some rest => do
          let (order, rest) ← collation rest
          moreCollations fuel (.collate body order) rest
      | none => some (body, tokens)

/-- An operand with signs or `NOT` in front of it. -/
def signed : (fuel : Nat) → Reader Expr
  | 0, _ => none
  | fuel + 1, tokens =>
      match tokens with
      | .sign "-" :: .number literal :: rest =>
          some (.value (.ofLiteral { literal with negative := true }), rest)
      | .sign "-" :: rest => (signed fuel rest).map fun part => (.negate part.1, part.2)
      | .sign "+" :: rest => (signed fuel rest).map fun part => (.plus part.1, part.2)
      | _ =>
          match keyword? "not" tokens with
          | some rest => (inversion fuel rest).map fun part => (.not part.1, part.2)
          | none => operand fuel tokens

/-- A value, a parameter, a column, a function, a case, or an expression in parentheses. -/
def operand : (fuel : Nat) → Reader Expr
  | 0, _ => none
  | fuel + 1, tokens =>
      match tokens with
      | .value value :: rest => some (.value value, rest)
      | .number literal :: rest => some (.value (.ofLiteral literal), rest)
      | .parameter (some number) :: rest => some (.parameter number, rest)
      | .sign "(" :: rest => do
          let (body, rest) ← disjunction fuel rest
          let rest ← sign? ")" rest
          some (body, rest)
      | .word text :: .sign "(" :: rest => aggregate fuel (lowered text) rest
      | .word text :: rest =>
          if isKeyword text "null" then some (.value .null, rest)
          else if isKeyword text "case" then choices fuel rest
          else column tokens
      | _ => column tokens

/-- The conditions of a case with their values, and the value for when none of them is true. -/
def choices : (fuel : Nat) → Reader Expr
  | 0, _ => none
  | fuel + 1, tokens => do
      let rest ← keyword? "when" tokens
      let (condition, rest) ← disjunction fuel rest
      let rest ← keyword? "then" rest
      let (first, rest) ← disjunction fuel rest
      let (second, rest) ← otherChoices fuel rest
      some (.choose condition first second, rest)

/-- What follows a condition of a case and its value; without another value it is null. -/
def otherChoices : (fuel : Nat) → Reader Expr
  | 0, _ => none
  | fuel + 1, tokens =>
      match keyword? "end" tokens, keyword? "else" tokens with
      | some rest, _ => some (.value .null, rest)
      | none, some rest => do
          let (body, rest) ← disjunction fuel rest
          let rest ← keyword? "end" rest
          some (body, rest)
      | none, none => choices fuel tokens

/-- The arguments of a count, an extreme or an excerpt. -/
def aggregate : (fuel : Nat) → String → Reader Expr
  | 0, _, _ => none
  | fuel + 1, function, tokens =>
      match function with
      | "count" =>
          match sign? "*" tokens, sign? ")" tokens with
          | some rest, _ => (sign? ")" rest).map fun rest => (.countRows, rest)
          | none, some rest => some (.countRows, rest)
          | none, none => do
              let (distinct, rest) := match keyword? "distinct" tokens with
                | some rest => (true, rest)
                | none => (false, tokens)
              let (body, rest) ← disjunction fuel rest
              let rest ← sign? ")" rest
              some (.count distinct body, rest)
      | "max" => do
          let (body, rest) ← disjunction fuel tokens
          let rest ← sign? ")" rest
          some (.extreme true body, rest)
      | "min" => do
          let (body, rest) ← disjunction fuel tokens
          let rest ← sign? ")" rest
          some (.extreme false body, rest)
      | "highlight" => excerpt .whole tokens
      | "snippet" => excerpt .window tokens
      | _ => none

/-- Expressions between commas. -/
def expressions : (fuel : Nat) → Reader (List Expr)
  | 0, _ => none
  | fuel + 1, tokens => do
      let (first, rest) ← disjunction fuel tokens
      match sign? "," rest with
      | some rest => (expressions fuel rest).map fun part => (first :: part.1, part.2)
      | none => some ([first], rest)

/-- One result. -/
def item : (fuel : Nat) → Reader Item
  | 0, _ => none
  | fuel + 1, tokens =>
      match tokens with
      | .sign "*" :: rest => some (.all, rest)
      | .word table :: .sign "." :: .sign "*" :: rest => some (.allOf table, rest)
      | _ => do
          let (body, rest) ← disjunction fuel tokens
          let (label, rest) ← label? rest
          some (.expression body label, rest)

/-- The results between commas. -/
def items : (fuel : Nat) → Reader (List Item)
  | 0, _ => none
  | fuel + 1, tokens => do
      let (first, rest) ← item fuel tokens
      match sign? "," rest with
      | some rest => (items fuel rest).map fun part => (first :: part.1, part.2)
      | none => some ([first], rest)

/-- A table, or a statement in parentheses. -/
def source : (fuel : Nat) → Reader Source
  | 0, _ => none
  | fuel + 1, tokens =>
      match sign? "(" tokens with
      | some rest => do
          let (select, rest) ← selection fuel rest
          let rest ← sign? ")" rest
          let (label, rest) ← label? rest
          some (.derived select label, rest)
      | none => do
          let (table, rest) ← name tokens
          let (label, rest) ← label? rest
          some (.table table label, rest)

/-- The terms of an order between commas. -/
def orderTerms : (fuel : Nat) → Reader (List (Expr × Bool))
  | 0, _ => none
  | fuel + 1, tokens => do
      let (body, rest) ← disjunction fuel tokens
      let (descending, rest) :=
        match keyword? "asc" rest, keyword? "desc" rest with
        | some rest, _ => (false, rest)
        | none, some rest => (true, rest)
        | none, none => (false, rest)
      match sign? "," rest with
      | some rest =>
          (orderTerms fuel rest).map fun part => ((body, descending) :: part.1, part.2)
      | none => some ([(body, descending)], rest)

/-- The number of rows to take and to skip, as far as they are given. -/
def limits : (fuel : Nat) → Reader (Option Expr × Option Expr)
  | 0, _ => none
  | fuel + 1, tokens =>
      match keyword? "limit" tokens with
      | none => some ((none, none), tokens)
      | some rest => do
          let (first, rest) ← disjunction fuel rest
          match sign? "," rest, keyword? "offset" rest with
          | some rest, _ => do
              let (count, rest) ← disjunction fuel rest
              some ((some count, some first), rest)
          | none, some rest => do
              let (skip, rest) ← disjunction fuel rest
              some ((some first, some skip), rest)
          | none, none => some ((some first, none), rest)

/-- A statement. -/
def selection : (fuel : Nat) → Reader Select
  | 0, _ => none
  | fuel + 1, tokens => do
      let rest ← keyword? "select" tokens
      let (distinct, rest) :=
        match keyword? "distinct" rest, keyword? "all" rest with
        | some rest, _ => (true, rest)
        | none, some rest => (false, rest)
        | none, none => (false, rest)
      let (results, rest) ← items fuel rest
      let (rows, rest) ←
        match keyword? "from" rest with
        | some rest => source fuel rest
        | none => some (.unit, rest)
      let (condition, rest) ←
        match keyword? "where" rest with
        | some rest => (disjunction fuel rest).map fun part => (some part.1, part.2)
        | none => some (none, rest)
      let (order, rest) ←
        match (keyword? "order" rest).bind (keyword? "by") with
        | some rest => orderTerms fuel rest
        | none => some ([], rest)
      let ((count, skip), rest) ← limits fuel rest
      some (.mk distinct results rows condition order count skip, rest)

end

end Reader

/-- The tokens with numbers for the parameters that have none: one more than the greatest. -/
def numberParameters : (greatest : Nat) → List Token → List Token
  | _, [] => []
  | greatest, .parameter none :: rest =>
      .parameter (some (greatest + 1)) :: numberParameters (greatest + 1) rest
  | greatest, .parameter (some number) :: rest =>
      .parameter (some number) :: numberParameters (max greatest number) rest
  | greatest, token :: rest => token :: numberParameters greatest rest

/-- The numbers of the parameters of a statement. -/
def parameterNumbers (tokens : List Token) : List Nat :=
  tokens.filterMap fun token =>
    match token with
    | .parameter number => number
    | _ => none

/-- A statement with the number of its parameters. -/
structure Prepared where
  /-- The statement. -/
  select : Select
  /-- The greatest number of a parameter. -/
  parameters : Nat

/-- The statement that a text spells. -/
def Prepared.read? (text : List Char) : Option Prepared := do
  let tokens := numberParameters 0 (← Token.ofText? text)
  let numbers := parameterNumbers tokens
  if numbers.contains 0 then none
  else
    match Reader.selection (16 * tokens.length + 16) tokens with
    | some (select, []) => some ⟨select, numbers.foldl max 0⟩
    | _ => none

end Sql
end BlockSearch
