import BlockSearch.Mark.CaseMode
import BlockSearch.Search.Found
import BlockSearch.Text.Blank
import BlockSearch.Text.Letter
import BlockSearch.Text.Range

/-!
# Statements as queries

A statement is run as it is given, with a limit if it has none at its end. Its matches are
counted by a second statement that counts where the first one selects all columns.
-/

namespace BlockSearch
namespace Statement

/-- Whether a text begins with a word, in any case. -/
def begins (word : String) (text : List Char) : Bool :=
  CaseMode.insensitive.begins word.toList text

/-- Whether a text has digits and nothing else. -/
def isNumber (text : List Char) : Bool := !text.isEmpty && text.all Text.isDecimalDigit

/-- Whether a text has a blank at its front. -/
def beginsWithBlank (text : List Char) : Bool := (text.head?.map Text.isBlank).getD false

/-- Whether a text is a comma or the word `offset`, and a number. -/
def isSecondNumber (text : List Char) : Bool :=
  match Text.trimStart text with
  | ',' :: rest => isNumber (Text.trimStart rest)
  | rest =>
      beginsWithBlank text && begins "offset" rest && beginsWithBlank (rest.drop 6) &&
        isNumber (Text.trimStart (rest.drop 6))

/-- Whether a text is a limit: the word `limit` and one or two numbers. -/
def isLimit (text : List Char) : Bool :=
  let behind := text.drop 5
  let numbers := Text.trimStart behind
  let rest := numbers.dropWhile Text.isDecimalDigit
  begins "limit" text && beginsWithBlank behind &&
    !(numbers.takeWhile Text.isDecimalDigit).isEmpty && (rest.isEmpty || isSecondNumber rest)

/-- Whether a limit begins at a word of a text and goes on to its end. -/
def endsWithLimit : (inWord : Bool) → List Char → Bool
  | _, [] => false
  | inWord, c :: rest => !inWord && isLimit (c :: rest) || endsWithLimit (Text.isWordChar c) rest

/-- The statement without blanks around it and semicolons behind it. -/
def body (statement : List Char) : List Char :=
  Text.trimEnd ((Text.trim statement).reverse.dropWhile (· == ';')).reverse

/-- The statement with a limit, unless it ends with one. -/
def withLimit (limit : Nat) (statement : List Char) : List Char :=
  let statement := body statement
  if endsWithLimit false statement then statement
  else statement ++ " LIMIT ".toList ++ (toString limit).toList

/-- The selection of all columns. -/
def selectAll : List Char := "select * ".toList

/-- The selection of the number of blocks and of their documents. -/
def selectCounts : List Char :=
  "SELECT COUNT(id) AS matches, COUNT(DISTINCT root_id) AS docs ".toList

/-- Whether a text begins with the selection of all columns, in any ASCII case. -/
def selectsAll (text : List Char) : Bool :=
  selectAll.isPrefixOf (text.map Char.toLower)

/-- The statement that counts where the given one selects; some characters are left out first. -/
def countingFrom : (skipped : Nat) → List Char → List Char
  | _, [] => []
  | skipped + 1, _ :: rest => countingFrom skipped rest
  | 0, c :: rest =>
      if selectsAll ((c :: rest).take selectAll.length) then
        selectCounts ++ countingFrom (selectAll.length - 1) rest
      else c :: countingFrom 0 rest

/-- Whether a statement selects all columns somewhere. -/
def selectsAllSomewhere : List Char → Bool
  | [] => false
  | c :: rest => selectsAll ((c :: rest).take selectAll.length) || selectsAllSomewhere rest

/-- The statement that counts, if the given one selects all columns somewhere. -/
def counting? (statement : List Char) : Option (List Char) :=
  if selectsAllSomewhere statement then some (countingFrom 0 statement) else none

end Statement

namespace Found

/-- The records that a statement selects in a database. -/
def byStatementOn
    (database : Sql.Database)
    (limit : Nat)
    (query : List Char) : Except SearchError Found :=
  let statement := Statement.withLimit limit (Query.removeInvisible query)
  match database.records? (String.ofList statement) [] with
  | none => .error .statement
  | some [] => .ok {}
  | some records =>
      let counts :=
        match Statement.counting? statement with
        | some counting => countsOrZero database (String.ofList counting) []
        | none => (0, 0)
      .ok ⟨records, counts.1, counts.2⟩

/-- The records that a statement selects in the store. -/
def byStatement (context : SearchContext) : List Char → Except SearchError Found :=
  byStatementOn (.ofStore context.store) context.settings.limit

/-- The records that a query finds by a method. -/
def byMethod (context : SearchContext) : Method → List Char → Except SearchError Found
  | .keyword => byKeyword context
  | .querySyntax => byQuerySyntax context
  | .passthrough => byStatement context
  | .regex => byLiteral context

end Found
end BlockSearch
