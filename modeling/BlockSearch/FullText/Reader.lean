import BlockSearch.FullText.Expression

/-!
# Reading match expressions

Phrases stand side by side, joined by `+`, in groups of phrases that are to stand close together,
behind a column filter, or combined by the operators `NOT`, `AND` and `OR`, of which the first binds
tightest.
-/

namespace BlockSearch
namespace FullText

/-- A token of a match expression. -/
inductive Lexeme
  /-- An opening parenthesis. -/
  | openParen
  /-- A closing parenthesis. -/
  | closeParen
  /-- An opening brace. -/
  | openBrace
  /-- A closing brace. -/
  | closeBrace
  /-- A colon. -/
  | colon
  /-- A comma. -/
  | comma
  /-- A plus sign. -/
  | plus
  /-- An asterisk. -/
  | star
  /-- A minus sign. -/
  | minus
  /-- A caret. -/
  | caret
  /-- The operator `AND`. -/
  | and
  /-- The operator `OR`. -/
  | or
  /-- The operator `NOT`. -/
  | not
  /-- A quoted text, or a word without quotes. -/
  | text (quoted : Bool) (text : List Char)
  deriving DecidableEq, Repr

namespace Lexeme

/-- The characters that may stand between tokens. -/
def isSpace (c : Char) : Bool := c = ' ' || c = '\t' || c = '\n' || c = '\r'

/-- The characters of words without quotes. -/
def isWordChar (c : Char) : Bool :=
  c.isAlphanum || c = '_' || c = '\x1a' || 128 ≤ c.toNat

/-- The text up to its closing quote, and what follows; two quotes stand for one. -/
def quoted? : List Char → Option (List Char × List Char)
  | [] => none
  | '"' :: '"' :: rest => (quoted? rest).map fun part => ('"' :: part.1, part.2)
  | c :: rest =>
      if c = '"' then some ([], rest)
      else (quoted? rest).map fun part => (c :: part.1, part.2)

/-- The token that a word is. -/
def ofWord (word : List Char) : Lexeme :=
  if word = ['A', 'N', 'D'] then .and
  else if word = ['O', 'R'] then .or
  else if word = ['N', 'O', 'T'] then .not
  else .text false word

/-- The token that a punctuation mark is. -/
def ofPunctuation? (c : Char) : Option Lexeme :=
  match c with
  | '(' => some .openParen
  | ')' => some .closeParen
  | '{' => some .openBrace
  | '}' => some .closeBrace
  | ':' => some .colon
  | ',' => some .comma
  | '+' => some .plus
  | '*' => some .star
  | '-' => some .minus
  | '^' => some .caret
  | _ => none

/-- The tokens of a text; every token takes a character, so `fuel` need not exceed its length. -/
def scan? : (fuel : Nat) → List Char → Option (List Lexeme)
  | 0, chars => if (chars.dropWhile isSpace).isEmpty then some [] else none
  | fuel + 1, chars =>
      match chars.dropWhile isSpace with
      | [] => some []
      | c :: rest =>
          if c = '"' then
            match quoted? rest with
            | some (quoted, behind) => (scan? fuel behind).map (.text true quoted :: ·)
            | none => none
          else
            match ofPunctuation? c with
            | some lexeme => (scan? fuel rest).map (lexeme :: ·)
            | none =>
                if isWordChar c then
                  (scan? fuel (rest.dropWhile isWordChar)).map
                    (ofWord (c :: rest.takeWhile isWordChar) :: ·)
                else none

/-- The tokens of a text, which ends at its first null character. -/
def ofText? (text : List Char) : Option (List Lexeme) :=
  let text := Text.beforeNull text
  scan? text.length text

end Lexeme

/-- The columns of the index that hold no searchable text. -/
def unsearchedColumns : List String :=
  ["id", "parent_id", "root_id", "hash", "box", "path", "markdown", "length", "type", "subtype",
    "sort", "created", "updated"]

/-- The fields of a column with a name; a column that is not searched has none. -/
def fieldsNamed? (name : List Char) : Option (List Field) :=
  let name := String.ofList (name.map Char.toLower)
  match Field.all.find? fun field => field.columnName == name with
  | some field => some [field]
  | none => if unsearchedColumns.contains name then some [] else none

namespace Expression

/-- The phrase of some tokens, which never matches when there are none. -/
def ofTokens (tokens : List Trigram) (initial : Bool) : Expression :=
  if tokens.isEmpty then .never else .phrase ⟨tokens, initial, Field.all⟩

/-- Two neighbouring phrases: both must match, but one without tokens is left out. -/
def beside (left right : Expression) : Expression :=
  if right = .never then left else if left = .never then right else .and left right

/-- A column filter and what follows it. -/
def columns? : List Lexeme → Option (List Field × List Lexeme)
  | .text _ name :: .colon :: rest => (fieldsNamed? name).map fun fields => (fields, rest)
  | .minus :: .text _ name :: .colon :: rest =>
      (fieldsNamed? name).map fun fields =>
        (Field.all.filter fun field => !fields.contains field, rest)
  | .openBrace :: rest => braces? false rest
  | .minus :: .openBrace :: rest => braces? true rest
  | _ => none
where
  /-- The names in braces, and the colon behind them. -/
  braces? (negated : Bool) (lexemes : List Lexeme) : Option (List Field × List Lexeme) := do
    let names := lexemes.takeWhile (· != .closeBrace)
    if names.isEmpty then none
    else
      let fields ← names.mapM fun lexeme =>
        match lexeme with
        | .text _ name => fieldsNamed? name
        | _ => none
      let named := fields.flatten
      let fields := Field.all.filter fun field => named.contains field != negated
      match lexemes.dropWhile (· != .closeBrace) with
      | .closeBrace :: .colon :: rest => some (fields, rest)
      | _ => none

/-- Whether a column filter begins here. -/
def beginsColumns : List Lexeme → Bool
  | .text _ _ :: .colon :: _ => true
  | .minus :: _ => true
  | .openBrace :: _ => true
  | _ => false

/-- A phrase: texts joined by plus signs, each with an optional asterisk. -/
def phraseTokens? (mode : CaseMode) : List Lexeme → Option (List Trigram × List Lexeme)
  | .text _ text :: .plus :: rest =>
      (phraseTokens? mode rest).map fun part => (tokens mode text ++ part.1, part.2)
  | .text _ text :: .star :: .plus :: rest =>
      (phraseTokens? mode rest).map fun part => (tokens mode text ++ part.1, part.2)
  | .text _ text :: .star :: rest => some (tokens mode text, rest)
  | .text _ _ :: .openParen :: _ => none
  | .text _ text :: rest => some (tokens mode text, rest)
  | _ => none

/-- One phrase or more, behind the opening parenthesis of a group. -/
def groupPhrases? (mode : CaseMode) : (fuel : Nat) → List Lexeme →
    Option (List (List Trigram) × List Lexeme)
  | 0, _ => none
  | fuel + 1, lexemes => do
      let (tokens, rest) ← phraseTokens? mode lexemes
      match rest with
      | .text _ _ :: _ =>
          (groupPhrases? mode fuel rest).map fun part => (tokens :: part.1, part.2)
      | _ => some ([tokens], rest)

/-- The distance that a group has if none is written. -/
def defaultDistance : Nat := 10

/-- The distance that digits spell; it has an upper bound. -/
def distance? (digits : List Char) : Option Nat :=
  if digits.all Char.isDigit then
    some (digits.foldl
      (fun n c => if n < 214748363 then 10 * n + (c.toNat - '0'.toNat) else n) 0)
  else none

/-- The distance of a group, and the closing parenthesis behind it. -/
def groupEnd? : List Lexeme → Option (Nat × List Lexeme)
  | .closeParen :: rest => some (defaultDistance, rest)
  | .comma :: .text false digits :: .closeParen :: rest =>
      (distance? digits).map fun distance => (distance, rest)
  | _ => none

/-- Phrases close together; those without tokens are left out. -/
def ofGroup (members : List (List Trigram)) (distance : Nat) : Expression :=
  match members.filter fun tokens => !tokens.isEmpty with
  | [] => .never
  | [tokens] => ofTokens tokens false
  | members => .near ⟨members, distance, Field.all⟩

/-- A group, or a phrase that a caret may bind to the front of its field. -/
def near? (mode : CaseMode) : List Lexeme → Option (Expression × List Lexeme)
  | .caret :: rest => (phraseTokens? mode rest).map fun part => (ofTokens part.1 true, part.2)
  | .text false ['N', 'E', 'A', 'R'] :: .openParen :: rest => do
      let (members, rest) ← groupPhrases? mode (rest.length + 1) rest
      let (distance, rest) ← groupEnd? rest
      some (ofGroup members distance, rest)
  | lexemes => (phraseTokens? mode lexemes).map fun part => (ofTokens part.1 false, part.2)

/-- A phrase or a group behind an optional column filter. -/
def filtered? (mode : CaseMode) (lexemes : List Lexeme) : Option (Expression × List Lexeme) :=
  if beginsColumns lexemes then do
    let (fields, rest) ← columns? lexemes
    let (expression, rest) ← near? mode rest
    some (expression.restrict fields, rest)
  else near? mode lexemes

/-- Whether another phrase stands here. -/
def beginsPhrase : List Lexeme → Bool
  | .text _ _ :: _ => true
  | .caret :: _ => true
  | .minus :: _ => true
  | .openBrace :: _ => true
  | _ => false

/-- Phrases side by side, behind the ones already read. -/
def run? (mode : CaseMode) : (fuel : Nat) → Expression → List Lexeme →
    Option (Expression × List Lexeme)
  | 0, _, _ => none
  | fuel + 1, left, lexemes =>
      if beginsPhrase lexemes then do
        let (right, rest) ← filtered? mode lexemes
        run? mode fuel (beside left right) rest
      else some (left, lexemes)

mutual

/-- Expressions joined by `OR`. -/
def disjunction? (mode : CaseMode) : (fuel : Nat) → List Lexeme →
    Option (Expression × List Lexeme)
  | 0, _ => none
  | fuel + 1, lexemes => do
      let (left, rest) ← conjunction? mode fuel lexemes
      moreDisjuncts? mode fuel left rest

/-- The rest of expressions joined by `OR`. -/
def moreDisjuncts? (mode : CaseMode) : (fuel : Nat) → Expression → List Lexeme →
    Option (Expression × List Lexeme)
  | 0, _, _ => none
  | fuel + 1, left, .or :: rest => do
      let (right, rest) ← conjunction? mode fuel rest
      moreDisjuncts? mode fuel (.or left right) rest
  | _ + 1, left, rest => some (left, rest)

/-- Expressions joined by `AND`. -/
def conjunction? (mode : CaseMode) : (fuel : Nat) → List Lexeme →
    Option (Expression × List Lexeme)
  | 0, _ => none
  | fuel + 1, lexemes => do
      let (left, rest) ← difference? mode fuel lexemes
      moreConjuncts? mode fuel left rest

/-- The rest of expressions joined by `AND`. -/
def moreConjuncts? (mode : CaseMode) : (fuel : Nat) → Expression → List Lexeme →
    Option (Expression × List Lexeme)
  | 0, _, _ => none
  | fuel + 1, left, .and :: rest => do
      let (right, rest) ← difference? mode fuel rest
      moreConjuncts? mode fuel (.and left right) rest
  | _ + 1, left, rest => some (left, rest)

/-- Expressions joined by `NOT`. -/
def difference? (mode : CaseMode) : (fuel : Nat) → List Lexeme →
    Option (Expression × List Lexeme)
  | 0, _ => none
  | fuel + 1, lexemes => do
      let (left, rest) ← operand? mode fuel lexemes
      moreDifferences? mode fuel left rest

/-- The rest of expressions joined by `NOT`. -/
def moreDifferences? (mode : CaseMode) : (fuel : Nat) → Expression → List Lexeme →
    Option (Expression × List Lexeme)
  | 0, _, _ => none
  | fuel + 1, left, .not :: rest => do
      let (right, rest) ← operand? mode fuel rest
      moreDifferences? mode fuel (.not left right) rest
  | _ + 1, left, rest => some (left, rest)

/-- An expression in parentheses, behind an optional column filter, or phrases side by side. -/
def operand? (mode : CaseMode) : (fuel : Nat) → List Lexeme → Option (Expression × List Lexeme)
  | 0, _ => none
  | fuel + 1, .openParen :: rest => parenthesized? mode fuel rest
  | fuel + 1, lexemes =>
      if beginsColumns lexemes then do
        let (fields, rest) ← columns? lexemes
        match rest with
        | .openParen :: rest => do
            let (expression, rest) ← parenthesized? mode fuel rest
            some (expression.restrict fields, rest)
        | rest => do
            let (expression, rest) ← near? mode rest
            run? mode (rest.length + 1) (expression.restrict fields) rest
      else do
        let (expression, rest) ← near? mode lexemes
        run? mode (rest.length + 1) expression rest

/-- An expression up to its closing parenthesis. -/
def parenthesized? (mode : CaseMode) : (fuel : Nat) → List Lexeme →
    Option (Expression × List Lexeme)
  | 0, _ => none
  | fuel + 1, lexemes => do
      let (expression, rest) ← disjunction? mode fuel lexemes
      match rest with
      | .closeParen :: rest => some (expression, rest)
      | _ => none

end

/-- The expression that tokens spell. -/
def ofLexemes? (mode : CaseMode) (lexemes : List Lexeme) : Option Expression :=
  match disjunction? mode (6 * lexemes.length + 6) lexemes with
  | some (expression, []) => some expression
  | _ => none

/-- The expression that a text spells. -/
def read? (mode : CaseMode) (text : List Char) : Option Expression :=
  (Lexeme.ofText? text).bind (ofLexemes? mode)

end Expression
end FullText
end BlockSearch
