import BlockSearch.Sql.Value
import BlockSearch.Text.Hexadecimal
import BlockSearch.Text.Occurrence

/-!
# Tokens of statements

A statement is cut into words, texts, numbers and signs. Blanks and comments stand between
them. Only the first statement of a text counts; it ends at a semicolon.
-/

namespace BlockSearch
namespace Sql

/-- A token of a statement. -/
inductive Token
  /-- A name or keyword without quotes. -/
  | word (text : String)
  /-- A name in double quotes. -/
  | quotedName (text : String)
  /-- A name in brackets or back quotes. -/
  | name (text : String)
  /-- A text or a list of bytes. -/
  | value (value : Value)
  /-- A number. -/
  | number (literal : NumberLiteral)
  /-- A parameter with its number, or without one. -/
  | parameter (number : Option Nat)
  /-- A sign. -/
  | sign (text : String)
  deriving Repr

namespace Token

/-- The characters between tokens. -/
def isBlank (c : Char) : Bool :=
  c = ' ' || c = '\t' || c = '\n' || c = '\x0c' || c = '\r' || c = '\ufeff'

/-- The characters at the front of names. -/
def isNameStart (c : Char) : Bool := c.isAlpha || c = '_' || 128 ≤ c.toNat

/-- The characters of names. -/
def isNameChar (c : Char) : Bool := isNameStart c || c.isDigit || c = '$'

/-- The text up to a closing quote, which stands for itself when written twice. -/
def quoted? (quote : Char) : List Char → Option (List Char × List Char)
  | [] => none
  | [c] => if c = quote then some ([], []) else none
  | c :: d :: rest =>
      if c = quote then
        if d = quote then (quoted? quote rest).map fun part => (quote :: part.1, part.2)
        else some ([], d :: rest)
      else (quoted? quote (d :: rest)).map fun part => (c :: part.1, part.2)

/-- The text up to a closing bracket. -/
def bracketed? (rest : List Char) : Option (List Char × List Char) :=
  match rest.dropWhile (· != ']') with
  | _ :: behind => some (rest.takeWhile (· != ']'), behind)
  | [] => none

/-- The bytes that pairs of hexadecimal digits spell. -/
def bytes? : List Char → Option (List UInt8)
  | [] => some []
  | [_] => none
  | high :: low :: rest => do
      let high ← Text.hexValue? high
      let low ← Text.hexValue? low
      (bytes? rest).map ((high * 16 + low).toUInt8 :: ·)

/-- The text behind a comment that ends with the line. -/
def behindLine (rest : List Char) : List Char := rest.dropWhile (· != '\n')

/-- The text behind a comment that ends at its closing mark or with the text. -/
def behindBlock : List Char → List Char
  | '*' :: '/' :: rest => rest
  | _ :: rest => behindBlock rest
  | [] => []

/-- A number, which must not run into a name. -/
def number? (text : List Char) : Option (Token × List Char) :=
  match NumberLiteral.read? text with
  | some (literal, rest) =>
      if (rest.head?.map isNameChar).getD false then none
      else some (.number literal, rest)
  | none => none

/-- A sign and what follows it. -/
def sign? : List Char → Option (Token × List Char)
  | '<' :: '=' :: rest => some (.sign "<=", rest)
  | '<' :: '>' :: rest => some (.sign "<>", rest)
  | '>' :: '=' :: rest => some (.sign ">=", rest)
  | '=' :: '=' :: rest => some (.sign "=", rest)
  | '!' :: '=' :: rest => some (.sign "<>", rest)
  | '|' :: '|' :: rest => some (.sign "||", rest)
  | c :: rest =>
      if "<>=(),.;+-*".toList.contains c then some (.sign (String.singleton c), rest) else none
  | [] => none

/-- A list of bytes, if the text begins with one. -/
def blob? : List Char → Option (Option (Token × List Char))
  | c :: '\'' :: rest =>
      if c = 'x' || c = 'X' then
        let digits := rest.takeWhile (· != '\'')
        match rest.dropWhile (· != '\''), bytes? digits with
        | _ :: behind, some bytes => some (some (.value (.blob bytes), behind))
        | _, _ => some none
      else none
  | _ => none

/-- The token at the front of a text, and what follows it. -/
def next? (text : List Char) : Option (Token × List Char) :=
  match blob? text with
  | some found => found
  | none =>
      match text with
      | [] => none
      | '\'' :: rest =>
          (quoted? '\'' rest).map fun part => (.value (.text (String.ofList part.1)), part.2)
      | '"' :: rest =>
          (quoted? '"' rest).map fun part => (.quotedName (String.ofList part.1), part.2)
      | '[' :: rest => (bracketed? rest).map fun part => (.name (String.ofList part.1), part.2)
      | '?' :: rest =>
          let digits := rest.takeWhile Char.isDigit
          let number := if digits.isEmpty then none else some (NumberLiteral.ofDigits digits)
          some (.parameter number, rest.dropWhile Char.isDigit)
      | '.' :: rest =>
          if (rest.head?.map Char.isDigit).getD false then number? ('.' :: rest)
          else some (.sign ".", rest)
      | c :: rest =>
          if c = Char.ofNat 96 then
            (quoted? c rest).map fun part => (.name (String.ofList part.1), part.2)
          else if c.isDigit then number? (c :: rest)
          else if isNameStart c then
            some
              (.word (String.ofList (c :: rest.takeWhile isNameChar)),
                rest.dropWhile isNameChar)
          else sign? (c :: rest)

/-- The text without blanks and comments at its front; each of them takes a character. -/
def skipBlanks : (fuel : Nat) → List Char → List Char
  | 0, text => text
  | fuel + 1, text =>
      match text.dropWhile isBlank with
      | '-' :: '-' :: rest => skipBlanks fuel (behindLine rest)
      | '/' :: '*' :: c :: rest => skipBlanks fuel (behindBlock (c :: rest))
      | text => text

/-- The tokens of the first statement of a text; `started` tells whether it has begun. -/
def scan? : (fuel : Nat) → (started : Bool) → List Char → Option (List Token)
  | 0, _, _ => some []
  | fuel + 1, started, text =>
      match skipBlanks text.length text with
      | [] => some []
      | ';' :: rest => if started then some [] else scan? fuel false rest
      | c :: rest =>
          match next? (c :: rest) with
          | some (token, rest) => (scan? fuel true rest).map (token :: ·)
          | none => none

/-- The tokens of the first statement of a text, which ends at its first null character. -/
def ofText? (text : List Char) : Option (List Token) :=
  let text := Text.beforeNull text
  scan? (text.length + 1) false text

end Token
end Sql
end BlockSearch
