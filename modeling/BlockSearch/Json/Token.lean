import BlockSearch.Text.Hexadecimal

/-!
# Tokens of JSON text

The lexical layer: punctuation, names of constants, numbers and texts. An escaped
surrogate must be followed by its partner.
-/

namespace BlockSearch
namespace Json

/-- A token of JSON text. -/
inductive Token
  /-- The bracket that opens a list. -/
  | openArray
  /-- The bracket that closes a list. -/
  | closeArray
  /-- The brace that opens an object. -/
  | openObject
  /-- The brace that closes an object. -/
  | closeObject
  /-- The comma between items. -/
  | comma
  /-- The colon behind a name. -/
  | colon
  /-- The constant `null`. -/
  | null
  /-- One of the constants `true` and `false`. -/
  | bool (value : Bool)
  /-- A number, as it is written. -/
  | number (literal : String)
  /-- A text. -/
  | string (value : String)
  deriving DecidableEq, Repr

namespace Token

/-- The characters that may stand between tokens. -/
def isSpace (c : Char) : Bool := c = ' ' || c = '\n' || c = '\t' || c = '\r'

/-- The value of four hexadecimal digits and what follows them. -/
def hex4? : List Char → Option (Nat × List Char)
  | a :: b :: c :: d :: rest => do
      let w ← Text.hexValue? a
      let x ← Text.hexValue? b
      let y ← Text.hexValue? c
      let z ← Text.hexValue? d
      some (w * 4096 + x * 256 + y * 16 + z, rest)
  | _ => none

/-- The character that a letter behind a backslash stands for. -/
def simpleEscape? (c : Char) : Option Char :=
  match c with
  | '"' => some '"'
  | '\\' => some '\\'
  | '/' => some '/'
  | 'b' => some '\x08'
  | 'f' => some '\x0c'
  | 'n' => some '\n'
  | 'r' => some '\r'
  | 't' => some '\t'
  | _ => none

/--
The character behind `\u`: four hexadecimal digits, or two escapes that form a
surrogate pair.
-/
def unicodeEscape? (text : List Char) : Option (Char × List Char) := do
  let (high, rest) ← hex4? text
  if high < 0xD800 ∨ 0xE000 ≤ high then some (Char.ofNat high, rest)
  else
    match rest with
    | '\\' :: 'u' :: next =>
        let (low, behind) ← hex4? next
        if high < 0xDC00 ∧ 0xDC00 ≤ low ∧ low < 0xE000 then
          some (Char.ofNat (0x10000 + (high - 0xD800) * 1024 + (low - 0xDC00)), behind)
        else none
    | _ => none

/--
The text up to its closing quote and what follows it. `read` holds the characters
already read, last first, and `fuel` bounds the number of those to come.
-/
def stringBody? : (fuel : Nat) → (read : List Char) → List Char → Option (String × List Char)
  | 0, _, _ => none
  | _ + 1, _, [] => none
  | fuel + 1, read, c :: rest =>
      if c = '"' then some (String.ofList read.reverse, rest)
      else if c = '\\' then
        match rest with
        | 'u' :: digits =>
            match unicodeEscape? digits with
            | some (c, behind) => stringBody? fuel (c :: read) behind
            | none => none
        | letter :: behind =>
            match simpleEscape? letter with
            | some c => stringBody? fuel (c :: read) behind
            | none => none
        | [] => none
      else if c.toNat < 32 then none
      else stringBody? fuel (c :: read) rest

/-- The digits at the front of a text, at least one, and what follows them. -/
def digits? (text : List Char) : Option (List Char × List Char) :=
  let digits := text.takeWhile Char.isDigit
  if digits.isEmpty then none else some (digits, text.dropWhile Char.isDigit)

/-- The integer part of a number: no zero stands before another digit. -/
def integer? : List Char → Option (List Char × List Char)
  | '0' :: rest => some (['0'], rest)
  | text => digits? text

/-- The fraction of a number, which may be missing. -/
def fraction? : List Char → Option (List Char × List Char)
  | '.' :: rest => (digits? rest).map fun part => ('.' :: part.1, part.2)
  | text => some ([], text)

/-- The exponent of a number, which may be missing. -/
def exponent? : List Char → Option (List Char × List Char)
  | e :: rest =>
      if e = 'e' ∨ e = 'E' then
        match rest with
        | '+' :: behind => (digits? behind).map fun part => (e :: '+' :: part.1, part.2)
        | '-' :: behind => (digits? behind).map fun part => (e :: '-' :: part.1, part.2)
        | _ => (digits? rest).map fun part => (e :: part.1, part.2)
      else some ([], e :: rest)
  | [] => some ([], [])

/-- A number without its sign, and what follows it. -/
def magnitude? (text : List Char) : Option (List Char × List Char) := do
  let (whole, rest) ← integer? text
  let (fraction, rest) ← fraction? rest
  let (exponent, rest) ← exponent? rest
  some (whole ++ fraction ++ exponent, rest)

/-- A number and what follows it. -/
def number? : List Char → Option (Token × List Char)
  | '-' :: text =>
      (magnitude? text).map fun part => (.number (String.ofList ('-' :: part.1)), part.2)
  | text => (magnitude? text).map fun part => (.number (String.ofList part.1), part.2)

/-- The first token of a text that does not begin with a space. -/
def next? : List Char → Option (Token × List Char)
  | [] => none
  | '[' :: rest => some (.openArray, rest)
  | ']' :: rest => some (.closeArray, rest)
  | '{' :: rest => some (.openObject, rest)
  | '}' :: rest => some (.closeObject, rest)
  | ',' :: rest => some (.comma, rest)
  | ':' :: rest => some (.colon, rest)
  | '"' :: rest =>
      (stringBody? (rest.length + 1) [] rest).map fun part => (.string part.1, part.2)
  | 'n' :: 'u' :: 'l' :: 'l' :: rest => some (.null, rest)
  | 't' :: 'r' :: 'u' :: 'e' :: rest => some (.bool true, rest)
  | 'f' :: 'a' :: 'l' :: 's' :: 'e' :: rest => some (.bool false, rest)
  | text => number? text

/-- The tokens of a text; `fuel` bounds their number. -/
def scan? : (fuel : Nat) → List Char → Option (List Token)
  | 0, text => if (text.dropWhile isSpace).isEmpty then some [] else none
  | fuel + 1, text =>
      let text := text.dropWhile isSpace
      if text.isEmpty then some []
      else
        match next? text with
        | some (token, rest) => (scan? fuel rest).map (token :: ·)
        | none => none

/-- The tokens of a text. Every token takes a character, so their number is bounded. -/
def ofText? (text : List Char) : Option (List Token) := scan? text.length text

end Token
end Json
end BlockSearch
