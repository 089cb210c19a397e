import BlockSearch.Text.Hexadecimal

/-!
# Quoted texts of TOML

A text stands between double quotes, where a backslash begins an escape, or between single
quotes, where nothing does. Three quotes at either end let it run over several lines.
-/

namespace BlockSearch
namespace Toml
namespace Quoted

/-- The characters that separate words on a line. -/
def isBlank (c : Char) : Bool := c = ' ' || c = '\t'

/-- The characters that may stand in a text as they are, quotes and backslashes apart. -/
def isPlain (c : Char) : Bool := c = '\t' || (32 ≤ c.toNat && c.toNat != 127)

/-- The character that a letter behind a backslash stands for. -/
def named? (c : Char) : Option Char :=
  match c with
  | '"' => some '"'
  | '\\' => some '\\'
  | 'b' => some '\x08'
  | 'e' => some '\x1b'
  | 'f' => some '\x0c'
  | 'n' => some '\n'
  | 'r' => some '\r'
  | 't' => some '\t'
  | _ => none

/-- The number of hexadecimal digits behind a letter behind a backslash. -/
def digitCount? (c : Char) : Option Nat :=
  match c with
  | 'x' => some 2
  | 'u' => some 4
  | 'U' => some 8
  | _ => none

/-- A character in front of what was read, if something was. -/
def push (c : Char) (read : Option (List Char × List Char)) : Option (List Char × List Char) :=
  read.map fun part => (c :: part.1, part.2)

/-- A place between double quotes. -/
inductive Place
  /-- A character or the end comes next. -/
  | char
  /-- Blanks and line ends do not count up to the next character. -/
  | trimmed
  /-- A backslash was read. -/
  | escape
  /-- A backslash and blanks were read, and the line must end. -/
  | lineEnd
  /-- Some digits of a character are missing. -/
  | digits (missing value : Nat)
  deriving DecidableEq, Repr

/-- The text up to the double quote that closes it, and what follows the quote. -/
def basic? : Place → List Char → Option (List Char × List Char)
  | .digits missing value, c :: rest =>
      match Text.hexValue? c with
      | some digit =>
          if missing = 1 then
            match Text.scalar? (value * 16 + digit) with
            | some d => push d (basic? .char rest)
            | none => none
          else basic? (.digits (missing - 1) (value * 16 + digit)) rest
      | none => none
  | .escape, c :: rest =>
      match named? c, digitCount? c with
      | some d, _ => push d (basic? .char rest)
      | none, some count => basic? (.digits count 0) rest
      | none, none => none
  | _, '"' :: rest => some ([], rest)
  | _, '\\' :: rest => basic? .escape rest
  | _, c :: rest => if isPlain c then push c (basic? .char rest) else none
  | _, [] => none

/-- The text up to the three double quotes that close it, and what follows them. -/
def longBasic? : Place → List Char → Option (List Char × List Char)
  | .digits missing value, c :: rest =>
      match Text.hexValue? c with
      | some digit =>
          if missing = 1 then
            match Text.scalar? (value * 16 + digit) with
            | some d => push d (longBasic? .char rest)
            | none => none
          else longBasic? (.digits (missing - 1) (value * 16 + digit)) rest
      | none => none
  | .escape, '\r' :: '\n' :: rest => longBasic? .trimmed rest
  | .escape, c :: rest =>
      if c = '\n' then longBasic? .trimmed rest
      else if isBlank c then longBasic? .lineEnd rest
      else
        match named? c, digitCount? c with
        | some d, _ => push d (longBasic? .char rest)
        | none, some count => longBasic? (.digits count 0) rest
        | none, none => none
  | .lineEnd, '\r' :: '\n' :: rest => longBasic? .trimmed rest
  | .lineEnd, c :: rest =>
      if c = '\n' then longBasic? .trimmed rest
      else if isBlank c then longBasic? .lineEnd rest
      else none
  | _, '"' :: '"' :: '"' :: '"' :: '"' :: rest => some (['"', '"'], rest)
  | _, '"' :: '"' :: '"' :: '"' :: rest => some (['"'], rest)
  | _, '"' :: '"' :: '"' :: rest => some ([], rest)
  | _, '\\' :: rest => longBasic? .escape rest
  | .trimmed, '\r' :: '\n' :: rest => longBasic? .trimmed rest
  | .trimmed, c :: rest =>
      if c = '\n' || isBlank c then longBasic? .trimmed rest
      else if isPlain c then push c (longBasic? .char rest)
      else none
  | _, '\r' :: '\n' :: rest => push '\r' (push '\n' (longBasic? .char rest))
  | _, c :: rest => if c = '\n' || isPlain c then push c (longBasic? .char rest) else none
  | _, [] => none

/-- The text up to the single quote that closes it, and what follows the quote. -/
def literal? : List Char → Option (List Char × List Char)
  | '\'' :: rest => some ([], rest)
  | c :: rest => if isPlain c then push c (literal? rest) else none
  | [] => none

/-- The text up to the three single quotes that close it, and what follows them. -/
def longLiteral? : List Char → Option (List Char × List Char)
  | '\'' :: '\'' :: '\'' :: '\'' :: '\'' :: rest => some (['\'', '\''], rest)
  | '\'' :: '\'' :: '\'' :: '\'' :: rest => some (['\''], rest)
  | '\'' :: '\'' :: '\'' :: rest => some ([], rest)
  | '\r' :: '\n' :: rest => push '\r' (push '\n' (longLiteral? rest))
  | c :: rest => if c = '\n' || isPlain c then push c (longLiteral? rest) else none
  | [] => none

/-- A text without the line end that it begins with. -/
def dropLineEnd : List Char → List Char
  | '\n' :: rest => rest
  | '\r' :: '\n' :: rest => rest
  | text => text

/-- A quoted text on one line, and what follows it. -/
def short? : List Char → Option (List Char × List Char)
  | '"' :: rest => basic? .char rest
  | '\'' :: rest => literal? rest
  | _ => none

/-- A quoted text, and what follows it. -/
def read? : List Char → Option (List Char × List Char)
  | '"' :: '"' :: '"' :: rest => longBasic? .char (dropLineEnd rest)
  | '\'' :: '\'' :: '\'' :: rest => longLiteral? (dropLineEnd rest)
  | text => short? text

end Quoted

/-- The characters of a key that needs no quotes. -/
def isBare (c : Char) : Bool := c.isAlphanum || c == '_' || c == '-'

end Toml
end BlockSearch
