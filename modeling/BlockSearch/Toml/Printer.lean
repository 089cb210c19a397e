import BlockSearch.Text.Hexadecimal
import BlockSearch.Toml.Quoted

/-!
# Writing TOML

A text is written between the plainest quotes that need no escapes, and a key without quotes
where it can be.
-/

namespace BlockSearch
namespace Toml

/-- The ways to quote a text. -/
inductive QuoteStyle
  /-- Between double quotes, with escapes. -/
  | basic
  /-- Between single quotes. -/
  | literal
  /-- Between three double quotes, with escapes. -/
  | longBasic
  /-- Between three single quotes. -/
  | longLiteral
  deriving DecidableEq, Repr

/-- The length of the longest stretch of a character, if one of `run` comes right before. -/
def longestRunFrom (c : Char) (run : Nat) : List Char → Nat
  | [] => run
  | d :: text =>
      if d = c then longestRunFrom c (run + 1) text
      else max run (longestRunFrom c 0 text)

/-- The length of the longest stretch of a character. -/
def longestRun (c : Char) (text : List Char) : Nat := longestRunFrom c 0 text

/-- A character that has no place in a text, tabs and line ends apart. -/
def isControl (c : Char) : Bool :=
  c != '\t' && c != '\n' && (c.toNat < 32 || c.toNat == 127)

/-- The way in which a text is quoted. -/
def quoteStyle (text : List Char) : QuoteStyle :=
  let control := text.any isControl
  let escape := text.contains '\\'
  let long := text.contains '\n'
  let doubles := longestRun '"' text
  let singles := longestRun '\'' text
  if !control && !escape && !long && doubles == 0 then .basic
  else if !control && !long && singles == 0 then .literal
  else if !control && !escape && doubles ≤ 2 then .longBasic
  else if !control && singles ≤ 2 then .longLiteral
  else if long then .longBasic
  else .basic

/-- The escape of a character. -/
def escapeChar (c : Char) : List Char :=
  if c = '"' then ['\\', '"']
  else if c = '\\' then ['\\', '\\']
  else if c = '\x08' then ['\\', 'b']
  else if c = '\t' then ['\\', 't']
  else if c = '\n' then ['\\', 'n']
  else if c = '\x0c' then ['\\', 'f']
  else if c = '\r' then ['\\', 'r']
  else if c.toNat < 32 || c.toNat == 127 then
    ['\\', 'u', '0', '0', Text.upperHexDigit (c.toNat / 16), Text.upperHexDigit (c.toNat % 16)]
  else [c]

/-- A text over several lines, where a third quote in a row, and no other, has an escape. -/
def escapeLong (quotes : Nat) : List Char → List Char
  | [] => []
  | c :: text =>
      if c = '"' then
        if quotes = 2 then '\\' :: '"' :: escapeLong 0 text
        else '"' :: escapeLong (quotes + 1) text
      else if c = '\n' then '\n' :: escapeLong 0 text
      else escapeChar c ++ escapeLong 0 text

/-- The line end behind an opening quote, for a text that has lines. -/
def opening (text : List Char) : List Char := if text.contains '\n' then ['\n'] else []

/-- A text between quotes of a style. -/
def inQuotes (style : QuoteStyle) (text : List Char) : List Char :=
  match style with
  | .basic => '"' :: text.flatMap escapeChar ++ ['"']
  | .literal => '\'' :: text ++ ['\'']
  | .longBasic => ['"', '"', '"'] ++ opening text ++ escapeLong 0 text ++ ['"', '"', '"']
  | .longLiteral => ['\'', '\'', '\''] ++ opening text ++ text ++ ['\'', '\'', '\'']

/-- A quoted text. -/
def quoted (text : List Char) : List Char := inQuotes (quoteStyle text) text

/-- A key, in quotes where it must be. -/
def writeKey (key : List Char) : List Char :=
  let control := key.any fun c => isControl c || c == '\n'
  if !key.isEmpty && key.all isBare then key
  else if !control && !key.contains '\\' && !key.contains '"' then inQuotes .basic key
  else if !control && !key.contains '\'' then inQuotes .literal key
  else inQuotes .basic key

/-- The line that gives a key a value. -/
def writePair (key value : List Char) : List Char := writeKey key ++ " = ".toList ++ value ++ ['\n']

/-- The line of a truth value. -/
def writeFlag (key : String) (value : Bool) : List Char :=
  writePair key.toList (if value then "true".toList else "false".toList)

/-- The line of a natural number. -/
def writeNat (key : String) (value : Nat) : List Char :=
  writePair key.toList (toString value).toList

/-- The line of a text. -/
def writeText (key value : String) : List Char := writePair key.toList (quoted value.toList)

/-- The header of a table whose path needs no quotes. -/
def writeHeader (path : String) : List Char := '[' :: path.toList ++ [']', '\n']

end Toml
end BlockSearch
