import BlockSearch.Json.Value
import BlockSearch.Text.Hexadecimal

/-!
# Writing JSON text

Values are written over several lines, two spaces deeper for every list or object, or on
one line without spaces.
-/

namespace BlockSearch
namespace Json

/-- The way a character is written inside a text. -/
def escapeChar (c : Char) : List Char :=
  if c = '"' then ['\\', '"']
  else if c = '\\' then ['\\', '\\']
  else if c = '\x08' then ['\\', 'b']
  else if c = '\x0c' then ['\\', 'f']
  else if c = '\n' then ['\\', 'n']
  else if c = '\r' then ['\\', 'r']
  else if c = '\t' then ['\\', 't']
  else if c.toNat < 32 then
    ['\\', 'u', '0', '0', Text.lowerHexDigit (c.toNat / 16), Text.lowerHexDigit (c.toNat % 16)]
  else [c]

/-- A text between quotes. -/
def quoted (text : String) : List Char := '"' :: text.toList.flatMap escapeChar ++ ['"']

/-- A new line and its indentation. -/
def newLine (indent : Nat) : List Char := '\n' :: List.replicate (2 * indent) ' '

mutual

/-- A value over several lines, its inner lines `indent + 1` levels deep. -/
def prettyChars (indent : Nat) : Json → List Char
  | .null => "null".toList
  | .bool true => "true".toList
  | .bool false => "false".toList
  | .number literal => literal.toList
  | .string value => quoted value
  | .array [] => ['[', ']']
  | .array (item :: items) =>
      '[' :: newLine (indent + 1) ++ item.prettyChars (indent + 1) ++
        prettyItems (indent + 1) items ++ newLine indent ++ [']']
  | .object [] => ['{', '}']
  | .object ((name, value) :: members) =>
      '{' :: newLine (indent + 1) ++ quoted name ++ [':', ' '] ++
        value.prettyChars (indent + 1) ++
        prettyMembers (indent + 1) members ++ newLine indent ++ ['}']

/-- The items behind the first one. -/
def prettyItems (indent : Nat) : List Json → List Char
  | [] => []
  | item :: items =>
      ',' :: newLine indent ++ item.prettyChars indent ++ prettyItems indent items

/-- The members behind the first one. -/
def prettyMembers (indent : Nat) : List (String × Json) → List Char
  | [] => []
  | (name, value) :: members =>
      ',' :: newLine indent ++ quoted name ++ [':', ' '] ++ value.prettyChars indent ++
        prettyMembers indent members

end

/-- The text of a value over several lines. -/
def pretty (json : Json) : String := String.ofList (json.prettyChars 0)

mutual

/-- A value on one line. -/
def compactChars : Json → List Char
  | .null => "null".toList
  | .bool true => "true".toList
  | .bool false => "false".toList
  | .number literal => literal.toList
  | .string value => quoted value
  | .array [] => ['[', ']']
  | .array (item :: items) => '[' :: item.compactChars ++ compactItems items ++ [']']
  | .object [] => ['{', '}']
  | .object ((name, value) :: members) =>
      '{' :: quoted name ++ ':' :: value.compactChars ++ compactMembers members ++ ['}']

/-- The items behind the first one. -/
def compactItems : List Json → List Char
  | [] => []
  | item :: items => ',' :: item.compactChars ++ compactItems items

/-- The members behind the first one. -/
def compactMembers : List (String × Json) → List Char
  | [] => []
  | (name, value) :: members =>
      ',' :: quoted name ++ ':' :: value.compactChars ++ compactMembers members

end

/-- The text of a value on one line. -/
def compact (json : Json) : String := String.ofList json.compactChars

end Json
end BlockSearch
