import BlockSearch.Text.Blank
import BlockSearch.Text.Occurrence

/-!
# Attribute lists

A list of named values is written as `{: name="value" name="value"}`. Inside a value
four characters are written as character references.
-/

namespace BlockSearch
namespace Attribute

/-- The way a character is written inside a value. -/
def escapeChar (c : Char) : List Char :=
  if c = '&' then "&amp;".toList
  else if c = '<' then "&lt;".toList
  else if c = '>' then "&gt;".toList
  else if c = '"' then "&quot;".toList
  else [c]

/-- A value as it is written. -/
def escape (value : List Char) : List Char := value.flatMap escapeChar

/-- The value that is written as `text`; the ampersand comes last, so it starts nothing new. -/
def unescape (text : List Char) : List Char :=
  Text.replace "&amp;".toList ['&'] <|
    Text.replace "&gt;".toList ['>'] <|
      Text.replace "&lt;".toList ['<'] <|
        Text.replace "&quot;".toList ['"'] text

/-- A name is not empty and has no blank in it. -/
def isName (name : List Char) : Bool := !name.isEmpty && !name.any Text.isBlank

/-- What follows a name and its value is shorter than the text. -/
theorem length_behindPair_lt
    {text name rest value behind : List Char}
    (foundName : Text.cutAt? ['=', '"'] text = some (name, rest))
    (foundValue : Text.cutAt? ['"'] rest = some (value, behind)) :
    (Text.trimStart behind).length < text.length := by
  have := Text.length_lt_of_cutAt? (List.cons_ne_nil _ _) foundName
  have := Text.length_lt_of_cutAt? (List.cons_ne_nil _ _) foundValue
  have := Text.length_trimStart_le behind
  omega

/-- The pairs at the front of a text; what is not a pair ends the list. -/
def readPairs (text : List Char) : List (String × String) :=
  match foundName : Text.cutAt? ['=', '"'] text with
  | none => []
  | some (name, rest) =>
      match foundValue : Text.cutAt? ['"'] rest with
      | none => []
      | some (value, behind) =>
          have : (Text.trimStart behind).length < text.length :=
            length_behindPair_lt foundName foundValue
          let name := Text.trim name
          let pairs := readPairs (Text.trimStart behind)
          if isName name then (String.ofList name, String.ofList (unescape value)) :: pairs
          else pairs
termination_by text.length

/-- The text without the braces of a list around it. -/
def body (text : List Char) : List Char :=
  let text := Text.trim text
  let text := (Text.stripStart? ['{', ':'] text).getD text
  let text := if text.getLast? = some '}' then text.dropLast else text
  Text.trimStart text

/-- The named values that a text holds. -/
def read (text : List Char) : List (String × String) := readPairs (body text)

/-- One named value. -/
def printPair (pair : String × String) : List Char :=
  pair.1.toList ++ ['=', '"'] ++ escape pair.2.toList ++ ['"']

/-- The text of a list of named values; an empty list has an empty text. -/
def print (pairs : List (String × String)) : List Char :=
  if pairs.isEmpty then []
  else ['{', ':', ' '] ++ [' '].intercalate (pairs.map printPair) ++ ['}']

/-- The first value with a name. -/
def get? (pairs : List (String × String)) (name : String) : Option String :=
  (pairs.find? (·.1 == name)).map (·.2)

/-- Give a name a value: the first pair with that name is changed, or a new one added. -/
def set (name value : String) : List (String × String) → List (String × String)
  | [] => [(name, value)]
  | pair :: pairs =>
      if pair.1 = name then (name, value) :: pairs else pair :: set name value pairs

end Attribute
end BlockSearch
