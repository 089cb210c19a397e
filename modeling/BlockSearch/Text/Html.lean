/-!
# HTML text

The five characters that HTML gives a meaning are written as character references.
-/

namespace BlockSearch
namespace Html

/-- The way a character is written in HTML text. -/
def escapeChar (c : Char) : List Char :=
  if c = '&' then "&amp;".toList
  else if c = '<' then "&lt;".toList
  else if c = '>' then "&gt;".toList
  else if c = '"' then "&quot;".toList
  else if c = '\'' then "&#39;".toList
  else [c]

/-- The text as it is written in HTML. -/
def escape (text : List Char) : List Char := text.flatMap escapeChar

end Html
end BlockSearch
