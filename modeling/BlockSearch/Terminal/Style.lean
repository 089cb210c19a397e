import BlockSearch.Mark.Tag

/-!
# Terminal styles

Texts with the control sequences that color them on a terminal.
-/

namespace BlockSearch
namespace Style

/-- The sequence for bold text. -/
def bold : List Char := "\x1b[1m".toList

/-- The sequence for dim text. -/
def faint : List Char := "\x1b[2m".toList

/-- The sequence for green text. -/
def green : List Char := "\x1b[32m".toList

/-- The sequence for yellow text. -/
def yellow : List Char := "\x1b[33m".toList

/-- The sequence for cyan text. -/
def cyan : List Char := "\x1b[36m".toList

/-- The sequence that ends all styles. -/
def reset : List Char := "\x1b[0m".toList

/-- A heading, bold and cyan. -/
def header (text : List Char) : List Char := bold ++ cyan ++ text ++ reset

/-- A text of less importance. -/
def dim (text : List Char) : List Char := faint ++ text ++ reset

/-- A message of success. -/
def success (text : List Char) : List Char := green ++ text ++ reset

/-- A text with its marks bold and yellow. -/
def renderMarks (text : List Char) : List Char :=
  Text.replace Mark.closeTag reset (Text.replace Mark.openTag (bold ++ yellow) text)

/-- A text without its marks. -/
def stripMarks (text : List Char) : List Char :=
  Text.replace Mark.closeTag [] (Text.replace Mark.openTag [] text)

end Style
end BlockSearch
