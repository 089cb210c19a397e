import BlockSearch.Mark.Segment
import BlockSearch.Text.Html
import BlockSearch.Text.Occurrence
import BlockSearch.Text.Position

/-!
# Marked text

The tags that enclose an occurrence in text for display, the markers that the index
writes in their place, and the marking of a text by the keywords of a query.
-/

namespace BlockSearch
namespace Mark

/-- The marker that the index writes before an occurrence. -/
def indexLeft : List Char := "__@mark__".toList

/-- The marker that the index writes behind an occurrence. -/
def indexRight : List Char := "__mark@__".toList

/-- The text between two keywords that are packed into one. -/
def keywordSeparator : List Char := "__term@sep__".toList

/-- The tag before an occurrence in text for display. -/
def openTag : List Char := "<mark>".toList

/-- The tag behind an occurrence in text for display. -/
def closeTag : List Char := "</mark>".toList

/-- What stands where text was cut away. -/
def ellipsis : List Char := "...".toList

/-- The keywords packed into one text, without empty ones. -/
def unpackKeywords (packed : List Char) : List (List Char) :=
  (Text.splitOn keywordSeparator packed).filter fun keyword => !keyword.isEmpty

/-- A text with its marks, and where the first of them begins. -/
structure Marked where
  /-- The byte position of the first mark in the text before it was cut at the front. -/
  position : Option Nat
  /-- The text with its marks. -/
  text : List Char
  deriving DecidableEq, Repr

/-- Keep at most `limit` characters of context before the first mark. -/
def cutFront (limit : Nat) (before : List Char) : List Char :=
  if before.length ≤ limit then before
  else ellipsis ++ before.drop (before.length - limit)

/--
The text as HTML with every occurrence of the packed keywords between mark tags, and
at most `limit` characters before the first of them.
-/
def markText (mode : CaseMode) (packed : List Char) (limit : Nat) (text : List Char) :
    Marked :=
  let keywords := (unpackKeywords packed).map Html.escape
  let marked := enclose mode keywords openTag closeTag (Html.escape text)
  match Text.cutAt? openTag marked with
  | none => ⟨none, marked⟩
  | some (before, rest) =>
      ⟨some (Text.utf8Length before), cutFront limit before ++ openTag ++ rest⟩

/-- The text as HTML with the markers of the index turned into mark tags. -/
def ofIndexMarkers (text : List Char) : List Char :=
  Text.replace indexRight closeTag (Text.replace indexLeft openTag (Html.escape text))

end Mark
end BlockSearch
