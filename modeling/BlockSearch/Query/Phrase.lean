import BlockSearch.Text.Blank
import BlockSearch.Text.Occurrence

/-!
# Query text

Cleaning of the text a user typed, and its reading as a list of phrases for the
full-text index.
-/

namespace BlockSearch
namespace Query

/-- Characters that are not displayed and never carry meaning in a query. -/
def isInvisible (c : Char) : Bool :=
  c = '\u200b' || c = '\u200c' || c = '\u200d' || c = '\u2060' || c = '\ufeff'

/-- The text without invisible characters. -/
def removeInvisible (text : List Char) : List Char := text.filter fun c => !isInvisible c

/-- The text with each double quote written twice. -/
def doubleQuotes (text : List Char) : List Char :=
  text.flatMap fun c => if c = '"' then ['"', '"'] else [c]

/-- The text as a phrase of the full-text query language. -/
def quote (text : List Char) : List Char := '"' :: doubleQuotes text ++ ['"']

/-- The pieces of a text between single spaces, each without blanks at its ends. -/
def pieces (text : List Char) : List (List Char) :=
  (Text.splitOn [' '] text).map Text.trim

/-- The full-text expression that asks for every piece of the text as a phrase. -/
def phraseQuery (text : List Char) : List Char :=
  [' '].intercalate ((pieces text).map quote)

end Query
end BlockSearch
