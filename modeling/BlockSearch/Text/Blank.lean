import BlockSearch.Text.Range

/-!
# Blank characters

The characters with the Unicode property White_Space, trimming by them, and the
words between them.
-/

namespace BlockSearch
namespace Text

/-- The code points with the property White_Space. -/
def blankRanges : List (Nat × Nat) := [
  (0x9, 0xD), (0x20, 0x20), (0x85, 0x85), (0xA0, 0xA0), (0x1680, 0x1680), (0x2000, 0x200A),
  (0x2028, 0x2029), (0x202F, 0x202F), (0x205F, 0x205F), (0x3000, 0x3000)]

/-- A blank is a character with the property White_Space. -/
def isBlank (c : Char) : Bool := inRanges blankRanges c

/-- The text from its first character that is not blank. -/
def trimStart (text : List Char) : List Char := text.dropWhile isBlank

/-- Dropping blanks does not make a text longer. -/
theorem length_trimStart_le (text : List Char) : (trimStart text).length ≤ text.length :=
  (List.dropWhile_suffix isBlank).length_le

/-- The text up to its last character that is not blank. -/
def trimEnd (text : List Char) : List Char := (text.reverse.dropWhile isBlank).reverse

/-- The text without blanks at either end. -/
def trim (text : List Char) : List Char := trimEnd (trimStart text)

/-- The maximal runs of characters that are not blank; `run` is the open one, last first. -/
def wordsFrom (run : List Char) : List Char → List (List Char)
  | [] => if run.isEmpty then [] else [run.reverse]
  | c :: rest =>
      if isBlank c then
        if run.isEmpty then wordsFrom [] rest else run.reverse :: wordsFrom [] rest
      else wordsFrom (c :: run) rest

/-- The words of a text, in order. -/
def words (text : List Char) : List (List Char) := wordsFrom [] text

end Text
end BlockSearch
