import BlockSearch.Mark.Segment
import BlockSearch.Pattern.Match
import BlockSearch.Pattern.Reader

/-!
# Keywords as a pattern

Keywords are looked for with one pattern. It lists them as alternatives, each of them escaped
and the longest first, because the first alternative that fits is the one that matches. Every
match of the pattern is enclosed.
-/

namespace BlockSearch
namespace Mark

/-- The words without those that repeat the word before them. -/
def dropRepeats : List (List Char) → List (List Char)
  | [] => []
  | [word] => [word]
  | word :: next :: words =>
      if word = next then dropRepeats (next :: words)
      else word :: dropRepeats (next :: words)

/-- Words in the order of their lengths, the longest first; words of one length stay in order. -/
def longestFirst (words : List (List Char)) : List (List Char) :=
  dropRepeats (words.mergeSort fun first second => second.length ≤ first.length)

/-- The text of a pattern that matches any of the words. -/
def patternText (words : List (List Char)) : List Char :=
  ['|'].intercalate (words.map Pattern.escape)

/-- The switches for the pattern of keywords. -/
def switches (mode : CaseMode) : Pattern.Switches := { ignoreCase := mode == .insensitive }

/-- The pattern of the keywords that are not empty, if there are any. -/
def pattern? (mode : CaseMode) (keywords : List (List Char)) : Option Pattern.Compiled :=
  let words := keywords.filter fun keyword => !keyword.isEmpty
  if words.isEmpty then none
  else Pattern.readWith? (switches mode) (patternText (longestFirst words))

/-- A stretch of a searched text, with a match between two markers. -/
def enclosePart (opening closing : List Char) : Pattern.Part → List Char
  | .plain text => text
  | .hit text _ => opening ++ text ++ closing

/-- The text with every match of the pattern of the keywords between two markers. -/
def encloseMatches
    (mode : CaseMode)
    (keywords : List (List Char))
    (opening closing text : List Char) : List Char :=
  match pattern? mode keywords with
  | none => text
  | some compiled => (compiled.pattern.parts text).flatMap (enclosePart opening closing)

end Mark
end BlockSearch
