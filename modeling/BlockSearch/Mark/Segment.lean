import BlockSearch.Mark.CaseMode
import BlockSearch.Text.Occurrence

/-!
# Keyword segmentation

A text is cut, from left to right, into stretches in which a keyword occurs and
stretches in which none begins. Of several keywords at one position the longest is
taken. Marking a text encloses the first kind of stretch. In a preview, a mark that ends
inside a word is taken back.
-/

namespace BlockSearch
namespace Mark

/-- A stretch of a text, told apart by whether it is an occurrence of a keyword. -/
inductive Segment
  /-- A stretch between occurrences. -/
  | plain (text : List Char)
  /-- An occurrence of a keyword. -/
  | hit (text : List Char)
  deriving DecidableEq, Repr

namespace Segment

/-- The characters of a stretch. -/
def text : Segment → List Char
  | .plain text => text
  | .hit text => text

/-- Whether a stretch is an occurrence. -/
def isHit : Segment → Bool
  | .plain _ => false
  | .hit _ => true

/-- The stretch as it is written with markers around occurrences. -/
def enclosed (opening closing : List Char) : Segment → List Char
  | .plain text => text
  | .hit text => opening ++ text ++ closing

end Segment

/-- The length of the longest keyword that the text begins with, or zero. -/
def longestAt (mode : CaseMode) (keywords : List (List Char)) (text : List Char) : Nat :=
  keywords.foldr
    (fun keyword best => if mode.begins keyword text then max keyword.length best else best) 0

/-- A stretch between occurrences, unless it is empty; `gap` holds it last first. -/
def closeGap (gap : List Char) : List Segment :=
  if gap.isEmpty then [] else [.plain gap.reverse]

/-- The segmentation of the text behind an open stretch `gap`, which is last first. -/
def segmentsFrom
    (mode : CaseMode)
    (keywords : List (List Char))
    (gap text : List Char) : List Segment :=
  match text with
  | [] => closeGap gap
  | c :: rest =>
      match longestAt mode keywords (c :: rest) with
      | 0 => segmentsFrom mode keywords (c :: gap) rest
      | length + 1 =>
          closeGap gap ++
            .hit (c :: rest.take length) :: segmentsFrom mode keywords [] (rest.drop length)
termination_by text.length
decreasing_by
  all_goals simp only [List.length_cons, List.length_drop]
  all_goals omega

/-- The stretches of a text for a list of keywords; empty keywords never occur. -/
def segments (mode : CaseMode) (keywords : List (List Char)) (text : List Char) :
    List Segment :=
  segmentsFrom mode keywords [] text

/-- The text with every occurrence of a keyword between two markers. -/
def enclose
    (mode : CaseMode)
    (keywords : List (List Char))
    (opening closing text : List Char) : List Char :=
  (segments mode keywords text).flatMap (·.enclosed opening closing)

/-! ## Whole words -/

/-- Whether a text begins with an ASCII letter. -/
def beginsWithLetter (text : List Char) : Bool :=
  match text with
  | [] => false
  | c :: _ => c.isAlpha

/--
Put back the closing markers between the pieces of a marked text. A closing marker
before an ASCII letter is left out, and with it the opening markers of its piece.
-/
def rejoinPieces (opening closing : List Char) : List (List Char) → List Char
  | [] => []
  | [last] => last
  | piece :: next :: rest =>
      (if beginsWithLetter next then Text.replace opening [] piece else piece ++ closing) ++
        rejoinPieces opening closing (next :: rest)

/-- The text with every occurrence of a keyword enclosed that does not end inside a word. -/
def encloseWords
    (mode : CaseMode)
    (keywords : List (List Char))
    (opening closing text : List Char) : List Char :=
  rejoinPieces opening closing
    (Text.splitOn closing (enclose mode keywords opening closing text))

end Mark
end BlockSearch
