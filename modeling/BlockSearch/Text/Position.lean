import BlockSearch.Text.Occurrence

/-!
# Byte positions

A place of a text can be given by the number of bytes before it in UTF-8. A text is cut only
between two characters: at a position inside of a character, or behind the end, it has no sides.
-/

namespace BlockSearch
namespace Text

/-- The number of bytes of the text in UTF-8. -/
def utf8Length (text : List Char) : Nat := text.foldr (fun c length => c.utf8Size + length) 0

/-- The byte positions at which characters begin; `position` bytes stand before the first. -/
def positionsFrom (position : Nat) : List Char → List Nat
  | [] => []
  | c :: rest => position :: positionsFrom (position + c.utf8Size) rest

/-- The byte positions at which the characters of a text begin. -/
def positions (text : List Char) : List Nat := positionsFrom 0 text

/-- The byte position of the first occurrence of `part`. -/
def firstPosition? (part text : List Char) : Option Nat :=
  (cutAt? part text).map fun cut => utf8Length cut.1

/-- The byte position of the last occurrence of a character. -/
def lastPosition? (c : Char) (text : List Char) : Option Nat :=
  (cutAtLast? c text).map fun cut => utf8Length cut.1

/-- The text on both sides of a byte position. -/
def sides? : (position : Nat) → List Char → Option (List Char × List Char)
  | 0, text => some ([], text)
  | _ + 1, [] => none
  | position + 1, c :: rest =>
      if c.utf8Size ≤ position + 1 then
        (sides? (position + 1 - c.utf8Size) rest).map fun sides => (c :: sides.1, sides.2)
      else none
termination_by structural _ text => text

end Text
end BlockSearch
