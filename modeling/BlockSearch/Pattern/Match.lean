import BlockSearch.Pattern.Basic
import BlockSearch.Pattern.Reader
import BlockSearch.Text.Occurrence

/-!
# Matching

The ends that a pattern can reach from a place of a text, in order of preference and each
place once: what a continuation makes of a place does not depend on how it was reached, so
the first way to reach it is the one that counts.
-/

namespace BlockSearch
namespace Pattern

/-- A place in a text, and the texts remembered on the way to it. -/
structure Cursor where
  /-- The character before the place. -/
  previous : Option Char
  /-- The text behind the place. -/
  rest : List Char
  /-- The texts of groups by their numbers, the last remembered first. -/
  captures : List (Nat × List Char)

namespace Cursor

/-- The start of a text. -/
def start (text : List Char) : Cursor := ⟨none, text, []⟩

/-- How far a place is from the end of the text; it tells the places of a text apart. -/
def distance (cursor : Cursor) : Nat := cursor.rest.length

/-- The text from a place to a later one. -/
def textTo (cursor later : Cursor) : List Char :=
  cursor.rest.take (cursor.distance - later.distance)

end Cursor

/-- Whether there is a word character on a side of a place. -/
def isWord (side : Option Char) : Bool := side.any Text.isWordChar

/-- Whether a condition holds between two characters. -/
def Place.holds (place : Place) (previous next : Option Char) : Bool :=
  match place with
  | .textStart => previous.isNone
  | .textEnd => next.isNone
  | .lineStart false => previous.isNone || previous == some '\n'
  | .lineEnd false => next.isNone || next == some '\n'
  | .lineStart true =>
      previous.isNone || previous == some '\n' || (previous == some '\r' && next != some '\n')
  | .lineEnd true =>
      next.isNone || next == some '\r' || (next == some '\n' && previous != some '\r')
  | .wordEdge => isWord previous != isWord next
  | .noWordEdge => isWord previous == isWord next
  | .wordStart => !isWord previous && isWord next
  | .wordEnd => isWord previous && !isWord next
  | .wordStartHalf => !isWord previous
  | .wordEndHalf => !isWord next

/-- Keep the first cursor at each place. -/
def distinct : List Cursor → List Cursor
  | [] => []
  | cursor :: cursors =>
      cursor :: (distinct cursors).filter fun other => other.distance != cursor.distance

/-- What a repetition has found: the places it was entered at, and the ends, last first. -/
structure Repetition where
  /-- The places at which the repeated pattern was tried. -/
  entered : List Nat
  /-- The ends, last first, each place once. -/
  found : List Cursor

namespace Repetition

/-- Add an end, unless its place was reached before. -/
def add (repetition : Repetition) (cursor : Cursor) : Repetition :=
  if repetition.found.any fun other => other.distance == cursor.distance then repetition
  else { repetition with found := cursor :: repetition.found }

/--
Try a pattern, whose ends are `next`, once more at a place. A place is entered once, so
`fuel` need not exceed the number of places.
-/
def explore (greedy : Bool) (next : Cursor → List Cursor) :
    (fuel : Nat) → Repetition → Cursor → Repetition
  | 0, repetition, _ => repetition
  | fuel + 1, repetition, cursor =>
      if repetition.entered.contains cursor.distance then repetition
      else
        (next cursor).foldl
          (fun repetition reached =>
            if greedy then (explore greedy next fuel repetition reached).add reached
            else explore greedy next fuel (repetition.add reached) reached)
          { repetition with entered := cursor.distance :: repetition.entered }

end Repetition

/-- The ends that a pattern reaches from a place, the preferred one first. -/
def ends : Pattern → Cursor → List Cursor
  | .empty, cursor => [cursor]
  | .one set, cursor =>
      match cursor.rest with
      | [] => []
      | c :: rest => if set.holds c then [⟨some c, rest, cursor.captures⟩] else []
  | .place condition, cursor =>
      if Place.holds condition cursor.previous cursor.rest.head? then [cursor] else []
  | .seq first second, cursor => distinct ((ends first cursor).flatMap (ends second))
  | .alt first second, cursor => distinct (ends first cursor ++ ends second cursor)
  | .group index body, cursor =>
      (ends body cursor).map fun reached =>
        { reached with captures := (index, cursor.textTo reached) :: reached.captures }
  | .plus greedy body, cursor =>
      (Repetition.explore greedy (ends body) (cursor.distance + 1) ⟨[], []⟩ cursor).found.reverse

/-- A match: the text before it, the matched text, and the place behind it. -/
structure Found where
  /-- The text skipped before the match. -/
  skipped : List Char
  /-- The matched text. -/
  text : List Char
  /-- The place behind the match, with the texts of the groups. -/
  reached : Cursor

/-- The preferred match at a place. -/
def matchAt? (pattern : Pattern) (cursor : Cursor) : Option Cursor := (pattern.ends cursor).head?

/-- The first match in `text` behind a character. -/
def findFrom? (pattern : Pattern) : (previous : Option Char) → (text : List Char) → Option Found
  | previous, [] =>
      (pattern.matchAt? ⟨previous, [], []⟩).map fun reached => ⟨[], [], reached⟩
  | previous, c :: rest =>
      let here : Cursor := ⟨previous, c :: rest, []⟩
      match pattern.matchAt? here with
      | some reached => some ⟨[], here.textTo reached, reached⟩
      | none =>
          (findFrom? pattern (some c) rest).map fun found =>
            { found with skipped := c :: found.skipped }

/-- Whether a pattern matches somewhere in a text. -/
def isMatch (pattern : Pattern) (text : List Char) : Bool := (pattern.findFrom? none text).isSome

/-- A stretch of a text that was searched for a pattern. -/
inductive Part
  /-- Text between matches. -/
  | plain (text : List Char)
  /-- A match, with the texts of its groups. -/
  | hit (text : List Char) (captures : List (Nat × List Char))

/--
The matches behind a place, one after the other. An empty match right behind another match
is passed over. `fuel` counts the matches and the characters passed over.
-/
def partsFrom (pattern : Pattern) :
    (fuel : Nat) → (behindMatch : Bool) → (previous : Option Char) → List Char → List Part
  | 0, _, _, text => [.plain text]
  | fuel + 1, behindMatch, previous, text =>
      match pattern.findFrom? previous text with
      | none => [.plain text]
      | some found =>
          if behindMatch && found.skipped.isEmpty && found.text.isEmpty then
            match text with
            | [] => []
            | c :: rest => .plain [c] :: partsFrom pattern fuel false (some c) rest
          else
            .plain found.skipped :: .hit found.text found.reached.captures ::
              partsFrom pattern fuel true found.reached.previous found.reached.rest

/-- The matches of a pattern in a text and the stretches between them. -/
def parts (pattern : Pattern) (text : List Char) : List Part :=
  pattern.partsFrom (2 * text.length + 2) false none text

/-! ## Patterns given as text -/

/-- Whether a pattern, given as text, matches somewhere in a text; one that cannot be read is looked
for as it is written. -/
def occursIn (pattern text : List Char) : Bool :=
  match read? pattern with
  | some compiled => compiled.pattern.isMatch text
  | none => Text.contains pattern text

end Pattern
end BlockSearch
