import BlockSearch.Mark.Tag
import BlockSearch.Text.Position

/-!
# Bounded content

Text for display is cut at a number of characters. In marked text a late first mark is moved
forward before the cut. The same is done by byte positions, where a cut can fail.
-/

namespace BlockSearch
namespace Mark

/-- Most characters of a block's content that are displayed. -/
def contentLimit : Nat := 5120

/-- A late mark is moved forward only for limits above this number of characters. -/
def relocationThreshold : Nat := 128

/-- Characters of context kept before a mark that is moved forward. -/
def relocationContext : Nat := 65

/-- The first `limit` characters of the text, with an ellipsis when that is not all of it. -/
def truncate (limit : Nat) (text : List Char) : List Char :=
  if text.length ≤ limit then text else text.take limit ++ ellipsis

/-- Drop what stands before a first mark that begins at or beyond the limit. -/
def relocate (limit : Nat) (text : List Char) : List Char :=
  match Text.cutAt? openTag text with
  | some (before, rest) =>
      if relocationThreshold < limit ∧ limit ≤ before.length then
        before.drop (before.length - relocationContext) ++ openTag ++ rest
      else text
  | none => text

/-- Drop the beginning of a mark tag at the end of a text. -/
def dropPartialTag (text : List Char) : List Char :=
  match Text.cutAtLast? '<' text with
  | some (before, tail) =>
      if ('<' :: tail).isPrefixOf openTag || ('<' :: tail).isPrefixOf closeTag then before
      else text
  | none => text

/-- Close a mark that a cut left open. -/
def closeMark (text : List Char) : List Char :=
  if Text.occurrences closeTag text < Text.occurrences openTag text then text ++ closeTag
  else text

/-- The marked text cut near `limit` characters, with a late first mark moved forward. -/
def bound (limit : Nat) (text : List Char) : List Char :=
  if Text.contains openTag text then
    let moved := relocate limit text
    if moved.length ≤ limit then moved
    else closeMark (dropPartialTag (moved.take limit)) ++ ellipsis
  else truncate limit text

/-! ## Cutting by byte positions -/

/-- Most characters that are walked back from a mark that is moved forward. -/
def relocationWalk : Nat := 512

/-- Most characters of context behind the place at which the walk back ends. -/
def relocationKeep : Nat := 64

/-- The text before the character with the number `limit`, with an ellipsis. -/
def truncateAt? (limit : Nat) (text : List Char) : Option (List Char) :=
  match (Text.positions text)[limit]? with
  | none => some text
  | some position => (Text.sides? position text).map fun sides => sides.1 ++ ellipsis

/--
Drop what stands before the last character of the walk back from a first mark that begins at or
beyond the limit. There is none when nothing can be walked back.
-/
def relocateAt? (limit : Nat) (text : List Char) : Option (List Char) :=
  match Text.firstPosition? openTag text with
  | none => some text
  | some position => do
      let (before, _) ← Text.sides? position text
      if relocationThreshold < limit ∧ limit ≤ before.length then
        match (before.reverse.take (min relocationWalk (relocationKeep + 1))).length with
        | 0 => none
        | last + 1 => do
            let start := ((Text.positions before).reverse[last]?).getD position
            let (_, moved) ← Text.sides? start text
            some moved
      else some text

/-- Drop the beginning of a mark tag from the position of the last bracket on. -/
def dropPartialTagAt? (text : List Char) : Option (List Char) :=
  match Text.lastPosition? '<' text with
  | none => some text
  | some position => do
      let (before, tail) ← Text.sides? position text
      if tail.isPrefixOf openTag || tail.isPrefixOf closeTag then some before else some text

/-- The marked text cut near `limit` characters; none when it would be cut inside of one. -/
def boundAt? (limit : Nat) (text : List Char) : Option (List Char) :=
  if Text.contains openTag text then do
    let moved ← relocateAt? limit text
    if moved.length ≤ limit then some moved
    else
      match (Text.positions moved)[limit]? with
      | none => some moved
      | some position => do
          let (head, _) ← Text.sides? position moved
          let whole ← dropPartialTagAt? head
          some (closeMark whole ++ ellipsis)
  else truncateAt? limit text

end Mark
end BlockSearch
