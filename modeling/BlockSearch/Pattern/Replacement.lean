import BlockSearch.Pattern.Match

/-!
# Replacement text

The text put in the place of a match can refer to the groups of the pattern: `$name`,
`$1` or, in braces, any name. A dollar sign that begins no reference stands for itself, and
two of them stand for one.
-/

namespace BlockSearch

/-- A part of a replacement text. -/
inductive Replacement.Piece
  /-- Text that is put in as it is. -/
  | text (text : List Char)
  /-- The text of a group. -/
  | reference (name : List Char)
  deriving DecidableEq, Repr

namespace Replacement

/-- The characters of a name that stands without braces. -/
def isNameChar (c : Char) : Bool := c.isAlphanum || c == '_'

/-- The reference behind a dollar sign, and what follows it. -/
def reference? (text : List Char) : Option (List Char × List Char) :=
  match text with
  | '{' :: rest =>
      if rest.contains '}' then
        some (rest.takeWhile (· != '}'), (rest.dropWhile (· != '}')).drop 1)
      else none
  | _ =>
      let name := text.takeWhile isNameChar
      if name.isEmpty then none else some (name, text.dropWhile isNameChar)

/-- The parts of a replacement text; `fuel` bounds their number. -/
def readWithin : (fuel : Nat) → List Char → List Piece
  | 0, _ => []
  | fuel + 1, text =>
      let before := text.takeWhile (· != '$')
      match text.dropWhile (· != '$') with
      | [] => [.text before]
      | _ :: '$' :: rest => .text before :: .text ['$'] :: readWithin fuel rest
      | _ :: rest =>
          match reference? rest with
          | some (name, rest) => .text before :: .reference name :: readWithin fuel rest
          | none => .text before :: .text ['$'] :: readWithin fuel rest

/-- The parts of a replacement text. -/
def read (text : List Char) : List Piece := readWithin (text.length + 1) text

/-- The number that a name spells; a plus sign may stand before it. -/
def number? (name : List Char) : Option Nat :=
  let digits := match name with
    | '+' :: rest => rest
    | _ => name
  if !digits.isEmpty && digits.all Char.isDigit then (String.ofList digits).toNat? else none

/-- The group that a name refers to, by its number or by its name. -/
def group? (names : List (String × Nat)) (name : List Char) : Option Nat :=
  match number? name with
  | some index => some index
  | none => (names.find? fun entry => entry.1 == String.ofList name).map fun entry => entry.2

/-- The text of a group in a match; the whole match is group zero. -/
def groupText
    (names : List (String × Nat))
    (whole : List Char)
    (captures : List (Nat × List Char))
    (name : List Char) : List Char :=
  match group? names name with
  | some 0 => whole
  | some index =>
      ((captures.find? fun entry => entry.1 == index).map fun entry => entry.2).getD []
  | none => []

/-- What a part puts in the place of a match. -/
def Piece.expand
    (names : List (String × Nat))
    (whole : List Char)
    (captures : List (Nat × List Char)) : Piece → List Char
  | .text content => content
  | .reference name => groupText names whole captures name

end Replacement

namespace Pattern

/-- A part of a searched text, with a match replaced. -/
def Part.replaced (names : List (String × Nat)) (pieces : List Replacement.Piece) :
    Part → List Char
  | .plain text => text
  | .hit text captures => pieces.flatMap (·.expand names text captures)

/-- The text with every match replaced. -/
def replaceAll (pattern : Pattern) (names : List (String × Nat))
    (replacement text : List Char) : List Char :=
  (pattern.parts text).flatMap (·.replaced names (Replacement.read replacement))

end Pattern
end BlockSearch
