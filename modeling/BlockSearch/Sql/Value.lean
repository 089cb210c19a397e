import BlockSearch.Decimal.Layout
import BlockSearch.Decimal.Literal
import BlockSearch.Text.Blank
import BlockSearch.Text.Decode

/-!
# Values of statements

A value is null, a whole number, a real number, a text or a list of bytes. Values are
ordered in this order of kinds, where numbers are ordered by size and all others by their
characters or bytes.
-/

namespace BlockSearch
namespace Sql

/-- A value. -/
inductive Value
  /-- The missing value. -/
  | null
  /-- A whole number of 64 bits. -/
  | integer (n : Int)
  /-- A real number. -/
  | real (x : Float)
  /-- A text. -/
  | text (text : String)
  /-- A list of bytes. -/
  | blob (bytes : List UInt8)
  deriving Repr, Inhabited

/-- The kind of values that a column prefers. -/
inductive Affinity
  /-- Any. -/
  | none
  /-- Text. -/
  | text
  /-- Numbers. -/
  | numeric
  deriving DecidableEq, Repr

/-- How texts are compared. -/
inductive Collation
  /-- By code points. -/
  | binary
  /-- By code points, after ASCII letters are put into lower case. -/
  | nocase
  deriving DecidableEq, Repr

namespace Value

/-- The least whole number. -/
def leastInteger : Int := -9223372036854775808

/-- The greatest whole number. -/
def greatestInteger : Int := 9223372036854775807

/-- Whether a number is a whole number of 64 bits. -/
def fitsInteger (n : Int) : Bool := leastInteger ≤ n && n ≤ greatestInteger

/-- A truth value. -/
def ofBool (value : Bool) : Value := .integer (if value then 1 else 0)

/-- A truth value that may be unknown. -/
def ofTruth (value : Option Bool) : Value := (value.map ofBool).getD .null

/-- The number that a literal spells; what does not fit a whole number is real. -/
def ofLiteral (literal : NumberLiteral) : Value :=
  match literal.int? with
  | some n => if fitsInteger n then .integer n else .real literal.toFloat
  | none => .real literal.toFloat

/-- The blanks around numbers in texts. -/
def isNumberBlank (c : Char) : Bool := c = ' ' || ('\t' ≤ c && c ≤ '\r')

/-- The number that a text spells, with blanks around it allowed. -/
def number? (text : List Char) : Option Value :=
  match NumberLiteral.read? (text.dropWhile isNumberBlank) with
  | some (literal, rest) => if rest.all isNumberBlank then some (ofLiteral literal) else none
  | none => none

/-- The text of a value that is not null, as expressions see it. -/
def toText : Value → List Char
  | .null => []
  | .integer n => (toString n).toList
  | .real x => Decimal.statement x
  | .text value => value.toList
  | .blob bytes => Text.decode bytes

/-- The number of bytes of a value as expressions see it. -/
def size : Value → Nat
  | .text value => value.utf8ByteSize
  | .blob bytes => bytes.length
  | value => (String.ofList value.toText).utf8ByteSize

/-- Whether a number is not zero; a text counts as the number at its front. -/
def truth : Value → Option Bool
  | .null => none
  | .integer n => some (n != 0)
  | .real x => some (x != 0.0)
  | .text value => some (front value.toList)
  | .blob bytes => some (front (Text.decode bytes))
where
  /-- Whether the number at the front of a text is not zero. -/
  front (text : List Char) : Bool :=
    match NumberLiteral.read? (text.dropWhile isNumberBlank) with
    | some (literal, _) => literal.toFloat != 0.0
    | none => false

/-- The negative of a value; a text counts as the number at its front. -/
def negate : Value → Value
  | .null => .null
  | .integer n => if fitsInteger (-n) then .integer (-n) else .real (-(Float.ofInt n))
  | .real x => .real (-x)
  | .text value => negative (front value.toList)
  | .blob bytes => negative (front (Text.decode bytes))
where
  /-- The number at the front of a text. -/
  front (text : List Char) : Value :=
    match NumberLiteral.read? (text.dropWhile isNumberBlank) with
    | some (literal, _) => ofLiteral literal
    | none => .integer 0
  /-- The negative of a number. -/
  negative : Value → Value
    | .integer n => if fitsInteger (-n) then .integer (-n) else .real (-(Float.ofInt n))
    | .real x => .real (-x)
    | value => value

/-- A value as a column with an affinity would hold it, next to another value. -/
def coerce (affinity : Affinity) (value other : Value) : Value :=
  match affinity, value, other with
  | .numeric, .text written, _ => (number? written.toList).getD value
  | .text, .integer _, .text _ => .text (String.ofList value.toText)
  | .text, .real _, .text _ => .text (String.ofList value.toText)
  | _, _, _ => value

/-- The order of two real numbers. -/
def realOrdering (x y : Float) : Ordering := if x < y then .lt else if y < x then .gt else .eq

/-- The order of a whole and a real number, by their exact values. -/
def mixedOrdering (n : Int) (x : Float) : Ordering :=
  match Magnitude.ofFloat x with
  | (negative, .finite units exponent) =>
      let units : Int := if negative then -(units : Int) else units
      compare (n * Ratio.power 2 (-exponent)) (units * Ratio.power 2 exponent)
  | (negative, _) => if negative then .gt else .lt

/-- The text by which a collation compares. -/
def collationKey (collation : Collation) (text : String) : String :=
  match collation with
  | .binary => text
  | .nocase => String.ofList (text.toList.map Char.toLower)

/-- The order of two lists of bytes. -/
def bytesOrdering : List UInt8 → List UInt8 → Ordering
  | [], [] => .eq
  | [], _ :: _ => .lt
  | _ :: _, [] => .gt
  | a :: left, b :: right =>
      if a < b then .lt else if b < a then .gt else bytesOrdering left right

/-- The place of the kind of a value among all kinds. -/
def kindRank : Value → Nat
  | .null => 0
  | .integer _ => 1
  | .real _ => 1
  | .text _ => 2
  | .blob _ => 3

/-- The order of two values. -/
def ordering (collation : Collation) : Value → Value → Ordering
  | .integer a, .integer b => compare a b
  | .integer a, .real b => mixedOrdering a b
  | .real a, .integer b => (mixedOrdering b a).swap
  | .real a, .real b => realOrdering a b
  | .text a, .text b => compare (collationKey collation a) (collationKey collation b)
  | .blob a, .blob b => bytesOrdering a b
  | a, b => compare a.kindRank b.kindRank

/-- The order of two values in a comparison, unless one is null. -/
def compared? (affinity : Affinity) (collation : Collation) (a b : Value) : Option Ordering :=
  match a, b with
  | .null, _ => none
  | _, .null => none
  | a, b =>
      some (ordering collation (a.coerce affinity b) (b.coerce affinity a))

/-! ## Values as fields of a record -/

/-- The text of a value as a field of a record; null is the empty text. -/
def fieldText : Value → String
  | .real x => String.ofList (Decimal.plain x)
  | value => String.ofList value.toText

/-- A number cut off at the ends of the whole numbers. -/
def saturate (n : Int) : Int := max leastInteger (min greatestInteger n)

/-- A real number without its fraction, cut off at the ends of the whole numbers. -/
def truncate (x : Float) : Int :=
  match Magnitude.ofFloat x with
  | (negative, .finite units exponent) =>
      let size : Int := (units * Ratio.power 2 exponent / Ratio.power 2 (-exponent) : Nat)
      saturate (if negative then -size else size)
  | (negative, .infinite) => if negative then leastInteger else greatestInteger
  | (_, .nan) => 0

/-- The whole number that a text spells, if it is one of 64 bits; otherwise zero. -/
def textInteger (text : List Char) : Int :=
  let (negative, digits) := NumberLiteral.sign (Text.trim text)
  if digits.isEmpty || !digits.all Char.isDigit then 0
  else
    let n : Int := NumberLiteral.ofDigits digits
    let n := if negative then -n else n
    if fitsInteger n then n else 0

/-- The whole number of a value as a field of a record. -/
def fieldInteger : Value → Int
  | .integer n => n
  | .real x => truncate x
  | .text value => textInteger value.toList
  | .null => 0
  | .blob _ => 0

end Value
end Sql
end BlockSearch
