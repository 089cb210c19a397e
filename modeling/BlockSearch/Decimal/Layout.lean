import BlockSearch.Decimal.Nearest

/-!
# Written doubles

Three ways to write a double: with all its places, as a number of a JSON text, and with
fifteen digits as a value of a statement.
-/

namespace BlockSearch
namespace Decimal

/-- The digits of a natural number. -/
def digitChars (n : Nat) : List Char := Nat.toDigits 10 n

/-- Some number of zeros. -/
def zeros (count : Nat) : List Char := List.replicate count '0'

/-- Digits with a point behind some of them; `point` counts from the first digit. -/
def withPoint (digits : List Char) (point : Int) : List Char :=
  if point ≤ 0 then '0' :: '.' :: zeros point.natAbs ++ digits
  else digits.take point.toNat ++ '.' :: digits.drop point.toNat

/-- The sign of a number. -/
def sign (negative : Bool) : List Char := if negative then ['-'] else []

/-- A decimal with all its places and no exponent. -/
def positional (decimal : Decimal) : List Char :=
  let digits := digitChars decimal.digits
  if 0 ≤ decimal.exponent then digits ++ zeros decimal.exponent.toNat
  else withPoint digits (digits.length + decimal.exponent)

/-- The shortest text of a double that is read back, with all its places. -/
def plain (x : Float) : List Char :=
  match Magnitude.ofFloat x with
  | (negative, .finite units exponent) => sign negative ++ positional (shortest units exponent)
  | (negative, .infinite) => sign negative ++ ['i', 'n', 'f']
  | (_, .nan) => ['N', 'a', 'N']

/-- Most places before the point of a JSON number without an exponent. -/
def jsonPlaces : Int := 16

/-- Most zeros behind the point of a JSON number without an exponent, plus one. -/
def jsonZeros : Int := 5

/-- A decimal as a JSON number. -/
def jsonDigits (decimal : Decimal) : List Char :=
  let digits := digitChars decimal.digits
  let point : Int := digits.length + decimal.exponent
  if decimal.digits = 0 then ['0', '.', '0']
  else if 0 ≤ decimal.exponent && point ≤ jsonPlaces then
    digits ++ zeros decimal.exponent.toNat ++ ['.', '0']
  else if -jsonZeros < point && point ≤ jsonPlaces then withPoint digits point
  else
    let mantissa := if digits.length = 1 then digits else withPoint digits 1
    mantissa ++ 'e' :: (toString (point - 1)).toList

/-- The shortest JSON number that is read back as a double; other values are `null`. -/
def json (x : Float) : String :=
  match Magnitude.ofFloat x with
  | (negative, .finite units exponent) =>
      String.ofList (sign negative ++ jsonDigits (shortest units exponent))
  | _ => "null"

/-- The number of digits of a real value of a statement as text. -/
def statementDigits : Nat := 15

/-- Digits without the zeros at their end. -/
def dropZeros (digits : List Char) : List Char :=
  (digits.reverse.dropWhile (· == '0')).reverse

/-- Digits behind a point, of which there is at least one. -/
def fraction (digits : List Char) : List Char :=
  let digits := dropZeros digits
  '.' :: (if digits.isEmpty then ['0'] else digits)

/-- An exponent of at least two digits with its sign. -/
def exponentText (exponent : Int) : List Char :=
  let digits := digitChars exponent.natAbs
  'e' :: (if exponent < 0 then '-' else '+') :: zeros (2 - digits.length) ++ digits

/-- A decimal of fifteen digits; a point is always written. -/
def statementText (decimal : Decimal) : List Char :=
  let digits := digitChars decimal.digits
  let exponent : Int := decimal.exponent + digits.length - 1
  if decimal.digits = 0 then ['0', '.', '0']
  else if exponent < -4 || (statementDigits : Int) ≤ exponent then
    digits.take 1 ++ fraction (digits.drop 1) ++ exponentText exponent
  else if exponent < 0 then '0' :: '.' :: zeros (exponent.natAbs - 1) ++ dropZeros digits
  else digits.take (exponent.toNat + 1) ++ fraction (digits.drop (exponent.toNat + 1))

/-- A real value of a statement as text. -/
def statement (x : Float) : List Char :=
  match Magnitude.ofFloat x with
  | (negative, .finite units exponent) =>
      (if units = 0 then [] else sign negative) ++
        statementText (rounded statementDigits units exponent)
  | (negative, .infinite) => sign negative ++ ['I', 'n', 'f']
  | (_, .nan) => []

end Decimal
end BlockSearch
