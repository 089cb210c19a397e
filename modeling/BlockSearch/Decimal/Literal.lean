/-!
# Numbers in texts

A number is a sign, digits with an optional point, and an optional exponent. Numbers without
point and exponent are whole.
-/

namespace BlockSearch

/-- A number as it is written. -/
structure NumberLiteral where
  /-- Whether there is a minus sign. -/
  negative : Bool
  /-- All digits before the exponent. -/
  digits : Nat
  /-- The power of ten that the digits are multiplied by. -/
  exponent : Int
  /-- Whether there is neither point nor exponent. -/
  whole : Bool
  deriving DecidableEq, Repr

namespace NumberLiteral

/-- The natural number that decimal digits spell. -/
def ofDigits (digits : List Char) : Nat :=
  digits.foldl (fun n c => 10 * n + (c.toNat - 48)) 0

/-- A sign, if there is one, and what follows it. -/
def sign : List Char → Bool × List Char
  | '-' :: rest => (true, rest)
  | '+' :: rest => (false, rest)
  | text => (false, text)

/-- An exponent, if there is one with digits, and what follows it. -/
def exponent? : List Char → Option (Int × List Char)
  | c :: rest =>
      if c = 'e' || c = 'E' then
        let (negative, rest) := sign rest
        let digits := rest.takeWhile Char.isDigit
        let value : Int := ofDigits digits
        if digits.isEmpty then none
        else some (if negative then -value else value, rest.dropWhile Char.isDigit)
      else none
  | [] => none

/-- The number at the front of a text, and what follows it. -/
def read? (text : List Char) : Option (NumberLiteral × List Char) :=
  let (negative, rest) := sign text
  let before := rest.takeWhile Char.isDigit
  let rest := rest.dropWhile Char.isDigit
  let (pointed, behind, rest) :=
    match rest with
    | '.' :: rest => (true, rest.takeWhile Char.isDigit, rest.dropWhile Char.isDigit)
    | rest => (false, [], rest)
  if before.isEmpty && behind.isEmpty then none
  else
    let digits := ofDigits (before ++ behind)
    match exponent? rest with
    | some (value, rest) => some (⟨negative, digits, value - behind.length, false⟩, rest)
    | none => some (⟨negative, digits, -behind.length, !pointed⟩, rest)

/-- The whole number that is written, if the literal is one. -/
def int? (literal : NumberLiteral) : Option Int :=
  if literal.whole then
    some (if literal.negative then -(literal.digits : Int) else literal.digits)
  else none

/-- The double nearest to the number. -/
def toFloat (literal : NumberLiteral) : Float :=
  let value :=
    Float.ofScientific literal.digits (literal.exponent < 0) literal.exponent.natAbs
  if literal.negative then -value else value

end NumberLiteral
end BlockSearch
