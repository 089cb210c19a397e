/-!
# Doubles as exact numbers

A finite double is a whole number of units, where the unit is a power of two. Comparing and
rounding by that number is exact.
-/

namespace BlockSearch

/-- A double without its sign: `units * 2 ^ exponent`, or nothing that is a number. -/
inductive Magnitude
  /-- A finite value. -/
  | finite (units : Nat) (exponent : Int)
  /-- An infinite value. -/
  | infinite
  /-- No number. -/
  | nan
  deriving DecidableEq, Repr

namespace Magnitude

/-- The number of values of the fraction of a double, which has 52 bits. -/
def fractionSize : Nat := 4503599627370496

/-- The number of values of the exponent of a double, which has 11 bits. -/
def exponentSize : Nat := 2048

/-- The exponent of the smallest unit. -/
def leastExponent : Int := -1074

/-- The sign of a double, and the double without it. -/
def ofFloat (x : Float) : Bool × Magnitude :=
  let bits := x.toBits.toNat
  let negative := bits / fractionSize / exponentSize == 1
  let exponent : Nat := bits / fractionSize % exponentSize
  let fraction := bits % fractionSize
  if exponent = exponentSize - 1 then (negative, if fraction = 0 then .infinite else .nan)
  else if exponent = 0 then (negative, .finite fraction leastExponent)
  else
    (negative,
      .finite (fraction + fractionSize) ((exponent : Int) - 1 + leastExponent))

end Magnitude

/-- A quotient of natural numbers; the denominator is positive. -/
structure Ratio where
  /-- What is divided. -/
  numerator : Nat
  /-- What it is divided by. -/
  denominator : Nat
  deriving DecidableEq, Repr

namespace Ratio

/-- A natural number as a power of a base, for exponents that are not negative. -/
def power (base : Nat) (exponent : Int) : Nat := Nat.pow base exponent.toNat

/-- The factor `2 ^ two / 10 ^ ten`. -/
def scale (two ten : Int) : Ratio :=
  ⟨power 2 two * power 10 (-ten), power 2 (-two) * power 10 ten⟩

end Ratio

/-- A decimal number: `digits * 10 ^ exponent`. -/
structure Decimal where
  /-- The digits as a natural number. -/
  digits : Nat
  /-- The power of ten that they are multiplied by. -/
  exponent : Int
  deriving DecidableEq, Repr

namespace Decimal

/-- An exponent that no decimal of the size of `units * 2 ^ exponent` exceeds. -/
def leadingExponent (units : Nat) (exponent : Int) : Int :=
  ((Nat.log2 units : Int) + exponent) * 30103 / 100000 + 2

end Decimal
end BlockSearch
