import BlockSearch.Decimal.Double

/-!
# Decimals near a double

Of the decimals with a given number of digits the one that is nearest to a double; of two that
are equally near the greater one. And of the decimals that are read back as the double the one
with the fewest digits, and of those the nearest: it lies on the coarsest decimal grid with a
point in the interval of the numbers that round to the double, and is next to the double on that
grid.
-/

namespace BlockSearch
namespace Decimal

/-! ## A number of digits -/

/-- The coarsest grid on which a double has at least some number of digits. -/
def gridFor (units : Nat) (exponent : Int) (least : Nat) : (fuel : Nat) → Int → Int
  | 0, grid => grid
  | fuel + 1, grid =>
      let factor := Ratio.scale exponent grid
      if least ≤ units * factor.numerator / factor.denominator then grid
      else gridFor units exponent least fuel (grid - 1)

/-- The decimal with `count` digits that is nearest to `units * 2 ^ exponent`. -/
def rounded (count units : Nat) (exponent : Int) : Decimal :=
  if units = 0 then ⟨0, 0⟩
  else
    let grid :=
      gridFor units exponent (Nat.pow 10 (count - 1)) (count + 8) (leadingExponent units exponent)
    let factor := Ratio.scale exponent grid
    let doubled := 2 * units * factor.numerator + factor.denominator
    let digits := doubled / (2 * factor.denominator)
    if digits = Nat.pow 10 count then ⟨Nat.pow 10 (count - 1), grid + 1⟩ else ⟨digits, grid⟩

/-! ## The fewest digits -/

/-- The numbers that round to a double, in quarters of its unit. -/
structure RoundingInterval where
  /-- The lower end. -/
  low : Nat
  /-- The double itself. -/
  middle : Nat
  /-- The upper end. -/
  high : Nat
  /-- Whether the ends round to the double. -/
  closed : Bool
  deriving DecidableEq, Repr

/-- The interval of a double; below a power of two the neighbors lie closer. -/
def RoundingInterval.of (units : Nat) (exponent : Int) : RoundingInterval where
  low :=
    if units = Magnitude.fractionSize && exponent != Magnitude.leastExponent then
      4 * units - 1
    else 4 * units - 2
  middle := 4 * units
  high := 4 * units + 2
  closed := units % 2 == 0

/-- Whether a grid point lies in an interval whose ends are multiplied by a factor. -/
def RoundingInterval.contains (interval : RoundingInterval) (factor : Ratio) (point : Nat) :
    Bool :=
  let low := interval.low * factor.numerator
  let high := interval.high * factor.numerator
  let place := point * factor.denominator
  if interval.closed then low ≤ place && place ≤ high else low < place && place < high

/-- The grid point in the interval that is nearest to the double. -/
def nearestPoint? (interval : RoundingInterval) (factor : Ratio) : Option Nat :=
  let middle := interval.middle * factor.numerator
  let below := middle / factor.denominator
  let above := below + 1
  let belowFits := 0 < below && interval.contains factor below
  let aboveFits := interval.contains factor above
  if belowFits && aboveFits then
    if middle - below * factor.denominator ≤ above * factor.denominator - middle then some below
    else some above
  else if belowFits then some below
  else if aboveFits then some above
  else none

/-- The first hit on the grids from a power of ten downwards, at most `fuel` of them. -/
def searchGrids (interval : RoundingInterval) (exponent : Int) : (fuel : Nat) → Int → Decimal
  | 0, grid => ⟨0, grid⟩
  | fuel + 1, grid =>
      match nearestPoint? interval (.scale (exponent - 2) grid) with
      | some point => ⟨point, grid⟩
      | none => searchGrids interval exponent fuel (grid - 1)

/-- The number of grids from the first one that could be hit to the one that must be. -/
def gridCount : Nat := 24

/-- The shortest decimal that is read back as the double `units * 2 ^ exponent`. -/
def shortest (units : Nat) (exponent : Int) : Decimal :=
  if units = 0 then ⟨0, 0⟩
  else
    searchGrids (.of units exponent) exponent gridCount (leadingExponent units exponent)

end Decimal
end BlockSearch
