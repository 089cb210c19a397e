import BlockSearch.Decimal.Literal
import Mathlib.Data.List.Basic

/-!
# Digits of natural numbers

A natural number is written with decimal digits only, without needless zeros in front, and its
digits spell it.
-/

namespace BlockSearch
namespace NumberLiteral

theorem toList_toString (n : Nat) : (toString n).toList = Nat.toDigits 10 n := Nat.toList_repr

theorem isDigit_of_mem_toString
    {n : Nat}
    {c : Char}
    (member : c ∈ (toString n).toList) :
    c.isDigit = true := by
  rw [toList_toString] at member
  exact Nat.isDigit_of_mem_toDigits (by omega) (by omega) member

theorem toString_ne_nil (n : Nat) : (toString n).toList ≠ [] := by
  rw [toList_toString]
  exact Nat.toDigits_ne_nil

theorem ofDigits_toString (n : Nat) : ofDigits (toString n).toList = n := by
  rw [toList_toString]
  exact Nat.ofDigitChars_toDigits (by omega) (by omega)

/-- The digits of a positive number do not begin with a zero. -/
theorem head?_toDigits_ne_zero
    {n : Nat}
    (positive : 0 < n) :
    (Nat.toDigits 10 n).head? ≠ some '0' := by
  induction n using Nat.strongRecOn with
  | ind n inductionHypothesis =>
      rcases Nat.lt_or_ge n 10 with small | large
      · rw [Nat.toDigits_of_lt_base small]
        simp only [List.head?_cons, ne_eq, Option.some.injEq, Nat.digitChar_eq_zero]
        omega
      · rw [Nat.toDigits_of_base_le (by omega) large,
          List.head?_append_of_ne_nil _ Nat.toDigits_ne_nil]
        exact inductionHypothesis (n / 10) (by omega) (by omega)

/-- A number of several digits does not begin with a zero. -/
theorem first_ne_zero
    {n : Nat}
    {first second : Char}
    {others : List Char}
    (digits : (toString n).toList = first :: second :: others) :
    first ≠ '0' := by
  rintro rfl
  rcases Nat.eq_zero_or_pos n with rfl | positive
  · have zero : (toString 0).toList = ['0'] := rfl
    rw [zero] at digits
    cases digits
  · rw [toList_toString] at digits
    exact head?_toDigits_ne_zero positive (by rw [digits]; rfl)

theorem ne_of_isDigit
    {c d : Char}
    (digit : c.isDigit = true)
    (other : d.isDigit = false) :
    c ≠ d := by
  rintro rfl
  rw [digit] at other
  contradiction

/-- A text that begins with a digit has no sign. -/
theorem sign_of_isDigit
    {c : Char}
    (digit : c.isDigit = true)
    (rest : List Char) :
    sign (c :: rest) = (false, c :: rest) := by
  have noMinus : c ≠ '-' := ne_of_isDigit digit rfl
  have noPlus : c ≠ '+' := ne_of_isDigit digit rfl
  simp [sign, noMinus, noPlus]

end NumberLiteral
end BlockSearch
