import BlockSearch.Decimal.Literal
import BlockSearch.Text.Hexadecimal
import BlockSearch.Text.Occurrence
import BlockSearch.Toml.Value

/-!
# Numbers of TOML

A whole number is decimal with an optional sign, or has a mark for its base and no sign. Single
underscores may stand between digits. A decimal number does not begin with a needless zero.
-/

namespace BlockSearch
namespace Toml
namespace Number

/-- The digits of a number without the underscores between them. -/
def digits? (isDigit : Char → Bool) (text : List Char) : Option (List Char) :=
  let groups := Text.splitOn ['_'] text
  if groups.all fun group => !group.isEmpty && group.all isDigit then some groups.flatten
  else none

/-- The digits of a decimal number that has no needless zero. -/
def decimal? (text : List Char) : Option (List Char) :=
  match digits? Char.isDigit text with
  | some ('0' :: _ :: _) => none
  | digits => digits

/-- A sign, if there is one, and what follows it. -/
def sign (text : List Char) : Bool × List Char := NumberLiteral.sign text

/-- The number that digits of a base spell. -/
def inBase? (base : Nat) (text : List Char) : Option Nat :=
  let isDigit (c : Char) : Bool := ((Text.hexValue? c).map (decide <| · < base)).getD false
  (digits? isDigit text).map fun digits =>
    digits.foldl (fun n c => n * base + (Text.hexValue? c).getD 0) 0

/-- The whole number that a word spells. -/
def integer? (text : List Char) : Option Int :=
  match text with
  | '0' :: 'x' :: rest => (inBase? 16 rest).map Int.ofNat
  | '0' :: 'o' :: rest => (inBase? 8 rest).map Int.ofNat
  | '0' :: 'b' :: rest => (inBase? 2 rest).map Int.ofNat
  | _ =>
      let (negative, rest) := sign text
      (decimal? rest).map fun digits =>
        let n : Int := NumberLiteral.ofDigits digits
        if negative then -n else n

/-- The whole numbers that a document may hold. -/
def inRange (n : Int) : Bool :=
  -170141183460469231731687303715884105728 ≤ n && n < 340282366920938463463374607431768211456

/-- Whether a word is an exponent with its mark, or nothing. -/
def isExponent : List Char → Bool
  | [] => true
  | _ :: text => (digits? Char.isDigit (sign text).2).isSome

/-- Whether a word is a fraction with its point and perhaps an exponent, or just an exponent. -/
def isFraction (text : List Char) : Bool :=
  let isMark (c : Char) : Bool := c == 'e' || c == 'E'
  match text with
  | '.' :: rest =>
      (digits? Char.isDigit (rest.takeWhile fun c => !isMark c)).isSome &&
        isExponent (rest.dropWhile fun c => !isMark c)
  | [] => false
  | c :: rest => isMark c && isExponent (c :: rest)

/-- Whether a word is a number with a fraction or an exponent, or no finite number. -/
def isFloat (text : List Char) : Bool :=
  let rest := (sign text).2
  let isPart (c : Char) : Bool := c.isDigit || c == '_'
  rest == "inf".toList || rest == "nan".toList ||
    ((decimal? (rest.takeWhile isPart)).isSome && isFraction (rest.dropWhile isPart))

/-- The number that a word spells. -/
def read? (text : List Char) : Option Toml :=
  match integer? text with
  | some n => if inRange n then some (.integer n) else none
  | none => if isFloat text then some (.float (String.ofList text)) else none

end Number
end Toml
end BlockSearch
