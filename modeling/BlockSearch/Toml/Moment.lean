import BlockSearch.Decimal.Literal

/-!
# Dates and times of TOML

A date, a time, or a date and a time, which may be followed by the distance to universal time.
The seconds of a time may be missing.
-/

namespace BlockSearch
namespace Toml
namespace Moment

/-- The number that `count` digits at the front of a text spell, and what follows them. -/
def number? (count : Nat) (text : List Char) : Option (Nat × List Char) :=
  let digits := text.take count
  if digits.length = count && digits.all Char.isDigit then
    some (NumberLiteral.ofDigits digits, text.drop count)
  else none

/-- What follows a character at the front of a text. -/
def behind? (c : Char) : List Char → Option (List Char)
  | d :: rest => if d = c then some rest else none
  | [] => none

/-- Whether a year has a day more. -/
def isLeap (year : Nat) : Bool := (year % 4 == 0 && year % 100 != 0) || year % 400 == 0

/-- The number of days of a month. -/
def daysIn (year month : Nat) : Nat :=
  if month = 2 then if isLeap year then 29 else 28
  else if [4, 6, 9, 11].contains month then 30
  else 31

/-- What follows a date. -/
def date? (text : List Char) : Option (List Char) := do
  let (year, rest) ← number? 4 text
  let (month, rest) ← number? 2 (← behind? '-' rest)
  let (day, rest) ← number? 2 (← behind? '-' rest)
  if 1 ≤ month && month ≤ 12 && 1 ≤ day && day ≤ daysIn year month then some rest else none

/-- What follows hours and minutes. -/
def minutes? (text : List Char) : Option (List Char) := do
  let (hour, rest) ← number? 2 text
  let (minute, rest) ← number? 2 (← behind? ':' rest)
  if hour ≤ 23 && minute ≤ 59 then some rest else none

/-- What follows the fraction of a second, which may be missing. -/
def fraction? : List Char → Option (List Char)
  | '.' :: rest =>
      if (rest.takeWhile Char.isDigit).isEmpty then none else some (rest.dropWhile Char.isDigit)
  | text => some text

/-- What follows the seconds, which may be missing. -/
def seconds? : List Char → Option (List Char)
  | ':' :: rest => do
      let (second, rest) ← number? 2 rest
      if second ≤ 60 then fraction? rest else none
  | text => some text

/-- What follows a time. -/
def time? (text : List Char) : Option (List Char) := do seconds? (← minutes? text)

/-- Whether a text is a distance to universal time, or nothing. -/
def isDistance : List Char → Bool
  | [] => true
  | 'Z' :: rest => rest.isEmpty
  | 'z' :: rest => rest.isEmpty
  | '+' :: rest => minutes? rest == some []
  | '-' :: rest => minutes? rest == some []
  | _ => false

/-- Whether a text is a time with nothing behind it. -/
def isTime (text : List Char) : Bool := time? text == some []

/-- Whether a text is a date with nothing behind it. -/
def isDate (text : List Char) : Bool := date? text == some []

/-- Whether a text is a date and a time. -/
def isDateTime (text : List Char) : Bool :=
  match date? text with
  | some (c :: rest) =>
      (c == 'T' || c == 't' || c == ' ') && ((time? rest).map isDistance).getD false
  | _ => false

/-- Whether a text is a date, a time or both. -/
def accepts (text : List Char) : Bool := isDate text || isTime text || isDateTime text

end Moment
end Toml
end BlockSearch
