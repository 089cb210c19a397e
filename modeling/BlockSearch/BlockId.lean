import BlockSearch.Text.Range

/-!
# Block identifiers

A block identifier is a creation time of fourteen digits, a dash, and seven lower-case
letters or digits.
-/

namespace BlockSearch
namespace BlockId

/-- The number of digits of the creation time. -/
def stampLength : Nat := 14

/-- The number of characters after the dash. -/
def tailLength : Nat := 7

/-- The characters allowed after the dash. -/
def isTailChar (c : Char) : Bool :=
  ('0' ≤ c && c ≤ '9') || ('a' ≤ c && c ≤ 'z')

/-- Whether the text is a block identifier. The digits may be of any script. -/
def accepts (text : List Char) : Bool :=
  match text.drop stampLength with
  | dash :: tail =>
      (text.take stampLength).all Text.isDecimalDigit && dash == '-' &&
        tail.length == tailLength && tail.all isTailChar
  | [] => false

/-- Whether the string is a block identifier. -/
def isBlockId (id : String) : Bool := accepts id.toList

end BlockId
end BlockSearch
