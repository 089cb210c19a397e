/-!
# JSON values

A JSON value keeps the members of an object in their written order and a number as the
text it was written with.
-/

namespace BlockSearch

/-- A JSON value. -/
inductive Json
  /-- The value `null`. -/
  | null
  /-- A truth value. -/
  | bool (value : Bool)
  /-- A number, as it is written. -/
  | number (literal : String)
  /-- A text. -/
  | string (value : String)
  /-- A list of values. -/
  | array (items : List Json)
  /-- A list of named values; a name may occur more than once. -/
  | object (members : List (String × Json))
  deriving Repr, Inhabited

namespace Json

/-- A natural number as a value. -/
def ofNat (n : Nat) : Json := .number (toString n)

/-- An integer as a value. -/
def ofInt : Int → Json
  | .ofNat n => .number (toString n)
  | .negSucc n => .number ("-" ++ toString (n + 1))

/-- A list of texts as a value. -/
def ofStrings (texts : List String) : Json := .array (texts.map .string)

/-- The first member of an object with a name. -/
def get? (json : Json) (name : String) : Option Json :=
  match json with
  | .object members => (members.find? (·.1 == name)).map (·.2)
  | _ => none

/-- The text of a value that is one. -/
def string? : Json → Option String
  | .string value => some value
  | _ => none

/-- The truth value of a value that is one. -/
def bool? : Json → Option Bool
  | .bool value => some value
  | _ => none

/-- The items of a value that is a list. -/
def items? : Json → Option (List Json)
  | .array items => some items
  | _ => none

/-- The members of a value that has any. -/
def members? : Json → Option (List (String × Json))
  | .object members => some members
  | _ => none

/-- The natural number that a value is written as, without fraction and exponent. -/
def nat? : Json → Option Nat
  | .number literal =>
      if literal.toList.all Char.isDigit then literal.toNat? else none
  | _ => none

/-- The integer that a value is written as, without fraction and exponent. -/
def int? : Json → Option Int
  | .number literal =>
      match literal.toList with
      | '-' :: digits =>
          if digits.all Char.isDigit then
            (String.ofList digits).toNat?.map fun n => -(n : Int)
          else none
      | _ => (nat? (.number literal)).map Int.ofNat
  | _ => none

mutual

/-- The number of lists and objects that the deepest part of a value lies in. -/
def depth : Json → Nat
  | .array items => itemsDepth items + 1
  | .object members => membersDepth members + 1
  | _ => 0

/-- The greatest depth among the items of a list. -/
def itemsDepth : List Json → Nat
  | [] => 0
  | item :: items => max item.depth (itemsDepth items)

/-- The greatest depth among the members of an object. -/
def membersDepth : List (String × Json) → Nat
  | [] => 0
  | (_, value) :: members => max value.depth (membersDepth members)

end

/--
The fields of a record, in the order of their names, each missing or given. A record is
written as an object, whose unknown members do not count and whose known names must not
repeat, or as a list of its fields from the first on.
-/
def fields? (names : List String) : Json → Option (List (Option Json))
  | .object members =>
      names.mapM fun name =>
        match members.filter (·.1 == name) with
        | [] => some none
        | [(_, value)] => some (some value)
        | _ => none
  | .array items =>
      if items.length ≤ names.length then
        some (items.map some ++ List.replicate (names.length - items.length) none)
      else none
  | _ => none

end Json
end BlockSearch
