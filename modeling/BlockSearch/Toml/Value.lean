/-!
# TOML values

A value is kept with what later lines may do to it: how a table came to be, and whether a list
consists of tables that have headers of their own.
-/

namespace BlockSearch

/-- How a table came to be. -/
inductive TableForm
  /-- It has a header, or is the whole document. -/
  | header
  /-- Headers of tables inside it lead through it. -/
  | passed
  /-- Keys with dots lead through it. -/
  | dotted
  /-- It stands between braces. -/
  | closed
  deriving DecidableEq, Repr, Inhabited

/-- Whether dotted keys may lead through a table. -/
def TableForm.isOpen (form : TableForm) : Bool := form == .passed || form == .dotted

/-- A TOML value. The keys of a table differ. -/
inductive Toml
  /-- A text. -/
  | string (value : String)
  /-- A whole number. -/
  | integer (value : Int)
  /-- Another number, as it is written. -/
  | float (literal : String)
  /-- A truth value. -/
  | boolean (value : Bool)
  /-- A date, a time or both, as it is written. -/
  | date (literal : String)
  /-- A list between brackets. -/
  | array (items : List Toml)
  /-- A list of tables with headers. -/
  | tables (items : List (List (String × Toml)))
  /-- A table. -/
  | table (form : TableForm) (members : List (String × Toml))
  deriving Inhabited

/-- The named values of a table. -/
abbrev Toml.Members := List (String × Toml)

namespace Toml

/-- The key under which a date stands where a table is expected. -/
def dateKey : String := "$__toml_private_datetime"

/-- The value of a key. -/
def find? (members : Members) (key : String) : Option Toml :=
  (members.find? (·.1 == key)).map (·.2)

/-- The named values of a value that has any. -/
def members? : Toml → Option Members
  | .table _ members => some members
  | .date literal => some [(dateKey, .string literal)]
  | _ => none

/-- The items of a value that is a list. -/
def items? : Toml → Option (List Toml)
  | .array items => some items
  | .tables items => some (items.map fun members => .table .header members)
  | _ => none

/-- The text of a value that is one. -/
def string? : Toml → Option String
  | .string value => some value
  | _ => none

/-- The truth value of a value that is one. -/
def boolean? : Toml → Option Bool
  | .boolean value => some value
  | _ => none

/-- The natural number of a value that is one and takes no more than 64 bits. -/
def natural? : Toml → Option Nat
  | .integer (.ofNat n) => if n < UInt64.size then some n else none
  | _ => none

/--
The fields of a record, in the order of their names, each missing or given. A record is
written as a table, whose unknown keys do not count, or as a list of its fields from the
first on.
-/
def fields? (names : List String) (value : Toml) : Option (List (Option Toml)) :=
  match value.members?, value.items? with
  | some members, _ => some (names.map (find? members))
  | none, some items =>
      let padded := items.map some ++ List.replicate (names.length - items.length) none
      some (padded.take names.length)
  | none, none => none

end Toml
end BlockSearch
