import BlockSearch.Search.BlockType
import BlockSearch.Toml.Reader

/-!
# Layers of configuration

A configuration file gives some of the settings and leaves others to the files below it.
-/

namespace BlockSearch

/-- The settings of searches that a file gives. -/
structure SearchLayer where
  /-- Most rows of a result. -/
  limit : Option Nat := none
  /-- Whether letters of different case differ. -/
  caseSensitive : Option Bool := none
  /-- Whether names are searched. -/
  name : Option Bool := none
  /-- Whether aliases are searched. -/
  aliases : Option Bool := none
  /-- Whether memos are searched. -/
  memo : Option Bool := none
  /-- Whether attributes are searched. -/
  ial : Option Bool := none
  /-- Most characters of the text of a reference. -/
  referenceTextLimit : Option Nat := none
  /-- Which types are searched when a request names none. -/
  types : Option (BlockType → Option Bool) := none
  deriving Inhabited

/-- Where the blocks and the documents are stored. -/
structure StorePlaces where
  /-- The path of the database. -/
  database : Option String := none
  /-- The path of the directory of documents. -/
  trees : Option String := none
  deriving DecidableEq, Repr, Inhabited

/-- What a configuration file gives. -/
structure ConfigLayer where
  /-- Whether the files above this one do not count. -/
  root : Option Bool := none
  /-- The settings of searches. -/
  search : Option SearchLayer := none
  /-- The places of the store. -/
  store : Option StorePlaces := none
  /-- The names of boxes. -/
  notebooks : Option (List (String × String)) := none
  deriving Inhabited

/-- A value that may be missing, but must be readable when it is given. -/
def optional?
    {α : Type}
    (read : Toml → Option α) : Option Toml → Option (Option α)
  | none => some none
  | some value => (read value).map some

namespace SearchLayer

/-- The names of the settings of searches, in their order. -/
def names : List String :=
  ["limit", "case_sensitive", "name", "alias", "memo", "ial", "ref_text_max_len", "types"]

/-- The value that a list, in the order of all types, gives a type. -/
def ofFlags (flags : List (Option Bool)) (type : BlockType) : Option Bool :=
  ((BlockType.all.zip flags).find? (·.1 == type)).bind (·.2)

/-- The types that a value names. -/
def types? (value : Toml) : Option (BlockType → Option Bool) := do
  let fields ← value.fields? (BlockType.all.map BlockType.settingName)
  let flags ← fields.mapM (optional? Toml.boolean?)
  some (ofFlags flags)

/-- The settings of searches that a value gives. -/
def ofToml? (value : Toml) : Option SearchLayer := do
  match ← value.fields? names with
  | [limit, caseSensitive, name, aliases, memo, ial, referenceTextLimit, types] =>
      some
        { limit := ← optional? Toml.natural? limit
          caseSensitive := ← optional? Toml.boolean? caseSensitive
          name := ← optional? Toml.boolean? name
          aliases := ← optional? Toml.boolean? aliases
          memo := ← optional? Toml.boolean? memo
          ial := ← optional? Toml.boolean? ial
          referenceTextLimit := ← optional? Toml.natural? referenceTextLimit
          types := ← optional? types? types }
  | _ => none

end SearchLayer

namespace StorePlaces

/-- The names of the places of the store, in their order. -/
def names : List String := ["database", "trees"]

/-- The places of the store that a value gives. -/
def ofToml? (value : Toml) : Option StorePlaces := do
  match ← value.fields? names with
  | [database, trees] =>
      some
        { database := ← optional? Toml.string? database
          trees := ← optional? Toml.string? trees }
  | _ => none

end StorePlaces

namespace ConfigLayer

/-- The names of boxes that a value gives. -/
def notebooks? (value : Toml) : Option (List (String × String)) := do
  (← value.members?).mapM fun named => named.2.string?.map fun name => (named.1, name)

/-- What a document gives. -/
def ofMembers? (members : Toml.Members) : Option ConfigLayer := do
  some
    { root := ← optional? Toml.boolean? (Toml.find? members "root")
      search := ← optional? SearchLayer.ofToml? (Toml.find? members "search")
      store := ← optional? StorePlaces.ofToml? (Toml.find? members "store")
      notebooks := ← optional? notebooks? (Toml.find? members "notebooks") }

/-- What the text of a file gives. -/
def read? (text : String) : Option ConfigLayer := (Toml.read? text).bind ofMembers?

end ConfigLayer
end BlockSearch
