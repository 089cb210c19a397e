import BlockSearch.Toml.Value

/-!
# Building tables

Lines of a document add keys and tables to the tables above them. A key has one value, a table
one header, and a table that is closed, or that has other lines of its own, cannot be added to.
-/

namespace BlockSearch
namespace Toml

/-- A table with another value for a key that it has. -/
def replaceValue (members : Members) (key : String) (value : Toml) : Members :=
  members.map fun named => if named.1 == key then (key, value) else named

/-- A table with one more value, unless it has the key already. -/
def insertNew? (key : String) (value : Toml) (members : Members) : Option Members :=
  if (find? members key).isSome then none else some (members ++ [(key, value)])

/--
Change the table that a path leads to, and create the tables on the way. A path of a dotted
key does not lead through tables with headers; no path leads through closed tables.
-/
def inside?
    (dotted : Bool)
    (change : TableForm → Members → Option Members) :
    (path : List String) → TableForm → Members → Option Members
  | [], form, members => change form members
  | key :: path, _, members =>
      match find? members key with
      | none =>
          let form := if dotted then .dotted else .passed
          (inside? dotted change path form []).map fun inner =>
            members ++ [(key, .table form inner)]
      | some (.table form inner) =>
          if form == .closed || (dotted && !form.isOpen) then none
          else
            (inside? dotted change path form inner).map fun inner =>
              replaceValue members key (.table form inner)
      | some (.tables items) =>
          match items.getLast? with
          | some last =>
              (inside? dotted change path .header last).map fun inner =>
                replaceValue members key (.tables (items.dropLast ++ [inner]))
          | none => none
      | some _ => none

/-- A table with a value for a key that a path of dots leads to. -/
def assign?
    (path : List String)
    (key : String)
    (value : Toml) : TableForm → Members → Option Members :=
  inside? true
    (fun form members =>
      if (form == .dotted) == path.isEmpty then none else insertNew? key value members)
    path

/-- A document with a table at a path. -/
def addTable? (path : List String) (key : String) : Members → Option Members :=
  inside? false
    (fun _ members =>
      match find? members key with
      | some (.table .passed inner) => some (replaceValue members key (.table .header inner))
      | _ => insertNew? key (.table .header []) members)
    path .header

/-- A document with one more table in the list at a path. -/
def addItem? (path : List String) (key : String) : Members → Option Members :=
  inside? false
    (fun _ members =>
      match find? members key with
      | some (.tables items) => some (replaceValue members key (.tables (items ++ [[]])))
      | _ => insertNew? key (.tables [[]]) members)
    path .header

/-- A line of a document. -/
inductive Line
  /-- A key with the path that leads to it, and its value. -/
  | assignment (path : List String) (key : String) (value : Toml)
  /-- The header of a table. -/
  | header (path : List String) (key : String)
  /-- The header of a table in a list. -/
  | itemHeader (path : List String) (key : String)
  deriving Inhabited

/-- A document up to some line: what it holds, and the path of the last header. -/
structure Draft where
  /-- What the document holds. -/
  members : Members
  /-- Where the next key belongs. -/
  place : List String

namespace Draft

/-- A document without lines. -/
def empty : Draft := ⟨[], []⟩

/-- Add a line. -/
def add? (draft : Draft) : Line → Option Draft
  | .assignment path key value =>
      (inside? false (assign? path key value) draft.place .header draft.members).map
        fun members => { draft with members }
  | .header path key =>
      (addTable? path key draft.members).map fun members => ⟨members, path ++ [key]⟩
  | .itemHeader path key =>
      (addItem? path key draft.members).map fun members => ⟨members, path ++ [key]⟩

end Draft

/-- The document that lines make. -/
def ofLines? (lines : List Line) : Option Members :=
  (lines.foldlM Draft.add? Draft.empty).map Draft.members

/-- The table between braces that keys and values make. -/
def ofPairs? (pairs : List ((List String × String) × Toml)) : Option Toml :=
  (pairs.foldlM
    (fun members pair => assign? pair.1.1 pair.1.2 pair.2 .header members) []).map (.table .closed)

end Toml
end BlockSearch
