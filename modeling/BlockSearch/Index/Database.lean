import BlockSearch.Index.Format
import BlockSearch.Library.Files
import BlockSearch.Search.Error

/-!
# Databases

A database is a file that holds a store. A file that is missing is created in its directory.
-/

namespace BlockSearch
namespace Database

/-- The failure to open a database. -/
def unopenable (path : String) : SearchError := .unopenable path "unable to open database file"

/-- The store that a file holds, and the files afterwards. -/
def openStore (files : Files) (path : String) : Except SearchError (Store × Files) :=
  match files.read? path with
  | some text =>
      match Store.read? text with
      | some store => .ok (store, files)
      | none => .error (unopenable path)
  | none =>
      match files.write? path (Store.print {}) with
      | some files => .ok ({}, files)
      | none => .error (unopenable path)

/-- The files with a store in its file. -/
def save (files : Files) (path : String) (store : Store) : Files :=
  (files.write? path store.print).getD files

end Database
end BlockSearch
