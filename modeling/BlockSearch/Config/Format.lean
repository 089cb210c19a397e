import BlockSearch.Config.Merge
import BlockSearch.Toml.Printer

/-!
# Writing configuration

A configuration is written as a configuration file that gives every setting.
-/

namespace BlockSearch
namespace Config

/-- The table of the settings of searches. -/
def searchLines (search : SearchSettings) : List Char :=
  Toml.writeHeader "search" ++
    Toml.writeNat "limit" search.limit ++
    Toml.writeFlag "case_sensitive" search.caseSensitive ++
    Toml.writeFlag "name" search.name ++
    Toml.writeFlag "alias" search.aliases ++
    Toml.writeFlag "memo" search.memo ++
    Toml.writeFlag "ial" search.ial ++
    Toml.writeNat "ref_text_max_len" search.referenceTextLimit

/-- The table of the types that are searched. -/
def typeLines (types : BlockType → Bool) : List Char :=
  Toml.writeHeader "search.types" ++
    BlockType.all.flatMap fun type => Toml.writeFlag type.settingName (types type)

/-- The line of a path that may be missing. -/
def placeLine (key : String) (path : Option String) : List Char :=
  match path with
  | some path => Toml.writeText key path
  | none => []

/-- The table of the places of the store. -/
def storeLines (store : StorePlaces) : List Char :=
  Toml.writeHeader "store" ++ placeLine "database" store.database ++ placeLine "trees" store.trees

/-- The table of the names of boxes. -/
def notebookLines (notebooks : List (String × String)) : List Char :=
  Toml.writeHeader "notebooks" ++ notebooks.flatMap fun named => Toml.writeText named.1 named.2

/-- The text of a configuration. -/
def print (config : Config) : String :=
  String.ofList
    (searchLines config.search ++ '\n' :: typeLines config.search.types ++
      '\n' :: storeLines config.store ++ '\n' :: notebookLines config.notebooks)

end Config
end BlockSearch
