import BlockSearch.Config.Layer
import BlockSearch.Distinct
import BlockSearch.Library.Path
import BlockSearch.Search.Settings

/-!
# Merging configuration

The configuration is what remains visible when the files are laid over each other, the closest
on top and the defaults at the bottom. Paths belong to the directory of the file they stand in.
-/

namespace BlockSearch

/-- A failure to find the configuration. -/
inductive ConfigError
  /-- A file could not be read. -/
  | unreadable (path : String)
  /-- The text of a file is not what it should be. -/
  | invalid (path : String)
  /-- A path begins at the home directory, and there is none. -/
  | noHome
  /-- A file with relative paths lies in no directory. -/
  | noParent (path : String)
  deriving DecidableEq, Repr

/-- The message that tells a user about a failure. -/
def ConfigError.message : ConfigError → String
  | .unreadable path => "failed to read config file " ++ path ++ ": not a readable file"
  | .invalid path => "failed to parse config file " ++ path ++ ": not a configuration"
  | .noHome => "could not determine home directory"
  | .noParent path => "config file has no parent directory: " ++ path

/-- A configuration. -/
structure Config where
  /-- The settings of searches. -/
  search : SearchSettings := {}
  /-- The places of the store. -/
  store : StorePlaces := {}
  /-- The names of boxes, in the order of the boxes. -/
  notebooks : List (String × String) := []
  /-- The directory of the closest file. -/
  root : Option String := none

/-- A configuration file. -/
structure ConfigFile where
  /-- Where the file lies. -/
  path : String
  /-- What it gives. -/
  layer : ConfigLayer

namespace SearchLayer

/-- Settings with a layer over them. -/
def cover (layer : SearchLayer) (below : SearchSettings) : SearchSettings where
  limit := layer.limit.getD below.limit
  caseSensitive := layer.caseSensitive.getD below.caseSensitive
  name := layer.name.getD below.name
  aliases := layer.aliases.getD below.aliases
  memo := layer.memo.getD below.memo
  ial := layer.ial.getD below.ial
  referenceTextLimit := layer.referenceTextLimit.getD below.referenceTextLimit
  types := fun type => (layer.types.bind fun types => types type).getD (below.types type)

end SearchLayer

/-- A path with the home directory in the place of a tilde at its front. -/
def Path.expand? (home : Option String) (path : String) : Option String :=
  match path.toList with
  | ['~'] => home
  | '~' :: '/' :: rest => home.map fun home => Path.join home (String.ofList rest)
  | _ => some path

/-- A path of a configuration file in a directory. -/
def Path.resolve (home : Option String) (directory path : String) : Except ConfigError String :=
  match Path.expand? home path with
  | some path => .ok (Path.join directory path)
  | none => .error .noHome

namespace StorePlaces

/-- A path of a layer, or else the one below it. -/
def placeOver
    (home : Option String)
    (directory : String)
    (path below : Option String) : Except ConfigError (Option String) :=
  match path with
  | some path => (Path.resolve home directory path).map some
  | none => .ok below

/-- Places with a layer over them, in the directory of its file. -/
def cover
    (layer : StorePlaces)
    (home : Option String)
    (directory : String)
    (below : StorePlaces) : Except ConfigError StorePlaces := do
  let database ← placeOver home directory layer.database below.database
  let trees ← placeOver home directory layer.trees below.trees
  .ok ⟨database, trees⟩

end StorePlaces

namespace ConfigFile

/-- Settings of searches with a file over them. -/
def searchOver (file : ConfigFile) (below : SearchSettings) : SearchSettings :=
  match file.layer.search with
  | some layer => layer.cover below
  | none => below

/-- Places of a store with a file over them. -/
def placesOver
    (home : Option String)
    (file : ConfigFile)
    (below : StorePlaces) : Except ConfigError StorePlaces :=
  match file.layer.store, Path.parent? file.path with
  | none, _ => .ok below
  | some _, none => .error (.noParent file.path)
  | some layer, some directory => layer.cover home directory below

/-- The names of boxes that a file gives. -/
def notebooks (file : ConfigFile) : List (String × String) := file.layer.notebooks.getD []

end ConfigFile

namespace Config

/-- The settings of searches that files give, the closest file first. -/
def mergeSearch (files : List ConfigFile) : SearchSettings :=
  files.foldr ConfigFile.searchOver {}

/-- The places of the store that files give, the closest file first. -/
def mergePlaces (home : Option String) (files : List ConfigFile) : Except ConfigError StorePlaces :=
  files.foldr (fun file below => below.bind (file.placesOver home)) (.ok {})

/-- The names of boxes that files give, the closest file first, in the order of the boxes. -/
def mergeNotebooks (files : List ConfigFile) : List (String × String) :=
  (distinctBy (·.1) (files.flatMap ConfigFile.notebooks)).mergeSort fun a b => a.1 ≤ b.1

/-- The configuration that files give, the closest file first. -/
def merge (home : Option String) (files : List ConfigFile) : Except ConfigError Config := do
  let store ← mergePlaces home files
  .ok
    { search := mergeSearch files
      store
      notebooks := mergeNotebooks files
      root := files.head?.bind fun file => Path.parent? file.path }

end Config
end BlockSearch
