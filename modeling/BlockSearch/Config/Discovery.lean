import BlockSearch.Config.Merge
import BlockSearch.Library.Files

/-!
# Finding configuration

Configuration files lie in the working directory and in the directories above it, up to a file
that calls itself the root. The file of the home directory comes last.
-/

namespace BlockSearch

namespace Path

/-- A path and the directories above it, as far as `fuel` reaches. -/
def upwards (fuel : Nat) (path : String) : List String :=
  match fuel, parent? path with
  | fuel + 1, some parent => path :: upwards fuel parent
  | _, _ => [path]

/-- A path and all directories above it. -/
def ancestors (path : String) : List String := upwards path.length path

end Path

namespace Config

/-- The name of configuration files. -/
def fileName : String := ".quarry.toml"

/-- The path of the configuration file in the home directory. -/
def homeFile? (home : Option String) : Option String :=
  home.map fun home => Path.join home fileName

/-- Whether a path is that of the configuration file in the home directory. -/
def isHomeFile (home : Option String) (path : String) : Bool :=
  ((homeFile? home).map (Path.same path)).getD false

/-- Whether a file says that it is the root. -/
def isRoot (files : Files) (path : String) : Bool :=
  (((files.read? path).bind ConfigLayer.read?).bind ConfigLayer.root).getD false

/-- The configuration files in some directories up to a root, and whether there is one. -/
def filesUpTo (files : Files) : List String → List String × Bool
  | [] => ([], false)
  | directory :: directories =>
      let path := Path.join directory fileName
      if files.isFile path then
        if isRoot files path then ([path], true)
        else
          let (found, hasRoot) := filesUpTo files directories
          (path :: found, hasRoot)
      else filesUpTo files directories

/-- The configuration file in the home directory, if it is there and not among those found. -/
def homeFileBelow (files : Files) (home : Option String) (found : List String) : List String :=
  match homeFile? home with
  | some path => if files.isFile path && !found.any (Path.same path) then [path] else []
  | none => []

/-- The configuration files for a working directory, the closest first. -/
def discover (files : Files) (home : Option String) (directory : String) : List String :=
  let (found, hasRoot) := filesUpTo files (Path.ancestors directory)
  if hasRoot then found else found ++ homeFileBelow files home found

/-- Read a configuration file. -/
def loadFile (files : Files) (path : String) : Except ConfigError ConfigFile :=
  match files.read? path with
  | none => .error (.unreadable path)
  | some text =>
      match ConfigLayer.read? text with
      | some layer => .ok ⟨path, layer⟩
      | none => .error (.invalid path)

/-- The configuration that the files at some paths give, the closest first. -/
def loadFrom
    (files : Files)
    (home : Option String)
    (paths : List String) : Except ConfigError Config := do
  merge home (← paths.mapM (loadFile files))

/-- The configuration for a working directory. -/
def load (files : Files) (home : Option String) (directory : String) : Except ConfigError Config :=
  loadFrom files home (discover files home directory)

end Config
end BlockSearch
