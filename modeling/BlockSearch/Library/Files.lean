import BlockSearch.Library.Path
import BlockSearch.Text.Occurrence

/-!
# Files

A state of a file system: the directories, and the text files with their content. The location
of a file is the list of names that leads to it from the root.
-/

namespace BlockSearch

/-- The names that lead from the root to a file or directory. -/
abbrev Location := List String

/-- Directories and text files. -/
structure Files where
  /-- The directories; the root is one even if it is not listed. -/
  directories : List Location := []
  /-- The files and their texts. -/
  contents : List (Location × String) := []
  deriving DecidableEq, Repr, Inhabited

namespace Files

/-- Whether there is a directory at a location. -/
def hasDirectory (files : Files) (location : Location) : Bool :=
  location.isEmpty || files.directories.contains location

/-- The text of the file at a location. -/
def textAt? (files : Files) (location : Location) : Option String :=
  (files.contents.find? (·.1 == location)).map (·.2)

/-- One step of a way, which must begin in a directory. -/
def follow? (files : Files) (location : Location) (name : List Char) : Option Location :=
  if !files.hasDirectory location || name.contains '\x00' then none
  else if name = [] || name = ['.'] then some location
  else if name = ['.', '.'] then some location.dropLast
  else some (location ++ [String.ofList name])

/-- The location that an absolute path leads to; there need not be anything. -/
def location? (files : Files) (path : String) : Option Location :=
  if Path.isAbsolute path then
    (Text.splitOn ['/'] path.toList).foldlM (follow? files) []
  else none

/-- Whether a path leads to a directory. -/
def isDirectory (files : Files) (path : String) : Bool :=
  match files.location? path with
  | some location => files.hasDirectory location
  | none => false

/-- The text of the file that a path leads to. -/
def read? (files : Files) (path : String) : Option String :=
  (files.location? path).bind files.textAt?

/-- Whether a path leads to a file. -/
def isFile (files : Files) (path : String) : Bool := (files.read? path).isSome

/-- Give the file at a location a text. -/
def putText (files : Files) (location : Location) (text : String) : Files :=
  { files with contents := files.contents.filter (·.1 != location) ++ [(location, text)] }

/-- Write a file in a directory that exists. -/
def write? (files : Files) (path text : String) : Option Files :=
  match files.location? path with
  | some location =>
      if files.hasDirectory location then none else some (files.putText location text)
  | none => none

/-- Create a directory, unless a file stands in its place. -/
def createDirectory? (files : Files) (location : Location) : Option Files :=
  if files.hasDirectory location then some files
  else if (files.textAt? location).isSome then none
  else some { files with directories := files.directories ++ [location] }

/-- Go on to a directory, which is created when there is none. -/
def enter? (state : Files × Location) (name : List Char) : Option (Files × Location) := do
  let location ← state.1.follow? state.2 name
  let files ← state.1.createDirectory? location
  some (files, location)

/-- Create a directory and those that lead to it. -/
def createDirectories? (files : Files) (path : String) : Option Files :=
  if Path.isAbsolute path then
    ((Text.splitOn ['/'] path.toList).foldlM enter? (files, [])).map (·.1)
  else none

/-- Write a file, and create the directories that lead to it. -/
def writeDeep? (files : Files) (path text : String) : Option Files :=
  match Path.parent? path with
  | some parent => (files.createDirectories? parent).bind fun files => files.write? path text
  | none => files.write? path text

/-- The names of the files right in a directory. -/
def filesIn? (files : Files) (path : String) : Option (List String) :=
  match files.location? path with
  | some directory =>
      if files.hasDirectory directory then
        some (files.contents.filterMap fun file =>
          if file.1.dropLast == directory then file.1.getLast? else none)
      else none
  | none => none

end Files
end BlockSearch
