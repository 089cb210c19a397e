/-!
# Paths

A path is a text of names between slashes. Empty names count for nothing, and neither does
a single dot, unless a relative path begins with it.
-/

namespace BlockSearch
namespace Path

/-- A name in a path, and the number of characters of the path up to its end. -/
structure Step where
  /-- The name. -/
  name : List Char
  /-- Where the name ends. -/
  stop : Nat
  deriving DecidableEq, Repr

/-- The name that ends at `stop`, if it is not empty; `name` is last first. -/
def Step.close (name : List Char) (stop : Nat) : List Step :=
  if name.isEmpty then [] else [⟨name.reverse, stop⟩]

/-- The names of a path behind an open name, which is last first and ends at `offset`. -/
def stepsFrom (name : List Char) (offset : Nat) : List Char → List Step
  | [] => Step.close name offset
  | c :: rest =>
      if c = '/' then Step.close name offset ++ stepsFrom [] (offset + 1) rest
      else stepsFrom (c :: name) (offset + 1) rest

/-- Whether a path begins at the root. -/
def isAbsolute (path : String) : Bool := path.toList.head? == some '/'

/-- The names of a path that count. -/
def steps (path : String) : List Step :=
  match stepsFrom [] 0 path.toList with
  | [] => []
  | first :: rest =>
      let rest := rest.filter fun step => step.name != ['.']
      if first.name = ['.'] && isAbsolute path then rest
      else if first.name = ['.'] && first.stop != 1 then rest
      else first :: rest

/-- The names of a path. -/
def names (path : String) : List String := (steps path).map fun step => String.ofList step.name

/-- Whether two paths have the same names and begin at the same place. -/
def same (left right : String) : Bool :=
  isAbsolute left == isAbsolute right && names left == names right

/-- A path below another; an absolute path stays what it is. -/
def join (base path : String) : String :=
  if isAbsolute path then path
  else if base.isEmpty || base.toList.getLast? == some '/' then base ++ path
  else base ++ "/" ++ path

/-- The path without its last name. The root and the empty path have none. -/
def parent? (path : String) : Option String :=
  match (steps path).reverse with
  | [] => none
  | [_] => some (if isAbsolute path then "/" else "")
  | _ :: previous :: _ => some (String.ofList (path.toList.take previous.stop))

/-- The last name of a path, unless it stands for a directory that has another name. -/
def fileName? (path : String) : Option (List Char) :=
  match (steps path).getLast? with
  | some step => if step.name = ['.'] || step.name = ['.', '.'] then none else some step.name
  | none => none

/-- A name before and behind its last dot; a dot at the front counts for nothing. -/
def splitName (name : List Char) : List Char × Option (List Char) :=
  let suffix := (name.reverse.takeWhile (· != '.')).reverse
  let stem := name.take (name.length - suffix.length - 1)
  if stem.isEmpty then (name, none) else (stem, some suffix)

/-- The last name of a path without what follows its last dot. -/
def fileStem? (path : String) : Option String :=
  (fileName? path).map fun name => String.ofList (splitName name).1

/-- What follows the last dot of the last name of a path. -/
def extension? (path : String) : Option String :=
  (fileName? path).bind fun name => (splitName name).2.map String.ofList

end Path
end BlockSearch
