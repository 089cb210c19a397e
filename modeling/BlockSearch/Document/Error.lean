/-!
# Failures of trees

What can go wrong when a document is read or written.
-/

namespace BlockSearch

/-- A failure to read or write a document. -/
inductive TreeError
  /-- A file could not be read. -/
  | unreadable (path cause : String)
  /-- A file could not be written. -/
  | unwritable (path cause : String)
  /-- The text of a document is not what it should be. -/
  | json
  /-- There is no document with this identifier. -/
  | notFound (id : String)
  /-- The root of the document is not a document node. -/
  | missingRoot (id : String)
  deriving DecidableEq, Repr

/-- The message that tells a user about a failure. -/
def TreeError.message : TreeError → String
  | .unreadable path cause => "failed to read tree file " ++ path ++ ": " ++ cause
  | .unwritable path cause => "failed to write tree file " ++ path ++ ": " ++ cause
  | .json => "invalid tree json"
  | .notFound id => "tree not found: " ++ id
  | .missingRoot id => "tree " ++ id ++ " has no document root"

end BlockSearch
