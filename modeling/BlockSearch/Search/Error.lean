import BlockSearch.Document.Error
import BlockSearch.Search.Request

/-!
# Failures of searches

What can go wrong when blocks are searched or rewritten.
-/

namespace BlockSearch

/-- A failure of a search or a replacement. -/
inductive SearchError
  /-- The store could not be opened. -/
  | unopenable (path cause : String)
  /-- A statement or match expression cannot be run. -/
  | statement
  /-- A document could not be read. -/
  | tree (error : TreeError)
  /-- A rewritten document could not be stored. -/
  | persist (id : String) (error : TreeError)
  /-- The method cannot replace text. -/
  | cannotReplace (method : Method)
  /-- A block of a document has an identifier without a creation time. -/
  | stamp
  deriving DecidableEq, Repr

/-- The message that tells a user about a failure. -/
def SearchError.message : SearchError → String
  | .unopenable path cause => "failed to open block store at " ++ path ++ ": " ++ cause
  | .statement => "block store error: the statement cannot be run"
  | .tree error => error.message
  | .persist id error => "failed to persist tree " ++ id ++ ": " ++ error.message
  | .cannotReplace method =>
      "find and replace does not support " ++ method.name ++ " search, use keyword or regex"
  | .stamp => "a block identifier has no creation time"

end BlockSearch
