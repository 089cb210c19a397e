import BlockSearch.Mark.CaseMode
import BlockSearch.Search.BlockType

/-!
# Search settings

What every search of a store has in common.
-/

namespace BlockSearch

/-- The settings of searches. -/
structure SearchSettings where
  /-- Most rows of a result. -/
  limit : Nat := 64
  /-- Whether letters of different case differ. -/
  caseSensitive : Bool := false
  /-- Whether names are searched. -/
  name : Bool := true
  /-- Whether aliases are searched. -/
  aliases : Bool := true
  /-- Whether memos are searched. -/
  memo : Bool := true
  /-- Whether attributes are searched. -/
  ial : Bool := false
  /-- Most characters of the text of a reference. -/
  referenceTextLimit : Nat := 96
  /-- The types that are searched when a request names none. -/
  types : BlockType → Bool := BlockType.searchedByDefault

namespace SearchSettings

/-- How letters are compared. -/
def mode (settings : SearchSettings) : CaseMode := .ofSensitive settings.caseSensitive

/-- The types that the settings select. -/
def selectedTypes (settings : SearchSettings) : List BlockType :=
  BlockType.all.filter settings.types

end SearchSettings
end BlockSearch
