import BlockSearch.Text.Folding

/-!
# Case modes

Whether keywords are compared character by character or up to simple case folding.
-/

namespace BlockSearch

/-- How the letters of a keyword are compared with those of a text. -/
inductive CaseMode
  /-- Letters of different case differ. -/
  | sensitive
  /-- Letters with the same simple case folding are the same. -/
  | insensitive
  deriving DecidableEq, Repr

namespace CaseMode

/-- The mode of a switch that asks for case to matter. -/
def ofSensitive (sensitive : Bool) : CaseMode :=
  if sensitive then .sensitive else .insensitive

/-- Two characters are the same in a mode when their keys are equal. -/
def key (mode : CaseMode) (c : Char) : Char :=
  match mode with
  | .sensitive => c
  | .insensitive => Text.simpleFold c

/-- Whether two characters are the same. -/
def same (mode : CaseMode) (a b : Char) : Bool := mode.key a == mode.key b

/-- Whether the text begins with the keyword. -/
def begins (mode : CaseMode) : (keyword text : List Char) → Bool
  | [], _ => true
  | _ :: _, [] => false
  | k :: keyword, c :: text => mode.same k c && mode.begins keyword text

end CaseMode
end BlockSearch
