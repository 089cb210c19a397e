import BlockSearch.Text.Blank
import BlockSearch.Text.Category
import BlockSearch.Text.Folding

/-!
# Sets of characters

The sets that a pattern can ask a character to be in.
-/

namespace BlockSearch

/-- A set of characters, as it is built in a pattern. -/
inductive CharSet
  /-- No character. -/
  | none
  /-- The characters from one to another. -/
  | range (first last : Char)
  /-- Decimal digits. -/
  | digit
  /-- Blanks. -/
  | blank
  /-- Characters of words. -/
  | word
  /-- The characters of a general category. -/
  | category (category : Text.Category)
  /-- The characters that a set does not hold. -/
  | complement (set : CharSet)
  /-- The characters of either set. -/
  | union (left right : CharSet)
  /-- The characters of both sets. -/
  | inter (left right : CharSet)
  /-- The characters of the left set that the right one does not hold. -/
  | minus (left right : CharSet)
  /-- The characters of exactly one of two sets. -/
  | exclusive (left right : CharSet)
  /-- The characters that are in a set up to case. -/
  | folded (set : CharSet)
  deriving Repr, DecidableEq

namespace CharSet

/-- The set of one character. -/
def single (c : Char) : CharSet := .range c c

/-- The union of ranges. -/
def ofRanges (ranges : List (Char × Char)) : CharSet :=
  ranges.foldr (fun range set => .union (.range range.1 range.2) set) .none

/-- Whether a set holds a character. -/
def holds : CharSet → Char → Bool
  | .none, _ => false
  | .range first last, c => first ≤ c && c ≤ last
  | .digit, c => Text.isDecimalDigit c
  | .blank, c => Text.isBlank c
  | .word, c => Text.isWordChar c
  | .category kind, c => kind.holds c
  | .complement set, c => !set.holds c
  | .union left right, c => left.holds c || right.holds c
  | .inter left right, c => left.holds c && right.holds c
  | .minus left right, c => left.holds c && !right.holds c
  | .exclusive left right, c => left.holds c != right.holds c
  | .folded set, c => set.holds c || (Text.caseVariants c).any set.holds

/-- The sets of ASCII characters that a bracket expression can name. -/
def ofAsciiName? (name : String) : Option CharSet :=
  match name with
  | "alnum" => some (ofRanges [('0', '9'), ('A', 'Z'), ('a', 'z')])
  | "alpha" => some (ofRanges [('A', 'Z'), ('a', 'z')])
  | "ascii" => some (.range '\x00' '\x7f')
  | "blank" => some (ofRanges [('\t', '\t'), (' ', ' ')])
  | "cntrl" => some (ofRanges [('\x00', '\x1f'), ('\x7f', '\x7f')])
  | "digit" => some (.range '0' '9')
  | "graph" => some (.range '!' '~')
  | "lower" => some (.range 'a' 'z')
  | "print" => some (.range ' ' '~')
  | "punct" => some (ofRanges [('!', '/'), (':', '@'), ('[', (Char.ofNat 96)), ('{', '~')])
  | "space" => some (ofRanges [('\t', '\r'), (' ', ' ')])
  | "upper" => some (.range 'A' 'Z')
  | "word" => some (ofRanges [('0', '9'), ('A', 'Z'), ('_', '_'), ('a', 'z')])
  | "xdigit" => some (ofRanges [('0', '9'), ('A', 'F'), ('a', 'f')])
  | _ => Option.none

end CharSet
end BlockSearch
