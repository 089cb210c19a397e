import BlockSearch.Index.Record
import BlockSearch.Mark.CaseMode
import BlockSearch.Text.Occurrence

/-!
# Match expressions

The full-text index sees a text as the list of all stretches of three characters. A text of fewer
than three characters has none. A full-text query asks for phrases of such stretches in fields, and
for their combinations.
-/

namespace BlockSearch
namespace FullText

/-! ## Trigrams -/

/-- Three neighbouring characters. -/
abbrev Trigram := Char × Char × Char

/-- Letters whose lower case is younger than the folding of the index; they keep their case. -/
def unfoldedRanges : List (Nat × Nat) := [
  (0x37F, 0x37F), (0x528, 0x52F), (0x13A0, 0x13FD), (0x1C80, 0x1CBF), (0x1FD3, 0x1FD3),
  (0x1FE3, 0x1FE3), (0x2C2F, 0x2C2F),
  (0xA698, 0xA69B), (0xA796, 0xA79F), (0xA7AB, 0xA7F6), (0xAB70, 0xABBF), (0xFB05, 0xFB05),
  (0x104B0, 0x1E943)]

/-- The folding of a character in the index. -/
def fold (c : Char) : Char :=
  if c.toNat < 128 then c.toLower
  else if unfoldedRanges.any fun range => range.1 ≤ c.toNat && c.toNat ≤ range.2 then c
  else Text.simpleFold c

/-- How the index compares letters: the character that is seen, or the folding of it. -/
def key (mode : CaseMode) (c : Char) : Char :=
  match mode with
  | .sensitive => Text.seen c
  | .insensitive => fold (Text.seen c)

/-- The stretches of three characters. -/
def windows : List Char → List Trigram
  | a :: b :: c :: rest => (a, b, c) :: windows (b :: c :: rest)
  | _ => []

/-- The tokens of a text; a text ends at its first null character. -/
def tokens (mode : CaseMode) (text : List Char) : List Trigram :=
  windows ((Text.beforeNull text).map (key mode))

/-! ## Expressions -/

/-- A list of tokens that must follow one another in a field. -/
structure Phrase where
  /-- The tokens; there is at least one. -/
  tokens : List Trigram
  /-- Whether the phrase must stand at the front of the field. -/
  initial : Bool
  /-- The fields that may hold the phrase. -/
  fields : List Field
  deriving DecidableEq, Repr

/-- Phrases that must stand close together in a field. -/
structure Group where
  /-- The tokens of the phrases; there are at least two phrases, and each has a token. -/
  members : List (List Trigram)
  /-- Most tokens from the end of one phrase to the front of another. -/
  distance : Nat
  /-- The fields that may hold the phrases. -/
  fields : List Field
  deriving DecidableEq, Repr

/-- The phrases of a group. -/
def Group.phrases (group : Group) : List Phrase :=
  group.members.map fun tokens => ⟨tokens, false, group.fields⟩

/-- A match expression. -/
inductive Expression
  /-- A phrase. -/
  | phrase (phrase : Phrase)
  /-- Phrases close together. -/
  | near (group : Group)
  /-- What no text matches, such as a phrase without tokens. -/
  | never
  /-- Both of two expressions. -/
  | and (left right : Expression)
  /-- At least one of two expressions. -/
  | or (left right : Expression)
  /-- The left expression, where the right one does not match. -/
  | not (left right : Expression)
  deriving DecidableEq, Repr

namespace Expression

/-- The phrases of an expression, from left to right. -/
def phrases : Expression → List Phrase
  | .phrase wanted => [wanted]
  | .near group => group.phrases
  | .never => []
  | .and left right => left.phrases ++ right.phrases
  | .or left right => left.phrases ++ right.phrases
  | .not left right => left.phrases ++ right.phrases

/-- Allow only some fields to hold the phrases of an expression. -/
def restrict (fields : List Field) : Expression → Expression
  | .phrase wanted =>
      .phrase { wanted with fields := wanted.fields.filter fun field => fields.contains field }
  | .near group =>
      .near { group with fields := group.fields.filter fun field => fields.contains field }
  | .never => .never
  | .and left right => .and (left.restrict fields) (right.restrict fields)
  | .or left right => .or (left.restrict fields) (right.restrict fields)
  | .not left right => .not (left.restrict fields) (right.restrict fields)

end Expression
end FullText
end BlockSearch
