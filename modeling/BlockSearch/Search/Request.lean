/-!
# Requests

What a search asks for. Each choice has a number; a number that stands for no choice
stands for the first one.
-/

namespace BlockSearch

/-- How the text of a query is read. -/
inductive Method
  /-- Pieces of text, all of which must occur. -/
  | keyword
  /-- An expression of the full-text query language. -/
  | querySyntax
  /-- A statement that is run as it is. -/
  | passthrough
  /-- A text that must occur exactly. -/
  | regex
  deriving DecidableEq, Repr

/-- The order of results. -/
inductive Order
  /-- By the rank of the block type. -/
  | type
  /-- The oldest first. -/
  | createdAsc
  /-- The newest first. -/
  | createdDesc
  /-- The least recently changed first. -/
  | updatedAsc
  /-- The most recently changed first. -/
  | updatedDesc
  /-- By the place in the document. -/
  | contentOrder
  /-- The best match last. -/
  | relevanceAsc
  /-- The best match first. -/
  | relevanceDesc
  deriving DecidableEq, Repr

/-- How results are grouped. -/
inductive Grouping
  /-- Not at all. -/
  | none
  /-- By the document they lie in. -/
  | document
  deriving DecidableEq, Repr

/-- What an embedded heading shows. -/
inductive HeadingMode
  /-- The heading and its section. -/
  | withSection
  /-- The heading. -/
  | headingOnly
  /-- The section. -/
  | sectionOnly
  deriving DecidableEq, Repr

/-- The method with a number. -/
def Method.ofCode : Nat → Method
  | 1 => .querySyntax
  | 2 => .passthrough
  | 3 => .regex
  | _ => .keyword

/-- The name that a message uses for a method. -/
def Method.name : Method → String
  | .keyword => "keyword"
  | .querySyntax => "query syntax"
  | .passthrough => "SQL"
  | .regex => "regex"

/-- The order with a number. -/
def Order.ofCode : Nat → Order
  | 1 => .createdAsc
  | 2 => .createdDesc
  | 3 => .updatedAsc
  | 4 => .updatedDesc
  | 5 => .contentOrder
  | 6 => .relevanceAsc
  | 7 => .relevanceDesc
  | _ => .type

/-- Whether an order is that of the full-text index. -/
def Order.isRelevance : Order → Bool
  | .relevanceAsc | .relevanceDesc => true
  | _ => false

/-- The grouping with a number. -/
def Grouping.ofCode : Nat → Grouping
  | 1 => .document
  | _ => .none

/-- The mode with a number. -/
def HeadingMode.ofCode : Nat → HeadingMode
  | 1 => .headingOnly
  | 2 => .sectionOnly
  | _ => .withSection

/-- A search. -/
structure Request where
  /-- The text of the query. -/
  query : String
  /-- How the text is read. -/
  method : Method := .keyword
  /-- The notebooks to search; none means all. -/
  boxes : List String := []
  /-- The beginnings of the paths to search; none means all. -/
  paths : List String := []
  /-- The types to search, by name; a name that is not listed is not searched. -/
  types : Option (List (String × Bool)) := none
  /-- The order of results. -/
  order : Order := .type
  /-- How results are grouped. -/
  grouping : Grouping := .none
  deriving Repr

end BlockSearch
