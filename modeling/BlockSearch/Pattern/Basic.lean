import BlockSearch.Pattern.CharSet

/-!
# Patterns

A pattern describes texts. Of several ways to match, the order in which a pattern lists
its alternatives says which one is preferred.
-/

namespace BlockSearch

/-- A condition on the place between two characters. -/
inductive Place
  /-- The start of the text. -/
  | textStart
  /-- The end of the text. -/
  | textEnd
  /-- The start of a line; with `returns`, a carriage return ends a line too. -/
  | lineStart (returns : Bool)
  /-- The end of a line; with `returns`, a carriage return ends a line too. -/
  | lineEnd (returns : Bool)
  /-- Between a word character and another character. -/
  | wordEdge
  /-- Anywhere else. -/
  | noWordEdge
  /-- The start of a word. -/
  | wordStart
  /-- The end of a word. -/
  | wordEnd
  /-- Behind a character that is not of a word. -/
  | wordStartHalf
  /-- Before a character that is not of a word. -/
  | wordEndHalf
  deriving Repr, DecidableEq

/-- A pattern. -/
inductive Pattern
  /-- The empty text. -/
  | empty
  /-- One character of a set. -/
  | one (set : CharSet)
  /-- The empty text at certain places. -/
  | place (place : Place)
  /-- One pattern behind another. -/
  | seq (first second : Pattern)
  /-- The first pattern, or else the second. -/
  | alt (first second : Pattern)
  /-- A pattern whose match is remembered under a number. -/
  | group (index : Nat) (body : Pattern)
  /-- A pattern once or more, as often as possible or as rarely as possible. -/
  | plus (greedy : Bool) (body : Pattern)
  deriving Repr, DecidableEq

namespace Pattern

/-- A pattern or the empty text. -/
def optional (greedy : Bool) (body : Pattern) : Pattern :=
  if greedy then .alt body .empty else .alt .empty body

/-- A pattern any number of times. -/
def star (greedy : Bool) (body : Pattern) : Pattern := optional greedy (.plus greedy body)

/-- A pattern `count` times. -/
def times (body : Pattern) : (count : Nat) → Pattern
  | 0 => .empty
  | 1 => body
  | count + 1 => .seq body (times body count)

/-- A pattern at most `count` times. -/
def atMost (greedy : Bool) (body : Pattern) : (count : Nat) → Pattern
  | 0 => .empty
  | 1 => optional greedy body
  | count + 1 => optional greedy (.seq body (atMost greedy body count))

/-- A pattern from `least` to `most` times, or without an upper bound. -/
def repeated (greedy : Bool) (body : Pattern) (least : Nat) : (most : Option Nat) → Pattern
  | none =>
      if least = 0 then star greedy body
      else .seq (times body (least - 1)) (.plus greedy body)
  | some most => .seq (times body least) (atMost greedy body (most - least))

/-- Patterns one behind the other. -/
def sequence (parts : List Pattern) : Pattern :=
  match parts with
  | [] => .empty
  | [part] => part
  | part :: parts => .seq part (sequence parts)

/-- The pattern of exactly one text. -/
def literal (text : List Char) : Pattern := sequence (text.map fun c => .one (.single c))

/-- The characters that have a meaning in the text of a pattern. -/
def metaChars : List Char := "\\.+*?()|[]{}^$#&-~".toList

/-- The text of a pattern that matches exactly the given text. -/
def escape (text : List Char) : List Char :=
  text.flatMap fun c => if metaChars.contains c then ['\\', c] else [c]

end Pattern
end BlockSearch
