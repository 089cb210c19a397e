import BlockSearch.Text.Occurrence

/-!
# Patterns with wildcards

In a pattern a percent sign stands for any text and an underscore for any character. All
other characters stand for themselves, where ASCII letters are the same in both cases. A
character behind the escape character stands for itself. The last two code points of the first
plane are no characters and are read as the replacement character.
-/

namespace BlockSearch
namespace Sql
namespace Like

/-- A part of a pattern. -/
inductive Part
  /-- Any text. -/
  | anyText
  /-- Any character. -/
  | anyChar
  /-- A character, up to ASCII case. -/
  | char (c : Char)
  deriving DecidableEq, Repr

/-- The part that a character is when it does not stand behind an escape character. -/
def Part.ofChar (c : Char) : Part :=
  if c = '%' then .anyText else if c = '_' then .anyChar else .char c

/-- The parts of a pattern; an escape character must not be the last one. -/
def parts? (escape : Option Char) : List Char → Option (List Part)
  | [] => some []
  | c :: rest =>
      if escape = some c then
        match rest with
        | [] => none
        | next :: rest => (parts? escape rest).map (.char next :: ·)
      else (parts? escape rest).map (Part.ofChar c :: ·)

/-- Whether a text, or what is left of it behind some of its characters, has a property. -/
def someEnd (holds : List Char → Bool) : List Char → Bool
  | [] => holds []
  | c :: rest => holds (c :: rest) || someEnd holds rest

/-- Whether a text has the form that the parts describe. -/
def fits : List Part → List Char → Bool
  | [], text => text.isEmpty
  | .anyText :: parts, text => someEnd (fits parts) text
  | .anyChar :: parts, _ :: text => fits parts text
  | .char c :: parts, d :: text => c.toLower == d.toLower && fits parts text
  | _ :: _, [] => false

/-- What is read of a text, which ends at its first null character. -/
def read (text : List Char) : List Char := (Text.beforeNull text).map Text.seen

/-- The greatest size of a pattern in bytes; a longer one cannot be tested. -/
def greatestSize : Nat := 50000

/-- Whether a text has the form of a pattern. -/
def holds (escape : Option Char) (pattern text : List Char) : Bool :=
  match parts? (escape.map Text.seen) (read pattern) with
  | some parts => fits parts (read text)
  | none => false

/-- The text with the escape character before all that is special in a pattern. -/
def escaped (text : List Char) : List Char :=
  text.flatMap fun c => if c = '%' || c = '_' || c = '\\' then ['\\', c] else [c]

end Like
end Sql
end BlockSearch
