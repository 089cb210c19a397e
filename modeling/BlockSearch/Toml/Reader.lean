import BlockSearch.Toml.Moment
import BlockSearch.Toml.Number
import BlockSearch.Toml.Quoted
import BlockSearch.Toml.Table

/-!
# Reading TOML

A document is a list of lines: headers of tables, and keys with values. Lists and closed tables
may run over several lines and nest up to a bound.
-/

namespace BlockSearch
namespace Toml

/-- How deep lists and closed tables nest at most. -/
def depthLimit : Nat := 80

/-- The text without the blanks that it begins with. -/
def dropBlanks (text : List Char) : List Char := text.dropWhile Quoted.isBlank

/-- The text behind blanks, line ends and comments. -/
def skip? : (inComment : Bool) → List Char → Option (List Char)
  | _, [] => some []
  | _, '\n' :: rest => skip? false rest
  | _, '\r' :: '\n' :: rest => skip? false rest
  | true, c :: rest => if Quoted.isPlain c then skip? true rest else none
  | false, '#' :: rest => skip? true rest
  | false, c :: rest => if Quoted.isBlank c then skip? false rest else some (c :: rest)

/-- The text behind the end of a line, which may end in a comment. -/
def lineEnd? : (inComment : Bool) → List Char → Option (List Char)
  | _, [] => some []
  | _, '\n' :: rest => some rest
  | _, '\r' :: '\n' :: rest => some rest
  | true, c :: rest => if Quoted.isPlain c then lineEnd? true rest else none
  | false, '#' :: rest => lineEnd? true rest
  | false, c :: rest => if Quoted.isBlank c then lineEnd? false rest else none

/-- A key without dots, and what follows it. -/
def key? (text : List Char) : Option (String × List Char) :=
  let word := text.takeWhile isBare
  if word.isEmpty then (Quoted.short? text).map fun part => (String.ofList part.1, part.2)
  else some (String.ofList word, text.dropWhile isBare)

/-- A key with the path that leads to it, and what follows the blanks behind it. -/
def path? : (fuel : Nat) → List Char → Option ((List String × String) × List Char)
  | 0, _ => none
  | fuel + 1, text =>
      match key? text with
      | none => none
      | some (key, rest) =>
          match dropBlanks rest with
          | '.' :: rest =>
              (path? fuel (dropBlanks rest)).map fun part =>
                ((key :: part.1.1, part.1.2), part.2)
          | rest => some (([], key), rest)

/-- Items with commas between them up to a closing bracket, and what follows it. -/
def listed?
    {α : Type}
    (item? : List Char → Option (α × List Char))
    (close : Char) : (fuel : Nat) → List Char → Option (List α × List Char)
  | 0, _ => none
  | fuel + 1, text =>
      match skip? false text with
      | none | some [] => none
      | some (c :: rest) =>
          if c = close then some ([], rest)
          else
            match item? (c :: rest) with
            | none => none
            | some (item, rest) =>
                match skip? false rest with
                | none | some [] => none
                | some (c :: rest) =>
                    if c = close then some ([item], rest)
                    else if c = ',' then
                      (listed? item? close fuel rest).map fun part => (item :: part.1, part.2)
                    else none

/-- A key and its value, and what follows them. -/
def pair?
    (value? : List Char → Option (Toml × List Char))
    (text : List Char) : Option (((List String × String) × Toml) × List Char) :=
  match path? (text.length + 1) text with
  | some (path, '=' :: rest) =>
      (value? (dropBlanks rest)).map fun part => ((path, part.1), part.2)
  | _ => none

/-- The characters of numbers, dates and truth values. -/
def isWordChar (c : Char) : Bool := isBare c || c == '+' || c == '.' || c == ':'

/-- The value that a word spells. -/
def word? (word : List Char) : Option Toml :=
  if word = "true".toList then some (.boolean true)
  else if word = "false".toList then some (.boolean false)
  else
    match Number.read? word with
    | some value => some value
    | none => if Moment.accepts word then some (.date (String.ofList word)) else none

/-- The word at the front of a text, and what follows it; a blank may follow a date. -/
def cutWord (text : List Char) : List Char × List Char :=
  let word := text.takeWhile isWordChar
  match text.dropWhile isWordChar with
  | ' ' :: c :: rest =>
      if Moment.isDate word && c.isDigit then
        (word ++ ' ' :: (c :: rest).takeWhile isWordChar, (c :: rest).dropWhile isWordChar)
      else (word, ' ' :: c :: rest)
  | rest => (word, rest)

/-- A value that is neither list nor table, and what follows it. -/
def plain? (text : List Char) : Option (Toml × List Char) :=
  match Quoted.read? text with
  | some (value, rest) => some (.string (String.ofList value), rest)
  | none =>
      let (word, rest) := cutWord text
      (word? word).map fun value => (value, rest)

/-- A value that nests up to a depth, and what follows it. -/
def value? : (depth : Nat) → List Char → Option (Toml × List Char)
  | depth + 1, '[' :: rest =>
      (listed? (value? depth) ']' (rest.length + 1) rest).map fun part => (.array part.1, part.2)
  | depth + 1, '{' :: rest =>
      match listed? (pair? (value? depth)) '}' (rest.length + 1) rest with
      | some (pairs, rest) => (ofPairs? pairs).map fun value => (value, rest)
      | none => none
  | _, text => plain? text

/-- The header of a table between brackets, and what follows it. -/
def header? (text : List Char) : Option (Line × List Char) :=
  match path? (text.length + 1) (dropBlanks text) with
  | some (path, ']' :: rest) => some (.header path.1 path.2, rest)
  | _ => none

/-- The header of a table in a list between two brackets, and what follows it. -/
def itemHeader? (text : List Char) : Option (Line × List Char) :=
  match path? (text.length + 1) (dropBlanks text) with
  | some (path, ']' :: ']' :: rest) => some (.itemHeader path.1 path.2, rest)
  | _ => none

/-- A line, and what follows it. -/
def line? : List Char → Option (Line × List Char)
  | '[' :: '[' :: rest => itemHeader? rest
  | '[' :: rest => header? rest
  | text =>
      (pair? (value? depthLimit) text).map fun part =>
        (.assignment part.1.1.1 part.1.1.2 part.1.2, part.2)

/-- The lines of a document; `fuel` bounds their number. -/
def lines? : (fuel : Nat) → List Char → Option (List Line)
  | fuel, text =>
      match skip? false text with
      | none => none
      | some [] => some []
      | some text =>
          match fuel, line? text with
          | fuel + 1, some (line, rest) =>
              match lineEnd? false rest with
              | some rest => (lines? fuel rest).map (line :: ·)
              | none => none
          | _, _ => none

/-- The text without the mark of its byte order. -/
def dropMark : List Char → List Char
  | '\ufeff' :: rest => rest
  | text => text

/-- The document that a text spells. -/
def read? (text : String) : Option Members :=
  let chars := dropMark text.toList
  (lines? chars.length chars).bind ofLines?

end Toml
end BlockSearch
