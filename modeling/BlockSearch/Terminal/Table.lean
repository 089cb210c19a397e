import BlockSearch.Text.Category
import BlockSearch.Text.Occurrence

/-!
# Tables

A table is drawn with lines around it, between its columns, and below its header. A column is
as wide as its widest line and has a blank on both sides. The width of a text is the number of
columns that it takes on a terminal.
-/

namespace BlockSearch

/-! ## Widths of texts -/

namespace Text

/-- The ranges of characters that take two columns. -/
def wideRanges : List (Nat × Nat) := [
  (0x1100, 0x115F), (0x231A, 0x231B), (0x2329, 0x232A), (0x23E9, 0x23EC), (0x23F0, 0x23F0),
  (0x23F3, 0x23F3), (0x25FD, 0x25FE), (0x2614, 0x2615), (0x2648, 0x2653), (0x267F, 0x267F),
  (0x2693, 0x2693), (0x26A1, 0x26A1), (0x26AA, 0x26AB), (0x26BD, 0x26BE), (0x26C4, 0x26C5),
  (0x26CE, 0x26CE), (0x26D4, 0x26D4), (0x26EA, 0x26EA), (0x26F2, 0x26F3), (0x26F5, 0x26F5),
  (0x26FA, 0x26FA), (0x26FD, 0x26FD), (0x2705, 0x2705), (0x270A, 0x270B), (0x2728, 0x2728),
  (0x274C, 0x274C), (0x274E, 0x274E), (0x2753, 0x2755), (0x2757, 0x2757), (0x2795, 0x2797),
  (0x27B0, 0x27B0), (0x27BF, 0x27BF), (0x2B1B, 0x2B1C), (0x2B50, 0x2B50), (0x2B55, 0x2B55),
  (0x2E80, 0x303E), (0x3041, 0x3247), (0x3250, 0x4DBF), (0x4E00, 0xA4C6), (0xA960, 0xA97C),
  (0xAC00, 0xD7A3), (0xF900, 0xFAD9), (0xFE10, 0xFE19), (0xFE30, 0xFE6B), (0xFF01, 0xFF60),
  (0xFFE0, 0xFFE6), (0x16FE0, 0x1B2FB), (0x1F004, 0x1F004), (0x1F0CF, 0x1F0CF),
  (0x1F18E, 0x1F18E), (0x1F191, 0x1F19A), (0x1F200, 0x1F320), (0x1F32D, 0x1F335),
  (0x1F337, 0x1F37C), (0x1F37E, 0x1F393), (0x1F3A0, 0x1F3CA), (0x1F3CF, 0x1F3D3),
  (0x1F3E0, 0x1F3F0), (0x1F3F4, 0x1F3F4), (0x1F3F8, 0x1F43E), (0x1F440, 0x1F440),
  (0x1F442, 0x1F4FC), (0x1F4FF, 0x1F53D), (0x1F54B, 0x1F54E), (0x1F550, 0x1F567),
  (0x1F57A, 0x1F57A), (0x1F595, 0x1F596), (0x1F5A4, 0x1F5A4), (0x1F5FB, 0x1F64F),
  (0x1F680, 0x1F6C5), (0x1F6CC, 0x1F6CC), (0x1F6D0, 0x1F6D2), (0x1F6D5, 0x1F6DF),
  (0x1F6EB, 0x1F6EC), (0x1F6F4, 0x1F6FC), (0x1F7E0, 0x1F7F0), (0x1F90C, 0x1F93A),
  (0x1F93C, 0x1F945), (0x1F947, 0x1F9FF), (0x1FA70, 0x1FAF6), (0x20000, 0x3134A)]

/-- The ranges of characters other than marks that take no column. -/
def emptyRanges : List (Nat × Nat) :=
  [(0x1160, 0x11FF), (0x200B, 0x200F), (0x2028, 0x202E), (0x2060, 0x206F), (0xFEFF, 0xFEFF)]

/-- The number of columns that a character takes. -/
def charWidth (c : Char) : Nat :=
  if c.toNat < 0x300 then 1
  else if inRanges wideRanges c then 2
  else if inRanges markRanges c || inRanges emptyRanges c then 0
  else 1

/-- The number of columns that a text takes. -/
def width (text : List Char) : Nat := text.foldr (fun c columns => charWidth c + columns) 0

end Text

/-! ## Tables -/

/-- A table of texts; every row has as many cells as the header. -/
structure Table where
  /-- The names of the columns. -/
  header : List (List Char)
  /-- The rows. -/
  rows : List (List (List Char)) := []
  deriving DecidableEq, Repr, Inhabited

namespace Table

/-- The lines of a cell. -/
def cellLines (cell : List Char) : List (List Char) := Text.splitOn ['\n'] cell

/-- The number of columns that the widest line of a cell takes. -/
def cellWidth (cell : List Char) : Nat := ((cellLines cell).map Text.width).foldl max 0

/-- The widths of cells, none less than those given. -/
def widen (widths : List Nat) (row : List (List Char)) : List Nat :=
  List.zipWith (fun width cell => max width (cellWidth cell)) widths row

/-- The widths of the columns. -/
def widths (table : Table) : List Nat :=
  table.rows.foldl widen (table.header.map cellWidth)

/-- A line of a cell, filled up to a width. -/
def pad (width : Nat) (line : List Char) : List Char :=
  line ++ List.replicate (width - Text.width line) ' '

/-- Some parts of a line between its borders. -/
def join (left middle right : Char) (parts : List (List Char)) : List Char :=
  left :: [middle].intercalate parts ++ [right]

/-- A drawn line. -/
def rule (left line middle right : Char) (widths : List Nat) : List Char :=
  join left middle right (widths.map fun width => List.replicate (width + 2) line)

/-- The line of a row with a number, empty in the cells that have fewer lines. -/
def rowLine (widths : List Nat) (row : List (List Char)) (number : Nat) : List Char :=
  join '│' '┆' '│' <|
    List.zipWith
      (fun width cell => ' ' :: pad width (((cellLines cell)[number]?).getD []) ++ [' '])
      widths row

/-- The number of lines of a row. -/
def height (row : List (List Char)) : Nat :=
  (row.map fun cell => (cellLines cell).length).foldl max 1

/-- The lines of a row. -/
def rowLines (widths : List Nat) (row : List (List Char)) : List (List Char) :=
  (List.range (height row)).map (rowLine widths row)

/-- The lines of a table. -/
def lines (table : Table) : List (List Char) :=
  let widths := table.widths
  rule '┌' '─' '┬' '┐' widths :: rowLines widths table.header ++
    rule '╞' '═' '╪' '╡' widths :: table.rows.flatMap (rowLines widths) ++
    [rule '└' '─' '┴' '┘' widths]

/-- The drawing of a table. -/
def draw (table : Table) : List Char := ['\n'].intercalate table.lines

end Table
end BlockSearch
