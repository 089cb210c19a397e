import BlockSearch.FullText.Match

/-!
# Excerpts

The text of a field with markers around the phrases found in it, whole or cut to the
window of tokens that shows them best. Phrases that overlap or touch share their markers.
-/

namespace BlockSearch
namespace FullText

/-- The tokens from one to another, both included. -/
structure TokenRange where
  /-- The first token. -/
  first : Nat
  /-- The last token. -/
  last : Nat
  deriving DecidableEq, Repr

/-- Join a place to the range before it when they share a token. -/
def joinRanges : TokenRange → List Instance → List TokenRange
  | range, [] => [range]
  | range, place :: places =>
      let last := place.offset + place.length - 1
      if place.offset ≤ range.last then
        joinRanges ⟨range.first, max range.last last⟩ places
      else range :: joinRanges ⟨place.offset, last⟩ places

/-- The ranges that the places of a field cover. -/
def coveredRanges : List Instance → List TokenRange
  | [] => []
  | place :: places => joinRanges ⟨place.offset, place.offset + place.length - 1⟩ places

/-- The markers of an excerpt. -/
structure Markers where
  /-- What stands before a range. -/
  left : List Char
  /-- What stands behind a range. -/
  right : List Char

/-- An excerpt that is being written. -/
structure Excerpt where
  /-- What is written, last piece first. -/
  pieces : List (List Char)
  /-- The first character that is not written yet. -/
  offset : Nat
  /-- Whether a marker is open. -/
  marked : Bool
  /-- The ranges still to come. -/
  ranges : List TokenRange

namespace Excerpt

/-- Write a piece of text. -/
def put (excerpt : Excerpt) (piece : List Char) : Excerpt :=
  { excerpt with pieces := piece :: excerpt.pieces }

/-- Write the text up to a character. -/
def copyTo (text : Array Char) (limit : Nat) (excerpt : Excerpt) : Excerpt :=
  { excerpt with
    pieces := (text.extract excerpt.offset limit).toList :: excerpt.pieces
    offset := limit }

/-- Write an opening marker. -/
def openMark (markers : Markers) (excerpt : Excerpt) : Excerpt :=
  { excerpt.put markers.left with marked := true }

/-- Write a closing marker. -/
def closeMark (markers : Markers) (excerpt : Excerpt) : Excerpt :=
  { excerpt.put markers.right with marked := false }

/-- Close a marker when the next range begins behind what is written. -/
def closeBehind (markers : Markers) (i : Nat) (excerpt : Excerpt) : Excerpt :=
  let nextIsLater := match excerpt.ranges with
    | [] => true
    | range :: _ => i ≤ range.first
  if excerpt.marked && nextIsLater && excerpt.offset < i then excerpt.closeMark markers
  else excerpt

/-- Open a marker where a range begins. -/
def openAt (markers : Markers) (text : Array Char) (i : Nat) (excerpt : Excerpt) : Excerpt :=
  match excerpt.ranges with
  | range :: _ =>
      if range.first = i && !excerpt.marked then (copyTo text i excerpt).openMark markers
      else excerpt
  | [] => excerpt

/-- Write a range where it ends. -/
def endAt (markers : Markers) (text : Array Char) (i : Nat) (excerpt : Excerpt) : Excerpt :=
  match excerpt.ranges with
  | range :: later =>
      if range.last = i then
        let excerpt := if excerpt.marked then excerpt else excerpt.openMark markers
        { copyTo text (i + 3) excerpt with ranges := later }
      else excerpt
  | [] => excerpt

/-- Write what is left of a window at its last token. -/
def leaveWindow (markers : Markers) (text : Array Char) (i : Nat) (excerpt : Excerpt) :
    Excerpt :=
  let excerpt :=
    if excerpt.marked then
      let excerpt := match excerpt.ranges with
        | range :: _ => if range.first ≤ i then copyTo text (i + 3) excerpt else excerpt
        | [] => excerpt
      excerpt.closeMark markers
    else excerpt
  copyTo text (i + 3) excerpt

/-- Take a token into a whole text. -/
def step (markers : Markers) (text : Array Char) (excerpt : Excerpt) (i : Nat) : Excerpt :=
  endAt markers text i (openAt markers text i (closeBehind markers i excerpt))

/-- Take a token into the window from `first` to `last`. -/
def windowStep
    (markers : Markers)
    (text : Array Char)
    (first last : Nat)
    (excerpt : Excerpt)
    (i : Nat) : Excerpt :=
  if i < first || last < i then excerpt
  else
    let excerpt := if first != 0 && i = first then { excerpt with offset := i } else excerpt
    let excerpt := step markers text excerpt i
    if i = last then leaveWindow markers text i excerpt else excerpt

/-- Close a marker that is still open at the end. -/
def finish (markers : Markers) (excerpt : Excerpt) : Excerpt :=
  if excerpt.marked then excerpt.closeMark markers else excerpt

/-- The text written so far. -/
def text (excerpt : Excerpt) : List Char := excerpt.pieces.reverse.flatten

end Excerpt

/-- The number of tokens of a text. -/
def tokenCount (text : List Char) : Nat := text.length - 2

/-- The text of a field, up to a null character, with markers around the places of phrases. -/
def highlight (markers : Markers) (places : List Instance) (text : List Char) : List Char :=
  let text := Text.beforeNull text
  let chars := text.toArray
  let start : Excerpt := ⟨[], 0, false, coveredRanges places⟩
  let excerpt := (List.range (tokenCount text)).foldl (Excerpt.step markers chars) start
  (Excerpt.copyTo chars chars.size (excerpt.finish markers)).text

/-- Most tokens of a snippet. -/
def snippetSize : Nat := 64

/-- What stands where a snippet leaves text out. -/
def snippetGap : List Char := ['.', '.', '.']

/-- The characters between sentences. -/
def isGap (c : Char) : Bool := c = ' ' || c = '\t' || c = '\n' || c = '\r'

/-- Whether a sentence begins behind these characters, the last one first. -/
def endsSentence (before : List Char) : Bool :=
  match before, before.dropWhile isGap with
  | c :: _, last :: _ => isGap c && (last = '.' || last = ':')
  | _, _ => false

/-- The tokens at which a sentence begins, counted from `i`; `before` is the text before. -/
def sentencesFrom (count : Nat) : (i : Nat) → (before rest : List Char) → List Nat
  | _, _, [] => []
  | i, before, c :: rest =>
      let later := sentencesFrom count (i + 1) (c :: before) rest
      if i < count && (i = 0 || endsSentence before) then i :: later else later

/-- The places that a window beginning at a token shows. -/
def placesFrom (position : Nat) (places : List Instance) : List Instance :=
  places.filter fun place => position ≤ place.offset && place.offset < position + snippetSize

/-- The worth of places: a new phrase counts a thousand, a repeated one counts one. -/
def worth : (seen : List Nat) → List Instance → Int
  | _, [] => 0
  | seen, place :: places =>
      if seen.contains place.number then worth seen places + 1
      else worth (place.number :: seen) places + 1000

/-- The start that puts the places shown from a token into the middle of a window. -/
def centered (count : Nat) (position : Nat) (places : List Instance) : Int :=
  match placesFrom position places with
  | [] => 0
  | place :: later =>
      let last := (place :: later).getLast?.getD place
      let first : Int := place.offset
      let behind : Int := last.offset + last.length
      let size : Int := snippetSize
      let start := first - (size - (behind - first)).tdiv 2
      let start := if count < start + size then count - size else start
      max start 0

/-- The best window so far, by its worth. -/
structure BestWindow where
  /-- The worth of the window. -/
  worth : Int
  /-- The first token of the window. -/
  start : Nat

/-- Prefer a window that is worth more. -/
def BestWindow.offer (best : BestWindow) (worth : Int) (start : Nat) : BestWindow :=
  if best.worth < worth then ⟨worth, start⟩ else best

/-- The last sentence that begins at or before a token; the first sentence if there is none. -/
def sentenceBefore (offset : Nat) : List Nat → Nat
  | [] => 0
  | [sentence] => sentence
  | sentence :: next :: later =>
      if offset < next then sentence else sentenceBefore offset (next :: later)

/-- Consider the windows around a place and at the start of its sentence. -/
def considerPlace
    (count : Nat)
    (sentences : List Nat)
    (places : List Instance)
    (best : BestWindow)
    (place : Instance) : BestWindow :=
  let best :=
    best.offer (worth [] (placesFrom place.offset places))
      (centered count place.offset places).toNat
  if snippetSize < count then
    let sentence := sentenceBefore place.offset sentences
    if sentence < place.offset then
      let bonus := if sentence = 0 then 120 else 100
      best.offer (worth [] (placesFrom sentence places) + bonus) sentence
    else best
  else best

/-- The first token of the window that shows the places best. -/
def windowStart (text : List Char) (places : List Instance) : Nat :=
  let count := tokenCount text
  let sentences := sentencesFrom count 0 [] text
  (places.foldl (considerPlace count sentences places) ⟨0, 0⟩).start

/-- The best window of a text with markers around the places of phrases. -/
def snippet (markers : Markers) (places : List Instance) (text : List Char) : List Char :=
  let text := Text.beforeNull text
  let chars := text.toArray
  let start := windowStart text places
  let last := start + snippetSize - 1
  let ranges := (coveredRanges places).dropWhile fun range => range.first < start
  let excerpt : Excerpt := ⟨if 0 < start then [snippetGap] else [], 0, false, ranges⟩
  let excerpt :=
    (List.range (tokenCount text)).foldl (Excerpt.windowStep markers chars start last) excerpt
  let excerpt := excerpt.finish markers
  if tokenCount text ≤ last + 1 then (Excerpt.copyTo chars chars.size excerpt).text
  else (excerpt.put snippetGap).text

/-- How much of a text an excerpt shows. -/
inductive Shape
  /-- The whole text. -/
  | whole
  /-- The window that shows the phrases best. -/
  | window
  deriving DecidableEq, Repr

/-- The excerpt of a text with markers around the places of phrases. -/
def Shape.excerpt : Shape → Markers → List Instance → List Char → List Char
  | .whole => highlight
  | .window => snippet

end FullText
end BlockSearch
