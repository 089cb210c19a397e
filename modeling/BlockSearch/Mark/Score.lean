import BlockSearch.Mark.Tag

/-!
# Match scores

How well a text answers a keyword. Scores are zero or negative, and the best match has the
smallest score. The text is compared with the keyword by their Jaro similarity: two characters of
two texts match when they are equal and not too far apart, each character being matched at most
once, and the similarity weighs the number of matches against the lengths and against the matches
that stand in a different order.
-/

namespace BlockSearch

/-! ## Similarity -/

namespace Similarity

/-- A character of the second text, with whether it is already matched. -/
abbrev Slot := Char × Bool

/--
Match `c` with the first free equal slot among the `width` slots behind the first
`skip`.
-/
def claim? (c : Char) : (skip width : Nat) → List Slot → Option (List Slot)
  | _, _, [] => none
  | skip + 1, width, slot :: rest => (claim? c skip width rest).map (slot :: ·)
  | 0, 0, _ :: _ => none
  | 0, width + 1, slot :: rest =>
      if !slot.2 && slot.1 == c then some ((slot.1, true) :: rest)
      else (claim? c 0 width rest).map (slot :: ·)

/-- The matched characters of the first text, in order, and the slots after matching. -/
def matchFrom (window : Nat) : (index : Nat) → List Char → List Slot → List Char × List Slot
  | _, [], slots => ([], slots)
  | index, c :: rest, slots =>
      let first := index - window
      match claim? c first (index + window + 1 - first) slots with
      | some claimed =>
          let (matched, final) := matchFrom window (index + 1) rest claimed
          (c :: matched, final)
      | none => matchFrom window (index + 1) rest slots

/-- How far apart two matching characters may stand. -/
def window (a b : List Char) : Nat := max a.length b.length / 2 - 1

/-- The matched characters of both texts, each in its own order. -/
def matchedChars (a b : List Char) : List Char × List Char :=
  let (matched, slots) := matchFrom (window a b) 0 a (b.map fun c => (c, false))
  (matched, (slots.filter (·.2)).map (·.1))

/-- The number of matches. -/
def matchCount (a b : List Char) : Nat := (matchedChars a b).1.length

/-- The number of places at which the matched characters of both texts differ. -/
def halfTranspositions (a b : List Char) : Nat :=
  let (left, right) := matchedChars a b
  ((left.zip right).filter fun pair => pair.1 != pair.2).length

/-- The number of characters, at most `limit`, that two texts share at their beginning. -/
def sharedStart : (limit : Nat) → List Char → List Char → Nat
  | limit + 1, x :: a, y :: b => if x = y then sharedStart limit a b + 1 else 0
  | _, _, _ => 0

section

variable {α : Type} [Add α] [Sub α] [Mul α] [Div α] [OfScientific α]

/-- The Jaro similarity of two texts, from 0 to 1, in numbers among which the whole ones are. -/
def jaroIn (ofNat : Nat → α) (a b : List Char) : α :=
  if a.isEmpty || b.isEmpty then if a.isEmpty && b.isEmpty then 1.0 else 0.0
  else if matchCount a b = 0 then 0.0
  else
    let m := ofNat (matchCount a b)
    let t := ofNat (halfTranspositions a b / 2)
    (m / ofNat a.length + m / ofNat b.length + (m - t) / m) / 3.0

/-- The Jaro similarity, raised for a shared beginning when it exceeds the threshold. -/
def jaroWinklerIn
    [LE α]
    [DecidableLE α]
    (ofNat : Nat → α)
    (threshold : α)
    (startLimit : Nat)
    (a b : List Char) : α :=
  let similarity := jaroIn ofNat a b
  if similarity ≤ threshold then similarity
  else similarity + 0.1 * ofNat (sharedStart startLimit a b) * (1.0 - similarity)

end

/-- The Jaro similarity of two texts, rounded at every step. -/
def jaro (a b : List Char) : Float := jaroIn Nat.toFloat a b

/-- The Jaro similarity, raised for a shared beginning, and rounded at every step. -/
def jaroWinkler (threshold : Float) (startLimit : Nat) (a b : List Char) : Float :=
  jaroWinklerIn Nat.toFloat threshold startLimit a b

end Similarity

/-! ## Scores -/

namespace Mark

/-- A text for display and its score. -/
structure Scored where
  /-- The text for display. -/
  text : List Char
  /-- The score; smaller is better. -/
  score : Float

/-- The similarity above which a shared beginning counts. -/
def boostThreshold : Float := 0.7

/-- The most characters of a shared beginning that count. -/
def boostStart : Nat := 4

/-- The strength of a match: one for a match at the very front, one for each mark, and
the similarity. -/
def strength (packed text : List Char) (marked : Marked) : Float :=
  match marked.position with
  | none => 0.0
  | some position =>
      let front : Float := if position = 0 then 1.0 else 0.0
      let marks := (Text.occurrences openTag marked.text).toFloat
      front + marks + Similarity.jaroWinkler boostThreshold boostStart text packed

/--
Mark the packed keywords in a text and score the result. Without a keyword the text
shows the marks that the index left in it, and its score is zero.
-/
def markSearch (mode : CaseMode) (packed : List Char) (limit : Nat) (text : List Char) :
    Scored :=
  if packed.isEmpty then
    if Text.contains indexLeft text then ⟨ofIndexMarkers text, 0.0⟩
    else ⟨Html.escape text, 0.0⟩
  else
    let marked := markText mode packed limit text
    ⟨marked.text, -strength packed text marked⟩

end Mark
end BlockSearch
