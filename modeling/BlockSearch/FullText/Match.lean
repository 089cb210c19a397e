import BlockSearch.FullText.Expression

/-!
# Matching records

Where the phrases of an expression stand in a record. Only phrases that take part in the
match are reported: none from the right of a `NOT`, and none from the failing side of an
`OR`.

How well a record answers an expression depends on how often its phrases stand in it, how rare they
are in the index, and how long the record is. Smaller is better.
-/

namespace BlockSearch
namespace FullText

/-- A place at which a phrase stands. -/
structure Instance where
  /-- The field. -/
  field : Field
  /-- The place of the first token in the field. -/
  offset : Nat
  /-- The number of the phrase in the expression, from left to right. -/
  number : Nat
  /-- The number of tokens of the phrase. -/
  length : Nat
  deriving DecidableEq, Repr

/-- The tokens of the fields of a record. -/
abbrev Document := Field → List Trigram

/-- The record as the index sees it. -/
def Document.ofRecord (mode : CaseMode) (record : Record) : Document :=
  fun field => tokens mode (record.text field).toList

/-- The number of tokens of all fields. -/
def Document.size (document : Document) : Nat :=
  Field.all.foldr (fun field size => (document field).length + size) 0

/-- The places at which a list of tokens stands, counted from `offset`. -/
def offsetsFrom (phrase : List Trigram) : (offset : Nat) → List Trigram → List Nat
  | _, [] => []
  | offset, token :: rest =>
      if phrase.isPrefixOf (token :: rest) then offset :: offsetsFrom phrase (offset + 1) rest
      else offsetsFrom phrase (offset + 1) rest

/-- The places at which a phrase stands in a field. -/
def Phrase.offsets (phrase : Phrase) (document : Document) (field : Field) : List Nat :=
  let offsets := offsetsFrom phrase.tokens 0 (document field)
  if phrase.initial then offsets.filter (· == 0) else offsets

/-- The places at which a phrase stands in a record. -/
def Phrase.instances (phrase : Phrase) (number : Nat) (document : Document) : List Instance :=
  phrase.fields.flatMap fun field =>
    (phrase.offsets document field).map fun offset =>
      ⟨field, offset, number, phrase.tokens.length⟩

/-- Whether a phrase stands in a record. -/
def Phrase.occurs (phrase : Phrase) (document : Document) : Bool :=
  phrase.fields.any fun field => !(phrase.offsets document field).isEmpty

/-! ## Groups -/

/-- A phrase of a group while its places in a field are gone through. -/
structure Reading where
  /-- The number of tokens of the phrase. -/
  length : Nat
  /-- The place looked at, and the later ones. -/
  places : List Nat
  /-- The places found so far at which the phrases stand close together, the last one first. -/
  kept : List Nat := []

namespace Reading

/-- Keep the place that is looked at, once. -/
def keep (reading : Reading) : Reading :=
  match reading.places with
  | place :: _ =>
      if reading.kept.head? = some place then reading
      else { reading with kept := place :: reading.kept }
  | [] => reading

/-- Whether a place is too far before another one. -/
def isBehind (distance latest : Nat) (reading : Reading) (place : Nat) : Bool :=
  place + reading.length + distance < latest

/--
Move every phrase on to where it is not too far before the latest place, which moves as well. The
second result says whether nothing was moved. There is none once a phrase has no place left.
-/
def moveOn
    (distance : Nat) : (latest : Nat) → List Reading → Option (Nat × Bool × List Reading)
  | latest, [] => some (latest, true, [])
  | latest, reading :: readings => do
      let place ← reading.places.head?
      if reading.isBehind distance latest place || latest < place then
        let places := reading.places.dropWhile (reading.isBehind distance latest)
        let place ← places.head?
        let (latest, _, readings) ← moveOn distance (max latest place) readings
        some (latest, false, { reading with places } :: readings)
      else
        let (latest, settled, readings) ← moveOn distance latest readings
        some (latest, settled, reading :: readings)

/-- Move the phrases on until they stand close together. -/
def align? (distance : Nat) : (fuel latest : Nat) → List Reading → Option (List Reading)
  | 0, _, _ => none
  | fuel + 1, latest, readings =>
      match moveOn distance latest readings with
      | some (_, true, readings) => some readings
      | some (latest, false, readings) => align? distance fuel latest readings
      | none => none

/-- Move one phrase on, whose next place is the least of all. -/
def advance? (readings : List Reading) : Option (List Reading) := do
  let next ← (readings.filterMap fun reading => reading.places[1]?).min?
  let i ← readings.findIdx? fun reading => reading.places[1]? == some next
  some (readings.modify i fun reading => { reading with places := reading.places.drop 1 })

/-- Go through all places, and keep those at which the phrases stand close together. -/
def gather (distance bound : Nat) : (fuel : Nat) → List Reading → List Reading
  | 0, readings => readings
  | fuel + 1, readings =>
      let latest := (readings.head?.bind (·.places.head?)).getD 0
      match align? distance bound latest readings with
      | some aligned =>
          let kept := aligned.map keep
          match advance? kept with
          | some readings => gather distance bound fuel readings
          | none => kept
      | none => readings

end Reading

/-- The places of each phrase of a group in a field at which they stand close together. -/
def Group.offsets (group : Group) (document : Document) (field : Field) : List (List Nat) :=
  let readings := group.members.map fun tokens =>
    ({ length := tokens.length, places := offsetsFrom tokens 0 (document field) } : Reading)
  let places := (readings.flatMap (·.places)).length
  (Reading.gather group.distance (2 * places + 2) (places + 1) readings).map (·.kept.reverse)

/-- The places of the phrases of a group in a record; phrases are numbered from `first`. -/
def Group.instances (group : Group) (first : Nat) (document : Document) : List Instance :=
  group.fields.flatMap fun field =>
    ((group.offsets document field).zip (group.members.zipIdx first)).flatMap fun entry =>
      entry.1.map fun offset => ⟨field, offset, entry.2.2, entry.2.1.length⟩

/-- Whether the phrases of a group stand close together in a record. -/
def Group.occurs (group : Group) (document : Document) : Bool :=
  group.fields.any fun field => (group.offsets document field).any fun offsets => !offsets.isEmpty

namespace Expression

/-- Whether a record matches. -/
def holds (document : Document) : Expression → Bool
  | .phrase wanted => wanted.occurs document
  | .near group => group.occurs document
  | .never => false
  | .and left right => left.holds document && right.holds document
  | .or left right => left.holds document || right.holds document
  | .not left right => left.holds document && !right.holds document

/-- The places of the phrases that take part in a match; phrases are numbered from `first`. -/
def instancesFrom (document : Document) : (first : Nat) → Expression → List Instance
  | first, .phrase wanted => wanted.instances first document
  | first, .near group => group.instances first document
  | _, .never => []
  | first, .and left right =>
      left.instancesFrom document first ++
        right.instancesFrom document (first + left.phrases.length)
  | first, .or left right =>
      (if left.holds document then left.instancesFrom document first else []) ++
        (if right.holds document then
          right.instancesFrom document (first + left.phrases.length)
        else [])
  | first, .not left _ => left.instancesFrom document first

/-- Places are ordered by field, by offset, and by the number of the phrase. -/
def before (a b : Instance) : Bool :=
  if a.field.position != b.field.position then a.field.position < b.field.position
  else if a.offset != b.offset then a.offset < b.offset
  else a.number ≤ b.number

/-- The places of the phrases of a match, in order. -/
def instances (expression : Expression) (document : Document) : List Instance :=
  (expression.instancesFrom document 0).mergeSort before

end Expression

/-! ## Relevance -/

/-- What the relevance of a record depends on besides the record. -/
structure Corpus where
  /-- The number of records. -/
  size : Nat
  /-- The number of tokens of all records. -/
  tokens : Nat
  /-- The number of records that hold each phrase of the expression. -/
  frequencies : List Nat

/-- The corpus of a list of records for an expression. -/
def Corpus.of (documents : List Document) (expression : Expression) : Corpus where
  size := documents.length
  tokens := documents.foldr (fun document tokens => document.size + tokens) 0
  frequencies := expression.phrases.map fun phrase =>
    (documents.filter phrase.occurs).length

/-- The weight of a phrase that stands in `holding` of `size` records. -/
def rarity (size holding : Nat) : Float :=
  let weight :=
    Float.log
      ((Float.ofInt ((size : Int) - holding) + 0.5) / (holding.toFloat + 0.5))
  if weight ≤ 0.0 then 1e-6 else weight

/-- What the places of one phrase add to the relevance. -/
def phraseScore (corpus : Corpus) (length : Nat) (holding count : Nat) : Float :=
  let average := corpus.tokens.toFloat / corpus.size.toFloat
  let frequency := count.toFloat
  rarity corpus.size holding *
    ((frequency * (1.2 + 1.0)) /
      (frequency + 1.2 * (1.0 - 0.75 + 0.75 * length.toFloat / average)))

/-- The sum of what the phrases add, from the phrase with a number on. -/
def scoreFrom (corpus : Corpus) (length : Nat) (places : List Instance) :
    (number : Nat) → (total : Float) → List Nat → Float
  | _, total, [] => total
  | number, total, holding :: frequencies =>
      let count := (places.filter fun place => place.number == number).length
      scoreFrom corpus length places (number + 1)
        (total + phraseScore corpus length holding count) frequencies

/-- The relevance of a record; the best match has the smallest. -/
def rank (corpus : Corpus) (document : Document) (places : List Instance) : Float :=
  -1.0 * scoreFrom corpus document.size places 0 0.0 corpus.frequencies

end FullText
end BlockSearch
