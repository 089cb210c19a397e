import BlockSearch.Proofs.Search.Filter

/-!
# Placeholders of filters

The text that a filter writes depends on its types and on how many boxes and paths there are, and
on nothing else. It refers to every value that is bound for it once, each in its own condition.
-/

namespace BlockSearch
namespace Sql

/-! ## Texts with placeholders -/

/-- A piece of a statement. -/
inductive Piece
  /-- A character. -/
  | char (c : Char)
  /-- The place of the value with a number. -/
  | place (number : Nat)
  deriving DecidableEq, Repr

namespace Piece

/-- The pieces of a text: the digits behind a question mark are the number of a value. -/
def ofChars : (inNumber : Bool) → List Char → List Piece
  | _, [] => []
  | inNumber, c :: rest =>
      if c = '?' then
        .place (NumberLiteral.ofDigits (rest.takeWhile Char.isDigit)) :: ofChars true rest
      else if inNumber && c.isDigit then ofChars true rest
      else .char c :: ofChars false rest

/-- The number of a piece that has one. -/
def numbers : Piece → List Nat
  | .char _ => []
  | .place number => [number]

/-- The text of a piece, where the values of places are written in some way. -/
def filled (write : String → List Char) (values : List String) : Piece → List Char
  | .char c => [c]
  | .place number => (values[number - 1]?).elim [] write

/-- A text has some pieces in front of everything that does not begin with a digit. -/
def Cut (text : List Char) (pieces : List Piece) : Prop :=
  ∀ rest, (∀ c ∈ rest.head?, c.isDigit = false) →
    ofChars false (text ++ rest) = pieces ++ ofChars false rest

theorem Cut.append
    {text more : List Char}
    {pieces others : List Piece}
    (cut : Cut text pieces)
    (cutMore : Cut more others)
    (apart : ∀ c ∈ more.head?, c.isDigit = false) :
    Cut (text ++ more) (pieces ++ others) := by
  intro rest stop
  have apartAll : ∀ c ∈ (more ++ rest).head?, c.isDigit = false := by
    cases more with
    | nil => exact stop
    | cons d more => exact apart
  rw [List.append_assoc, cut _ apartAll, cutMore rest stop, List.append_assoc]

/-- In front of anything, a text without question marks consists of its characters. -/
theorem ofChars_append
    {text : List Char}
    (absent : '?' ∉ text)
    (rest : List Char) :
    ofChars false (text ++ rest) = text.map .char ++ ofChars false rest := by
  induction text with
  | nil => rfl
  | cons c text inductionHypothesis =>
      rw [List.mem_cons, not_or] at absent
      rw [List.cons_append, ofChars, if_neg (Ne.symm absent.1), Bool.false_and,
        if_neg Bool.false_ne_true, inductionHypothesis absent.2, List.map_cons, List.cons_append]

theorem cut_chars
    {text : List Char}
    (absent : '?' ∉ text) :
    Cut text (text.map .char) := fun rest _ => ofChars_append absent rest

theorem Cut.behind
    {text more : List Char}
    {pieces : List Piece}
    (cut : Cut more pieces)
    (absent : '?' ∉ text) :
    Cut (text ++ more) (text.map .char ++ pieces) := by
  intro rest stop
  rw [List.append_assoc, ofChars_append absent, cut rest stop, List.append_assoc]

theorem ofChars_true_eq
    {rest : List Char}
    (stop : ∀ c ∈ rest.head?, c.isDigit = false) :
    ofChars true rest = ofChars false rest := by
  cases rest with
  | nil => rfl
  | cons c rest => simp [ofChars, stop c rfl]

/-- The digits of a number are passed over. -/
theorem ofChars_true_digits
    {digits : List Char}
    (digit : ∀ c ∈ digits, c.isDigit = true)
    (rest : List Char) :
    ofChars true (digits ++ rest) = ofChars true rest := by
  induction digits with
  | nil => rfl
  | cons c digits inductionHypothesis =>
      obtain ⟨first, others⟩ := List.forall_mem_cons.1 digit
      have notMark : c ≠ '?' := NumberLiteral.ne_of_isDigit first rfl
      rw [List.cons_append, ofChars, if_neg notMark, Bool.true_and, if_pos first,
        inductionHypothesis others]

/-- The text that refers to the value with a number. -/
def placeholder (number : Nat) : List Char := '?' :: (toString number).toList

theorem cut_placeholder (number : Nat) : Cut (placeholder number) [.place number] := by
  intro rest stop
  have digit : ∀ c ∈ (toString number).toList, c.isDigit = true :=
    fun c => NumberLiteral.isDigit_of_mem_toString
  rw [placeholder, List.cons_append, ofChars, if_pos rfl, ofChars_true_digits digit,
    ofChars_true_eq stop, Lists.takeWhile_append_of_head digit stop,
    NumberLiteral.ofDigits_toString]
  rfl

end Piece

/-- The numbers of the values that a text refers to, in their order. -/
def placeholders (text : String) : List Nat :=
  (Piece.ofChars false text.toList).flatMap Piece.numbers

/-- A text with values, each written in some way, in the places that refer to them. -/
def filled (write : String → List Char) (values : List String) (text : String) : List Char :=
  (Piece.ofChars false text.toList).flatMap (Piece.filled write values)

end Sql

namespace Filter

open Sql

/-! ## Alternatives -/

/-- Parts with `OR` between them behind `AND`; nothing if there are no parts. -/
def anyOf {α : Type} (mark : Char → α) (parts : List (List α)) : List α :=
  if parts.isEmpty then []
  else
    " AND (".toList.map mark ++ ((" OR ".toList.map mark).intercalate parts ++ ")".toList.map mark)

theorem cut_intercalate
    {α : Type}
    {text : α → List Char}
    {pieces : α → List Piece}
    (cut : ∀ item, Piece.Cut (text item) (pieces item))
    (items : List α) :
    Piece.Cut (" OR ".toList.intercalate (items.map text))
      ((" OR ".toList.map .char).intercalate (items.map pieces)) := by
  induction items with
  | nil => exact Piece.cut_chars List.not_mem_nil
  | cons item items inductionHypothesis =>
      cases items with
      | nil =>
          simp only [List.map_cons, List.map_nil, List.intercalate_singleton]
          exact cut item
      | cons other items =>
          have word : '?' ∉ " OR ".toList := by decide
          have whole := (cut item).append (inductionHypothesis.behind word) (by rintro c ⟨⟩; rfl)
          simpa only [List.map_cons, List.intercalate_cons_cons, List.append_assoc] using whole

/-- Alternatives have the pieces of their parts. -/
theorem cut_anyOf
    {α : Type}
    {text : α → List Char}
    {pieces : α → List Piece}
    (cut : ∀ item, Piece.Cut (text item) (pieces item))
    (items : List α) :
    Piece.Cut (anyOf id (items.map text)) (anyOf .char (items.map pieces)) := by
  unfold anyOf
  rw [List.isEmpty_map, List.isEmpty_map]
  split_ifs
  · exact Piece.cut_chars List.not_mem_nil
  · have front : '?' ∉ " AND (".toList := by decide
    have close : '?' ∉ ")".toList := by decide
    have closed := (cut_intercalate cut items).append (Piece.cut_chars close) (by rintro c ⟨⟩; rfl)
    simpa only [List.map_id] using closed.behind front

theorem flatMap_numbers_chars (text : List Char) :
    (text.map Piece.char).flatMap Piece.numbers = [] := by
  simp [Piece.numbers]

/-- A place within text refers to the value with its number. -/
theorem flatMap_numbers_around
    (front back : List Char)
    (number : Nat) :
    (front.map Piece.char ++ ([Piece.place number] ++ back.map Piece.char)).flatMap Piece.numbers =
      [number] := by
  rw [List.flatMap_append, List.flatMap_append, flatMap_numbers_chars, flatMap_numbers_chars]
  rfl

theorem flatMap_numbers_anyOf (parts : List (List Piece)) :
    (anyOf .char parts).flatMap Piece.numbers =
      (parts.map (List.flatMap Piece.numbers)).flatten := by
  cases parts with
  | nil => rfl
  | cons part parts =>
      simp only [anyOf, List.isEmpty_cons, Bool.false_eq_true, if_false, List.flatMap_append,
        flatMap_numbers_chars, Lists.flatMap_intercalate, Lists.nil_intercalate, List.nil_append,
        List.append_nil]

theorem flatMap_filled_chars
    (write : String → List Char)
    (values : List String)
    (text : List Char) :
    (text.map Piece.char).flatMap (Piece.filled write values) = text := by
  simp [List.flatMap_map, Piece.filled]

/-- A place within text is where the value with its number is written. -/
theorem flatMap_filled_around
    (write : String → List Char)
    (values : List String)
    (front back : List Char)
    (number : Nat) :
    (front.map Piece.char ++ ([Piece.place number] ++ back.map Piece.char)).flatMap
        (Piece.filled write values) =
      front ++ ((values[number - 1]?).elim [] write ++ back) := by
  rw [List.flatMap_append, List.flatMap_append, flatMap_filled_chars, flatMap_filled_chars,
    List.flatMap_singleton, Piece.filled]

theorem flatMap_filled_anyOf
    (write : String → List Char)
    (values : List String)
    (parts : List (List Piece)) :
    (anyOf .char parts).flatMap (Piece.filled write values) =
      anyOf id (parts.map (List.flatMap (Piece.filled write values))) := by
  cases parts with
  | nil => rfl
  | cons part parts =>
      simp only [anyOf, List.isEmpty_cons, Bool.false_eq_true, if_false, List.flatMap_append,
        flatMap_filled_chars, Lists.flatMap_intercalate, List.map_id, List.map_cons]

/-! ## The text of a filter -/

/-- The condition on a box by the number of its value. -/
def boxText (number : Nat) : List Char := "box = ".toList ++ Piece.placeholder number

/-- The condition on a path by the number of its value. -/
def pathText (number : Nat) : List Char :=
  "path LIKE ".toList ++ (Piece.placeholder number ++ " ESCAPE '\\'".toList)

/--
The text that a filter writes: it is given by the types, the number of values that were bound
before, and the numbers of boxes and of paths.
-/
def shape (types : List BlockType) (bound boxes paths : Nat) : List Char :=
  (typeText { types }).toList ++
    (anyOf id ((List.range' (bound + 1) boxes).map boxText) ++
      anyOf id ((List.range' (bound + boxes + 1) paths).map pathText))

theorem writeAny_text
    (fragment : Fragment)
    (conditions : List Condition) :
    (writeAny fragment conditions).text = fragment.text ++ String.ofList (anyOf id
      ((conditions.zipIdx (fragment.values.length + 1)).map fun entry =>
        (entry.1.text ("?" ++ toString entry.2)).toList)) := by
  unfold writeAny anyOf
  rw [List.isEmpty_map, bindConditions_eq]
  cases conditions with
  | nil => simp
  | cons condition conditions =>
      apply String.toList_inj.1
      simp [Fragment.push, clauses, Condition.clause, Function.comp_def]

/-- Conditions that do not show their values are given by the numbers of these. -/
theorem map_zipIdx_eq
    {condition : String → Condition}
    {text : Nat → List Char}
    (same : ∀ value number, ((condition value).text ("?" ++ toString number)).toList = text number)
    (values : List String)
    (start : Nat) :
    (((values.map condition).zipIdx start).map fun entry =>
        (entry.1.text ("?" ++ toString entry.2)).toList) =
      (List.range' start values.length).map text := by
  rw [List.zipIdx_map, List.map_map, ← List.zipIdx_map_snd start values, List.map_map]
  refine List.map_congr_left fun entry _ => ?_
  rw [Function.comp_apply, Prod.map_fst, Prod.map_snd, same, id, Function.comp_apply]

theorem write_text
    (filter : Filter)
    (fragment : Fragment) :
    (filter.write fragment).text = fragment.text ++ String.ofList
      (shape filter.types fragment.values.length filter.boxes.length filter.paths.length) := by
  have boxes : ∀ (value : String) (number : Nat),
      ((Condition.box value).text ("?" ++ toString number)).toList = boxText number := by
    intro value number
    rw [Condition.text, String.toList_append, String.toList_append]
    rfl
  have paths : ∀ (path : String) (number : Nat),
      ((Condition.path (pathPattern path)).text ("?" ++ toString number)).toList =
        pathText number := by
    intro path number
    rw [Condition.text, String.toList_append, String.toList_append, String.toList_append,
      List.append_assoc]
    rfl
  have count : (writeAny (fragment.push filter.typeText) filter.boxConditions).values.length + 1 =
      fragment.values.length + filter.boxes.length + 1 := by
    rw [writeAny_values, List.length_append, List.length_map, boxConditions, List.length_map]
    rfl
  rw [write, writeAny_text, count, writeAny_text, boxConditions, pathConditions,
    map_zipIdx_eq paths, map_zipIdx_eq boxes]
  apply String.toList_inj.1
  simp [shape, Fragment.push, typeText, codes]

/-! ## Placeholders of a filter -/

theorem mark_not_mem_typeText (filter : Filter) : '?' ∉ filter.typeText.toList := by
  have inCodes : '?' ∉ [',', ' '].intercalate
      (filter.codes.map (String.toList ∘ fun code => "'" ++ code ++ "'")) := by
    intro member
    rcases Lists.mem_of_mem_intercalate member with comma | ⟨part, inside, here⟩
    · exact absurd comma (by decide)
    · simp only [codes, List.map_map, List.mem_map, Function.comp_apply] at inside
      obtain ⟨type, -, rfl⟩ := inside
      exact absurd here (by cases type <;> decide)
  simp [typeText, inCodes]

/-- The pieces of the condition on a box. -/
def boxPieces (number : Nat) : List Piece := "box = ".toList.map .char ++ [.place number]

/-- The pieces of the condition on a path. -/
def pathPieces (number : Nat) : List Piece :=
  "path LIKE ".toList.map .char ++ ([.place number] ++ " ESCAPE '\\'".toList.map .char)

theorem cut_boxText (number : Nat) : Piece.Cut (boxText number) (boxPieces number) :=
  (Piece.cut_placeholder number).behind (by decide)

theorem cut_pathText (number : Nat) : Piece.Cut (pathText number) (pathPieces number) := by
  have close := Piece.cut_chars (show '?' ∉ " ESCAPE '\\'".toList by decide)
  have place := (Piece.cut_placeholder number).append close (by rintro c ⟨⟩; rfl)
  exact place.behind (by decide)

/-- The pieces of what a filter writes. -/
theorem ofChars_shape
    (types : List BlockType)
    (bound boxes paths : Nat) :
    Piece.ofChars false (shape types bound boxes paths) =
      (typeText { types }).toList.map .char ++
        (anyOf .char ((List.range' (bound + 1) boxes).map boxPieces) ++
          anyOf .char ((List.range' (bound + boxes + 1) paths).map pathPieces)) := by
  have apart : ∀ c ∈ (anyOf id ((List.range' (bound + boxes + 1) paths).map pathText)).head?,
      c.isDigit = false := by
    unfold anyOf
    split_ifs
    · nofun
    · rintro c ⟨⟩
      rfl
  have whole := ((cut_anyOf cut_boxText (List.range' (bound + 1) boxes)).append
    (cut_anyOf cut_pathText (List.range' (bound + boxes + 1) paths)) apart).behind
      (mark_not_mem_typeText { types })
  have alone := whole [] nofun
  rwa [List.append_nil, Piece.ofChars, List.append_nil] at alone

/-- What a filter writes refers to the values behind those bound before, each once, in order. -/
theorem placeholders_shape
    (types : List BlockType)
    (bound boxes paths : Nat) :
    placeholders (String.ofList (shape types bound boxes paths)) =
      List.range' (bound + 1) (boxes + paths) := by
  have box (number : Nat) : (boxPieces number).flatMap Piece.numbers = [number] :=
    flatMap_numbers_around _ [] number
  have path (number : Nat) : (pathPieces number).flatMap Piece.numbers = [number] :=
    flatMap_numbers_around _ _ number
  have behind : bound + boxes + 1 = bound + 1 + boxes := by omega
  simp only [placeholders, String.toList_ofList, ofChars_shape, List.flatMap_append,
    flatMap_numbers_chars, flatMap_numbers_anyOf, List.map_map, Function.comp_def, box, path,
    ← List.flatMap_def, List.flatMap_singleton', List.nil_append, behind, List.range'_append_1]

/-- The values in the middle of others are those with the numbers behind the first ones. -/
theorem map_range'_eq
    {α : Type}
    (f : Option String → α)
    (front middle back : List String) :
    (List.range' (front.length + 1) middle.length).map
        (fun number => f (front ++ (middle ++ back))[number - 1]?) =
      middle.map fun value => f (some value) := by
  apply List.ext_getElem
  · simp
  · intro index inRange inMiddle
    rw [List.length_map] at inMiddle
    have place : front.length + 1 + index - 1 - front.length = index := by omega
    rw [List.getElem_map, List.getElem_map, List.getElem_range', Nat.one_mul,
      List.getElem?_append_right (by omega), place, List.getElem?_append_left inMiddle,
      List.getElem?_eq_getElem inMiddle]

/-- Every value stands in its own condition when the values are written in their places. -/
theorem filled_shape
    (write : String → List Char)
    (types : List BlockType)
    (before boxes patterns : List String) :
    filled write (before ++ (boxes ++ patterns))
        (String.ofList (shape types before.length boxes.length patterns.length)) =
      (typeText { types }).toList ++
        (anyOf id (boxes.map fun box => "box = ".toList ++ write box) ++
          anyOf id (patterns.map fun pattern =>
            "path LIKE ".toList ++ (write pattern ++ " ESCAPE '\\'".toList))) := by
  let values := before ++ (boxes ++ patterns)
  have box (number : Nat) : (boxPieces number).flatMap (Piece.filled write values) =
      "box = ".toList ++ (values[number - 1]?).elim [] write :=
    (flatMap_filled_around write values _ [] number).trans (by rw [List.append_nil])
  have path (number : Nat) : (pathPieces number).flatMap (Piece.filled write values) =
      "path LIKE ".toList ++
        ((values[number - 1]?).elim [] write ++ " ESCAPE '\\'".toList) :=
    flatMap_filled_around write values _ _ number
  have inBoxes := map_range'_eq (fun value => "box = ".toList ++ value.elim [] write)
    before boxes patterns
  have inPaths := map_range'_eq
    (fun value => "path LIKE ".toList ++ (value.elim [] write ++ " ESCAPE '\\'".toList))
    (before ++ boxes) patterns []
  rw [List.append_nil, List.length_append, List.append_assoc] at inPaths
  simp only [filled, String.toList_ofList, ofChars_shape, List.flatMap_append,
    flatMap_filled_chars, flatMap_filled_anyOf, List.map_map, Function.comp_def]
  simp only [values] at box path
  simp only [box, path, inBoxes, inPaths, Option.elim_some]

/--
Two requests that select the same types, and have as many boxes and as many paths, are written as
the same text behind any statement, whatever the boxes and paths are. A box is bound as it is, and
a path with its special characters escaped and a percent sign behind it; all values that were bound
before stay in front. The text refers to every value that is bound for it once and in order, and
to no other. With the values written in the places that refer to them, in whatever way, every box
and every path stands in its own condition.
-/
theorem write_same_text
    {left right : Request}
    {settings : SearchSettings}
    (types : (ofRequest left settings).types = (ofRequest right settings).types)
    (boxes : left.boxes.length = right.boxes.length)
    (paths : left.paths.length = right.paths.length)
    (fragment : Fragment) :
    ∃ text : String, ∀ request ∈ [left, right],
      let written := (ofRequest request settings).write fragment
      written.text = fragment.text ++ text ∧
        written.values = fragment.values ++ (request.boxes ++
          request.paths.map fun path => String.ofList (Like.escaped path.toList ++ ['%'])) ∧
        placeholders text = List.range' (fragment.values.length + 1)
          (request.boxes.length + request.paths.length) ∧
        (∀ number ∈ placeholders text, 1 ≤ number ∧ number ≤ written.values.length) ∧
        ∀ write : String → List Char, filled write written.values text =
          (ofRequest request settings).typeText.toList ++
            (anyOf id (request.boxes.map fun box => "box = ".toList ++ write box) ++
              anyOf id (request.paths.map fun path =>
                "path LIKE ".toList ++ (write (pathPattern path) ++ " ESCAPE '\\'".toList))) := by
  refine ⟨String.ofList (shape (ofRequest left settings).types fragment.values.length
    left.boxes.length left.paths.length), ?_⟩
  intro request member written
  obtain ⟨sameTypes, sameBoxes, samePaths⟩ :
      (ofRequest left settings).types = (ofRequest request settings).types ∧
        left.boxes.length = request.boxes.length ∧ left.paths.length = request.paths.length := by
    simp only [List.mem_cons, List.not_mem_nil, or_false] at member
    rcases member with rfl | rfl
    · exact ⟨rfl, rfl, rfl⟩
    · exact ⟨types, boxes, paths⟩
  rw [sameTypes, sameBoxes, samePaths]
  have values : written.values =
      fragment.values ++ (request.boxes ++ request.paths.map pathPattern) := by
    rw [write_values, boxConditions, pathConditions, List.map_map, List.map_map]
    exact congrArg (fun boxes => fragment.values ++ (boxes ++ _)) (List.map_id _)
  have numbers := placeholders_shape (ofRequest request settings).types fragment.values.length
    request.boxes.length request.paths.length
  refine ⟨write_text _ fragment, values, numbers, ?_, fun write => ?_⟩
  · intro number inside
    rw [numbers, List.mem_range'_1] at inside
    rw [values, List.length_append, List.length_append, List.length_map]
    omega
  · have filledPlaces := filled_shape write (ofRequest request settings).types fragment.values
      request.boxes (request.paths.map pathPattern)
    rw [List.length_map, List.map_map] at filledPlaces
    rw [values]
    exact filledPlaces

/-- Values that look like parts of a statement are written as any other values are. -/
theorem write_same_text_of_quotes :
    let settings : SearchSettings := {}
    let plain : Request := { query := "", boxes := ["b", "c"], paths := ["/d"] }
    let quoted : Request := { query := "", boxes := ["b' OR '1", "?1"], paths := ["/a_b%"] }
    let before : Fragment := ⟨"FROM blocks WHERE content REGEXP ?1", ["e"]⟩
    (ofRequest plain settings).types = (ofRequest quoted settings).types ∧
      ((ofRequest plain settings).write before).text =
        ((ofRequest quoted settings).write before).text ∧
      ((ofRequest quoted settings).write before).values =
        ["e", "b' OR '1", "?1", "/a\\_b\\%%"] := by
  intro settings plain quoted before
  obtain ⟨text, each⟩ := @write_same_text plain quoted settings rfl rfl rfl before
  obtain ⟨first, -⟩ := each plain (by simp)
  obtain ⟨second, values, -⟩ := each quoted (by simp)
  refine ⟨rfl, first.trans second.symm, ?_⟩
  rw [values]
  decide

end Filter
end BlockSearch
