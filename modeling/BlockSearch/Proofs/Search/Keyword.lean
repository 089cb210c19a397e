import BlockSearch.Engine.Search
import BlockSearch.Proofs.FullText.Phrases
import BlockSearch.Proofs.Query.Phrase
import BlockSearch.Proofs.Search.Expression
import BlockSearch.Proofs.Search.Group
import BlockSearch.Proofs.Text.Blank
import BlockSearch.Proofs.Text.Occurrence

/-!
# Searching for keywords

A text is cut at single spaces, and every piece becomes a phrase in quotes. The records that a
filter accepts and whose searched fields hold all pieces of three or more characters are the
matches; different pieces may be held by different fields, and shorter pieces ask for nothing.
Whatever a piece is made of, it can be read. The index takes a field up to its first null character,
and it does not tell apart a few other characters.
-/

namespace BlockSearch

/-! ## Matches -/

/--
A filter accepts a record, a text has a piece of three characters, and each such piece is found in
one of the searched fields.
-/
def Record.HoldsPieces
    (finds : List Char → List Char → Prop)
    (settings : SearchSettings)
    (filter : Filter)
    (text : List Char)
    (record : Record) : Prop :=
  filter.accepts record = true ∧ (∃ piece ∈ Query.pieces text, 3 ≤ piece.length) ∧
    ∀ piece ∈ Query.pieces text, 3 ≤ piece.length →
      ∃ field ∈ settings.searchedFields, finds piece (record.text field).toList

instance
    (finds : List Char → List Char → Prop)
    [∀ piece text, Decidable (finds piece text)]
    (settings : SearchSettings)
    (filter : Filter)
    (text : List Char) :
    DecidablePred (Record.HoldsPieces finds settings filter text) := by
  unfold Record.HoldsPieces
  infer_instance

/--
The index finds the pieces of a text that have three characters exactly in those searched fields of
some records that contain them.
-/
def SearchSettings.FindsPieces
    (settings : SearchSettings)
    (records : List Record)
    (text : List Char) : Prop :=
  ∀ piece ∈ Query.pieces text, 3 ≤ piece.length → ∀ record ∈ records,
    ∀ field ∈ settings.searchedFields,
      (FullText.Holds settings.mode piece (record.text field).toList ↔
        FullText.Contains settings.mode piece (record.text field).toList)

/-- The index finds pieces of characters that it sees as they are in fields of such characters. -/
theorem SearchSettings.findsPieces_of_plain
    {settings : SearchSettings}
    {records : List Record}
    {text : List Char}
    (textPlain : text.all FullText.isPlain)
    (plain : records.all fun record =>
      settings.searchedFields.all fun field => (record.text field).toList.all FullText.isPlain) :
    settings.FindsPieces records text := by
  intro piece member _ record stored field searched
  have ofText {c : Char} (inside : c ∈ piece) : c ∈ text :=
    Decidable.by_contra fun absent => Query.not_mem_of_mem_pieces absent piece member inside
  have ofRecord := List.all_eq_true.1 (List.all_eq_true.1 plain record stored) field searched
  exact FullText.holds_iff_contains
    (fun c inside => List.all_eq_true.1 textPlain c (ofText inside))
    (List.all_eq_true.1 ofRecord)

/-- Where the index finds the pieces of a text, it finds the records that contain them. -/
theorem SearchSettings.FindsPieces.filter_eq
    {settings : SearchSettings}
    {records : List Record}
    {text : List Char}
    (faithful : settings.FindsPieces records text)
    (filter : Filter) :
    (records.filter fun record =>
        record.HoldsPieces (FullText.Holds settings.mode) settings filter text) =
      records.filter fun record =>
        record.HoldsPieces (FullText.Contains settings.mode) settings filter text := by
  refine List.filter_congr fun record stored => ?_
  rw [decide_eq_decide, Record.HoldsPieces, Record.HoldsPieces]
  refine and_congr_right fun _ => and_congr_right fun _ => ?_
  refine forall₂_congr fun piece member => forall_congr' fun long => ?_
  exact exists_congr fun field => and_congr_right fun searched =>
    faithful piece member long record stored field searched

/-! ## The expression -/

/-- The expression for the pieces of a text is read, and it holds where the fields hold them. -/
theorem SearchSettings.exists_read?_phraseQuery
    (settings : SearchSettings)
    {text : List Char}
    (whole : '\x00' ∉ text) :
    ∃ expression,
      FullText.Expression.read? settings.mode (settings.expression (Query.phraseQuery text)) =
          some expression ∧
        ∀ record, expression.holds (.ofRecord settings.mode record) = true ↔
          (∃ piece ∈ Query.pieces text, 3 ≤ piece.length) ∧
            ∀ piece ∈ Query.pieces text, 3 ≤ piece.length →
              ∃ field ∈ settings.searchedFields,
                FullText.Holds settings.mode piece (record.text field).toList := by
  obtain ⟨fields, searched⟩ : ∃ fields, settings.searchedFields = .content :: fields := ⟨_, rfl⟩
  have noNull := Query.not_mem_of_mem_pieces whole
  obtain ⟨first, others, pieces⟩ := Query.exists_pieces_eq_cons text
  rw [pieces] at noNull ⊢
  have written : settings.expression (Query.phraseQuery text) =
      '{' :: [' '].intercalate ((.content :: fields).map fun field => field.columnName.toList) ++
        ['}', ':', '('] ++ [' '].intercalate ((first :: others).map Query.quote) ++ [')'] := by
    rw [SearchSettings.expression, Query.phraseQuery, pieces, searched]
  rw [written, FullText.Expression.read?_phrases .content fields noNull]
  refine ⟨_, rfl, fun record => ?_⟩
  rw [FullText.Expression.holds_ofTexts_iff noNull, searched]
  simp only [List.mem_filter, Field.mem_all, List.contains_iff_mem, true_and]

/-! ## Records -/

namespace Found

/-- The records that the expression for a text matches are those that hold its pieces. -/
theorem readMatches_phraseQuery
    (context : SearchContext)
    {text : List Char}
    (whole : '\x00' ∉ text) :
    readMatches context (context.settings.expression (Query.phraseQuery text)) =
      context.store.blocks.filter fun record =>
        record.HoldsPieces (FullText.Holds context.settings.mode) context.settings context.filter
          text := by
  obtain ⟨expression, read, holds⟩ := context.settings.exists_read?_phraseQuery whole
  rw [readMatches, read]
  refine List.filter_congr fun record _ => ?_
  rw [Bool.eq_iff_iff, Bool.and_eq_true, decide_eq_true_iff, holds, Record.HoldsPieces]

/-- A text without pieces of three characters is held by no record. -/
theorem holdsPieces_nil
    (finds : List Char → List Char → Prop)
    (settings : SearchSettings)
    (filter : Filter)
    (record : Record) :
    ¬ record.HoldsPieces finds settings filter [] := by
  rintro ⟨-, ⟨piece, member, long⟩, -⟩
  have pieces : Query.pieces [] = [[]] := by decide +kernel
  rw [pieces, List.mem_singleton] at member
  rw [member] at long
  simp at long

/-- The pieces of a query are found in the records that hold them, as many as the limit allows. -/
theorem byKeyword_eq
    (context : SearchContext)
    (short : context.filter.IsShort)
    {query : List Char}
    (whole : '\x00' ∉ Query.removeInvisible query) :
    let matching := context.store.blocks.filter fun record =>
      record.HoldsPieces (FullText.Holds context.settings.mode) context.settings context.filter
        (Query.removeInvisible query)
    (byKeyword context query = .error .statement ∧
        (context.filter.height? false (some matchHeight) = none ∨
          greatestLimit < context.settings.limit)) ∨
      ∃ (ordered : List Record) (size : Nat) (expression : FullText.Expression),
        ordered.Perm matching ∧
        (context.settings.limit ≤ greatestLimit → size = context.settings.limit) ∧
        byKeyword context query =
          .ok ⟨(ordered.take size).map
              (withExcerpts FullText.highlight context.settings.mode expression),
            matching.length, (distinct (matching.map Record.rootId)).length⟩ := by
  intro matching
  obtain ⟨expression, read, -⟩ := context.settings.exists_read?_phraseQuery whole
  have found := byExpression_eq context short
    (context.settings.expression (Query.phraseQuery (Query.removeInvisible query)))
  rw [readMatches_phraseQuery context whole, read] at found
  rcases found with ⟨failed, high | ⟨unread, -⟩ | refused⟩ | ⟨ordered, size, perm, limited, answer⟩
  · exact .inl ⟨failed, .inl high⟩
  · cases unread
  · exact .inl ⟨failed, .inr refused⟩
  · exact .inr ⟨ordered, size, expression, perm, fun allowed => (limited allowed).1, answer⟩

end Found

/-! ## Answers -/

namespace Engine

/-- Without records there is nothing to show. -/
theorem present_nil (engine : Engine) (request : Request) :
    engine.present request [] = .ok [] := by
  rw [present]
  cases request.grouping with
  | none => rfl
  | document =>
      have none : Group.rootIds [] = [] := rfl
      have nothing : engine.store.findAll [] = [] := rfl
      have sorted : request.order.sortBlocks [] = [] := List.mergeSort_nil
      simp [Group.byDocument_eq, none, Group.entries, Group.documents, nothing, sorted]

/--
A search for keywords finds the records that contain every piece of the query of three or more
characters, as far as the index finds these: it shows them up to the limit, with marks, and counts
all of them and their documents. Unless there are too many notebooks or paths, or one of the paths is
too long, it fails only if the limit is not an integer or too many documents are to be shown, whatever
quotes, brackets or operators the query has.
-/
theorem search_keyword
    {engine : Engine}
    {request : Request}
    {text : List Char}
    (method : request.method = .keyword)
    (asked : Query.removeInvisible (Text.trim request.query.toList) = text)
    (notId : BlockId.accepts text = false)
    (whole : '\x00' ∉ text)
    (faithful : engine.settings.FindsPieces engine.store.blocks text) :
    let filter := Filter.ofRequest request engine.settings
    let matching := engine.store.blocks.filter fun record =>
      record.HoldsPieces (FullText.Contains engine.settings.mode) engine.settings filter text
    (filter.IsNarrow → filter.IsShort →
      (greatestLimit < engine.settings.limit ∧
          engine.search request = (.error .statement, engine.wait)) ∨
        ∃ (ordered : List Record) (size : Nat) (expression : FullText.Expression),
          ordered.Perm matching ∧
          (engine.settings.limit ≤ greatestLimit → size = engine.settings.limit) ∧
          engine.search request =
            ((engine.present request ((ordered.take size).map
                (Found.withExcerpts FullText.highlight engine.settings.mode expression))).map
              fun entries =>
                { entries
                  blocks := matching.length
                  documents := (distinct (matching.map Record.rootId)).length },
              engine.wait)) ∧
      (filter.IsWide → Text.trim request.query.toList ≠ [] →
        engine.search request = (.error .statement, engine.wait)) := by
  intro filter matching
  let context : SearchContext := ⟨engine.store, engine.settings, filter, request.order⟩
  have same : matching = engine.store.blocks.filter fun record =>
      record.HoldsPieces (FullText.Holds engine.settings.mode) engine.settings filter text :=
    (faithful.filter_eq filter).symm
  have answer (filled : Text.trim request.query.toList ≠ []) :=
    @search_eq engine request filled (asked ▸ notId)
  rw [method, Found.byMethod] at answer
  refine ⟨fun narrow short => ?_, fun wide filled => ?_⟩
  · by_cases filled : Text.trim request.query.toList = []
    · have empty : matching = [] := by
        have nothing : text = [] := by
          rw [← asked, filled]
          rfl
        simp only [matching, nothing]
        exact List.filter_eq_nil_iff.2 fun record _ => by
          simpa using Found.holdsPieces_nil _ _ _ record
      refine .inr ⟨[], engine.settings.limit, .never, by rw [empty], fun _ => rfl, ?_⟩
      rw [search, respond, filled, List.take_nil, List.map_nil, present_nil, empty]
      rfl
    · have low : (filter.height? false (some Found.matchHeight)).isSome = true :=
        Filter.isSome_height?_of_isNarrow narrow false (by decide)
      rw [answer filled]
      rcases Found.byKeyword_eq context short (asked ▸ whole) with
        ⟨failed, high | refused⟩ | ⟨ordered, size, expression, perm, limited, found⟩
      · rw [show filter.height? false (some Found.matchHeight) = none from high] at low
        cases low
      · rw [failed]
        exact .inl ⟨refused, rfl⟩
      · rw [asked] at perm found
        rw [found, same]
        exact .inr ⟨ordered, size, expression, perm, limited, rfl⟩
  · rw [answer filled, Found.byKeyword,
      Found.byExpression_of_high context (Filter.height?_of_isWide wide _)]
    rfl

/-- Quotes stand for themselves, pieces may be held by different fields, and `OR` is too short. -/
theorem search_keyword_with_quotes :
    let named : Record :=
      { id := "n", rootId := "d", type := "p", name := "say", content := "a \"hi\"" }
    let plain : Record := { id := "o", rootId := "e", type := "p", content := "say hi or" }
    let engine : Engine := { store := { blocks := [plain, named] } }
    let request : Request := { query := " say \"hi\" OR\u200b ", method := .keyword }
    Query.removeInvisible (Text.trim request.query.toList) = "say \"hi\" OR".toList ∧
      BlockId.accepts "say \"hi\" OR".toList = false ∧ '\x00' ∉ "say \"hi\" OR".toList ∧
      engine.settings.FindsPieces engine.store.blocks "say \"hi\" OR".toList ∧
      ∃ expression, engine.search request =
        (.ok
          { entries := [⟨Block.ofRecord engine.mode []
              (Found.withExcerpts FullText.highlight engine.settings.mode expression named), []⟩]
            blocks := 1
            documents := 1 },
          engine.wait) := by
  intro named plain engine request
  have asked : Query.removeInvisible (Text.trim request.query.toList) =
      "say \"hi\" OR".toList := by decide +kernel
  have notId : BlockId.accepts "say \"hi\" OR".toList = false := by decide +kernel
  have whole : '\x00' ∉ "say \"hi\" OR".toList := by decide +kernel
  have faithful : engine.settings.FindsPieces engine.store.blocks "say \"hi\" OR".toList :=
    SearchSettings.findsPieces_of_plain (by decide +kernel) (by decide +kernel)
  have matching : (engine.store.blocks.filter fun record =>
      record.HoldsPieces (FullText.Contains engine.settings.mode) engine.settings
        (Filter.ofRequest request engine.settings) "say \"hi\" OR".toList) = [named] := by
    decide +kernel
  refine ⟨asked, notId, whole, faithful, ?_⟩
  have allowed : engine.settings.limit ≤ greatestLimit := by decide
  have narrow : (Filter.ofRequest request engine.settings).IsNarrow := ⟨by decide, by decide⟩
  have short : (Filter.ofRequest request engine.settings).IsShort := List.forall_mem_nil _
  rcases (@search_keyword engine request _ rfl asked notId whole faithful).1 narrow short with
    ⟨refused, -⟩ | ⟨ordered, size, expression, perm, limited, answer⟩
  · exact absurd allowed (Nat.not_le_of_lt refused)
  · rw [matching] at perm answer
    rw [List.perm_singleton.1 perm, limited allowed] at answer
    exact ⟨expression, answer⟩

/-- A record that holds the pieces is not found behind a path that is too long. -/
theorem not_found_by_keyword_of_long
    {path : String}
    (long : Sql.Like.greatestSize ≤ path.toList.length) :
    let record : Record := { id := "r", rootId := "d", path := "/d", type := "p", content := "hello" }
    let engine : Engine := { store := { blocks := [record] } }
    let request : Request := { query := "hello", method := .keyword, paths := [path, "/d"] }
    record.HoldsPieces (FullText.Contains engine.settings.mode) engine.settings
        (Filter.ofRequest request engine.settings) "hello".toList ∧
      (engine.search request).1 = .error .statement := by
  intro record engine request
  have typed : record.type ∈ (Filter.ofRequest request engine.settings).codes :=
    (by decide : "p" ∈ ({} : SearchSettings).selectedTypes.map BlockType.code)
  have untested : (Filter.ofRequest request engine.settings).verdict record = none :=
    @Filter.verdict_of_long _ _ typed rfl [] ["/d"] path rfl (List.forall_mem_nil _) long
  have pieces : (∃ piece ∈ Query.pieces "hello".toList, 3 ≤ piece.length) ∧
      ∀ piece ∈ Query.pieces "hello".toList, 3 ≤ piece.length →
        ∃ field ∈ ({} : SearchSettings).searchedFields,
          FullText.Contains .insensitive piece (record.text field).toList := by
    decide +kernel
  have indexed : (∃ piece ∈ Query.pieces "hello".toList, 3 ≤ piece.length) ∧
      ∀ piece ∈ Query.pieces "hello".toList, 3 ≤ piece.length →
        ∃ field ∈ ({} : SearchSettings).searchedFields,
          FullText.Holds .insensitive piece (record.text field).toList := by
    decide +kernel
  refine ⟨⟨Filter.accepts_iff.2 ⟨typed, .inl rfl, .inr ⟨"/d", ?_, by decide +kernel⟩⟩, pieces⟩, ?_⟩
  · exact List.mem_cons_of_mem path List.mem_cons_self
  · obtain ⟨expression, read, holds⟩ :=
      engine.settings.exists_read?_phraseQuery (show '\x00' ∉ "hello".toList by decide)
    have failed := @Found.byExpression_of_untested
      ⟨engine.store, engine.settings, Filter.ofRequest request engine.settings, request.order⟩
      (show "sort" ∈ Sql.storedKeys by decide)
      (show ({} : SearchSettings).limit ≤ greatestLimit by decide)
      (show ({} : SearchSettings).limit ≠ 0 by decide) _ expression read record List.mem_cons_self
      ((holds record).2 indexed) untested
    rw [search_hello rfl, show request.method = .keyword from rfl, Found.byMethod,
      Found.byKeyword, removeInvisible_hello, failed]
    rfl

/-- A record that holds the pieces is not found with too many notebooks, nor behind a path that is too
long. -/
theorem not_found_by_keyword_of_wide_or_long :
    let record : Record := { id := "r", rootId := "d", path := "/d", type := "p", content := "hello" }
    let engine : Engine := { store := { blocks := [record] } }
    let wide : Request := { query := "hello", method := .keyword, boxes := List.replicate 999 "" }
    let long : Request :=
      { query := "hello", method := .keyword
        paths := [String.ofList (List.replicate Sql.Like.greatestSize 'a'), "/d"] }
    engine.settings.FindsPieces engine.store.blocks "hello".toList ∧
      (record.HoldsPieces (FullText.Contains engine.settings.mode) engine.settings
          (Filter.ofRequest wide engine.settings) "hello".toList ∧
        (engine.search wide).1 = .error .statement) ∧
      record.HoldsPieces (FullText.Contains engine.settings.mode) engine.settings
          (Filter.ofRequest long engine.settings) "hello".toList ∧
        (engine.search long).1 = .error .statement := by
  intro record engine wide long
  have many : (Filter.ofRequest wide engine.settings).IsWide :=
    ⟨by decide, .inl (List.length_replicate).ge⟩
  refine ⟨SearchSettings.findsPieces_of_plain (by decide +kernel) (by decide +kernel),
    ⟨by decide +kernel, ?_⟩,
    not_found_by_keyword_of_long Filter.greatestSize_le_length_replicate⟩
  have failed := Found.byExpression_of_high
    ⟨engine.store, engine.settings, Filter.ofRequest wide engine.settings, wide.order⟩
    (Filter.height?_of_isWide many _)
  rw [search_hello rfl, show wide.method = .keyword from rfl, Found.byMethod, Found.byKeyword,
    failed]
  rfl

end Engine
end BlockSearch
