import BlockSearch.Engine.Search
import BlockSearch.Proofs.Pattern.Literal
import BlockSearch.Proofs.Search.Body

/-!
# Searching for a text as it is written

The records that a filter accepts and that hold the text in a searched field are the matches.
The statement that is written for the text selects as many of them as the limit allows, in the
order asked for, and another one counts all. Statements with too many conditions cannot be run, and
a statement fails at a record that cannot be tested.
-/

namespace BlockSearch

/-! ## Matches -/

/-- A filter accepts a record, and one of its searched fields holds a text. -/
def Record.Matches
    (settings : SearchSettings)
    (filter : Filter)
    (text : List Char)
    (record : Record) : Prop :=
  filter.accepts record = true ∧
    ∃ field ∈ settings.searchedFields, text <:+: (record.text field).toList

instance
    (settings : SearchSettings)
    (filter : Filter)
    (text : List Char) :
    DecidablePred (Record.Matches settings filter text) := by
  unfold Record.Matches
  infer_instance

/-! ## The condition on a field -/

/-- The condition that a pattern, which is the value of a parameter, occurs in a field. -/
def Field.clause (field : Field) (pattern : String) (number : Nat) : Sql.Clause where
  text := field.columnName ++ " REGEXP " ++ ("?" ++ toString number)
  tokens := [.word field.columnName, .word "REGEXP", .parameter (some number)]
  body := .regexp (.column none field.columnName false) (.parameter number)
  verdict record := some (Pattern.occursIn pattern.toList (record.text field).toList)

theorem Field.stands_clause
    (field : Field)
    {values : List String}
    {pattern : String}
    {number : Nat}
    (bound : values[number - 1]? = some pattern) :
    (field.clause pattern number).Stands values where
  spells := by
    intro rest more apart scans
    have plain : ([field.columnName, "REGEXP"].all fun word =>
        Sql.Token.isWord word.toList) = true := by
      cases field <;> decide
    have whole := (scans.parameter number apart).words _ plain
    simpa [clause] using whole
  reads := Sql.Reader.reads_regexp field number
  means := Sql.means_regexp field bound
  named := by simp [clause]

/-! ## Orders -/

namespace Order

open Sql

/-- An order whose keys are those of a column is the order of the column. -/
theorem columnAllows_eq_allows
    {order : Order}
    {α : Type}
    [LinearOrder α]
    {name : String}
    (key : Record → α)
    (compared : ∀ first second, Value.ordering .binary (columnValue name first)
      (columnValue name second) = compare (key first) (key second))
    {descending : Bool}
    (precedes : ∀ first second, order.Precedes first second ↔
      if descending then key second < key first else key first < key second) :
    columnAllows name descending = order.allows := by
  funext first second
  rw [Bool.eq_iff_iff, columnAllows_iff compared, allows_iff, precedes]

/-- Without ranks the column of an order puts records into that order. -/
theorem columnAllows_key (order : Order) :
    columnAllows (order.key false).name ((order.key false).direction.getD false) =
      order.allows := by
  cases order with
  | createdAsc | createdDesc =>
      exact columnAllows_eq_allows Record.created (fun _ _ => rfl) fun _ _ => Iff.rfl
  | updatedAsc | updatedDesc =>
      exact columnAllows_eq_allows Record.updated (fun _ _ => rfl) fun _ _ => Iff.rfl
  | type | contentOrder | relevanceAsc | relevanceDesc =>
      exact columnAllows_eq_allows Record.sort (fun _ _ => rfl) fun _ _ => Iff.rfl

end Order

/-! ## The statements -/

namespace Found

/-- The condition that a pattern, which is the first value, occurs in one of some fields. -/
def patternClause (first : Field) (fields : List Field) (pattern : String) : Sql.Clause :=
  .any (first.clause pattern 1) (fields.map fun field => field.clause pattern 1)

theorem restricts_patternClause
    (first : Field)
    (fields : List Field)
    (pattern : String) :
    (patternClause first fields pattern).Restricts .blocks [pattern] := by
  have stands : (patternClause first fields pattern).Stands [pattern] := by
    refine Sql.Clause.Stands.any fun one member => ?_
    rcases List.mem_cons.1 member with rfl | later
    · exact first.stands_clause rfl
    · obtain ⟨field, -, rfl⟩ := List.mem_map.1 later
      exact field.stands_clause rfl
  refine stands.restricts ⟨stands.named, fun number => ?_⟩
  rw [patternClause, Sql.Clause.parameter_mem_any]
  simp [Field.clause]
  omega

theorem verdict_patternClause
    (first : Field)
    (fields : List Field)
    (pattern : String)
    (record : Record) :
    (patternClause first fields pattern).verdict record =
      some ((first :: fields).any fun field =>
        Pattern.occursIn pattern.toList (record.text field).toList) := by
  have known := Sql.anyOf_map_some ((first :: fields).map fun field =>
    Pattern.occursIn pattern.toList (record.text field).toList)
  have verdicts : (first.clause pattern 1 :: fields.map fun field => field.clause pattern 1).map
      (fun clause => clause.verdict record) = ((first :: fields).map fun field =>
        Pattern.occursIn pattern.toList (record.text field).toList).map some := by
    rw [List.map_cons, List.map_cons, List.map_cons, List.map_map, List.map_map]
    rfl
  rw [List.any_map] at known
  exact (congrArg Sql.anyOf verdicts).trans known

theorem height?_patternClause
    (first : Field)
    (fields : List Field)
    (pattern : String) :
    (patternClause first fields pattern).body.height? =
      Sql.Clause.anyHeight? (first :: fields).length := by
  rw [patternClause, Sql.Clause.height?_any, List.length_map, List.length_cons]
  intro clause member
  rcases List.mem_cons.1 member with rfl | later
  · rfl
  · obtain ⟨field, -, rfl⟩ := List.mem_map.1 later
    rfl

/-- The height of the condition for a pattern in the searched fields. -/
def patternHeight? (settings : SearchSettings) : Option Nat :=
  Sql.Clause.anyHeight? settings.searchedFields.length

/-- The fields that are searched are not too many for a statement. -/
theorem exists_patternHeight?
    (settings : SearchSettings) :
    ∃ height ≤ 997, patternHeight? settings = some height := by
  refine ⟨settings.searchedFields.length + 1, ?_, ?_⟩
  · simp only [SearchSettings.searchedFields]
    split_ifs <;> decide
  · rw [patternHeight?, Sql.Clause.anyHeight?, if_pos]
    simp only [SearchSettings.searchedFields]
    split_ifs <;> decide

/-- A pattern occurs in a searched field of a record. -/
def occursInFields (settings : SearchSettings) (pattern : String) (record : Record) : Bool :=
  settings.searchedFields.any fun field =>
    Pattern.occursIn pattern.toList (record.text field).toList

/-- The conditions of a search for a pattern restrict a statement to the records that match it. -/
theorem restricts_patternBody
    (settings : SearchSettings)
    (filter : Filter)
    (pattern : String) :
    Filter.Restricts .blocks (patternBody settings filter pattern) filter.types.isEmpty
      (filter.height? false (patternHeight? settings)) fun record =>
        Sql.bothOf (some (occursInFields settings pattern record)) (filter.verdict record) := by
  obtain ⟨fields, searched⟩ : ∃ fields, settings.searchedFields = .content :: fields := ⟨_, rfl⟩
  have written : patternBody settings filter pattern = filter.write
      ⟨"FROM blocks WHERE " ++ (patternClause .content fields pattern).text, [pattern]⟩ := by
    rw [patternBody, searched]
    simp only [Sql.Fragment.bind, Sql.Fragment.push, patternClause, Sql.Clause.any, List.map_cons,
      List.map_map, List.nil_append, List.length_singleton]
    rfl
  simp only [written, patternHeight?, occursInFields, searched]
  exact Filter.restricts_write (by decide) (fun _ => rfl) ⟨_, rfl,
    restricts_patternClause .content fields pattern, fun _ => Sql.Clause.isZero_any rfl,
    height?_patternClause .content fields pattern, verdict_patternClause .content fields pattern⟩
    filter

/-- The value of the pattern is bound. -/
theorem values_patternBody_ne_nil
    (settings : SearchSettings)
    (filter : Filter)
    (pattern : String) :
    (patternBody settings filter pattern).values ≠ [] := by
  rw [patternBody, Filter.write_values]
  simp [Sql.Fragment.bind, Sql.Fragment.push]

/-- Every character of an escaped text stands for itself. -/
theorem occursInFields_escape_iff
    {settings : SearchSettings}
    {text : List Char}
    {record : Record} :
    occursInFields settings (String.ofList (Pattern.escape text)) record = true ↔
      ∃ field ∈ settings.searchedFields, text <:+: (record.text field).toList := by
  simp only [occursInFields, List.any_eq_true, String.toList_ofList, Pattern.occursIn_escape_iff]

/-- A text is found in the records that match it, as many as the limit allows. -/
theorem byLiteral_eq
    (context : SearchContext)
    (low : (context.filter.height? false (patternHeight? context.settings)).isSome = true)
    (short : context.filter.IsShort)
    (allowed : context.settings.limit ≤ greatestLimit)
    (query : List Char) :
    let matching := context.store.blocks.filter fun record =>
      record.Matches context.settings context.filter (Query.removeInvisible query)
    ∃ chosen rest, context.order.Selects context.settings.limit matching chosen rest ∧
      byLiteral context query =
        .ok ⟨chosen, matching.length, (distinct (matching.map Record.rootId)).length⟩ := by
  intro matching
  obtain ⟨clause, text, restricts, -, height, verdict⟩ := restricts_patternBody context.settings
    context.filter (String.ofList (Pattern.escape (Query.removeInvisible query)))
  have tested (record : Record) := (verdict record).trans
    (congrArg _ (Filter.verdict_of_isShort short record))
  simp only [Sql.bothOf_some] at tested
  have same : context.store.blocks.filter clause.holds = matching := by
    refine List.filter_congr fun record _ => ?_
    rw [Sql.Clause.holds_of_verdict (tested record), Bool.eq_iff_iff, Bool.and_eq_true,
      decide_eq_true_iff, Record.Matches, and_comm, occursInFields_escape_iff]
  obtain ⟨found, perm, answer⟩ := byBody_all (values_patternBody_ne_nil _ _ _) text restricts
    (height ▸ low) (fun record _ _ => by rw [tested]; rfl) context.order allowed
  rw [same] at perm answer
  rw [Order.columnAllows_key] at answer
  exact ⟨_, _, context.order.selects_take context.settings.limit perm, answer⟩

/-- No text can be searched for where there are too many notebooks or paths. -/
theorem byLiteral_of_high
    (context : SearchContext)
    (high : context.filter.height? false (patternHeight? context.settings) = none)
    (query : List Char) :
    byLiteral context query = .error .statement := by
  obtain ⟨clause, text, restricts, -, height, -⟩ := restricts_patternBody context.settings
    context.filter (String.ofList (Pattern.escape (Query.removeInvisible query)))
  exact byBody_of_high text restricts (height.trans high) Sql.Listing.stands_all context.store
    context.order false context.settings.limit

/-- A search for a text fails at a record that holds it and whose path cannot be tested. -/
theorem byLiteral_of_untested
    {context : SearchContext}
    (allowed : context.settings.limit ≤ greatestLimit)
    (wanted : context.settings.limit ≠ 0)
    {query : List Char}
    {record : Record}
    (stored : record ∈ context.store.blocks)
    (holds : ∃ field ∈ context.settings.searchedFields,
      Query.removeInvisible query <:+: (record.text field).toList)
    (untested : context.filter.verdict record = none) :
    byLiteral context query = .error .statement := by
  obtain ⟨clause, text, restricts, -, -, verdict⟩ := restricts_patternBody context.settings
    context.filter (String.ofList (Pattern.escape (Query.removeInvisible query)))
  have fails : clause.verdict record = none := by
    rw [verdict]
    beta_reduce
    rw [occursInFields_escape_iff.2 holds, untested]
    rfl
  let ending : Sql.Reader.Ending := ⟨(context.order.key false).sorting, context.settings.limit⟩
  have failed := restricts.records?_of_fails (by decide) (values_patternBody_ne_nil _ _ _)
    (List.prefix_refl _) Sql.Listing.stands_all
    (Sql.Reader.Key.stands_sorting (context.order.key_mem_names false) _)
    (Sql.resolves_all context.order.key_mem_storedKeys context.settings.limit)
    (Sql.mustSort_storedKeys context.order.key_mem_storedKeys)
    (@Sql.evalLimit?_limitTerm context.store ending allowed)
    (Int.natCast_ne_zero.2 wanted) stored rfl (.inl fails)
  have answer := byBody_eq_statements text context.store .all context.order false
    context.settings.limit
  rw [failed] at answer
  exact answer

end Found

/-! ## Answers -/

namespace Engine

/--
A search for a text shows the matches in order up to the limit, and counts all of them and their
documents. Characters that have a meaning in patterns have none in the text. The search fails with
too many notebooks or paths, and at a record that holds the text and whose path is compared with one
that is too long.
-/
theorem search_literal
    {engine : Engine}
    {request : Request}
    {text : List Char}
    (method : request.method = .regex)
    (ungrouped : request.grouping = .none)
    (asked : Query.removeInvisible (Text.trim request.query.toList) = text)
    (nonempty : text ≠ [])
    (notId : BlockId.accepts text = false)
    (allowed : engine.settings.limit ≤ greatestLimit) :
    let filter := Filter.ofRequest request engine.settings
    let matching := engine.store.blocks.filter fun record =>
      record.Matches engine.settings filter text
    (filter.IsNarrow → filter.IsShort →
      ∃ chosen rest, request.order.Selects engine.settings.limit matching chosen rest ∧
        engine.search request =
          (.ok
            { entries := chosen.map fun record => ⟨Block.ofRecord engine.mode [] record, []⟩
              blocks := matching.length
              documents := (distinct (matching.map Record.rootId)).length },
            engine.wait)) ∧
      (filter.IsWide → engine.search request = (.error .statement, engine.wait)) ∧
      (engine.settings.limit ≠ 0 →
        (∃ record ∈ engine.store.blocks,
          (∃ field ∈ engine.settings.searchedFields, text <:+: (record.text field).toList) ∧
            filter.verdict record = none) →
          engine.search request = (.error .statement, engine.wait)) := by
  intro filter matching
  let context : SearchContext := ⟨engine.store, engine.settings, filter, request.order⟩
  have filled := trim_ne_nil_of_removeInvisible asked nonempty
  have answer := @search_eq engine request filled (asked ▸ notId)
  rw [method, Found.byMethod] at answer
  refine ⟨fun narrow short => ?_, fun wide => ?_, fun wanted => ?_⟩
  · obtain ⟨height, few, known⟩ := Found.exists_patternHeight? engine.settings
    have low : (filter.height? false (Found.patternHeight? engine.settings)).isSome = true :=
      known ▸ Filter.isSome_height?_of_isNarrow narrow false few
    obtain ⟨chosen, rest, selects, found⟩ :=
      Found.byLiteral_eq context low short allowed (Text.trim request.query.toList)
    rw [asked] at selects found
    refine ⟨chosen, rest, selects, ?_⟩
    rw [answer, found]
    simp only [Except.bind, present, ungrouped, List.map_map, Function.comp_def]
    rfl
  · rw [answer, Found.byLiteral_of_high context (Filter.height?_of_isWide wide _)]
    rfl
  · rintro ⟨record, stored, holds, untested⟩
    rw [answer, @Found.byLiteral_of_untested context allowed wanted _ record stored
      (by rwa [asked]) untested]
    rfl

/-- A dot stands for itself, and of two matches a limit of one leaves the heading. -/
theorem search_literal_of_dot :
    let heading : Record := { id := "h", rootId := "d", type := "h", tag := "#a.c#", sort := 5 }
    let paragraph : Record := { id := "p", rootId := "d", type := "p", content := "a.c", sort := 10 }
    let other : Record := { id := "q", rootId := "d", type := "p", content := "abc", sort := 10 }
    let engine : Engine :=
      { store := { blocks := [paragraph, other, heading] }
        settings := { limit := 1 } }
    let request : Request := { query := " a.c\u200b ", method := .regex }
    Query.removeInvisible (Text.trim request.query.toList) = "a.c".toList ∧
      "a.c".toList ≠ [] ∧ BlockId.accepts "a.c".toList = false ∧
      engine.settings.limit ≤ greatestLimit ∧
      engine.search request =
        (.ok
          { entries := [⟨Block.ofRecord engine.mode [] heading, []⟩]
            blocks := 2
            documents := 1 },
          engine.wait) := by
  intro heading paragraph other engine request
  have asked : Query.removeInvisible (Text.trim request.query.toList) = "a.c".toList := by
    decide +kernel
  have notId : BlockId.accepts "a.c".toList = false := by decide +kernel
  have nonempty : "a.c".toList ≠ [] := by decide
  have allowed : engine.settings.limit ≤ greatestLimit := by decide
  have matching : (engine.store.blocks.filter fun record =>
      record.Matches engine.settings (Filter.ofRequest request engine.settings) "a.c".toList) =
        [paragraph, heading] := by decide +kernel
  have narrow : (Filter.ofRequest request engine.settings).IsNarrow := ⟨by decide, by decide⟩
  have short : (Filter.ofRequest request engine.settings).IsShort := List.forall_mem_nil _
  obtain ⟨chosen, rest, selects, answer⟩ :=
    (@search_literal engine request _ rfl rfl asked nonempty notId allowed).1 narrow short
  rw [matching] at selects answer
  obtain ⟨first, rfl⟩ := List.length_eq_one_iff.1 selects.length_eq
  have front : [first] = [heading] := by
    rcases List.mem_pair.1 (selects.perm.subset List.mem_cons_self) with rfl | rfl
    · have left : heading ∈ [paragraph] ++ rest := selects.perm.symm.subset (by simp)
      rcases List.mem_append.1 left with same | left
      · exact absurd same (by decide)
      · exact absurd (by decide : (5 : Int) < 10) (selects.least _ List.mem_cons_self _ left)
    · rfl
  refine ⟨asked, nonempty, notId, allowed, ?_⟩
  rw [answer, front]
  rfl

/-- A match is not found behind a path that is too long. -/
theorem not_found_of_long
    {path : String}
    (long : Sql.Like.greatestSize ≤ path.toList.length) :
    let record : Record := { id := "r", rootId := "d", path := "/d", type := "p", content := "hello" }
    let engine : Engine := { store := { blocks := [record] } }
    let request : Request := { query := "hello", method := .regex, paths := [path, "/d"] }
    record.Matches engine.settings (Filter.ofRequest request engine.settings) "hello".toList ∧
      (engine.search request).1 = .error .statement := by
  intro record engine request
  have holds : ∃ field ∈ engine.settings.searchedFields,
      "hello".toList <:+: (record.text field).toList := ⟨.content, by decide, by decide +kernel⟩
  have typed : record.type ∈ (Filter.ofRequest request engine.settings).codes :=
    (by decide : "p" ∈ ({} : SearchSettings).selectedTypes.map BlockType.code)
  have untested : (Filter.ofRequest request engine.settings).verdict record = none :=
    @Filter.verdict_of_long _ _ typed rfl [] ["/d"] path rfl (List.forall_mem_nil _) long
  refine ⟨⟨Filter.accepts_iff.2 ⟨typed, .inl rfl, .inr ⟨"/d", ?_, by decide +kernel⟩⟩, holds⟩, ?_⟩
  · exact List.mem_cons_of_mem path List.mem_cons_self
  · rw [search_hello rfl, show request.method = .regex from rfl, Found.byMethod,
      Found.byLiteral_of_untested (show ({} : SearchSettings).limit ≤ greatestLimit by decide)
        (show ({} : SearchSettings).limit ≠ 0 by decide) List.mem_cons_self
        (removeInvisible_hello.symm ▸ holds) untested]
    rfl

/-- A match is not found with too many notebooks, nor behind a path that is too long. -/
theorem not_found_of_wide_or_long :
    let record : Record := { id := "r", rootId := "d", path := "/d", type := "p", content := "hello" }
    let engine : Engine := { store := { blocks := [record] } }
    let wide : Request := { query := "hello", method := .regex, boxes := List.replicate 999 "" }
    let long : Request :=
      { query := "hello", method := .regex
        paths := [String.ofList (List.replicate Sql.Like.greatestSize 'a'), "/d"] }
    (record.Matches engine.settings (Filter.ofRequest wide engine.settings) "hello".toList ∧
        (engine.search wide).1 = .error .statement) ∧
      record.Matches engine.settings (Filter.ofRequest long engine.settings) "hello".toList ∧
        (engine.search long).1 = .error .statement := by
  intro record engine wide long
  have many : (Filter.ofRequest wide engine.settings).IsWide :=
    ⟨by decide, .inl (List.length_replicate).ge⟩
  refine ⟨⟨by decide +kernel, ?_⟩, not_found_of_long Filter.greatestSize_le_length_replicate⟩
  have failed := Found.byLiteral_of_high
    ⟨engine.store, engine.settings, Filter.ofRequest wide engine.settings, wide.order⟩
    (Filter.height?_of_isWide many _) "hello".toList
  rw [search_hello rfl, show wide.method = .regex from rfl, Found.byMethod, failed]
  rfl

end Engine
end BlockSearch
