import BlockSearch.Proofs.Search.Projection

/-!
# Searches for expressions

A search for a match expression finds the records that match it and that the filter accepts. Unless
a pattern of the filter is too long it fails only if the expression cannot be read, if there are too
many notebooks or paths, or if the limit is not an integer.
-/

namespace BlockSearch
namespace Found

open Sql

/-- The height of the condition that an expression matches. -/
def matchHeight : Nat := 2

/--
The body of a search for an expression restricts it to what the filter accepts. Without types it is
a plain zero.
-/
theorem restricts_expressionBody
    (settings : SearchSettings)
    (filter : Filter)
    (text : String) :
    Filter.Restricts (.index settings.mode) (expressionBody settings filter text)
      filter.types.isEmpty (filter.height? false (some matchHeight)) filter.verdict := by
  have restricts := Filter.restricts_write (by simp) (fun _ => rfl)
    (show Filter.Restricts (.index settings.mode)
      ⟨"FROM " ++ (Table.index settings.mode).name ++ " WHERE " ++
        (Clause.matching settings.mode).text, [text]⟩ false (some matchHeight) fun _ => some true from
      ⟨_, rfl, Clause.restricts_matching settings.mode text, fun _ => rfl, rfl, fun _ => rfl⟩) filter
  have written : expressionBody settings filter text = filter.write
      ⟨"FROM " ++ (Table.index settings.mode).name ++ " WHERE " ++
        (Clause.matching settings.mode).text, [text]⟩ := by
    simp only [expressionBody, Fragment.bind, Fragment.push, Clause.matching, List.nil_append,
      List.length_singleton, String.append_assoc]
    rfl
  rw [written]
  exact restricts

/-- A condition that a filter accepts a record holds of the records that it accepts. -/
theorem holds_eq_accepts
    {filter : Filter}
    (short : filter.IsShort)
    {clause : Clause}
    (verdict : ∀ record, clause.verdict record = filter.verdict record) :
    clause.holds = filter.accepts ∧ ∀ record, (clause.verdict record).isSome = true := by
  have tested (record : Record) : clause.verdict record = some (filter.accepts record) :=
    (verdict record).trans (Filter.verdict_of_isShort short record)
  exact ⟨funext fun record => Clause.holds_of_verdict (tested record),
    fun record => Option.isSome_iff_exists.2 ⟨_, tested record⟩⟩

/-- The values of the body are the expression and those of the filter. -/
theorem exists_values_expressionBody
    (settings : SearchSettings)
    (filter : Filter)
    (text : String) :
    ∃ more, (expressionBody settings filter text).values = text :: more := by
  rw [expressionBody]
  exact ⟨_, by rw [Filter.write_values]; rfl⟩

/-- The records that an expression given as text matches; one that cannot be read matches none. -/
def readMatches (context : SearchContext) (text : List Char) : List Record :=
  match FullText.Expression.read? context.settings.mode text with
  | some expression =>
      expressionMatches context.store context.settings.mode context.filter expression
  | none => []

theorem visited_eq_readMatches
    (context : SearchContext)
    (text : List Char)
    (more : List String) :
    visited context.store (.index context.settings.mode) (String.ofList text :: more)
      context.filter.accepts = readMatches context text := by
  rw [visited, readMatches, List.filter_filter]
  cases read : FullText.Expression.read? context.settings.mode text with
  | none => simp [Table.visits, read]
  | some expression => simp [Table.visits, read, expressionMatches]

/-! ## Selected records -/

section

variable
  {shape : FullText.Shape}
  {mode : CaseMode}
  {text : List Char}
  {values more : List String}
  {clause : Clause}

/-- The records that a condition on the index keeps are marked where the first value is matched. -/
theorem exists_marking_expression
    (governs : Governs (.index mode) (String.ofList text :: more) clause.body clause.verdict) :
    ∃ expression,
      matchedOf? { scopes := [], parameters := String.ofList text :: more } (some clause.body)
          (.index mode) = some ⟨mode, expression⟩ ∧
        ∀ records : List Record, (∀ record ∈ records, clause.holds record = true) →
          records.map (withExcerpts shape.excerpt mode expression) =
            records.map (withExcerpts shape.excerpt mode
              ((FullText.Expression.read? mode text).getD .never)) := by
  obtain ⟨expression, matched, known⟩ := governs.exists_matchedOf?
  refine ⟨expression, matched, fun records kept => List.map_congr_left fun record member => ?_⟩
  -- A condition that never holds leaves no record to mark.
  rcases known with never | same
  · have inside := kept record member
    rw [Clause.holds_of_verdict (never record)] at inside
    exact absurd inside Bool.false_ne_true
  · rw [same, String.toList_ofList]

/--
A condition on the index that can be tested selects records of which it holds up to a limit and with
excerpts, in the order of their keys unless they are visited in this order. It fails if its rows
cannot be found and some are asked for, and otherwise only if the limit is not an integer.
-/
theorem records?_listing
    (shape : FullText.Shape)
    (restricts : clause.Restricts (.index mode) values)
    (low : clause.body.height?.isSome = true)
    (front : values <+: String.ofList text :: more)
    {ending : Reader.Ending}
    (ends : ending.sorting.Stands values.length (String.ofList text :: more).length)
    {order : List (Term × Collation × Bool)}
    (resolves : ∀ expression,
      matchedOf? { scopes := [], parameters := String.ofList text :: more } (some clause.body)
          (.index mode) = some ⟨mode, expression⟩ →
        Resolves (.index mode) (String.ofList text :: more) clause.body
          (listing shape (Table.index mode).name).items ending (results shape mode expression) order)
    {store : Store}
    (settles : clause.Settles (.index mode) (String.ofList text :: more) store)
    (keyed : ∀ record ∈ visited store (.index mode) (String.ofList text :: more) clause.holds,
      ∀ behind, (evalKeys store [] [] (Record.toRow record ++ behind) order).isSome = true) :
    let read := FullText.Expression.read? mode text
    let finds := (Table.index mode).finds (String.ofList text :: more) clause.body
    let selected := records? store
      (clause.statement (listing shape (Table.index mode).name) (.index mode) (some ending))
        (String.ofList text :: more)
    (selected = none ∧ (finds = false ∧ ending.limit ≠ 0 ∨ greatestLimit < ending.limit)) ∨
      ∃ (entries taken : List (Record × Nat)) (hidden : Record × Nat → Row) (size : Nat),
        (entries.map Prod.fst).Perm
          (visited store (.index mode) (String.ofList text :: more) clause.holds) ∧
        taken.Perm entries ∧
        (MustSort order → taken = entries.mergeSort fun a b =>
          rowsAllow store order (entryRow hidden a) (entryRow hidden b)) ∧
        (ending.limit ≤ greatestLimit →
          size = ending.limit ∧ (finds = true ∨ ending.limit = 0)) ∧
        selected = some (((taken.map Prod.fst).take size).map
          (withExcerpts shape.excerpt mode (read.getD .never))) := by
  intro read finds selected
  obtain ⟨expression, matched, marking⟩ :=
    @exists_marking_expression shape _ _ _ _ ((restricts.governs low).mono front)
  rcases evalLimit?_limitTerm_cases store ending with
    ⟨uncounted, refused⟩ | ⟨count, counted, whole⟩
  · exact .inl ⟨restricts.records?_of_evalLimit?_eq_none (by simp) (by simp) front
      (stands_listing shape mode) ends (resolves expression matched) uncounted, .inr refused⟩
  · rcases restricts.records?_statement (by simp) (by simp) front low (stands_listing shape mode)
      ends (resolves expression matched) settles counted (fun record behind => evalAll_results)
      keyed with ⟨missed, records⟩ | ⟨found, entries, taken, hidden, perm, same, sorted, records⟩
    · have empty := Table.filter_visits_eq_nil (Bool.or_eq_false_iff.1 missed).2 store.blocks
      by_cases zero : count = 0
      · rw [if_pos zero] at records
        refine .inr ⟨[], [], fun _ => [], ending.limit, by rw [visited, empty]; rfl, .nil,
          fun _ => List.mergeSort_nil.symm, fun allowed => ⟨rfl, .inr ?_⟩, ?_⟩
        · exact Int.natCast_eq_zero.1 ((whole allowed).symm.trans zero)
        · rw [List.map_nil, List.take_nil, List.map_nil]
          exact records
      · rw [if_neg zero] at records
        refine .inl ⟨records, ?_⟩
        rcases Nat.lt_or_ge greatestLimit ending.limit with refused | allowed
        · exact .inr refused
        · refine .inl ⟨missed, fun none => zero ?_⟩
          rw [whole allowed, none]
          rfl
    · simp only [names_results, toRecord_toRow] at records
      have takenPerm : (taken.map Prod.fst).Perm (visited store (.index mode)
          (String.ofList text :: more) clause.holds) := (same.map Prod.fst).trans perm
      obtain ⟨size, limit, window⟩ := exists_window_eq_take count taken
      refine .inr ⟨entries, taken, hidden, size, perm, same, sorted, fun allowed =>
        ⟨limit _ (whole allowed), .inl found⟩, ?_⟩
      have marked := marking ((taken.map Prod.fst).take size) fun record member =>
        (List.mem_filter.1 (takenPerm.subset (List.mem_of_mem_take member))).2
      rw [← marked, ← List.map_take, List.map_map, Function.comp_def]
      rw [window] at records
      exact records

/--
A condition that a filter accepts a record, on the index, selects records that match the first value.
Unless a pattern of the filter is too long it fails only if this value cannot be read and something
is asked for, or if the limit is not an integer.
-/
theorem records?_expression
    (shape : FullText.Shape)
    (context : SearchContext)
    (restricts : clause.Restricts (.index context.settings.mode) values)
    (low : clause.body.height?.isSome = true)
    (plain : clause.body.isZero = context.filter.types.isEmpty)
    (short : context.filter.IsShort)
    (verdict : ∀ record, clause.verdict record = context.filter.verdict record)
    (front : values <+: String.ofList text :: more)
    {sorting : Reader.Sorting}
    (ends : sorting.Stands values.length (String.ofList text :: more).length)
    {order : List (Term × Collation × Bool)}
    (resolves : ∀ expression,
      matchedOf? { scopes := [], parameters := String.ofList text :: more } (some clause.body)
          (.index context.settings.mode) = some ⟨context.settings.mode, expression⟩ →
        Resolves (.index context.settings.mode) (String.ofList text :: more) clause.body
          (listing shape (Table.index context.settings.mode).name).items
          ⟨sorting, context.settings.limit⟩ (results shape context.settings.mode expression) order)
    (keyed : ∀ record ∈ readMatches context text, ∀ behind,
      (evalKeys context.store [] [] (Record.toRow record ++ behind) order).isSome = true) :
    let read := FullText.Expression.read? context.settings.mode text
    let selected := records? context.store
      (clause.statement (listing shape (Table.index context.settings.mode).name)
        (.index context.settings.mode) (some ⟨sorting, context.settings.limit⟩))
      (String.ofList text :: more)
    (selected = none ∧
        (read = none ∧ isVain context.settings.limit context.filter = false ∨
          greatestLimit < context.settings.limit)) ∨
      ∃ (entries taken : List (Record × Nat)) (hidden : Record × Nat → Row) (size : Nat),
        (entries.map Prod.fst).Perm (readMatches context text) ∧
        taken.Perm entries ∧
        (MustSort order → taken = entries.mergeSort fun a b =>
          rowsAllow context.store order (entryRow hidden a) (entryRow hidden b)) ∧
        (context.settings.limit ≤ greatestLimit → size = context.settings.limit ∧
          (read = none → isVain context.settings.limit context.filter = true)) ∧
        selected = some (((taken.map Prod.fst).take size).map
          (withExcerpts shape.excerpt context.settings.mode (read.getD .never))) := by
  intro read selected
  obtain ⟨holds, tested⟩ := holds_eq_accepts short verdict
  have all : visited context.store (.index context.settings.mode) (String.ofList text :: more)
      clause.holds = readMatches context text := by
    rw [holds, visited_eq_readMatches]
  have finds : (Table.index context.settings.mode).finds (String.ofList text :: more) clause.body =
      (context.filter.types.isEmpty || read.isSome) := by
    rw [Table.finds, Table.reads, String.toList_ofList, plain]
  have found := records?_listing shape restricts low front ends resolves
    (fun record _ _ => tested record) (all ▸ keyed)
  rw [all, finds] at found
  rcases found with ⟨failed, refused⟩ |
    ⟨entries, taken, hidden, size, perm, same, sorted, whole, answered⟩
  · refine .inl ⟨failed, refused.imp_left ?_⟩
    rintro ⟨missed, wanted⟩
    obtain ⟨types, unread⟩ := Bool.or_eq_false_iff.1 missed
    refine ⟨Option.isNone_iff_eq_none.1 (Option.isSome_eq_false_iff.1 unread), ?_⟩
    rw [isVain, types, Bool.or_false, beq_eq_false_iff_ne]
    exact wanted
  · refine .inr ⟨entries, taken, hidden, size, perm, same, sorted, fun allowed => ?_, answered⟩
    obtain ⟨limit, vain⟩ := whole allowed
    refine ⟨limit, fun unread => ?_⟩
    rw [unread, Option.isSome_none, Bool.or_false] at vain
    rw [isVain, Bool.or_eq_true, beq_iff_eq]
    exact vain.symm

end

/-! ## Answers -/

/-- No expression can be searched for where there are too many notebooks or paths. -/
theorem byExpression_of_high
    (context : SearchContext)
    (high : context.filter.height? false (some matchHeight) = none)
    (text : List Char) :
    byExpression context text = .error .statement := by
  obtain ⟨clause, written, restricts, -, height, -⟩ :=
    restricts_expressionBody context.settings context.filter (String.ofList text)
  exact byBody_of_high written restricts (height.trans high)
    (stands_listing .whole context.settings.mode) context.store context.order true
    context.settings.limit

/-- Records are not visited by the columns of the index that they are ordered by. -/
theorem mustSort_indexColumn
    (mode : CaseMode)
    {key : Reader.Key}
    (known : key.name ∈ storedKeys) :
    MustSort [(.column 0 (indexColumn mode key.name), .binary, key.direction.getD false)] := by
  have place : indexColumn mode key.name = recordColumn key.name := by
    simp only [storedKeys, List.mem_cons, List.not_mem_nil, or_false] at known
    rcases known with same | same | same <;> rw [same] <;> cases mode <;> rfl
  rw [place]
  exact mustSort_storedKeys known

/-- The rows that match an expression come in the order of their ranks. -/
theorem comeIn_rank
    (mode : CaseMode)
    (expression : Option FullText.Expression)
    {key : Reader.Key}
    (ranked : key.name = "rank") :
    (Rows.index mode expression).comeIn
      [(.column 0 (indexColumn mode key.name), .binary, key.direction.getD false)] = true := by
  rw [ranked]
  generalize key.direction.getD false = descending
  cases mode <;> cases descending <;> rfl

/-- A search visits the records that match its expression. -/
theorem visits_of_holds
    {mode : CaseMode}
    {text : List Char}
    {expression : FullText.Expression}
    (read : FullText.Expression.read? mode text = some expression)
    {record : Record}
    (holds : expression.holds (.ofRecord mode record) = true)
    (more : List String) :
    (Table.index mode).visits (String.ofList text :: more) record = true := by
  rw [Table.visits, String.toList_ofList, read]
  exact holds

/--
A search for an expression in the order of a column fails at a record that matches the expression
and whose path cannot be tested.
-/
theorem byExpression_of_untested
    {context : SearchContext}
    (sorted : (context.order.key true).name ∈ storedKeys)
    (allowed : context.settings.limit ≤ greatestLimit)
    (wanted : context.settings.limit ≠ 0)
    {text : List Char}
    {expression : FullText.Expression}
    (read : FullText.Expression.read? context.settings.mode text = some expression)
    {record : Record}
    (stored : record ∈ context.store.blocks)
    (holds : expression.holds (.ofRecord context.settings.mode record) = true)
    (untested : context.filter.verdict record = none) :
    byExpression context text = .error .statement := by
  obtain ⟨clause, written, restricts, -, height, verdict⟩ :=
    restricts_expressionBody context.settings context.filter (String.ofList text)
  cases low : clause.body.height? with
  | none => exact byExpression_of_high context (height.symm.trans low) text
  | some _ =>
      obtain ⟨more, values⟩ :=
        exists_values_expressionBody context.settings context.filter (String.ofList text)
      rw [values] at restricts
      obtain ⟨marked, matched, -⟩ :=
        @exists_marking_expression .whole _ _ _ _ (restricts.governs (by rw [low]; rfl))
      have named := context.order.key_mem_names true
      have failed := restricts.records?_of_fails (by simp) (by simp) (List.prefix_refl _)
        (stands_listing .whole context.settings.mode) (Reader.Key.stands_sorting named _)
        (resolves_listing matched named context.settings.limit)
        (mustSort_indexColumn context.settings.mode sorted)
        (evalLimit?_limitTerm context.store allowed) (Int.natCast_ne_zero.2 wanted) stored
        (visits_of_holds read holds more) (.inl ((verdict record).trans untested))
      have answer := byBody_eq_statements written context.store
        (listing .whole (Table.index context.settings.mode).name) context.order true
        context.settings.limit
      rw [values, failed] at answer
      exact answer

/-- Whether a record that matches an expression may stand before another in an order of ranks. -/
def rankAllows
    (store : Store)
    (mode : CaseMode)
    (expression : FullText.Expression)
    (key : Reader.Key)
    (first second : Record × Nat) : Bool :=
  rowsAllow store [(.column 0 (indexColumn mode key.name), .binary, key.direction.getD false)]
    (entryRow (rankedValues store mode expression) first)
    (entryRow (rankedValues store mode expression) second)

/--
A search for an expression in the order of ranks tests the records that match one after the other
until it has enough. Where one of them cannot be tested, it may find some, but it counts none.
-/
theorem byExpression_by_rank
    {context : SearchContext}
    (ranked : (context.order.key true).name = "rank")
    (typed : context.filter.types ≠ [])
    (low : (context.filter.height? false (some matchHeight)).isSome = true)
    (allowed : context.settings.limit ≤ greatestLimit)
    (wanted : context.settings.limit ≠ 0)
    {text : List Char}
    {expression : FullText.Expression}
    (read : FullText.Expression.read? context.settings.mode text = some expression)
    {kept : List (Record × Nat)}
    (passing : firstPassing? (fun entry => context.filter.verdict entry.1) context.settings.limit
      ((matchingEntries context.store context.settings.mode expression).mergeSort
        (rankAllows context.store context.settings.mode expression (context.order.key true))) =
          some kept)
    {record : Record}
    (stored : record ∈ context.store.blocks)
    (holds : expression.holds (.ofRecord context.settings.mode record) = true)
    (untested : context.filter.verdict record = none) :
    byExpression context text =
      .ok ⟨((kept.take context.settings.limit).map Prod.fst).map
        (withExcerpts FullText.highlight context.settings.mode expression), 0, 0⟩ := by
  obtain ⟨clause, written, restricts, plain, height, verdict⟩ :=
    restricts_expressionBody context.settings context.filter (String.ofList text)
  rw [← height] at low
  obtain ⟨more, values⟩ :=
    exists_values_expressionBody context.settings context.filter (String.ofList text)
  rw [values] at restricts
  have named := context.order.key_mem_names true
  have nonzero : clause.body.isZero = false :=
    (plain low).trans (List.isEmpty_eq_false_iff.2 typed)
  have matchings := (restricts.governs low).matchings
  rw [nonzero, if_neg Bool.false_ne_true] at matchings
  have marked : matchedOf? { scopes := [], parameters := String.ofList text :: more }
      (some clause.body) (.index context.settings.mode) =
        some ⟨context.settings.mode, expression⟩ := by
    rw [matchedOf?_matching matchings, String.toList_ofList, read]
    rfl
  have comes (visit : Visit × Bool) (rows : Rows)
      (source : rowsOf? { scopes := [], parameters := String.ofList text :: more }
        (some clause.body) (.index context.settings.mode) visit = some rows) :
      rows.comeIn [(.column 0 (indexColumn context.settings.mode (context.order.key true).name),
          .binary, (context.order.key true).direction.getD false)] = true ∧
        rows.rows context.store [] =
          some ((matchingEntries context.store context.settings.mode expression).map
            (entryRow (rankedValues context.store context.settings.mode expression))) := by
    rw [rowsOf?_matching matchings, String.toList_ofList, read, Option.some.injEq] at source
    rw [← source]
    exact ⟨comeIn_rank _ _ ranked, rows_index ..⟩
  have selected := restricts.records?_in_order (by simp) (by simp) (List.prefix_refl _) low
    (stands_listing .whole context.settings.mode) (Reader.Key.stands_sorting named _)
    (resolves_listing marked named context.settings.limit) comes
    (evalLimit?_limitTerm context.store allowed) (Int.natCast_ne_zero.2 wanted)
    (fun record behind => evalAll_results)
  have counted := restricts.counts?_of_untested (by simp) (by simp) low stored
    (visits_of_holds read holds more) ((verdict record).trans untested)
  have passed : firstPassing? (fun entry => clause.verdict entry.1) context.settings.limit
      ((matchingEntries context.store context.settings.mode expression).mergeSort fun a b =>
        rowsAllow context.store
          [(.column 0 (indexColumn context.settings.mode (context.order.key true).name), .binary,
            (context.order.key true).direction.getD false)]
          (entryRow (rankedValues context.store context.settings.mode expression) a)
          (entryRow (rankedValues context.store context.settings.mode expression) b)) =
        some kept := by
    simp only [verdict]
    exact passing
  simp only [reach_natCast, passed, Option.map_some, names_results, toRecord_toRow,
    window_natCast] at selected
  have answer := byBody_eq_statements written context.store
    (listing .whole (Table.index context.settings.mode).name) context.order true
    context.settings.limit
  rw [values, counted, selected] at answer
  have found : byExpression context text = _ := answer
  rw [found, List.map_map, Function.comp_def]
  rfl

/--
A search for an expression whose filter has no pattern that is too long finds records that match it
up to the limit, with marks, and counts all of them. It fails if there are too many notebooks or
paths, or if the expression cannot be read, unless nothing can be found anyway, and otherwise only if
the limit is not an integer.
-/
theorem byExpression_eq
    (context : SearchContext)
    (short : context.filter.IsShort)
    (text : List Char) :
    let read := FullText.Expression.read? context.settings.mode text
    let matching := readMatches context text
    (byExpression context text = .error .statement ∧
        (context.filter.height? false (some matchHeight) = none ∨
          read = none ∧ isVain context.settings.limit context.filter = false ∨
          greatestLimit < context.settings.limit)) ∨
      ∃ (ordered : List Record) (size : Nat), ordered.Perm matching ∧
        (context.settings.limit ≤ greatestLimit → size = context.settings.limit ∧
          (read = none → isVain context.settings.limit context.filter = true)) ∧
        byExpression context text =
          .ok ⟨(ordered.take size).map
              (withExcerpts FullText.highlight context.settings.mode (read.getD .never)),
            matching.length, (distinct (matching.map Record.rootId)).length⟩ := by
  intro read matching
  obtain ⟨clause, written, restricts, plain, height, verdict⟩ :=
    restricts_expressionBody context.settings context.filter (String.ofList text)
  cases low : clause.body.height? with
  | none =>
      have high := height.symm.trans low
      exact .inl ⟨byExpression_of_high context high text, .inl high⟩
  | some _ =>
      have lowClause : clause.body.height?.isSome = true := by rw [low]; rfl
      obtain ⟨holds, tested⟩ := holds_eq_accepts short verdict
      obtain ⟨more, values⟩ :=
        exists_values_expressionBody context.settings context.filter (String.ofList text)
      rw [values] at restricts
      have all : visited context.store (.index context.settings.mode) (String.ofList text :: more)
          clause.holds = matching := by
        rw [holds, visited_eq_readMatches]
      have answer := @byBody_eq _ _ _ (by simp) (by simp [values]) written (by rwa [values])
        lowClause context.store (fun record _ _ => tested record)
        (listing .whole (Table.index context.settings.mode).name) context.order true
        context.settings.limit
      rw [values, all] at answer
      have found : byExpression context text = _ := answer
      have named := context.order.key_mem_names true
      rcases records?_expression .whole context restricts lowClause (plain lowClause) short verdict
        (List.prefix_refl _) (Reader.Key.stands_sorting named _)
        (fun expression matched => resolves_listing matched named context.settings.limit)
        (fun record _ behind => by rw [evalKeys_column]; rfl) with
          ⟨records, refused⟩ | ⟨entries, taken, hidden, size, perm, same, -, whole, records⟩
      · exact .inl ⟨by rw [found, records], .inr refused⟩
      · exact .inr ⟨_, size, (same.map Prod.fst).trans perm, whole, by rw [found, records]; rfl⟩

end Found
end BlockSearch
