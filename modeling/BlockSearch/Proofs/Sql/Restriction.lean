import BlockSearch.Proofs.Sql.Clause
import BlockSearch.Proofs.Sql.Selection

/-!
# Plans of restricted statements

The rows of a statement with a condition are those of the records in a table, or in the full-text
index those of the records that match the first value. Its plan tests the condition in every row.
-/

namespace BlockSearch
namespace Sql

/-! ## Rows -/

/-- The row of a numbered record, with hidden values behind. -/
def entryRow (hidden : Record × Nat → Row) (entry : Record × Nat) : Row :=
  Record.toRow entry.1 ++ hidden entry

/-- Whether a search visits a record: in the index it must match the first value. -/
def Table.visits : Table → List String → Record → Bool
  | .index mode, text :: _, record =>
      match FullText.Expression.read? mode text.toList with
      | some expression => expression.holds (.ofRecord mode record)
      | none => false
  | _, _, _ => true

/-- Whether the rows of a search can be found: in the index the first value must be readable. -/
def Table.reads : Table → List String → Bool
  | .index mode, text :: _ => (FullText.Expression.read? mode text.toList).isSome
  | _, _ => true

/-- A search whose rows cannot be found visits no record. -/
theorem Table.filter_visits_eq_nil
    {table : Table}
    {values : List String}
    (unread : table.reads values = false)
    (records : List Record) :
    records.filter (table.visits values) = [] := by
  rw [List.filter_eq_nil_iff]
  intro record _
  cases table with
  | blocks | references => contradiction
  | index mode =>
      cases values with
      | nil => contradiction
      | cons text more =>
          rw [reads, Option.isSome_eq_false_iff, Option.isNone_iff_eq_none] at unread
          rw [visits, unread]
          exact Bool.false_ne_true

/-- Rows are those of some records, each with its hidden values. -/
def Rows.AreOf (store : Store) (rows : Rows) (entries : List (Record × Nat)) : Prop :=
  ∃ hidden, rows.rows store [] = some (entries.map (entryRow hidden))

theorem map_fst_numbered
    {α : Type}
    (items : List α) :
    (numbered items).map Prod.fst = items := by
  simpa using map_numbered id items

/-- The rows of a table of records, in any order, are those of all records. -/
theorem exists_areOf_table
    {table : Table}
    (ofRecords : table ≠ .references)
    (store : Store)
    (visit : Visit × Bool) :
    ∃ entries : List (Record × Nat), (entries.map Prod.fst).Perm store.blocks ∧
      (Rows.table table visit.1 visit.2).AreOf store entries := by
  obtain ⟨entries, hidden, same, rows⟩ : ∃ (entries : List (Record × Nat)) (hidden : _ → Row),
      (entries.map Prod.fst).Perm store.blocks ∧
        table.rows store visit.1 = entries.map (entryRow hidden) := by
    cases table with
    | references => contradiction
    | blocks =>
        let sorted := (numbered store.blocks).mergeSort fun a b => visit.1.allows a.1 b.1
        have same : (sorted.map Prod.fst).Perm ((numbered store.blocks).map Prod.fst) :=
          (List.mergeSort_perm _ _).map Prod.fst
        rw [map_fst_numbered] at same
        exact ⟨sorted, fun entry => [.integer entry.2], same, rfl⟩
    | index mode =>
        exact ⟨_, fun entry => [.integer entry.2, .null, .null],
          .of_eq (map_fst_numbered store.blocks), rfl⟩
  rcases visit with ⟨visit, reversed⟩
  cases reversed with
  | false => exact ⟨entries, same, hidden, by rw [Rows.rows, rows]; rfl⟩
  | true =>
      refine ⟨entries.reverse, ((List.reverse_perm _).map Prod.fst).trans same, hidden, ?_⟩
      rw [Rows.rows, rows, List.map_reverse]
      rfl

/-- The records that match an expression, with their numbers. -/
def matchingEntries
    (store : Store)
    (mode : CaseMode)
    (expression : FullText.Expression) : List (Record × Nat) :=
  (numbered store.blocks).filter fun entry => expression.holds (.ofRecord mode entry.1)

/-- The hidden values of a record that matches an expression, the last of which is the rank. -/
def rankedValues
    (store : Store)
    (mode : CaseMode)
    (expression : FullText.Expression)
    (entry : Record × Nat) : Row :=
  [.integer entry.2, .null, .real (FullText.rank
    (FullText.Corpus.of (store.blocks.map (.ofRecord mode)) expression) (.ofRecord mode entry.1)
    (expression.instances (.ofRecord mode entry.1)))]

/-- The rows that match an expression are those of the records that do. -/
theorem rows_index
    (store : Store)
    (mode : CaseMode)
    (expression : FullText.Expression) :
    (Rows.index mode (some expression)).rows store [] =
      some ((matchingEntries store mode expression).map
        (entryRow (rankedValues store mode expression))) := by
  let wanted (entry : Record × Nat) : Bool := expression.holds (.ofRecord mode entry.1)
  have chosen : matchingRows store mode expression = (numbered store.blocks).filterMap
      fun entry => if wanted entry = true then
        some (entryRow (rankedValues store mode expression) entry) else none := rfl
  rw [Rows.rows, Option.map_some, chosen, matchingEntries, ← List.filterMap_eq_map,
    List.filterMap_filter]
  rfl

theorem map_matchingEntries
    (store : Store)
    (mode : CaseMode)
    (expression : FullText.Expression) :
    (matchingEntries store mode expression).map Prod.fst =
      store.blocks.filter fun record => expression.holds (.ofRecord mode record) := by
  conv_rhs => rw [← map_fst_numbered store.blocks, List.filter_map]
  rfl

/-- The name of the index is not that of a field, so that an expression is read as it is. -/
theorem texts_matching
    (mode : CaseMode)
    (text : String)
    (more : List String) :
    ∃ texts, matchTexts? { scopes := [], parameters := text :: more } mode
        [((Table.index mode).name, .parameter 1)] = some texts ∧
      readMatchings? mode texts = FullText.Expression.read? mode text.toList := by
  have unnamed : FullText.fieldsNamed? (Table.index mode).name.toList = none := by
    cases mode <;> decide
  have known : canMatch mode (Table.index mode).name = true := by
    cases mode <;> decide
  refine ⟨[((Table.index mode).name, text)], by simp [matchTexts?, known, matchText?], ?_⟩
  simp only [readMatchings?, readMatching?, unnamed, Option.map_id', List.mapM_cons,
    List.mapM_nil]
  cases FullText.Expression.read? mode text.toList <;> rfl

theorem rowsOf?_matching
    {body : Expr}
    {mode : CaseMode}
    (named : body.matchings = [((Table.index mode).name, .parameter 1)])
    (text : String)
    (more : List String)
    (visit : Visit × Bool) :
    rowsOf? { scopes := [], parameters := text :: more } (some body) (.index mode) visit =
      some (.index mode (FullText.Expression.read? mode text.toList)) := by
  obtain ⟨texts, found, read⟩ := texts_matching mode text more
  unfold rowsOf? matchingsOf
  simp [named, found, read]

theorem matchedOf?_matching
    {body : Expr}
    {mode : CaseMode}
    (named : body.matchings = [((Table.index mode).name, .parameter 1)])
    (text : String)
    (more : List String) :
    matchedOf? { scopes := [], parameters := text :: more } (some body) (.index mode) =
      some ⟨mode, (FullText.Expression.read? mode text.toList).getD .never⟩ := by
  obtain ⟨texts, found, read⟩ := texts_matching mode text more
  simp [matchedOf?, matchingsOf, named, found, read]

/-- A condition on the index marks what matches the first value, unless it never holds. -/
theorem Governs.exists_matchedOf?
    {mode : CaseMode}
    {text : String}
    {more : List String}
    {body : Expr}
    {verdict : Record → Option Bool}
    (governs : Governs (.index mode) (text :: more) body verdict) :
    ∃ expression,
      matchedOf? { scopes := [], parameters := text :: more } (some body) (.index mode) =
          some ⟨mode, expression⟩ ∧
        ((∀ record, verdict record = some false) ∨
          expression = (FullText.Expression.read? mode text.toList).getD .never) := by
  have named := governs.matchings
  cases zero : body.isZero with
  | true =>
      rw [zero, if_pos rfl] at named
      exact ⟨.never, by simp [matchedOf?, matchingsOf, named, matchTexts?, readMatchings?],
        .inl (governs.eq_some_false_of_isZero (by simp) zero)⟩
  | false =>
      rw [zero, if_neg Bool.false_ne_true, Table.matchings] at named
      exact ⟨_, matchedOf?_matching named text more, .inr rfl⟩

/--
Whether the rows of a search with a condition can be found. A plain zero takes the place of the
match expression that it is joined to, which is not read then.
-/
def Table.finds (table : Table) (values : List String) (body : Expr) : Bool :=
  body.isZero || table.reads values

/-- Some entries are the records that a search visits, and others of which the condition does not
hold. -/
structure Table.Visited
    (table : Table)
    (values : List String)
    (verdict : Record → Option Bool)
    (store : Store)
    (entries : List (Record × Nat)) : Prop where
  /-- The others do not pass. -/
  sound : ∀ entry ∈ entries, entry.1 ∈ store.blocks ∧
    (table.visits values entry.1 = true ∨ verdict entry.1 = some false)
  /-- No visited record is missing. -/
  complete : ∀ record ∈ store.blocks, table.visits values record = true →
    ∃ entry ∈ entries, entry.1 = record
  /-- Those that pass are the visited ones that do. -/
  perm : ((entries.map Prod.fst).filter (verdict · == some true)).Perm
    ((store.blocks.filter (table.visits values)).filter (verdict · == some true))

/-- A condition on a table chooses rows of the records that a search visits. -/
theorem Governs.exists_rows
    {table : Table}
    {values : List String}
    {body : Expr}
    {verdict : Record → Option Bool}
    (ofRecords : table ≠ .references)
    (bound : values ≠ [])
    (governs : Governs table values body verdict)
    (store : Store)
    (visit : Visit × Bool) :
    ∃ rows, rowsOf? { scopes := [], parameters := values } (some body) table visit = some rows ∧
      ((table.finds values body = false ∧ rows.rows store [] = none) ∨
        table.finds values body = true ∧ ∃ entries, rows.AreOf store entries ∧
          table.Visited values verdict store entries) := by
  have whole (plain : body.matchings = []) : rowsOf? { scopes := [], parameters := values }
      (some body) table visit = some (.table table visit.1 visit.2) := by
    unfold rowsOf? matchingsOf
    simp [plain]
  obtain ⟨entries, same, areOf⟩ := exists_areOf_table ofRecords store visit
  have stored : ∀ entry ∈ entries, entry.1 ∈ store.blocks := fun entry member =>
    same.mem_iff.1 (List.mem_map_of_mem member)
  have every : ∀ record ∈ store.blocks, ∃ entry ∈ entries, entry.1 = record := fun record member =>
    List.mem_map.1 (same.mem_iff.2 member)
  have named := governs.matchings
  rw [Table.finds]
  cases zero : body.isZero with
  | true =>
      have never := governs.eq_some_false_of_isZero ofRecords zero
      rw [zero, if_pos rfl] at named
      refine ⟨_, whole named, .inr ⟨rfl, entries, areOf, fun entry member =>
        ⟨stored entry member, .inr (never entry.1)⟩, fun record member _ => every record member,
        ?_⟩⟩
      simp [never]
  | false =>
      rw [zero, if_neg Bool.false_ne_true] at named
      cases table with
      | references => contradiction
      | blocks =>
          refine ⟨_, whole named, .inr ⟨rfl, entries, areOf, fun entry member =>
            ⟨stored entry member, .inl rfl⟩, fun record member _ => every record member,
            (same.filter _).trans ?_⟩⟩
          simp [Table.visits]
      | index mode =>
          obtain ⟨text, more, rfl⟩ := List.exists_cons_of_ne_nil bound
          refine ⟨_, rowsOf?_matching named text more visit, ?_⟩
          cases read : FullText.Expression.read? mode text.toList with
          | none => exact .inl ⟨by simp [Table.reads, read], rfl⟩
          | some expression =>
              have visited : (matchingEntries store mode expression).map Prod.fst =
                  store.blocks.filter (Table.visits (.index mode) (text :: more)) := by
                refine (map_matchingEntries ..).trans (List.filter_congr fun record _ => ?_)
                rw [Table.visits, read]
              refine .inr ⟨by simp [Table.reads, read], _,
                ⟨_, rows_index store mode expression⟩, fun entry member => ?_,
                fun record member met => ?_, .of_eq (by rw [visited])⟩
              · have here := visited ▸ List.mem_map_of_mem member
                exact ⟨(List.mem_filter.1 here).1, .inl (List.mem_filter.1 here).2⟩
              · exact List.mem_map.1 (visited ▸ List.mem_filter.2 ⟨member, met⟩)

/-! ## Plans -/

/-- Where the results of a statement with a condition on a table are resolved. -/
def onTable
    (table : Table)
    (values : List String)
    (body : Expr)
    (names : List (String × Typed)) : Environment where
  scopes := [⟨scopeColumns table.name table, names⟩]
  parameters := values
  aggregates := true
  matched := matchedOf? { scopes := [], parameters := values } (some body) table

/-- The limit of an ending, if there is one. -/
def limitTerm (ending : Option Reader.Ending) : Option Term :=
  ending.map fun ending => .value (.ofLiteral ⟨false, ending.limit, 0, true⟩)

theorem resolveSource_name
    (table : Table)
    (environment : Environment)
    (ordered : Bool) :
    resolveSource environment ordered (.table table.name none) =
      some ⟨scopeColumns table.name table, some table, .unit⟩ := by
  rcases table with _ | _ | ⟨_ | _⟩ <;> rfl

/-- The plan of a statement whose results and order are resolved. -/
theorem resolve?_statement
    {table : Table}
    {values : List String}
    {body : Expr}
    {verdict : Record → Option Bool}
    (ofRecords : table ≠ .references)
    (governs : Governs table values body verdict)
    {items : List Item}
    {results : List (List Result)}
    {ending : Option Reader.Ending}
    {order : List (Term × Collation × Bool)}
    (listed : resolveItems (onTable table values body []) (scopeColumns table.name table) items =
      some results)
    (ordered : resolveOrder { onTable table values body (givenNames items results) with
        aggregates := Term.anyAggregate (results.flatten.map (·.typed.term)) }
      (givenNames items results) results.flatten (Reader.Ending.terms ending) = some order) :
    let terms := results.flatten.map (·.typed.term)
    ∃ restriction visit, restriction.Decides verdict ∧
      resolve? (Reader.statement items table.name body ending) values =
        (rowsOf? { scopes := [], parameters := values } (some body) table visit).map fun rows =>
          ⟨.mk false (Term.anyAggregate terms || Term.anyAggregate (order.map (·.1)))
            ((Term.leader? terms).map (·.1)) (((Term.leader? terms).map (·.2)).getD (.value .null))
            terms rows restriction order (limitTerm ending) none, results.flatten⟩ := by
  intro terms
  obtain ⟨typed, resolves, decides⟩ := governs.resolves
    { onTable table values body (givenNames items results) with
      aggregates := false, matching := true }
    ⟨ofRecords, ⟨_, _, rfl⟩, List.prefix_refl values⟩ rfl
  have limited : resolveLimit { scopes := [], parameters := values }
      (Reader.Ending.count ending) = some (limitTerm ending) := by
    cases ending with
    | none => rfl
    | some ending => rfl
  let visit := Visit.choose typed.term.conjuncts order
    (Term.allColumns terms ++ typed.term.columns ++ Term.allColumns (order.map (·.1)))
  refine ⟨typed.term, visit, decides, ?_⟩
  simp only [onTable] at listed ordered resolves
  rw [resolve?, Reader.statement, resolveSelect, resolveSource_name]
  simp only [Option.bind_eq_bind, Option.bind_some, listed, resolveOption, resolves, ordered,
    limited, Bool.true_or, if_true, ResolvedSource.rowsFor?]
  have unlimited : resolveLimit { scopes := [], parameters := values } none = some none := rfl
  rw [unlimited, Option.bind_some]
  cases found : rowsOf? { scopes := [], parameters := values } (some body) table visit with
  | none => rfl
  | some rows =>
      simp only [Option.bind_some, takeLimit?_of_rowsOf? found]
      rfl

end Sql
end BlockSearch
