import BlockSearch.Proofs.Lists
import BlockSearch.Sql.Query

/-!
# Selected columns

Every row of a plan comes from one row of its source. So a statement that selects all columns
of a table of records yields records of the store as they are. Only a statement that counts
rows although there are none yields a row without values. A plain selection of some columns
yields the records in their order, and the fields of the other columns are empty.

A plain plan whose rows come in order tests them until it has enough. Where every row can be tested
this makes no difference to the rows that it takes.
-/

namespace BlockSearch
namespace Sql

/-! ## Answers -/

theorem records?_eq
    (store : Store)
    (text : String)
    (parameters : List String) :
    records? store text parameters =
      (answer? store text parameters).map Answer.records := rfl

/-- The two counts in the first row; without a row both are zero. -/
def firstCounts? : List Row → Option (Nat × Nat)
  | [] => some (0, 0)
  | (first :: second :: _) :: _ => some (toCount first, toCount second)
  | _ => none

theorem counts?_eq
    (store : Store)
    (text : String)
    (parameters : List String) :
    counts? store text parameters =
      (answer? store text parameters).bind fun answer => firstCounts? answer.rows := by
  change (Database.ofStore store).counts? text parameters = _
  rw [Database.counts?, Option.bind_eq_bind]
  rfl

/-! ## Rows of a plan -/

theorem mem_of_mem_distinctOutcomes
    {outcomes : List Outcome}
    {outcome : Outcome}
    (member : outcome ∈ distinctOutcomes outcomes) :
    outcome ∈ outcomes := by
  induction outcomes with
  | nil => exact member
  | cons first outcomes inductionHypothesis =>
      rw [distinctOutcomes] at member
      rcases List.mem_cons.1 member with rfl | later
      · exact List.mem_cons_self
      · exact List.mem_cons_of_mem _ (inductionHypothesis (List.mem_filter.1 later).1)

theorem mem_of_mem_window
    {α : Type}
    {count skip : Int}
    {items : List α}
    {item : α}
    (member : item ∈ window count skip items) :
    item ∈ items := by
  rw [window] at member
  split_ifs at member
  · exact List.mem_of_mem_drop member
  · exact List.mem_of_mem_drop (List.mem_of_mem_take member)

/-- The leading row is one of the rows, if there are any. -/
theorem leadingRow_mem
    (leading : Option Bool)
    (valued : List (Row × Value)) :
    leadingRow leading valued ∈ valued.map (·.1) ∨ leadingRow leading valued = [] := by
  cases leading with
  | some greatest =>
      rw [leadingRow]
      generalize (fun entry : Row × Value =>
        plainOrdering entry.2 (extremeOf greatest (valued.map (·.2))) == .eq) = best
      cases found : valued.find? best with
      | none => exact .inr rfl
      | some entry => exact .inl (List.mem_map_of_mem (List.mem_of_find?_eq_some found))
  | none =>
      rw [leadingRow]
      cases last : valued.getLast? with
      | none => exact .inr rfl
      | some entry => exact .inl (List.mem_map_of_mem (List.mem_of_getLast? last))

/-- Outcomes are left out, put in order and cut off, but none is new. -/
theorem exists_of_mem_window
    {distinct : Bool}
    {allow : Outcome → Outcome → Bool}
    {count skip : Int}
    {outcomes : List Outcome}
    {found : Row}
    (member : found ∈
      (window count skip
        ((if distinct = true then distinctOutcomes outcomes else outcomes).mergeSort
          allow)).map Outcome.results) :
    ∃ outcome ∈ outcomes, outcome.results = found := by
  obtain ⟨outcome, inWindow, rfl⟩ := List.mem_map.1 member
  have sorted := List.mem_mergeSort.1 (mem_of_mem_window inWindow)
  refine ⟨outcome, ?_, rfl⟩
  split_ifs at sorted
  · exact mem_of_mem_distinctOutcomes sorted
  · exact sorted

theorem mem_of_firstPassing?
    {α : Type}
    {test : α → Option Bool}
    {wanted : Nat}
    {items kept : List α}
    (passing : firstPassing? test wanted items = some kept)
    {item : α}
    (member : item ∈ kept) :
    item ∈ items := by
  induction items generalizing wanted kept with
  | nil =>
      cases wanted <;> cases passing <;> contradiction
  | cons first items inductionHypothesis =>
      cases wanted with
      | zero =>
          cases passing
          contradiction
      | succ wanted =>
          rw [firstPassing?, Option.bind_eq_bind, Option.bind_eq_some_iff] at passing
          obtain ⟨passes, -, passing⟩ := passing
          cases passes with
          | true =>
              rw [if_pos rfl, Option.bind_eq_bind, Option.bind_eq_some_iff] at passing
              obtain ⟨others, behind, same⟩ := passing
              cases same
              rcases List.mem_cons.1 member with rfl | later
              · exact List.mem_cons_self
              · exact List.mem_cons_of_mem _ (inductionHypothesis behind later)
          | false =>
              rw [if_neg Bool.false_ne_true] at passing
              exact List.mem_cons_of_mem _ (inductionHypothesis passing member)

/-- Every row of a plan holds the results for one row of its source, or for no row at all. -/
theorem Plan.exists_of_mem_run
    {store : Store}
    {outer : List Row}
    {distinct grouped : Bool}
    {leading : Option Bool}
    {leader condition : Term}
    {results : List Term}
    {source : Rows}
    {order : List (Term × Collation × Bool)}
    {count skip : Option Term}
    {rows : List Row}
    (run : (Plan.mk distinct grouped leading leader results source condition order count skip).run
      store outer = some rows)
    {found : Row}
    (member : found ∈ rows) :
    ∃ visited group row, source.rows store outer = some visited ∧ (row ∈ visited ∨ row = []) ∧
      evalAll store outer group row results = some found := by
  rw [Plan.run] at run
  simp only [Option.bind_eq_bind, Option.bind_eq_some_iff] at run
  obtain ⟨first, _, run⟩ := run
  split at run
  · cases run
    contradiction
  · simp only [Option.bind_eq_some_iff] at run
    obtain ⟨behind, _, visited, visits, run⟩ := run
    split at run
    -- The rows come in order.
    · simp only [Option.bind_eq_some_iff] at run
      obtain ⟨kept, passing, made⟩ := run
      obtain ⟨row, inWindow, evaluated⟩ := Lists.exists_of_mem_mapM made member
      have inside := mem_of_firstPassing? passing (mem_of_mem_window inWindow)
      exact ⟨visited, [], row, visits, .inl (List.mem_mergeSort.1 inside), evaluated⟩
    · simp only [Option.bind_eq_some_iff] at run
      obtain ⟨kept, filtered, run⟩ := run
      have inside : ∀ row ∈ kept, row ∈ visited := fun row => Lists.mem_of_mem_filterM filtered
      cases grouped with
      -- All rows make up one, whose columns are those of the leading row.
      | true =>
          simp only [↓reduceIte, Option.bind_eq_some_iff, Option.some.injEq] at run
          obtain ⟨values, _, results, evaluated, _, rfl, rfl⟩ := run
          obtain ⟨outcome, here, rfl⟩ := exists_of_mem_window member
          rw [List.mem_singleton] at here
          subst here
          refine ⟨visited, kept, _, visits, ?_, evaluated⟩
          rcases leadingRow_mem leading (kept.zip values) with one | none
          · obtain ⟨pair, paired, same⟩ := List.mem_map.1 one
            exact .inl (same ▸ inside _ (List.of_mem_zip paired).1)
          · exact .inr none
      | false =>
          simp only [Bool.false_eq_true, ↓reduceIte, Option.bind_eq_some_iff,
            Option.some.injEq] at run
          obtain ⟨outcomes, evaluated, rfl⟩ := run
          obtain ⟨outcome, here, rfl⟩ := exists_of_mem_window member
          obtain ⟨row, keptRow, made⟩ := Lists.exists_of_mem_mapM evaluated here
          simp only [Option.bind_eq_some_iff, Option.some.injEq] at made
          obtain ⟨results, evaluatedRow, keys, _, rfl⟩ := made
          exact ⟨visited, [], row, visits, .inl (inside row keptRow), evaluatedRow⟩

/-! ## Rows of records -/

theorem mem_of_mem_numbered
    {α : Type}
    {items : List α}
    {entry : α × Nat}
    (member : entry ∈ numbered items) :
    entry.1 ∈ items := by
  obtain ⟨pair, paired, rfl⟩ := List.mem_map.1 member
  have here : pair.1 ∈ items := List.fst_mem_of_mem_zipIdx paired
  exact here

/-- A row is that of a record of the store, with hidden columns behind. -/
def IsRecordRow (store : Store) (row : Row) : Prop :=
  ∃ record ∈ store.blocks, ∃ hidden, row = Record.toRow record ++ hidden

/-- The rows of a table of records are those of the records. -/
theorem isRecordRow_of_mem_rows
    {store : Store}
    {visit : Visit}
    {table : Table}
    (ofRecords : table ≠ .references)
    {row : Row}
    (member : row ∈ table.rows store visit) :
    IsRecordRow store row := by
  cases table with
  | blocks =>
      obtain ⟨entry, here, rfl⟩ := List.mem_map.1 member
      exact ⟨entry.1, mem_of_mem_numbered (List.mem_mergeSort.1 here), _, rfl⟩
  | references => contradiction
  | index mode =>
      obtain ⟨entry, here, rfl⟩ := List.mem_map.1 member
      exact ⟨entry.1, mem_of_mem_numbered here, _, rfl⟩

/-- The rows that match an expression are those of records. -/
theorem isRecordRow_of_mem_matchingRows
    {store : Store}
    {mode : CaseMode}
    {expression : FullText.Expression}
    {row : Row}
    (member : row ∈ matchingRows store mode expression) :
    IsRecordRow store row := by
  obtain ⟨entry, here, made⟩ := List.mem_filterMap.1 member
  simp only at made
  split_ifs at made
  exact ⟨entry.1, mem_of_mem_numbered here, _, (Option.some.inj made).symm⟩

/-- The rows that a statement reads from a table of records. -/
theorem isRecordRow_of_rowsOf?
    {environment : Environment}
    {condition : Option Expr}
    {table : Table}
    (ofRecords : table ≠ .references)
    {visit : Visit × Bool}
    {source : Rows}
    (resolved : rowsOf? environment condition table visit = some source)
    {store : Store}
    {outer visited : List Row}
    (visits : source.rows store outer = some visited)
    {row : Row}
    (member : row ∈ visited) :
    IsRecordRow store row := by
  unfold rowsOf? at resolved
  split at resolved
  · cases resolved
    rw [Rows.rows] at visits
    cases visits
    apply isRecordRow_of_mem_rows ofRecords
    split_ifs at member
    · exact List.mem_reverse.1 member
    · exact member
  · simp only [Option.bind_eq_bind, Option.bind_eq_some_iff, Option.some.injEq] at resolved
    obtain ⟨texts, _, rfl⟩ := resolved
    rw [Rows.rows, Option.map_eq_some_iff] at visits
    obtain ⟨expression, _, rfl⟩ := visits
    exact isRecordRow_of_mem_matchingRows member
  · contradiction

/-- What is read from a table gives up no limit. -/
theorem takeLimit?_of_rowsOf?
    {environment : Environment}
    {condition : Option Expr}
    {table : Table}
    {visit : Visit × Bool}
    {source : Rows}
    (resolved : rowsOf? environment condition table visit = some source) :
    source.takeLimit? = none := by
  unfold rowsOf? at resolved
  split at resolved
  · cases resolved
    rfl
  · simp only [Option.bind_eq_bind, Option.bind_eq_some_iff, Option.some.injEq] at resolved
    obtain ⟨texts, _, rfl⟩ := resolved
    rfl
  · contradiction

/-! ## All columns -/

theorem evalAll_columns
    (store : Store)
    (outer group : List Row)
    (row : Row)
    (indices : List Nat) :
    evalAll store outer group row (indices.map (Term.column 0)) =
      some (indices.map fun index => row[index]?.getD .null) := by
  induction indices with
  | nil => rw [List.map_nil, evalAll, List.map_nil]
  | cons index indices inductionHypothesis =>
      rw [List.map_cons, evalAll, Term.eval, inductionHypothesis]
      rfl

/-- All columns of a table of records are the first ones, under their names. -/
theorem columnResults_scopeColumns
    (label : String)
    {table : Table}
    (ofRecords : table ≠ .references) :
    (columnResults (scopeColumns label table) fun _ => true).map (·.typed.term) =
        (List.range Table.recordColumns.length).map (Term.column 0) ∧
      (columnResults (scopeColumns label table) fun _ => true).map Result.name =
        Table.recordColumns.map fun column => some column.1 := by
  cases table with
  | blocks => exact ⟨rfl, rfl⟩
  | references => contradiction
  | index mode => exact ⟨rfl, rfl⟩

/-- The item for all columns of a table stands for these. -/
theorem resolveItems_all
    (environment : Environment)
    (label : String)
    (table : Table) :
    resolveItems environment (scopeColumns label table) [.all] =
      some [columnResults (scopeColumns label table) fun _ => true] := by
  have some : (scopeColumns label table).isEmpty = false := by
    cases table <;> rfl
  rw [resolveItems, resolveItems, resolveItem]
  simp [some]

/-- A record is made up again from its values. -/
theorem toRecord_toRow
    (record : Record) :
    toRecord (Table.recordColumns.map fun column => some column.1) (Record.toRow record) =
      record := by
  simp [toRecord, Table.recordColumns, Record.toRow, setColumn, Value.fieldText, Value.toText,
    Value.fieldInteger]

/-- A row without values makes up the empty record. -/
theorem toRecord_nulls :
    toRecord (Table.recordColumns.map fun column => some column.1)
      ((List.range Table.recordColumns.length).map fun _ => .null) = {} := by
  simp [toRecord, Table.recordColumns, setColumn, Value.fieldText, Value.toText,
    Value.fieldInteger, List.range_succ]

/-- Whether a statement selects all columns of a table, which is not that of the references. -/
def Select.TakesRecords : Select → Prop
  | .mk _ [.all] (.table name _) _ _ _ _ => sameName Table.references.name name = false
  | _ => False

/-- The plan of a statement that selects all columns of a table of records. -/
theorem plan_of_takesRecords
    {select : Select}
    (takes : select.TakesRecords)
    {parameters : List String}
    {resolved : Resolved}
    (resolves : resolve? select parameters = some resolved) :
    resolved.results.map Result.name = Table.recordColumns.map (fun column => some column.1) ∧
      ∃ distinct grouped leading leader source condition order count skip,
        resolved.plan = .mk distinct grouped leading leader
          ((List.range Table.recordColumns.length).map (Term.column 0)) source condition order
          count skip ∧
        ∀ store outer visited, source.rows store outer = some visited →
          ∀ row ∈ visited, IsRecordRow store row := by
  unfold Select.TakesRecords at takes
  split at takes
  swap
  · contradiction
  rename_i distinct name label condition order count skip
  rw [resolve?, resolveSelect, resolveSource] at resolves
  simp only [Option.bind_eq_bind, Option.bind_eq_some_iff, Option.some.injEq] at resolves
  obtain ⟨_, ⟨table, found, rfl⟩, results, items, restriction, _, terms, _, limit, _, offset, _,
    source, sourceRows, rfl⟩ := resolves
  -- The name of the table is not that of the references.
  have ofRecords : table ≠ .references := by
    rintro rfl
    have same := List.find?_some found
    rw [takes] at same
    contradiction
  rw [resolveItems_all, Option.some.injEq] at items
  subst items
  obtain ⟨columns, names⟩ := columnResults_scopeColumns (label.getD table.name) ofRecords
  rw [List.flatten_singleton, columns, takeLimit?_of_rowsOf? sourceRows]
  exact ⟨names, _, _, _, _, source, _, _, _, _, rfl, fun store outer visited visits row member =>
    isRecordRow_of_rowsOf? ofRecords sourceRows visits member⟩

/-- A statement that selects all columns yields records of the store, or the empty record. -/
theorem mem_blocks_of_takesRecords
    {store : Store}
    {text : String}
    {parameters : List String}
    {prepared : Prepared}
    (read : Prepared.read? text.toList = some prepared)
    (takes : prepared.select.TakesRecords)
    {records : List Record}
    (answered : records? store text parameters = some records)
    {record : Record}
    (member : record ∈ records) :
    record ∈ store.blocks ∨ record = {} := by
  rw [records?_eq, answer?, read] at answered
  simp only [Option.bind_eq_bind, Option.bind_some, Option.map_eq_some_iff] at answered
  obtain ⟨answer, answers, rfl⟩ := answered
  split_ifs at answers
  simp only [Option.bind_eq_some_iff, Option.some.injEq] at answers
  obtain ⟨resolved, resolves, rows, run, rfl⟩ := answers
  obtain ⟨row, rowMember, rfl⟩ := List.mem_map.1 member
  obtain ⟨names, distinct, grouped, leading, leader, source, condition, order, count, skip, plan,
    ofRecords⟩ := plan_of_takesRecords takes resolves
  rw [plan] at run
  obtain ⟨visited, group, origin, visits, inside, evaluated⟩ := Plan.exists_of_mem_run run rowMember
  rw [evalAll_columns, Option.some.injEq] at evaluated
  rw [names, ← evaluated]
  rcases inside with here | rfl
  · obtain ⟨stored, storedMember, hidden, rfl⟩ := ofRecords store [] visited visits origin here
    left
    have values : ((List.range Table.recordColumns.length).map fun index =>
        (Record.toRow stored ++ hidden)[index]?.getD .null) = Record.toRow stored := rfl
    rwa [values, toRecord_toRow]
  · right
    exact toRecord_nulls

/-! ## Plain selections -/

/-- Records that are visited as they are stored. -/
theorem blockRows_insertion
    (store : Store) :
    blockRows store .insertion =
      (numbered store.blocks).map fun record => Record.toRow record.1 ++ [.integer record.2] := by
  rw [blockRows, List.mergeSort_of_pairwise]
  exact List.pairwise_of_forall fun _ _ => rfl

theorem map_window
    {α β : Type}
    (value : α → β)
    (count skip : Int)
    (items : List α) :
    (window count skip items).map value = window count skip (items.map value) := by
  rw [window, window]
  split_ifs
  · rw [List.map_drop]
  · rw [List.map_take, List.map_drop]

/-- A limit leaves at most all items. -/
theorem length_window_le
    {α : Type}
    (count skip : Int)
    (items : List α) :
    (window count skip items).length ≤ items.length := by
  have behind : (items.drop skip.toNat).length ≤ items.length := by
    rw [List.length_drop]
    exact Nat.sub_le _ _
  rw [window]
  split_ifs
  · exact behind
  · exact (List.length_take_le' _ _).trans behind

/-- Whether a condition is true in a row, if it has a value there. -/
def Term.test? (store : Store) (restriction : Term) (row : Row) : Option Bool := do
  let value ← restriction.eval store [] [] row
  some (value.truth = some true)

/-- Whether a condition is true in a row. -/
def Term.keeps (store : Store) (restriction : Term) (row : Row) : Bool :=
  (restriction.test? store row).getD false

/-- A condition that can be tested in every row filters the rows. -/
theorem filterM_test?
    {store : Store}
    {restriction : Term}
    {rows : List Row}
    (tested : ∀ row ∈ rows, (restriction.test? store row).isSome = true) :
    rows.filterM (restriction.test? store) = some (rows.filter (restriction.keeps store)) := by
  refine Lists.filterM_eq_filter fun row member => ?_
  obtain ⟨value, found⟩ := Option.isSome_iff_exists.1 (tested row member)
  rw [Term.keeps, found, Option.getD_some]

/-- Whether a row may stand before another in an order. -/
def rowsAllow
    (store : Store)
    (order : List (Term × Collation × Bool))
    (first second : Row) : Bool :=
  keysAllow (order.map (·.2)) ((evalKeys store [] [] first order).getD [])
    ((evalKeys store [] [] second order).getD [])

/-- The rows of which a condition is true, in order. Those that come in order are tested in order. -/
def takenRows
    (store : Store)
    (source : Rows)
    (restriction : Term)
    (order : List (Term × Collation × Bool))
    (visited : List Row) : List Row :=
  if source.comeIn order then
    (visited.mergeSort (rowsAllow store order)).filter (restriction.keeps store)
  else (visited.filter (restriction.keeps store)).mergeSort (rowsAllow store order)

theorem takenRows_perm
    (store : Store)
    (source : Rows)
    (restriction : Term)
    (order : List (Term × Collation × Bool))
    (visited : List Row) :
    (takenRows store source restriction order visited).Perm
      (visited.filter (restriction.keeps store)) := by
  rw [takenRows]
  split_ifs
  · exact (List.mergeSort_perm _ _).filter _
  · exact List.mergeSort_perm _ _

/-- Without an order the rows stay in their order. -/
theorem takenRows_nil
    (store : Store)
    (source : Rows)
    (restriction : Term)
    (visited : List Row) :
    takenRows store source restriction [] visited =
      visited.filter (restriction.keeps store) := by
  have sorted (rows : List Row) : rows.mergeSort (rowsAllow store []) = rows :=
    List.mergeSort_of_pairwise (List.pairwise_of_forall fun _ _ => rfl)
  rw [takenRows, sorted, sorted, ite_self]

/-- Where all items can be tested, the first ones that pass are the first of those that pass. -/
theorem firstPassing?_eq_take
    {α : Type}
    {test : α → Option Bool}
    {passes : α → Bool}
    {items : List α}
    (each : ∀ item ∈ items, test item = some (passes item))
    (wanted : Nat) :
    firstPassing? test wanted items = some ((items.filter passes).take wanted) := by
  induction items generalizing wanted with
  | nil => cases wanted <;> rfl
  | cons item items inductionHypothesis =>
      have others := @inductionHypothesis fun other member =>
        each other (List.mem_cons_of_mem _ member)
      cases wanted with
      | zero => rfl
      | succ wanted =>
          rw [firstPassing?, each item List.mem_cons_self, Option.bind_eq_bind, Option.bind_some,
            List.filter_cons]
          cases passes item with
          | true =>
              rw [if_pos rfl, if_pos rfl, others, List.take_succ_cons]
              rfl
          | false => rw [if_neg Bool.false_ne_true, if_neg Bool.false_ne_true, others]

/-- Items that are made of others are tested as these are. -/
theorem firstPassing?_map
    {α β : Type}
    {test : β → Option Bool}
    (value : α → β)
    (wanted : Nat)
    (items : List α) :
    firstPassing? test wanted (items.map value) =
      (firstPassing? (fun item => test (value item)) wanted items).map (List.map value) := by
  induction items generalizing wanted with
  | nil => cases wanted <;> rfl
  | cons item items inductionHypothesis =>
      cases wanted with
      | zero => rfl
      | succ wanted =>
          rw [List.map_cons, firstPassing?, firstPassing?]
          cases test (value item) with
          | none => rfl
          | some passes =>
              simp only [Option.bind_eq_bind, Option.bind_some]
              cases passes with
              | true =>
                  rw [if_pos rfl, if_pos rfl, inductionHypothesis]
                  cases firstPassing? (fun item => test (value item)) wanted items <;> rfl
              | false =>
                  rw [if_neg Bool.false_ne_true, if_neg Bool.false_ne_true, inductionHypothesis]

/-- A limit leaves nothing that stands beyond its reach. -/
theorem window_take_reach
    {α : Type}
    {items : List α}
    {size : Nat}
    (within : items.length ≤ size)
    (count skip : Int) :
    window count skip (items.take (reach count skip size)) = window count skip items := by
  rw [window, window, reach]
  split_ifs
  · rw [List.take_of_length_le within]
  · rw [List.drop_take, List.take_take]
    congr 1
    omega

/-- Rows that come in order are ordered by their columns. -/
theorem evalKeys_of_comeIn
    {source : Rows}
    {order : List (Term × Collation × Bool)}
    (comes : source.comeIn order = true)
    (store : Store)
    (row : Row) :
    evalKeys store [] [] row order = some (row.keys order) := by
  have columns : ∀ rule ∈ order, ∃ index, rule.1 = .column 0 index := by
    rw [Rows.comeIn] at comes
    cases found : orderColumns? order with
    | none =>
        rw [found] at comes
        contradiction
    | some indices =>
        rw [orderColumns?, Option.ite_none_right_eq_some] at found
        intro rule member
        obtain ⟨index, -, named⟩ := Lists.exists_result_of_mem_mapM found.2 member
        split at named
        · exact ⟨_, rfl⟩
        · cases named
  clear comes
  induction order with
  | nil => rfl
  | cons rule order inductionHypothesis =>
      obtain ⟨index, named⟩ := columns rule List.mem_cons_self
      have others := inductionHypothesis fun other member =>
        columns other (List.mem_cons_of_mem _ member)
      obtain ⟨term, collation, descending⟩ := rule
      obtain rfl : term = .column 0 index := named
      rw [evalKeys, Term.eval, Option.bind_eq_bind, Option.bind_some, others]
      rfl

section

variable
  {store : Store}
  {leading : Option Bool}
  {leader condition : Term}
  {results : List Term}
  {source : Rows}
  {order : List (Term × Collation × Bool)}
  {count skip : Option Term}
  {visited : List Row}

/-- A plain plan whose rows come in order tests them one after the other until it has enough. -/
theorem Plan.run_of_comeIn
    {limit offset : Int}
    (comes : source.comeIn order = true)
    (counted : evalLimit? store (-1) count = some limit)
    (positive : limit ≠ 0)
    (skipped : evalLimit? store 0 skip = some offset)
    (visits : source.rows store [] = some visited) :
    (Plan.mk false false leading leader results source condition order count skip).run store [] =
      (firstPassing? (condition.test? store) (reach limit offset visited.length)
        (visited.mergeSort (rowsAllow store order))).bind
          fun kept => (window limit offset kept).mapM fun row =>
            evalAll store [] [] row results := by
  have allows : (fun a b : Row => keysAllow (order.map (·.2)) (a.keys order) (b.keys order)) =
      rowsAllow store order := by
    funext first second
    rw [rowsAllow, evalKeys_of_comeIn comes, evalKeys_of_comeIn comes]
    rfl
  rw [Plan.run, counted, skipped, Option.bind_eq_bind, Option.bind_some, if_neg positive, visits]
  simp only [Option.bind_eq_bind, Option.bind_some, comes, Bool.not_false, Bool.and_true, if_true,
    allows]
  rfl

/--
A plain plan yields the results for the rows of its source of which the condition is true, in the
order of their keys.
-/
theorem Plan.run_of_ungrouped
    {limit offset : Int}
    (counted : evalLimit? store (-1) count = some limit)
    (positive : limit ≠ 0)
    (skipped : evalLimit? store 0 skip = some offset)
    (visits : source.rows store [] = some visited)
    (tested : ∀ row ∈ visited, (condition.test? store row).isSome = true)
    {value : Row → Row}
    (evaluated : ∀ row ∈ visited, condition.keeps store row = true →
      evalAll store [] [] row results = some (value row))
    (keyed : ∀ row ∈ visited, condition.keeps store row = true →
      (evalKeys store [] [] row order).isSome = true) :
    (Plan.mk false false leading leader results source condition order count skip).run store [] =
      some ((window limit offset (takenRows store source condition order visited)).map value) := by
  have test : ∀ row ∈ visited, condition.test? store row = some (condition.keeps store row) := by
    intro row member
    obtain ⟨value, found⟩ := Option.isSome_iff_exists.1 (tested row member)
    rw [Term.keeps, found, Option.getD_some]
  have taken : ∀ row ∈ window limit offset (takenRows store source condition order visited),
      row ∈ visited ∧ condition.keeps store row = true := fun row member =>
    List.mem_filter.1 ((takenRows_perm ..).mem_iff.1 (mem_of_mem_window member))
  cases comes : source.comeIn order with
  | true =>
      have sorted : ∀ row ∈ visited.mergeSort (rowsAllow store order),
          condition.test? store row = some (condition.keeps store row) :=
        fun row member => test row (List.mem_mergeSort.1 member)
      have passing := firstPassing?_eq_take sorted (reach limit offset visited.length)
      have few : ((visited.mergeSort (rowsAllow store order)).filter
          (condition.keeps store)).length ≤ visited.length :=
        (List.length_filter_le _ _).trans (List.length_mergeSort _).le
      rw [takenRows, if_pos comes] at taken ⊢
      rw [Plan.run_of_comeIn comes counted positive skipped visits, passing, Option.bind_some,
        window_take_reach few]
      exact Lists.mapM_eq_map fun row member =>
        evaluated row (taken row member).1 (taken row member).2
  | false =>
      let keys (row : Row) : Row := (evalKeys store [] [] row order).getD []
      have filtered : (visited.filterM fun row => (condition.eval store [] [] row).bind fun value =>
          some (decide (value.truth = some true))) =
            some (visited.filter (condition.keeps store)) := filterM_test? tested
      have outcomes : ((visited.filter (condition.keeps store)).mapM fun row => do
          let found ← evalAll store [] [] row results
          let keys ← evalKeys store [] [] row order
          some (⟨found, keys⟩ : Outcome)) =
            some ((visited.filter (condition.keeps store)).map fun row =>
              ⟨value row, keys row⟩) := by
        apply Lists.mapM_eq_map
        intro row member
        obtain ⟨here, kept⟩ := List.mem_filter.1 member
        obtain ⟨found, known⟩ := Option.isSome_iff_exists.1 (keyed row here kept)
        rw [evaluated row here kept]
        simp [keys, known]
      have sorted : ((visited.filter (condition.keeps store)).map fun row =>
          (⟨value row, keys row⟩ : Outcome)).mergeSort
            (fun a b => keysAllow (order.map (·.2)) a.keys b.keys) =
          ((visited.filter (condition.keeps store)).mergeSort (rowsAllow store order)).map
            fun row => ⟨value row, keys row⟩ := by
        refine (List.map_mergeSort fun first _ second _ => ?_).symm
        rfl
      simp only [Option.bind_eq_bind] at outcomes
      rw [Plan.run, counted, skipped, Option.bind_eq_bind, Option.bind_some, if_neg positive,
        visits]
      simp only [Option.bind_eq_bind, filtered, Option.bind_some, outcomes, takenRows, comes,
        Bool.false_and, Bool.false_eq_true, if_false, sorted]
      rw [← map_window, List.map_map]
      rfl

/-- A row that a condition cannot test, or that it keeps although the row has no keys. -/
def FailsAt
    (store : Store)
    (condition : Term)
    (order : List (Term × Collation × Bool))
    (row : Row) : Prop :=
  condition.test? store row = none ∨
    condition.keeps store row = true ∧ evalKeys store [] [] row order = none

/-- A plain plan whose rows must be sorted fails at any of them. -/
theorem Plan.run_of_failsAt
    {limit : Int}
    (comes : source.comeIn order = false)
    (counted : evalLimit? store (-1) count = some limit)
    (positive : limit ≠ 0)
    (visits : source.rows store [] = some visited)
    {row : Row}
    (member : row ∈ visited)
    (fails : FailsAt store condition order row) :
    (Plan.mk false false leading leader results source condition order count skip).run store [] =
      none := by
  rw [Plan.run, counted, visits, Option.bind_eq_bind, Option.bind_some, if_neg positive]
  simp only [Option.bind_eq_bind, Option.bind_some, comes, Bool.false_and, Bool.false_eq_true,
    if_false]
  cases evalLimit? store 0 skip with
  | none => rfl
  | some offset =>
      rw [Option.bind_some, Option.bind_eq_none_iff]
      intro kept filtered
      have tested : ∀ row ∈ visited, (condition.test? store row).isSome = true := by
        intro row member
        obtain ⟨wanted, found⟩ := Lists.exists_of_filterM filtered member
        exact Option.isSome_iff_exists.2 ⟨wanted, found⟩
      rcases fails with untested | ⟨keeps, unkeyed⟩
      · have known := tested row member
        rw [untested] at known
        cases known
      · obtain rfl : visited.filter (condition.keeps store) = kept :=
          Option.some.inj ((filterM_test? tested).symm.trans filtered)
        rw [Option.bind_eq_none_iff]
        intro outcomes evaluated
        obtain ⟨outcome, -, made⟩ := Lists.exists_result_of_mem_mapM evaluated
          (List.mem_filter.2 ⟨member, keeps⟩)
        rw [unkeyed] at made
        cases found : evalAll store [] [] row results <;> rw [found] at made <;> cases made

end

theorem map_numbered
    {α β : Type}
    (value : α → β)
    (items : List α) :
    (numbered items).map (fun entry => value entry.1) = items.map value := by
  have plain : (numbered items).map (·.1) = items := by
    rw [numbered, List.map_map]
    exact List.zipIdx_map_fst 0 items
  rw [← plain, List.map_map, plain]
  rfl

/-- A plain selection of columns yields the records that its limit leaves, as far as they have these
columns. -/
theorem records?_of_columns
    {text : String}
    {select : Select}
    {leading : Option Bool}
    {leader : Term}
    {indices : List Nat}
    {count skip : Option Term}
    {results : List Result}
    (read : Prepared.read? text.toList = some ⟨select, 0⟩)
    (low : select.height?.isNone = false)
    (resolved : resolve? select [] =
      some ⟨.mk false false leading leader (indices.map (Term.column 0))
        (.table .blocks .insertion false) (.value (.integer 1)) [] count skip, results⟩)
    (inside : ∀ index ∈ indices, index < Table.recordColumns.length)
    {store : Store}
    {limit offset : Int}
    (counted : evalLimit? store (-1) count = some limit)
    (positive : limit ≠ 0)
    (skipped : evalLimit? store 0 skip = some offset) :
    records? store text [] =
      some ((window limit offset store.blocks).map fun record =>
        toRecord (results.map Result.name)
          (indices.map fun index => (Record.toRow record)[index]?.getD .null)) := by
  have visits : Rows.rows store [] (.table .blocks .insertion false) =
      some ((numbered store.blocks).map fun entry =>
        Record.toRow entry.1 ++ [.integer entry.2]) := by
    rw [← blockRows_insertion]
    rfl
  have run := @Plan.run_of_ungrouped store leading leader (.value (.integer 1))
    (indices.map (Term.column 0)) (.table .blocks .insertion false) [] count skip _ limit offset
    counted positive skipped visits (fun _ _ => rfl) _
    (fun row _ _ => evalAll_columns store [] [] row indices) (fun _ _ _ => rfl)
  have all (rows : List Row) : rows.filter (Term.keeps store (.value (.integer 1))) = rows :=
    List.filter_eq_self.2 fun _ _ => rfl
  have columns : ∀ (record : Record) (hidden : Row),
      (indices.map fun index => (Record.toRow record ++ hidden)[index]?.getD .null) =
        indices.map fun index => (Record.toRow record)[index]?.getD .null := by
    intro record hidden
    apply List.map_congr_left
    intro index member
    rw [List.getElem?_append_left]
    exact inside index member
  rw [records?_eq, answer?, read, Option.bind_eq_bind, Option.bind_some, low]
  simp only [List.length_nil, bne_self_eq_false, Bool.or_false, Bool.false_eq_true, if_false,
    Option.bind_eq_bind, resolved, run, Option.bind_some, takenRows_nil, all]
  rw [Option.map_some, Answer.records, map_window, map_window, map_window, List.map_map,
    List.map_map,
    ← map_numbered _ store.blocks]
  simp only [Function.comp_def, columns]

theorem reads_identifiers :
    (match Prepared.read? "select id, root_id from blocks LIMIT 64".toList with
    | some ⟨.mk false [.expression (.column none first false) none,
        .expression (.column none second false) none] (.table table none) none []
        (some (.value (.integer limit))) none, parameters⟩ =>
        decide (first = "id" ∧ second = "root_id" ∧ table = "blocks" ∧ limit = 64 ∧
          parameters = 0)
    | _ => false) = true := by
  decide +kernel

theorem read?_identifiers :
    Prepared.read? "select id, root_id from blocks LIMIT 64".toList =
      some ⟨.mk false [.expression (.column none "id" false) none,
        .expression (.column none "root_id" false) none] (.table "blocks" none) none []
        (some (.value (.integer 64))) none, 0⟩ := by
  -- Statements have no decidable equality, so the reader is evaluated to a truth value.
  have reads := reads_identifiers
  split at reads
  · rename_i same
    obtain ⟨rfl, rfl, rfl, rfl, rfl⟩ := of_decide_eq_true reads
    exact same
  · exact absurd reads Bool.false_ne_true

theorem reads_all :
    (match Prepared.read? "select * from blocks LIMIT 64".toList with
    | some ⟨.mk false [.all] (.table table none) none [] (some (.value (.integer limit))) none,
        parameters⟩ => decide (table = "blocks" ∧ limit = 64 ∧ parameters = 0)
    | _ => false) = true := by
  decide +kernel

theorem read?_all :
    Prepared.read? "select * from blocks LIMIT 64".toList =
      some ⟨.mk false [.all] (.table "blocks" none) none [] (some (.value (.integer 64))) none,
        0⟩ := by
  have reads := reads_all
  split at reads
  · rename_i same
    obtain ⟨rfl, rfl, rfl⟩ := of_decide_eq_true reads
    exact same
  · exact absurd reads Bool.false_ne_true

/-- A plain selection of all columns yields the records that its limit leaves. -/
theorem records?_of_all
    {text : String}
    {select : Select}
    {count skip : Option Term}
    (read : Prepared.read? text.toList = some ⟨select, 0⟩)
    (low : select.height?.isNone = false)
    (resolved : resolve? select [] =
      some ⟨.mk false false none (.value .null)
          ((List.range Table.recordColumns.length).map (Term.column 0))
          (.table .blocks .insertion false) (.value (.integer 1)) [] count skip,
        columnResults (scopeColumns Table.blocks.name .blocks) fun _ => true⟩)
    {store : Store}
    {limit offset : Int}
    (counted : evalLimit? store (-1) count = some limit)
    (positive : limit ≠ 0)
    (skipped : evalLimit? store 0 skip = some offset) :
    records? store text [] = some (window limit offset store.blocks) := by
  have selected := records?_of_columns read low resolved (fun index member => List.mem_range.1 member)
    counted positive skipped
  have value : ∀ record ∈ window limit offset store.blocks,
      toRecord (Table.recordColumns.map fun column => some column.1)
        ((List.range Table.recordColumns.length).map fun index =>
          (Record.toRow record)[index]?.getD .null) = record :=
    fun record _ => toRecord_toRow record
  rw [selected, (columnResults_scopeColumns Table.blocks.name (by decide)).2]
  exact congrArg some ((List.map_congr_left value).trans (List.map_id' _))

/-- A statement that selects the identifiers only yields records without a type. -/
theorem records?_identifiers
    (store : Store) :
    records? store "select id, root_id from blocks LIMIT 64" [] =
      some ((store.blocks.take 64).map fun record =>
        { id := record.id, rootId := record.rootId }) := by
  have selected := @records?_of_columns _ _ none (.value .null) [0, 2]
    (some (.value (.integer 64))) none _ read?_identifiers rfl rfl (by decide) store 64 0 rfl
    (by decide) rfl
  have value : ∀ record ∈ store.blocks.take 64,
      toRecord [some "id", some "root_id"] [.text record.id, .text record.rootId] =
        ({ id := record.id, rootId := record.rootId } : Record) := by
    intro record _
    simp [toRecord, setColumn, Value.fieldText, Value.toText]
  rw [selected]
  exact congrArg some (List.map_congr_left value)

/-- A statement that selects all columns yields records as they are stored. -/
theorem records?_all
    (store : Store) :
    records? store "select * from blocks LIMIT 64" [] = some (store.blocks.take 64) :=
  @records?_of_all _ _ (some (.value (.integer 64))) none read?_all rfl rfl store 64 0 rfl
    (by decide) rfl

end Sql
end BlockSearch
