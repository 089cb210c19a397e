import BlockSearch.Proofs.Sql.Restriction

/-!
# Answers of restricted statements

A statement with a condition selects the records of which the condition holds, in the order of a
column and up to a limit, and another one counts them and their documents. If the rows cannot be
found, the first one fails unless it is to take none, and the second one always does. The first one
also fails if its limit is not accepted, which only happens to numbers beyond the integers. Both
fail if the condition is too high, and the second one fails if a record cannot be tested.
-/

namespace BlockSearch
namespace Sql

/-! ## Chosen rows -/

section

variable {restriction : Term} {verdict : Record → Option Bool}

theorem Term.Decides.test?_entryRow
    (decides : restriction.Decides verdict)
    (store : Store)
    (hidden : Record × Nat → Row)
    (entry : Record × Nat) :
    restriction.test? store (entryRow hidden entry) = verdict entry.1 := by
  rw [Term.test?, entryRow, decides]
  cases verdict entry.1 with
  | none => rfl
  | some value => simp

theorem Term.Decides.keeps_entryRow
    (decides : restriction.Decides verdict)
    (store : Store)
    (hidden : Record × Nat → Row)
    (entry : Record × Nat) :
    restriction.keeps store (entryRow hidden entry) = (verdict entry.1 == some true) := by
  rw [Term.keeps, decides.test?_entryRow]
  rcases verdict entry.1 with _ | _ | _ <;> rfl

/-- The rows that a condition keeps are those of the records of which it holds. -/
theorem filter_map_entryRow
    (decides : restriction.Decides verdict)
    (store : Store)
    (hidden : Record × Nat → Row)
    (entries : List (Record × Nat)) :
    (entries.map (entryRow hidden)).filter (restriction.keeps store) =
      (entries.filter fun entry => verdict entry.1 == some true).map (entryRow hidden) := by
  rw [List.filter_map]
  congr 1
  exact List.filter_congr fun entry _ => decides.keeps_entryRow store hidden entry

/-- The rows that a plan takes are those of the records of which its condition holds. -/
theorem exists_takenRows
    (decides : restriction.Decides verdict)
    (store : Store)
    (source : Rows)
    (order : List (Term × Collation × Bool))
    (hidden : Record × Nat → Row)
    (entries : List (Record × Nat)) :
    let found := entries.filter fun entry => verdict entry.1 == some true
    ∃ taken : List (Record × Nat), taken.Perm found ∧
      (source.comeIn order = false → taken = found.mergeSort fun a b =>
        rowsAllow store order (entryRow hidden a) (entryRow hidden b)) ∧
      takenRows store source restriction order (entries.map (entryRow hidden)) =
        taken.map (entryRow hidden) := by
  intro found
  let allows (a b : Record × Nat) : Bool :=
    rowsAllow store order (entryRow hidden a) (entryRow hidden b)
  have sorted (entries : List (Record × Nat)) :
      (entries.map (entryRow hidden)).mergeSort (rowsAllow store order) =
        (entries.mergeSort allows).map (entryRow hidden) := by
    refine (List.map_mergeSort fun first _ second _ => ?_).symm
    rfl
  rw [takenRows, sorted, filter_map_entryRow decides, filter_map_entryRow decides, sorted]
  cases source.comeIn order with
  | true =>
      exact ⟨(entries.mergeSort allows).filter fun entry => verdict entry.1 == some true,
        (List.mergeSort_perm _ _).filter _, fun never => by contradiction, rfl⟩
  | false => exact ⟨found.mergeSort allows, List.mergeSort_perm _ _, fun _ => rfl, rfl⟩

end

/-! ## Limits -/

/-- A whole number that is not too great is read as an integer. -/
theorem Value.ofLiteral_natCast
    {n : Nat}
    (integer : n ≤ 9223372036854775807) :
    Value.ofLiteral ⟨false, n, 0, true⟩ = .integer n := by
  have fits : fitsInteger n = true := by
    rw [fitsInteger, Bool.and_eq_true, decide_eq_true_iff, decide_eq_true_iff, leastInteger,
      greatestInteger]
    omega
  simp [ofLiteral, NumberLiteral.int?, fits]

/-- A limit that is an integer is accepted. -/
theorem evalLimit?_limitTerm
    (store : Store)
    {ending : Reader.Ending}
    (allowed : ending.limit ≤ 9223372036854775807) :
    evalLimit? store (-1) (limitTerm (some ending)) = some ↑ending.limit := by
  rw [limitTerm, Option.map_some, evalLimit?, Term.eval, Value.ofLiteral_natCast allowed]
  rfl

/-- A limit is not accepted only if it is too great; an accepted one that is not is kept. -/
theorem evalLimit?_limitTerm_cases
    (store : Store)
    (ending : Reader.Ending) :
    (evalLimit? store (-1) (limitTerm (some ending)) = none ∧
        9223372036854775807 < ending.limit) ∨
      ∃ count, evalLimit? store (-1) (limitTerm (some ending)) = some count ∧
        (ending.limit ≤ 9223372036854775807 → count = ↑ending.limit) := by
  rcases Nat.lt_or_ge 9223372036854775807 ending.limit with refused | allowed
  · cases counted : evalLimit? store (-1) (limitTerm (some ending)) with
    | none => exact .inl ⟨rfl, refused⟩
    | some count => exact .inr ⟨count, rfl, fun allowed => absurd allowed (Nat.not_le_of_lt refused)⟩
  · exact .inr ⟨_, evalLimit?_limitTerm store allowed, fun _ => rfl⟩

theorem reach_natCast (count size : Nat) : reach ↑count 0 size = count := by
  rw [reach, if_neg (by omega), Int.toNat_zero, Int.toNat_natCast, Nat.zero_add]

theorem window_natCast
    {α : Type}
    (count : Nat)
    (items : List α) :
    window ↑count 0 items = items.take count := by
  rw [window, if_neg (by omega)]
  rfl

/-- Whatever the limit, some of the first items are left. -/
theorem exists_window_eq_take
    {α : Type}
    (count : Int)
    (items : List α) :
    ∃ size, (∀ number : Nat, count = ↑number → size = number) ∧
      window count 0 items = items.take size := by
  rcases Int.lt_or_le count 0 with negative | positive
  · refine ⟨items.length, fun number same => by omega, ?_⟩
    rw [window, if_pos negative, List.take_length]
    rfl
  · lift count to Nat using positive
    exact ⟨count, fun number same => by omega, window_natCast count items⟩

/-! ## Orders -/

/-- No rows come in an order, so that they must be sorted. -/
def MustSort (order : List (Term × Collation × Bool)) : Prop :=
  ∀ source : Rows, source.comeIn order = false

/-- The columns that rows of some source come in the order of. -/
def visitedColumns : List Nat :=
  [0, Table.referenceColumns.length + 1, rowColumn, rowColumn + 2] ++ Visit.all.flatMap Visit.columns

/-- Rows must be sorted by a column that no rows come in the order of. -/
theorem mustSort_of_column
    {order : List (Term × Collation × Bool)}
    (unvisited : ∀ columns ∈ orderColumns? order, ∃ column ∈ columns, column ∉ visitedColumns) :
    MustSort order := by
  intro source
  rw [Rows.comeIn]
  cases found : orderColumns? order with
  | none => rfl
  | some columns =>
      obtain ⟨column, member, absent⟩ := unvisited columns found
      have differs {others : List Nat} (inside : others ⊆ visitedColumns) :
          ¬ columns.isPrefixOf others = true := fun front =>
        absent (inside ((List.isPrefixOf_iff_prefix.1 front).subset member))
      have unequal {others : List Nat} (inside : others ⊆ visitedColumns) :
          (columns == others) = false := by
        rw [beq_eq_false_iff_ne]
        rintro rfl
        exact absent (inside member)
      have nonempty : columns.isEmpty = false := by
        rw [List.isEmpty_eq_false_iff]
        exact List.ne_nil_of_mem member
      have row : (columns == [rowColumn]) = false := unequal (by decide)
      have rank : (columns == [rowColumn + 2]) = false := unequal (by decide)
      dsimp only
      rw [nonempty, Bool.false_or]
      split
      · rename_i table visit reversed
        cases table with
        | blocks =>
            rw [Table.comeIn, List.any_eq_false]
            intro other _
            exact differs (by cases other <;> decide)
        | references =>
            rw [Table.comeIn, unequal (by decide), unequal (by decide)]
            rfl
        | index mode => exact row
      · rw [row, rank]
        rfl
      · rfl

theorem evalKeys_column
    (store : Store)
    (row : Row)
    (index : Nat)
    (descending : Bool) :
    evalKeys store [] [] row [(.column 0 index, .binary, descending)] =
      some [row[index]?.getD .null] := by
  rw [evalKeys, evalKeys, Term.eval]
  rfl

/-- The value of a column in the row of a record. -/
def columnValue (name : String) (record : Record) : Value :=
  (Record.toRow record)[recordColumn name]?.getD .null

/-- Whether a record may stand before another in the order of a column. -/
def columnAllows (key : String) (descending : Bool) (first second : Record) : Bool :=
  keysAllow [(.binary, descending)] [columnValue key first] [columnValue key second]

/-- The order of a column whose values are compared as keys are. -/
theorem columnAllows_iff
    {α : Type}
    [LinearOrder α]
    {name : String}
    {key : Record → α}
    (compared : ∀ first second, Value.ordering .binary (columnValue name first)
      (columnValue name second) = compare (key first) (key second))
    {descending : Bool}
    {first second : Record} :
    columnAllows name descending first second = true ↔
      ¬ if descending then key first < key second else key second < key first := by
  rw [columnAllows, keysAllow, compared]
  rcases lt_trichotomy (key first) (key second) with less | same | greater
  · rw [compare_lt_iff_lt.2 less]
    cases descending <;> simp [less, less.le]
  · rw [compare_eq_iff_eq.2 same]
    cases descending <;> simp [keysAllow, same]
  · rw [compare_gt_iff_gt.2 greater]
    cases descending <;> simp [greater, greater.le]

/-- The rows of records are in the order of the records. -/
theorem rowsAllow_entryRow
    {name : String}
    (inside : recordColumn name < Table.recordColumns.length)
    (store : Store)
    (descending : Bool)
    (hidden : Record × Nat → Row)
    (first second : Record × Nat) :
    rowsAllow store [(.column 0 (recordColumn name), .binary, descending)]
        (entryRow hidden first) (entryRow hidden second) =
      columnAllows name descending first.1 second.1 := by
  have value (entry : Record × Nat) :
      (entryRow hidden entry)[recordColumn name]? = (Record.toRow entry.1)[recordColumn name]? :=
    List.getElem?_append_left inside
  rw [rowsAllow, columnAllows, evalKeys_column, evalKeys_column, value, value]
  rfl

/-! ## Plans that select -/

section

variable
  {store : Store}
  {leading : Option Bool}
  {leader restriction : Term}
  {verdict : Record → Option Bool}
  {terms : List Term}
  {rows : Rows}
  {order : List (Term × Collation × Bool)}
  {limit : Option Term}
  {count : Int}
  {entries : List (Record × Nat)}
  {hidden : Record × Nat → Row}

/-- A plan selects the records that a condition keeps, in the order of their keys. -/
theorem Plan.run_selecting
    (counted : evalLimit? store (-1) limit = some count)
    (decides : restriction.Decides verdict)
    (visits : rows.rows store [] = some (entries.map (entryRow hidden)))
    (settled : ∀ entry ∈ entries, (verdict entry.1).isSome = true)
    {value : Record → Row}
    (evaluated : ∀ record behind,
      evalAll store [] [] (Record.toRow record ++ behind) terms = some (value record))
    (keyed : ∀ entry ∈ entries, verdict entry.1 = some true →
      (evalKeys store [] [] (entryRow hidden entry) order).isSome = true) :
    let found := entries.filter fun entry => verdict entry.1 == some true
    ∃ taken : List (Record × Nat), taken.Perm found ∧
      (rows.comeIn order = false → taken = found.mergeSort fun a b =>
        rowsAllow store order (entryRow hidden a) (entryRow hidden b)) ∧
      (Plan.mk false false leading leader terms rows restriction order limit none).run store [] =
        some ((window count 0 taken).map fun entry => value entry.1) := by
  intro found
  obtain ⟨taken, perm, sorted, same⟩ := exists_takenRows decides store rows order hidden entries
  refine ⟨taken, perm, sorted, ?_⟩
  by_cases zero : count = 0
  · rw [Plan.run, counted, zero, window, if_neg (by decide)]
    rfl
  have run := @Plan.run_of_ungrouped store leading leader restriction terms rows order limit none
    (entries.map (entryRow hidden)) count 0 counted zero rfl visits ?_
    (fun row => (evalAll store [] [] row terms).getD []) ?_ ?_
  · rw [run, same, ← map_window, List.map_map]
    refine congrArg some (List.map_congr_left fun entry _ => ?_)
    rw [Function.comp_apply, entryRow, evaluated, Option.getD_some]
  · intro row member
    obtain ⟨entry, here, rfl⟩ := List.mem_map.1 member
    rw [decides.test?_entryRow]
    exact settled entry here
  · intro row member _
    obtain ⟨entry, -, rfl⟩ := List.mem_map.1 member
    rw [entryRow, evaluated]
    rfl
  · intro row member kept
    obtain ⟨entry, here, rfl⟩ := List.mem_map.1 member
    rw [decides.keeps_entryRow, beq_iff_eq] at kept
    exact keyed entry here kept

/-- A plan whose records come in order tests them one after the other until it has enough. -/
theorem Plan.run_in_order
    (comes : rows.comeIn order = true)
    (counted : evalLimit? store (-1) limit = some count)
    (positive : count ≠ 0)
    (decides : restriction.Decides verdict)
    (visits : rows.rows store [] = some (entries.map (entryRow hidden)))
    {value : Record → Row}
    (evaluated : ∀ record behind,
      evalAll store [] [] (Record.toRow record ++ behind) terms = some (value record)) :
    (Plan.mk false false leading leader terms rows restriction order limit none).run store [] =
      (firstPassing? (fun entry => verdict entry.1) (reach count 0 entries.length)
        (entries.mergeSort fun a b =>
          rowsAllow store order (entryRow hidden a) (entryRow hidden b))).map
            fun kept => (window count 0 kept).map fun entry => value entry.1 := by
  have sorted : (entries.map (entryRow hidden)).mergeSort (rowsAllow store order) =
      (entries.mergeSort fun a b =>
        rowsAllow store order (entryRow hidden a) (entryRow hidden b)).map (entryRow hidden) := by
    refine (List.map_mergeSort fun first _ second _ => ?_).symm
    rfl
  rw [Plan.run_of_comeIn comes counted positive rfl visits, sorted, firstPassing?_map,
    List.length_map]
  simp only [decides.test?_entryRow]
  rw [Option.bind_map, Option.map_eq_bind]
  refine congrArg _ (funext fun kept => ?_)
  rw [Function.comp_apply, ← map_window, Function.comp_apply, List.mapM_map]
  exact Lists.mapM_eq_map fun entry _ => evaluated entry.1 (hidden entry)

end

/-! ## Selected records -/

/-- The statement on the rows of a table of which a condition holds, as text. -/
def Clause.statement
    (clause : Clause)
    (listing : Listing)
    (table : Table)
    (ending : Option Reader.Ending) : String :=
  "SELECT " ++ listing.text ++ " " ++ ("FROM " ++ table.name ++ " WHERE " ++ clause.text) ++
    Reader.Ending.text ending

/-- The results of a statement with a condition on a table are resolved, and so is its order. -/
structure Resolves
    (table : Table)
    (values : List String)
    (body : Expr)
    (items : List Item)
    (ending : Reader.Ending)
    (results : List (List Result))
    (order : List (Term × Collation × Bool)) : Prop where
  /-- The results. -/
  listed : resolveItems (onTable table values body []) (scopeColumns table.name table) items =
    some results
  /-- The order. -/
  ordered : resolveOrder { onTable table values body (givenNames items results) with
      aggregates := Term.anyAggregate (results.flatten.map (·.typed.term)) }
    (givenNames items results) results.flatten ending.sorting.terms = some order
  /-- Nothing is counted in the results. -/
  plain : Term.anyAggregate (results.flatten.map (·.typed.term)) = false
  /-- Nothing is counted in the order. -/
  plainOrder : Term.anyAggregate (order.map (·.1)) = false

section

variable
  {table : Table}
  {values all : List String}
  {clause : Clause}
  {listing : Listing}
  {ending : Reader.Ending}
  {results : List (List Result)}
  {order : List (Term × Collation × Bool)}

/-- A statement with a condition that is too high fails. -/
theorem Clause.Restricts.records?_of_high
    (restricts : clause.Restricts table values)
    (stands : listing.Stands)
    (ends : ending.sorting.Stands values.length all.length)
    (high : clause.body.height? = none)
    (store : Store) :
    records? store (clause.statement listing table (some ending)) all = none := by
  have read : Prepared.read? (clause.statement listing table (some ending)).toList =
      some ⟨Reader.statement listing.items table.name clause.body (some ending), all.length⟩ :=
    restricts.read?_statement stands ends
  have refused := isNone_height?_statement stands (show Reader.Ending.Stands _ _ (some ending)
    from ends) table.name clause.body
  rw [records?_eq, answer?, read, Option.bind_eq_bind, Option.bind_some, refused, high]
  rfl

/-- The plan of a statement with a condition, and the rows that it visits. -/
theorem Clause.Restricts.exists_plan
    (ofRecords : table ≠ .references)
    (bound : all ≠ [])
    (front : values <+: all)
    (restricts : clause.Restricts table values)
    (low : clause.body.height?.isSome = true)
    (stands : listing.Stands)
    (ends : ending.sorting.Stands values.length all.length)
    (resolves : Resolves table all clause.body listing.items ending results order)
    (store : Store) :
    ∃ leading leader restriction rows, restriction.Decides clause.verdict ∧
      (∃ visit, rowsOf? { scopes := [], parameters := all } (some clause.body) table visit =
        some rows) ∧
      ((table.finds all clause.body = false ∧ rows.rows store [] = none) ∨
        table.finds all clause.body = true ∧ ∃ entries, rows.AreOf store entries ∧
          table.Visited all clause.verdict store entries) ∧
      records? store (clause.statement listing table (some ending)) all =
        ((Plan.mk false false leading leader (results.flatten.map (·.typed.term)) rows restriction
          order (limitTerm (some ending)) none).run store []).map fun rows =>
            rows.map (toRecord (results.flatten.map Result.name)) := by
  have governs := (restricts.governs low).mono front
  have read : Prepared.read? (clause.statement listing table (some ending)).toList =
      some ⟨Reader.statement listing.items table.name clause.body (some ending), all.length⟩ :=
    restricts.read?_statement stands ends
  have prepared := isNone_height?_statement stands (show Reader.Ending.Stands _ _ (some ending)
    from ends) table.name clause.body
  rw [Option.isNone_eq_false_iff.2 low] at prepared
  obtain ⟨restriction, visit, decides, resolved⟩ := @resolve?_statement _ _ _ _ ofRecords
    governs _ _ (some ending) _ resolves.listed resolves.ordered
  obtain ⟨rows, found, outcome⟩ := governs.exists_rows ofRecords bound store visit
  have source := found
  rw [found, resolves.plain, resolves.plainOrder] at resolved
  let leader := Term.leader? (results.flatten.map (·.typed.term))
  refine ⟨leader.map (·.1), (leader.map (·.2)).getD (.value .null), restriction, rows, decides,
    ⟨visit, source⟩, outcome, ?_⟩
  rw [records?_eq, answer?, read, Option.bind_eq_bind, Option.bind_some, prepared]
  simp only [bne_self_eq_false, Bool.or_false, Bool.false_eq_true, if_false, Option.bind_eq_bind,
    resolved, Option.map_some, Option.bind_some]
  rw [Option.map_bind]
  exact Option.map_eq_bind.symm

/-- A statement whose limit is not accepted fails. -/
theorem Clause.Restricts.records?_of_evalLimit?_eq_none
    (ofRecords : table ≠ .references)
    (bound : all ≠ [])
    (front : values <+: all)
    (restricts : clause.Restricts table values)
    (stands : listing.Stands)
    (ends : ending.sorting.Stands values.length all.length)
    (resolves : Resolves table all clause.body listing.items ending results order)
    {store : Store}
    (unlimited : evalLimit? store (-1) (limitTerm (some ending)) = none) :
    records? store (clause.statement listing table (some ending)) all = none := by
  cases low : clause.body.height?.isSome with
  | false => exact restricts.records?_of_high stands ends (by simpa using low) store
  | true =>
      obtain ⟨leading, leader, restriction, rows, -, -, -, answered⟩ :=
        restricts.exists_plan ofRecords bound front low stands ends resolves store
      rw [answered, Plan.run, unlimited]
      rfl

/-- A statement that asks for no record finds none, whatever it cannot test. -/
theorem Clause.Restricts.records?_of_zero
    (ofRecords : table ≠ .references)
    (bound : all ≠ [])
    (front : values <+: all)
    (restricts : clause.Restricts table values)
    (low : clause.body.height?.isSome = true)
    (stands : listing.Stands)
    (ends : ending.sorting.Stands values.length all.length)
    (resolves : Resolves table all clause.body listing.items ending results order)
    {store : Store}
    (none : evalLimit? store (-1) (limitTerm (some ending)) = some 0) :
    records? store (clause.statement listing table (some ending)) all = some [] := by
  obtain ⟨leading, leader, restriction, rows, -, -, -, answered⟩ :=
    restricts.exists_plan ofRecords bound front low stands ends resolves store
  rw [answered, Plan.run, none]
  rfl

/-- Every record that a search visits can be tested. -/
def Clause.Settles (clause : Clause) (table : Table) (values : List String) (store : Store) : Prop :=
  ∀ record ∈ store.blocks, table.visits values record = true →
    (clause.verdict record).isSome = true

theorem Clause.Settles.of_visited
    {store : Store}
    (settles : clause.Settles table values store)
    {entries : List (Record × Nat)}
    (visited : table.Visited values clause.verdict store entries) :
    ∀ entry ∈ entries, (clause.verdict entry.1).isSome = true := by
  intro entry member
  rcases visited.sound entry member with ⟨stored, met | never⟩
  · exact settles entry.1 stored met
  · rw [never]
    rfl

/--
A statement selects the records of which its condition holds, in an order and up to a limit. If the
records can be visited in the order it is only known that they are the same.
-/
theorem Clause.Restricts.records?_statement
    (ofRecords : table ≠ .references)
    (bound : all ≠ [])
    (front : values <+: all)
    (restricts : clause.Restricts table values)
    (low : clause.body.height?.isSome = true)
    (stands : listing.Stands)
    (ends : ending.sorting.Stands values.length all.length)
    (resolves : Resolves table all clause.body listing.items ending results order)
    {store : Store}
    (settles : clause.Settles table all store)
    {count : Int}
    (counted : evalLimit? store (-1) (limitTerm (some ending)) = some count)
    {value : Record → Row}
    (evaluated : ∀ record behind, evalAll store [] [] (Record.toRow record ++ behind)
      (results.flatten.map (·.typed.term)) = some (value record))
    (keyed : ∀ record ∈ (store.blocks.filter (table.visits all)).filter clause.holds, ∀ behind,
      (evalKeys store [] [] (Record.toRow record ++ behind) order).isSome = true) :
    (table.finds all clause.body = false ∧
        records? store (clause.statement listing table (some ending)) all =
          if count = 0 then some [] else none) ∨
      table.finds all clause.body = true ∧
      ∃ (found taken : List (Record × Nat)) (hidden : Record × Nat → Row),
        (found.map Prod.fst).Perm
            ((store.blocks.filter (table.visits all)).filter clause.holds) ∧
          taken.Perm found ∧
          (MustSort order → taken = found.mergeSort fun a b =>
            rowsAllow store order (entryRow hidden a) (entryRow hidden b)) ∧
          records? store (clause.statement listing table (some ending)) all =
            some ((window count 0 taken).map fun entry =>
              toRecord (results.flatten.map Result.name) (value entry.1)) := by
  obtain ⟨leading, leader, restriction, rows, decides, -, outcome, answered⟩ :=
    restricts.exists_plan ofRecords bound front low stands ends resolves store
  rcases outcome with ⟨missed, unfound⟩ | ⟨finds, entries, ⟨hidden, visits⟩, visited⟩
  · refine .inl ⟨missed, ?_⟩
    rw [answered, Plan.run, counted]
    by_cases zero : count = 0
    · rw [zero]
      rfl
    · simp only [Option.bind_eq_bind, Option.bind_some, if_neg zero, unfound]
      rfl
  · have keys : ∀ entry ∈ entries, clause.verdict entry.1 = some true →
        (evalKeys store [] [] (entryRow hidden entry) order).isSome = true := by
      intro entry member holds
      rcases visited.sound entry member with ⟨stored, met | never⟩
      · exact keyed entry.1 (List.mem_filter.2 ⟨List.mem_filter.2 ⟨stored, met⟩,
          Clause.holds_of_verdict holds⟩) (hidden entry)
      · rw [never] at holds
        cases holds
    obtain ⟨taken, perm, sorted, run⟩ := @Plan.run_selecting store leading leader restriction
      clause.verdict _ rows order _ count entries hidden counted decides visits
      (settles.of_visited visited) _ evaluated keys
    refine .inr ⟨finds, entries.filter fun entry => clause.holds entry.1, taken, hidden, ?_, perm,
      fun never => sorted (never rows), ?_⟩
    · have same := visited.perm
      rw [List.filter_map] at same
      exact same
    · rw [answered, run, Option.map_some, List.map_map]
      rfl

/-- A statement whose records come in order tests them one after the other until it has enough. -/
theorem Clause.Restricts.records?_in_order
    (ofRecords : table ≠ .references)
    (bound : all ≠ [])
    (front : values <+: all)
    (restricts : clause.Restricts table values)
    (low : clause.body.height?.isSome = true)
    (stands : listing.Stands)
    (ends : ending.sorting.Stands values.length all.length)
    (resolves : Resolves table all clause.body listing.items ending results order)
    {store : Store}
    {entries : List (Record × Nat)}
    {hidden : Record × Nat → Row}
    (comes : ∀ visit rows,
      rowsOf? { scopes := [], parameters := all } (some clause.body) table visit = some rows →
        rows.comeIn order = true ∧ rows.rows store [] = some (entries.map (entryRow hidden)))
    {count : Int}
    (counted : evalLimit? store (-1) (limitTerm (some ending)) = some count)
    (positive : count ≠ 0)
    {value : Record → Row}
    (evaluated : ∀ record behind, evalAll store [] [] (Record.toRow record ++ behind)
      (results.flatten.map (·.typed.term)) = some (value record)) :
    records? store (clause.statement listing table (some ending)) all =
      (firstPassing? (fun entry => clause.verdict entry.1) (reach count 0 entries.length)
        (entries.mergeSort fun a b =>
          rowsAllow store order (entryRow hidden a) (entryRow hidden b))).map
            fun kept => (window count 0 kept).map fun entry =>
              toRecord (results.flatten.map Result.name) (value entry.1) := by
  obtain ⟨leading, leader, restriction, rows, decides, ⟨visit, source⟩, -, answered⟩ :=
    restricts.exists_plan ofRecords bound front low stands ends resolves store
  obtain ⟨inOrder, visits⟩ := comes visit rows source
  rw [answered, Plan.run_in_order inOrder counted positive decides visits evaluated,
    Option.map_map]
  refine congrArg (Option.map · _) (funext fun kept => ?_)
  rw [Function.comp_apply, List.map_map]
  rfl

/-- A statement that must sort fails at a record that it cannot test, or whose keys are missing. -/
theorem Clause.Restricts.records?_of_fails
    (ofRecords : table ≠ .references)
    (bound : all ≠ [])
    (front : values <+: all)
    (restricts : clause.Restricts table values)
    (stands : listing.Stands)
    (ends : ending.sorting.Stands values.length all.length)
    (resolves : Resolves table all clause.body listing.items ending results order)
    (must : MustSort order)
    {store : Store}
    {count : Int}
    (counted : evalLimit? store (-1) (limitTerm (some ending)) = some count)
    (positive : count ≠ 0)
    {record : Record}
    (stored : record ∈ store.blocks)
    (met : table.visits all record = true)
    (fails : clause.verdict record = none ∨ clause.holds record = true ∧
      ∀ behind, evalKeys store [] [] (Record.toRow record ++ behind) order = none) :
    records? store (clause.statement listing table (some ending)) all = none := by
  cases low : clause.body.height?.isSome with
  | false => exact restricts.records?_of_high stands ends (by simpa using low) store
  | true =>
      obtain ⟨leading, leader, restriction, rows, decides, -, outcome, answered⟩ :=
        restricts.exists_plan ofRecords bound front low stands ends resolves store
      rw [answered, Option.map_eq_none_iff]
      rcases outcome with ⟨-, unfound⟩ | ⟨-, entries, ⟨hidden, visits⟩, visited⟩
      · rw [Plan.run, counted, Option.bind_eq_bind, Option.bind_some, if_neg positive, unfound]
        rfl
      · obtain ⟨entry, member, rfl⟩ := visited.complete record stored met
        refine Plan.run_of_failsAt (must rows) counted positive visits
          (List.mem_map_of_mem member) (fails.imp ?_ ?_)
        · rw [decides.test?_entryRow]
          exact id
        · rintro ⟨holds, unkeyed⟩
          exact ⟨(decides.keeps_entryRow store hidden entry).trans holds, unkeyed _⟩

end

/-- The columns that stored records are ordered by. -/
def storedKeys : List String := ["created", "updated", "sort"]

theorem resolves_all
    {values : List String}
    {body : Expr}
    {key : Reader.Key}
    (known : key.name ∈ storedKeys)
    (limit : Nat) :
    Resolves .blocks values body Listing.all.items ⟨key.sorting, limit⟩
      [columnResults (scopeColumns Table.blocks.name .blocks) fun _ => true]
      [(.column 0 (recordColumn key.name), .binary, key.direction.getD false)] where
  listed := resolveItems_all _ _ _
  ordered := by
    obtain ⟨name, direction⟩ := key
    simp only [storedKeys, List.mem_cons, List.not_mem_nil, or_false] at known
    simp only [Reader.Key.sorting, Reader.Key.terms]
    rcases known with rfl | rfl | rfl <;> rfl
  plain := rfl
  plainOrder := rfl

/-- Records are not visited by the columns that they are ordered by. -/
theorem mustSort_storedKeys
    {key : Reader.Key}
    (known : key.name ∈ storedKeys) :
    MustSort [(.column 0 (recordColumn key.name), .binary, key.direction.getD false)] := by
  refine mustSort_of_column fun columns found => ⟨recordColumn key.name, ?_, ?_⟩
  · have one : orderColumns? [(.column 0 (recordColumn key.name), .binary,
        key.direction.getD false)] = some [recordColumn key.name] := by
      simp [orderColumns?]
    rw [one, Option.mem_def, Option.some.injEq] at found
    rw [← found]
    exact List.mem_singleton_self _
  · simp only [storedKeys, List.mem_cons, List.not_mem_nil, or_false] at known
    rcases known with same | same | same <;> rw [same] <;> decide

/-- A condition selects the stored records of which it holds, in an order and up to a limit. -/
theorem Clause.Restricts.records?_all
    {values : List String}
    {clause : Clause}
    (bound : values ≠ [])
    (restricts : clause.Restricts .blocks values)
    (low : clause.body.height?.isSome = true)
    {key : Reader.Key}
    (known : key.name ∈ storedKeys)
    {limit : Nat}
    (allowed : limit ≤ 9223372036854775807)
    {store : Store}
    (settles : clause.Settles .blocks values store) :
    ∃ found : List Record, found.Perm (store.blocks.filter clause.holds) ∧
      records? store (clause.statement .all .blocks (some ⟨key.sorting, limit⟩)) values =
        some ((found.mergeSort (columnAllows key.name (key.direction.getD false))).take
          limit) := by
  have named : key.name ∈ Reader.Key.names := by
    simp only [storedKeys, List.mem_cons, List.not_mem_nil, or_false] at known
    rcases known with same | same | same <;> simp [same, Reader.Key.names]
  have inside : recordColumn key.name < Table.recordColumns.length := by
    simp only [storedKeys, List.mem_cons, List.not_mem_nil, or_false] at known
    rcases known with same | same | same <;> rw [same] <;> decide
  obtain ⟨terms, names⟩ := @columnResults_scopeColumns Table.blocks.name .blocks (by decide)
  have evaluated (record : Record) (behind : Row) :
      evalAll store [] [] (Record.toRow record ++ behind)
        ([columnResults (scopeColumns Table.blocks.name .blocks) fun _ => true].flatten.map
          (·.typed.term)) = some (Record.toRow record) := by
    rw [List.flatten_singleton, terms, evalAll_columns]
    rfl
  rcases restricts.records?_statement (by decide) bound (List.prefix_refl values) low
    Listing.stands_all (Reader.Key.stands_sorting named _) (resolves_all known limit) settles
    (evalLimit?_limitTerm store allowed) evaluated
    (fun record _ behind => by rw [evalKeys_column]; rfl) with
      ⟨missed, -⟩ | ⟨-, entries, taken, hidden, perm, -, inOrder, records⟩
  · simp [Table.finds, Table.reads] at missed
  · refine ⟨entries.map Prod.fst, by simpa [Table.visits] using perm, ?_⟩
    have sorted : (entries.map Prod.fst).mergeSort
        (columnAllows key.name (key.direction.getD false)) = taken.map Prod.fst := by
      rw [inOrder (mustSort_storedKeys known)]
      refine (List.map_mergeSort fun a _ b _ => ?_).symm
      exact rowsAllow_entryRow inside store _ hidden a b
    rw [records, window_natCast, sorted, ← List.map_take]
    simp only [List.flatten_singleton, names, toRecord_toRow]

/-! ## Counts -/

theorem length_distinctValues_texts (texts : List String) :
    (distinctValues (texts.map Value.text)).length = (distinct texts).length := by
  have values : ∃ found : List String, distinctValues (texts.map Value.text) = found.map Value.text ∧
      found.Nodup ∧ ∀ text, text ∈ found ↔ text ∈ texts := by
    induction texts with
    | nil => exact ⟨[], rfl, List.nodup_nil, fun _ => Iff.rfl⟩
    | cons text texts inductionHypothesis =>
        obtain ⟨found, same, once, members⟩ := inductionHypothesis
        have different (other : String) :
            (plainOrdering (.text text) (.text other) != .eq) = (other != text) := by
          rw [Bool.eq_iff_iff, bne_iff_ne, bne_iff_ne]
          exact Std.compare_eq_iff_eq.not.trans ne_comm
        refine ⟨text :: found.filter (· != text), ?_, ?_, fun other => ?_⟩
        · rw [List.map_cons, distinctValues, same, List.filter_map, List.map_cons]
          congr 2
          exact List.filter_congr fun other _ => different other
        · rw [List.nodup_cons]
          exact ⟨by simp, once.filter _⟩
        · by_cases equal : other = text
          · simp [equal]
          · simp [equal, members]
  obtain ⟨found, same, once, members⟩ := values
  rw [same, List.length_map, length_distinct_of_nodup once members]

/-- Texts are counted, once each if they are to be distinct. -/
theorem countValues_texts (texts : List String) (once : Bool) :
    countValues once (texts.map Value.text) =
      (if once then distinct texts else texts).length := by
  rw [countValues, List.filter_eq_self.2]
  · cases once with
    | true => exact length_distinctValues_texts texts
    | false => exact List.length_map _
  · intro value member
    obtain ⟨text, -, rfl⟩ := List.mem_map.1 member
    rfl

/-- The number of values that a column has in the rows of some records. -/
theorem eval_count
    {store : Store}
    {outer : List Row}
    {row : Row}
    {hidden : Record × Nat → Row}
    {entries : List (Record × Nat)}
    {index : Nat}
    (text : Record → String)
    (value : ∀ entry, (entryRow hidden entry)[index]?.getD .null = .text (text entry.1))
    (once : Bool) :
    (Term.count once (.column 0 index)).eval store outer (entries.map (entryRow hidden)) row =
      some (.integer (countValues once
        ((entries.map fun entry => text entry.1).map Value.text))) := by
  have values : ((entries.map (entryRow hidden)).mapM fun member =>
      (Term.column 0 index).eval store outer [] member) =
        some ((entries.map (entryRow hidden)).map fun member => member[index]?.getD .null) :=
    Lists.mapM_eq_map fun member _ => by rw [Term.eval]
  rw [Term.eval, values, Option.bind_eq_bind, Option.bind_some, List.map_map, List.map_map]
  have same : ((fun member : Row => member[index]?.getD .null) ∘ entryRow hidden) =
      Value.text ∘ fun entry => text entry.1 := funext value
  rw [same]

/-- A plan that counts has one row, off which it takes its limit. -/
theorem Plan.run_counting
    {store : Store}
    {restriction : Term}
    {source : Rows}
    {hidden : Record × Nat → Row}
    {entries : List (Record × Nat)}
    (visits : source.rows store [] = some (entries.map (entryRow hidden)))
    (tested : ∀ row ∈ entries.map (entryRow hidden), (restriction.test? store row).isSome = true)
    {count skip : Option Term}
    {limit offset : Int}
    (counted : evalLimit? store (-1) count = some limit)
    (positive : limit ≠ 0)
    (skipped : evalLimit? store 0 skip = some offset)
    (order : List (Term × Collation × Bool)) :
    let records := (entries.filter fun entry =>
      restriction.keeps store (entryRow hidden entry)).map Prod.fst
    (Plan.mk false true none (.value .null)
        [.count false (.column 0 (recordColumn "id")),
          .count true (.column 0 (recordColumn "root_id"))]
        source restriction order count skip).run store [] =
      some (window limit offset [[.integer records.length,
        .integer (distinct (records.map Record.rootId)).length]]) := by
  intro records
  let kept := entries.filter fun entry => restriction.keeps store (entryRow hidden entry)
  have filtered : ((entries.map (entryRow hidden)).filterM fun row => do
      let value ← restriction.eval store [] [] row
      some (decide (value.truth = some true))) = some (kept.map (entryRow hidden)) := by
    have kept := filterM_test? tested
    rw [List.filter_map] at kept
    exact kept
  have leaders : ((kept.map (entryRow hidden)).mapM fun row =>
      (Term.value .null).eval store [] [] row) =
        some ((kept.map (entryRow hidden)).map fun _ => .null) :=
    Lists.mapM_eq_map fun row _ => by rw [Term.eval]
  have blocks (row : Row) : (Term.count false (.column 0 (recordColumn "id"))).eval store []
      (kept.map (entryRow hidden)) row = some (.integer records.length) := by
    rw [eval_count Record.id (fun _ => rfl), countValues_texts]
    simp [records, kept]
  have documents (row : Row) : (Term.count true (.column 0 (recordColumn "root_id"))).eval store []
      (kept.map (entryRow hidden)) row =
        some (.integer (distinct (records.map Record.rootId)).length) := by
    rw [eval_count Record.rootId (fun _ => rfl), countValues_texts, List.map_map]
    rfl
  rw [Plan.run, visits]
  simp only [Option.bind_eq_bind] at filtered
  simp only [counted, skipped, if_neg positive, Option.bind_eq_bind, Option.bind_some, filtered,
    leaders, evalAll, blocks, documents]
  simp [map_window]

/-- A plan that counts fails if its condition cannot be tested in some row. -/
theorem Plan.run_counting_of_untested
    {store : Store}
    {leading : Option Bool}
    {leader restriction : Term}
    {results : List Term}
    {source : Rows}
    {visited : List Row}
    (visits : source.rows store [] = some visited)
    {row : Row}
    (member : row ∈ visited)
    (untested : restriction.test? store row = none) :
    (Plan.mk false true leading leader results source restriction [] none none).run store [] =
      none := by
  have filtered : visited.filterM (restriction.test? store) = none := by
    cases kept : visited.filterM (restriction.test? store) with
    | none => rfl
    | some rows =>
        obtain ⟨wanted, found⟩ := Lists.exists_of_filterM kept member
        rw [untested] at found
        cases found
  have unlimited : evalLimit? store (-1) none = some (-1) := rfl
  have unskipped : evalLimit? store 0 none = some 0 := rfl
  rw [Plan.run, unlimited, unskipped, Option.bind_eq_bind, Option.bind_some, if_neg (by decide),
    visits]
  simp only [Option.bind_eq_bind, Option.bind_some, Bool.not_true, Bool.and_false,
    Bool.false_eq_true, if_false]
  exact congrArg (Option.bind · _) filtered

section

variable
  {table : Table}
  {values : List String}
  {clause : Clause}

/-- The plan of a statement that counts, and the rows that it visits. -/
theorem Clause.Restricts.exists_counting
    (ofRecords : table ≠ .references)
    (bound : values ≠ [])
    (restricts : clause.Restricts table values)
    (low : clause.body.height?.isSome = true)
    (store : Store) :
    ∃ restriction rows, restriction.Decides clause.verdict ∧
      ((table.finds values clause.body = false ∧ rows.rows store [] = none) ∨
        ∃ entries, rows.AreOf store entries ∧ table.Visited values clause.verdict store entries) ∧
      counts? store (clause.statement .counts table none) values =
        ((Plan.mk false true none (.value .null)
          [.count false (.column 0 (recordColumn "id")),
            .count true (.column 0 (recordColumn "root_id"))]
          rows restriction [] none none).run store []).bind firstCounts? := by
  have ends : Reader.Ending.Stands values.length values.length none := rfl
  have read : Prepared.read? (clause.statement .counts table none).toList =
      some ⟨Reader.statement Listing.counts.items table.name clause.body none, values.length⟩ :=
    restricts.read?_statement Listing.stands_counts ends
  have prepared := isNone_height?_statement Listing.stands_counts ends table.name clause.body
  rw [Option.isNone_eq_false_iff.2 low] at prepared
  let results : List (List Result) :=
    [[⟨none, ⟨.count false (.column 0 (recordColumn "id")), none, none⟩⟩],
      [⟨none, ⟨.count true (.column 0 (recordColumn "root_id")), none, none⟩⟩]]
  have listed : resolveItems (onTable table values clause.body [])
      (scopeColumns table.name table) Listing.counts.items = some results := by
    rcases table with _ | _ | ⟨_ | _⟩
    all_goals first | rfl | contradiction
  have governs := restricts.governs low
  obtain ⟨restriction, visit, decides, resolved⟩ :=
    @resolve?_statement _ _ _ _ ofRecords governs _ _ none [] listed rfl
  obtain ⟨rows, found, outcome⟩ := governs.exists_rows ofRecords bound store visit
  have planned : resolve? (Reader.statement Listing.counts.items table.name clause.body none)
      values =
        some ⟨.mk false true none (.value .null)
          [.count false (.column 0 (recordColumn "id")),
            .count true (.column 0 (recordColumn "root_id"))]
          rows restriction [] none none, results.flatten⟩ := by
    rw [resolved, found]
    rfl
  refine ⟨restriction, rows, decides, outcome.imp_right And.right, ?_⟩
  rw [counts?_eq, answer?, read]
  simp only [Option.bind_eq_bind, Option.bind_some, prepared, bne_self_eq_false, Bool.or_false,
    Bool.false_eq_true, if_false, planned, Option.bind_assoc]

/-- A condition counts the records of which it holds, and their documents. -/
theorem Clause.Restricts.counts?_statement
    (ofRecords : table ≠ .references)
    (bound : values ≠ [])
    (restricts : clause.Restricts table values)
    (low : clause.body.height?.isSome = true)
    {store : Store}
    (settles : clause.Settles table values store) :
    let matching := (store.blocks.filter (table.visits values)).filter clause.holds
    (counts? store (clause.statement .counts table none) values).getD (0, 0) =
      (matching.length, (distinct (matching.map Record.rootId)).length) := by
  intro matching
  obtain ⟨restriction, rows, decides, outcome, counted⟩ :=
    restricts.exists_counting ofRecords bound low store
  rw [counted]
  rcases outcome with ⟨missed, unfound⟩ | ⟨entries, ⟨hidden, visits⟩, visited⟩
  · have empty := table.filter_visits_eq_nil (Bool.or_eq_false_iff.1 missed).2 store.blocks
    rw [Plan.run, unfound]
    simp only [matching, empty]
    rfl
  · have tested : ∀ row ∈ entries.map (entryRow hidden),
        (restriction.test? store row).isSome = true := by
      intro row member
      obtain ⟨entry, here, rfl⟩ := List.mem_map.1 member
      rw [decides.test?_entryRow]
      exact settles.of_visited visited entry here
    have run := @Plan.run_counting _ _ _ _ _ visits tested none none (-1) 0 rfl (by decide) rfl []
    simp only [decides.keeps_entryRow] at run
    have chosen : (entries.filter fun entry => clause.verdict entry.1 == some true).map Prod.fst =
        (entries.map Prod.fst).filter clause.holds := by
      rw [List.filter_map]
      rfl
    have same : ((entries.map Prod.fst).filter clause.holds).Perm matching := visited.perm
    rw [chosen, same.length_eq, length_distinct_of_perm (same.map Record.rootId)] at run
    rw [run]
    rfl

/-- A statement that counts fails if a record that it visits cannot be tested. -/
theorem Clause.Restricts.counts?_of_untested
    (ofRecords : table ≠ .references)
    (bound : values ≠ [])
    (restricts : clause.Restricts table values)
    (low : clause.body.height?.isSome = true)
    {store : Store}
    {record : Record}
    (stored : record ∈ store.blocks)
    (met : table.visits values record = true)
    (untested : clause.verdict record = none) :
    counts? store (clause.statement .counts table none) values = none := by
  obtain ⟨restriction, rows, decides, outcome, counted⟩ :=
    restricts.exists_counting ofRecords bound low store
  rw [counted]
  rcases outcome with ⟨-, unfound⟩ | ⟨entries, ⟨hidden, visits⟩, visited⟩
  · rw [Plan.run, unfound]
    rfl
  · obtain ⟨entry, member, rfl⟩ := visited.complete record stored met
    rw [Plan.run_counting_of_untested visits (List.mem_map_of_mem member)
      (by rw [decides.test?_entryRow, untested])]
    rfl

end

end Sql
end BlockSearch
