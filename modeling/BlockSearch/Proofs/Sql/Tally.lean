import BlockSearch.Proofs.Sql.Answer
import BlockSearch.Proofs.Sql.Order

/-!
# Statements with other results

Of a statement that selects all columns of the records another one is made that counts its rows: it
has two counts for results and the same clauses behind them. Its names and its condition mean the
same unless a quoted one is that of a count, and it has an order unless a term of the order is the
number of a column that is no longer there. Its plan puts the one row of counts in order and takes
the limit off it, not off the rows that are counted.
-/

namespace BlockSearch
namespace Sql

/-! ## Reading -/

namespace Reader

theorem items_ne_nil
    {fuel : Nat}
    {tokens : List Token}
    {part : List Item × List Token}
    (read : items fuel tokens = some part) :
    part.1 ≠ [] := by
  cases fuel with
  | zero => cases read
  | succ fuel =>
      rw [items, Option.bind_eq_bind, Option.bind_eq_some_iff] at read
      obtain ⟨first, -, read⟩ := read
      dsimp only at read
      split at read
      · obtain ⟨others, -, rfl⟩ := Option.map_eq_some_iff.1 read
        exact List.cons_ne_nil _ _
      · cases read
        exact List.cons_ne_nil _ _

/-- Nothing but all columns is read where the results are only these. -/
theorem items_all
    {fuel : Nat}
    {tokens rest : List Token}
    (read : items fuel (.sign "*" :: tokens) = some ([.all], rest)) :
    rest = tokens := by
  rcases fuel with _ | _ | fuel
  · cases read
  · cases read
  · have first : item (fuel + 1) (.sign "*" :: tokens) = some (.all, tokens) := rfl
    rw [items, first, Option.bind_eq_bind, Option.bind_some] at read
    dsimp only at read
    split at read
    · obtain ⟨others, found, same⟩ := Option.map_eq_some_iff.1 read
      have none := (List.cons.inj (Prod.mk.inj same).1).2
      exact absurd none (items_ne_nil found)
    · cases read
      rfl

/-- The tokens behind all columns are those of the clauses. -/
theorem tail_of_selection
    {select : String}
    (keyword : isKeyword select "select" = true)
    {fuel : Nat}
    {tokens rest : List Token}
    {found : Tail}
    (read : selection fuel (.word select :: .sign "*" :: tokens) =
      some (found.select false [.all], rest)) :
    tail (fuel - 1) tokens = some (found, rest) := by
  cases fuel with
  | zero => cases read
  | succ fuel =>
      have begins : keyword? "select" (.word select :: .sign "*" :: tokens) =
          some (.sign "*" :: tokens) := by
        rw [keyword?, if_pos keyword]
      rw [selection_eq_tail, begins, Option.bind_some, Option.bind_eq_some_iff] at read
      obtain ⟨⟨results, behind⟩, listed, read⟩ := read
      obtain ⟨⟨others, last⟩, wanted, same⟩ := Option.map_eq_some_iff.1 read
      cases others
      cases found
      cases same
      obtain rfl := items_all listed
      exact wanted

/-- A statement on a table names it behind a keyword. -/
theorem exists_word_of_tail
    {fuel : Nat}
    {tokens rest : List Token}
    {found : Tail}
    (read : tail fuel tokens = some (found, rest))
    {name : String}
    {label : Option String}
    (table : found.source = .table name label) :
    ∃ text more, tokens = .word text :: more := by
  simp only [tail, Option.bind_eq_bind, Option.bind_eq_some_iff, Option.some.injEq] at read
  obtain ⟨rows, origin, condition, -, order, -, last, -, same⟩ := read
  cases same
  unfold Reader.origin keyword? at origin
  rcases tokens with _ | ⟨token, tokens⟩
  · cases origin
    cases table
  · cases token with
    | word text => exact ⟨text, tokens, rfl⟩
    | _ =>
        cases origin
        cases table

/-- The tokens for the number of records and the number of their documents, with names. -/
def tallyTokens : List Token :=
  [.word "COUNT", .sign "(", .word "id", .sign ")", .word "AS", .word "matches", .sign ",",
    .word "COUNT", .sign "(", .word "DISTINCT", .word "root_id", .sign ")", .word "AS",
    .word "docs"]

/-- The number of records and the number of their documents, with names. -/
def tallyItems : List Item :=
  [.expression (.count false (.column none "id" false)) (some "matches"),
    .expression (.count true (.column none "root_id" false)) (some "docs")]

theorem items_tallyTokens
    (fuel : Nat)
    (text : String)
    (rest : List Token) :
    items (fuel + 32) (tallyTokens ++ .word text :: rest) = some (tallyItems, .word text :: rest) :=
  rfl

/-- The clauses of a statement on a table are those of the statement that counts, too. -/
theorem selection_tallyTokens
    {fuel more : Nat}
    {tokens rest : List Token}
    {found : Tail}
    (read : tail fuel tokens = some (found, rest))
    {name : String}
    {label : Option String}
    (table : found.source = .table name label)
    (enough : fuel ≤ more + 32) :
    selection (more + 33) (.word "SELECT" :: (tallyTokens ++ tokens)) =
      some (found.select false tallyItems, rest) := by
  obtain ⟨text, behind, rfl⟩ := exists_word_of_tail read table
  have begins (tokens : List Token) : keyword? "select" (.word "SELECT" :: tokens) = some tokens :=
    rfl
  have plain : quantifier (tallyTokens ++ .word text :: behind) =
      (false, tallyTokens ++ .word text :: behind) := rfl
  rw [selection_eq_tail, begins, Option.bind_some, plain, items_tallyTokens, Option.bind_some,
    tail_refines enough _ _ read, Option.map_some]

end Reader

/-! ## Statements on the records -/

/-- Where the clauses of a statement on the records are resolved. -/
def onBlocks
    (label : String)
    (names : List (String × Typed))
    (aggregates matching : Bool) : Environment where
  scopes := [⟨scopeColumns label .blocks, names⟩]
  parameters := []
  aggregates := aggregates
  matching := matching

/-- Where a limit is resolved. -/
def onNothing : Environment where
  scopes := []
  parameters := []

/-- The order in which a statement on the records visits them. -/
def visitOf
    (terms : List Term)
    (restriction : Term)
    (order : List (Term × Collation × Bool)) : Visit × Bool :=
  Visit.choose restriction.conjuncts order
    (Term.allColumns terms ++ restriction.columns ++ Term.allColumns (order.map (·.1)))

/-- The plan of a statement on the records. -/
def planOf
    (terms : List Term)
    (restriction : Term)
    (order : List (Term × Collation × Bool))
    (count skip : Option Term) : Plan :=
  .mk false (Term.anyAggregate terms || Term.anyAggregate (order.map (·.1)))
    ((Term.leader? terms).map (·.1)) (((Term.leader? terms).map (·.2)).getD (.value .null)) terms
    (.table .blocks (visitOf terms restriction order).1 (visitOf terms restriction order).2)
    restriction order count skip

theorem planOf_inj
    {terms : List Term}
    {restriction other : Term}
    {order orders : List (Term × Collation × Bool)}
    {count counts skip skips : Option Term}
    (same : planOf terms restriction order count skip = planOf terms other orders counts skips) :
    restriction = other ∧ order = orders ∧ count = counts ∧ skip = skips := by
  rw [planOf, planOf, Plan.mk.injEq] at same
  obtain ⟨-, -, -, -, -, -, conditions⟩ := same
  exact conditions

/-- Whether a statement reads the rows of the records under a name. -/
def Tail.IsOnBlocks (tail : Tail) (label : String) : Prop :=
  ∃ name given, tail.source = .table name given ∧ sameName Table.blocks.name name = true ∧
    label = given.getD Table.blocks.name

theorem rowsOf?_blocks
    (environment : Environment)
    (condition : Option Expr)
    (visit : Visit × Bool) :
    rowsOf? environment condition .blocks visit =
      if (matchingsOf condition).isEmpty then some (.table .blocks visit.1 visit.2) else none := by
  unfold rowsOf?
  cases matchingsOf condition <;> rfl

/-- The plan of a statement on the records whose results are resolved. -/
theorem resolve?_onBlocks
    {tail : Tail}
    {label : String}
    (onRecords : tail.IsOnBlocks label)
    {items : List Item}
    {results : List (List Result)}
    (listed : resolveItems (onBlocks label [] true false) (scopeColumns label .blocks) items =
      some results) :
    let names := givenNames items results
    let terms := results.flatten.map (·.typed.term)
    resolve? (tail.select false items) [] =
      (resolveOption (onBlocks label names false true) tail.condition).bind fun restriction =>
        (resolveOrder (onBlocks label names (Term.anyAggregate terms) false) names results.flatten
          tail.order).bind fun order =>
            (resolveLimit onNothing tail.count).bind fun count =>
              (resolveLimit onNothing tail.skip).bind fun skip =>
                if (matchingsOf tail.condition).isEmpty then
                  some ⟨planOf terms restriction order count skip, results.flatten⟩
                else none := by
  intro names terms
  obtain ⟨source, condition, order, count, skip⟩ := tail
  obtain ⟨name, given, rfl, same, rfl⟩ := onRecords
  have table : Table.all.find? (fun table => sameName table.name name) = some .blocks := by
    rw [Table.all, List.find?_cons, same]
  rw [resolve?, Tail.select, resolveSelect, resolveSource, table]
  simp only [onBlocks] at listed
  simp only [Option.bind_eq_bind, Option.bind_some, matchedOf?, listed]
  refine Option.bind_congr fun restriction _ => ?_
  refine Option.bind_congr fun order _ => ?_
  refine Option.bind_congr fun count _ => ?_
  refine Option.bind_congr fun skip _ => ?_
  simp only [Bool.true_or, if_true, ResolvedSource.rowsFor?, rowsOf?_blocks]
  split_ifs
  · rfl
  · rfl

/-! ## Statements that count -/

/-- The results of a statement that counts. -/
def tallyResults : List (List Result) :=
  [[⟨some "matches", ⟨.count false (.column 0 (recordColumn "id")), none, none⟩⟩],
    [⟨some "docs", ⟨.count true (.column 0 (recordColumn "root_id")), none, none⟩⟩]]

/-- The names of the counts. -/
def isTallyName (name : String) : Bool := sameName "matches" name || sameName "docs" name

theorem resolveItems_tallyItems
    (label : String) :
    resolveItems (onBlocks label [] true false) (scopeColumns label .blocks) Reader.tallyItems =
      some tallyResults := rfl

/-- All columns of the records. -/
def allResults (label : String) : List Result :=
  columnResults (scopeColumns label .blocks) fun _ => true

theorem resolveItems_allResults
    (label : String) :
    resolveItems (onBlocks label [] true false) (scopeColumns label .blocks) [.all] =
      some [allResults label] :=
  resolveItems_all _ label .blocks

/-- All columns keep their names. -/
theorem exists_result_of_mem_givenNames
    {label : String}
    {entry : String × Typed}
    (member : entry ∈ givenNames [.all] [allResults label]) :
    ∃ result ∈ allResults label, result.name = some entry.1 ∧ result.typed = entry.2 := by
  have listed : givenNames [.all] [allResults label] =
      (allResults label).filterMap fun result =>
        result.name.map fun name => (name, result.typed) := by
    rw [givenNames, List.zip_cons_cons, List.zip_nil_left, List.flatMap_singleton]
    rfl
  rw [listed, List.mem_filterMap] at member
  obtain ⟨result, inside, named⟩ := member
  obtain ⟨name, called, rfl⟩ := Option.map_eq_some_iff.1 named
  exact ⟨result, inside, called, rfl⟩

/-- All columns are columns of the records. -/
theorem exists_column_of_mem_allResults
    {label : String}
    {result : Result}
    (member : result ∈ allResults label) :
    ∃ column ∈ scopeColumns label .blocks, column.name = result.name := by
  rw [allResults, columnResults, List.mem_filterMap] at member
  obtain ⟨⟨column, index⟩, numbered, made⟩ := member
  obtain ⟨-, same⟩ := Option.ite_none_right_eq_some.1 made
  cases same
  exact ⟨column, List.fst_mem_of_mem_zipIdx numbered, rfl⟩

theorem countsNothing_of_mem_allResults
    {label : String}
    {result : Result}
    (member : result ∈ allResults label) :
    result.typed.CountsNothing := by
  rw [allResults, columnResults, List.mem_filterMap] at member
  obtain ⟨⟨column, index⟩, -, made⟩ := member
  obtain ⟨-, same⟩ := Option.ite_none_right_eq_some.1 made
  cases same
  rfl

/-- A name that is one of all columns stands for a column, whatever names the results have. -/
theorem exists_columnIndex?
    {label : String}
    {entry : String × Typed}
    (member : entry ∈ givenNames [.all] [allResults label])
    {name : String}
    (same : sameName entry.1 name = true)
    (names : List (String × Typed)) :
    ∃ index, (⟨scopeColumns label .blocks, names⟩ : Scope).columnIndex? none name = some index := by
  obtain ⟨result, inside, called, -⟩ := exists_result_of_mem_givenNames member
  obtain ⟨column, among, equal⟩ := exists_column_of_mem_allResults inside
  have wanted : Scope.matchesColumn none name column = true := by
    rw [Scope.matchesColumn, equal, called]
    simpa using same
  have some : ((scopeColumns label .blocks).findIdx? (Scope.matchesColumn none name)).isSome =
      true := by
    rw [List.findIdx?_isSome, List.any_eq_true]
    exact ⟨column, among, wanted⟩
  obtain ⟨index, found⟩ := Option.isSome_iff_exists.1 some
  exact ⟨index, by rw [Scope.columnIndex?, found, Option.some_or]⟩

theorem exists_column?
    {label : String}
    {entry : String × Typed}
    (member : entry ∈ givenNames [.all] [allResults label])
    {name : String}
    (same : sameName entry.1 name = true)
    {names : List (String × Typed)}
    {aggregates matching : Bool}
    (quoted : Bool) :
    ∃ typed, (onBlocks label names aggregates matching).column? none name quoted = some typed := by
  obtain ⟨index, found⟩ := exists_columnIndex? member same names
  exact ⟨_, by rw [Environment.column?, onBlocks, Environment.findColumn?, found]; rfl⟩

/-- Where the results are counts, names mean the same unless they are those of the counts. -/
theorem carries_tally
    (label : String)
    {aggregates counting : Bool}
    (implies : aggregates = true → counting = true)
    (matching : Bool) :
    Environment.Carries isTallyName
      (onBlocks label (givenNames [.all] [allResults label]) aggregates matching)
      (onBlocks label (givenNames Reader.tallyItems tallyResults) counting matching) := by
  -- Both look for a column first.
  have index (names : List (String × Typed)) (table : Option String) (name : String) :
      (⟨scopeColumns label .blocks, names⟩ : Scope).columnIndex? table name =
        (⟨scopeColumns label .blocks, []⟩ : Scope).columnIndex? table name := rfl
  constructor
  · rfl
  · rfl
  · rfl
  · exact implies
  · rfl
  · intro table name typed given
    rw [onBlocks, Environment.findColumn?, index] at given ⊢
    cases found : (⟨scopeColumns label .blocks, []⟩ : Scope).columnIndex? table name with
    | some place =>
        rw [found] at given
        exact given
    | none =>
        rw [found] at given
        dsimp only at given
        rw [Environment.findColumn?, Option.or_none, Option.ite_none_right_eq_some] at given
        obtain ⟨unqualified, named⟩ := given
        obtain rfl : table = none := by simpa using unqualified
        obtain ⟨entry, alike, -⟩ := Option.map_eq_some_iff.1 named
        have same : sameName entry.1 name = true := by simpa using List.find?_some alike
        obtain ⟨place, indexed⟩ := exists_columnIndex? (List.mem_of_find?_eq_some alike) same []
        rw [found] at indexed
        cases indexed
  · intro table name absent free
    rw [onBlocks, Environment.findColumn?, index] at absent ⊢
    cases found : (⟨scopeColumns label .blocks, []⟩ : Scope).columnIndex? table name with
    | some place =>
        rw [found] at absent
        cases absent
    | none =>
        rw [isTallyName, Bool.or_eq_false_iff] at free
        have named : (givenNames Reader.tallyItems tallyResults).find?
            (fun entry => sameName entry.1 name) = none := by
          change List.find? _ [("matches", _), ("docs", _)] = none
          rw [List.find?_cons, free.1, List.find?_cons, free.2]
          rfl
        dsimp only
        rw [Environment.findColumn?, named, Option.map_none, ite_self, Option.or_none]

/-- The clauses without a limit. -/
def Tail.unlimited (tail : Tail) : Tail := { tail with count := none, skip := none }

/-- Whether no quoted name in the clauses of a statement is taken. -/
def Tail.avoids (taken : String → Bool) (tail : Tail) : Bool :=
  optionAvoids taken tail.condition && orderAvoids taken tail.order

/-- A limit is resolved beside the other clauses. -/
theorem resolve?_limited
    {tail : Tail}
    {label : String}
    (onRecords : tail.IsOnBlocks label)
    {items : List Item}
    {results : List (List Result)}
    (listed : resolveItems (onBlocks label [] true false) (scopeColumns label .blocks) items =
      some results)
    {resolved : Resolved}
    (resolves : resolve? (tail.select false items) [] = some resolved) :
    let names := givenNames items results
    let terms := results.flatten.map (·.typed.term)
    ∃ restriction order count skip,
      resolved = ⟨planOf terms restriction order count skip, results.flatten⟩ ∧
        resolve? (tail.unlimited.select false items) [] =
          some ⟨planOf terms restriction order none none, results.flatten⟩ ∧
        resolveLimit onNothing tail.count = some count ∧
        resolveLimit onNothing tail.skip = some skip ∧
        resolveOption (onBlocks label names false true) tail.condition = some restriction ∧
        resolveOrder (onBlocks label names (Term.anyAggregate terms) false) names results.flatten
          tail.order = some order := by
  intro names terms
  have unlimited : tail.unlimited.IsOnBlocks label := onRecords
  rw [resolve?_onBlocks onRecords listed] at resolves
  simp only [Option.bind_eq_some_iff, Option.ite_none_right_eq_some, Option.some.injEq] at resolves
  obtain ⟨restriction, conditioned, order, ordered, count, counted, skip, skipped, unmatched, rfl⟩ :=
    resolves
  refine ⟨restriction, order, count, skip, rfl, ?_, counted, skipped, conditioned, ordered⟩
  rw [resolve?_onBlocks unlimited listed, Tail.unlimited]
  dsimp only
  rw [conditioned, Option.bind_some, ordered, Option.bind_some, resolveLimit, Option.bind_some,
    Option.bind_some, if_pos unmatched]

/-- Where all columns are selected no term of the order counts rows. -/
theorem anyAggregate_of_resolveOrder
    {label : String}
    {terms : List (Expr × Bool)}
    {order : List (Term × Collation × Bool)}
    (ordered : resolveOrder (onBlocks label (givenNames [.all] [allResults label]) false false)
      (givenNames [.all] [allResults label]) (allResults label) terms = some order) :
    Term.anyAggregate (order.map (·.1)) = false := by
  refine yields_resolveOrder rfl ?_ (fun _ => countsNothing_of_mem_allResults) terms _ ordered
  intro entry member
  obtain ⟨result, inside, -, same⟩ := exists_result_of_mem_givenNames member
  rw [← same]
  exact countsNothing_of_mem_allResults inside

/-- The plan of a statement that selects all columns. -/
theorem resolve?_selecting
    {tail : Tail}
    {label : String}
    (onRecords : tail.IsOnBlocks label)
    {resolved : Resolved}
    (resolves : resolve? (tail.select false [.all]) [] = some resolved) :
    let terms := (allResults label).map (·.typed.term)
    ∃ restriction order count skip,
      resolved = ⟨planOf terms restriction order count skip, allResults label⟩ ∧
        Term.anyAggregate (order.map (·.1)) = false ∧
        resolve? (tail.unlimited.select false [.all]) [] =
          some ⟨planOf terms restriction order none none, allResults label⟩ ∧
        resolveLimit onNothing tail.count = some count ∧
        resolveLimit onNothing tail.skip = some skip := by
  have flat : [allResults label].flatten = allResults label := List.flatten_singleton
  obtain ⟨restriction, order, count, skip, same, unlimited, counted, skipped, -, ordered⟩ :=
    resolve?_limited onRecords (resolveItems_allResults label) resolves
  rw [flat] at same unlimited ordered
  exact ⟨restriction, order, count, skip, same, anyAggregate_of_resolveOrder ordered, unlimited,
    counted, skipped⟩

/-- A statement that counts tests the same condition as the one that selects. -/
theorem resolve?_tallying
    {tail : Tail}
    {label : String}
    (onRecords : tail.IsOnBlocks label)
    (clear : tail.avoids isTallyName = true)
    {restriction : Term}
    {order : List (Term × Collation × Bool)}
    {count skip : Option Term}
    (selecting : resolve? (tail.select false [.all]) [] =
      some ⟨planOf ((allResults label).map (·.typed.term)) restriction order count skip,
        allResults label⟩) :
    if orderFits 2 tail.order then
      ∃ again, resolve? (tail.select false Reader.tallyItems) [] =
        some ⟨planOf (tallyResults.flatten.map (·.typed.term)) restriction again count skip,
          tallyResults.flatten⟩
    else resolve? (tail.select false Reader.tallyItems) [] = none := by
  obtain ⟨clearCondition, clearOrder⟩ := Bool.and_eq_true_iff.1 clear
  have plain : Term.anyAggregate ((allResults label).map (·.typed.term)) = false := rfl
  have counts : Term.anyAggregate (tallyResults.flatten.map (·.typed.term)) = true := rfl
  rw [resolve?_onBlocks onRecords (resolveItems_allResults label), List.flatten_singleton, plain]
    at selecting
  simp only [Option.bind_eq_some_iff, Option.ite_none_right_eq_some, Option.some.injEq] at selecting
  obtain ⟨_, conditioned, _, ordered, _, counted, _, skipped, unmatched, same⟩ := selecting
  obtain ⟨rfl, rfl, rfl, rfl⟩ := planOf_inj (congrArg Resolved.plan same)
  rw [resolve?_onBlocks onRecords (resolveItems_tallyItems label)]
  have restricted := resolveOption_refines tail.condition
    (@carries_tally label false false id true) clearCondition _ conditioned
  rw [restricted, Option.bind_some]
  split_ifs with fits
  · have carried := @carries_tally label false true (fun _ => rfl) false
    have inside : ∀ term ∈ tail.order, ∀ n, term.1.place? = some n →
        n ≤ tallyResults.flatten.length := orderFits_iff.1 fits
    obtain ⟨again, answered⟩ := exists_resolveOrder carried clearOrder
      (fun entry member name same => exists_column? member same) ordered
      (givenNames Reader.tallyItems tallyResults) inside
    exact ⟨again, by rw [counts, answered, Option.bind_some, counted, Option.bind_some, skipped,
      Option.bind_some]⟩
  · obtain ⟨term, member, n, place, beyond⟩ := exists_of_not_orderFits fits
    have missing : (tallyResults.flatten.length : Int) < n := beyond
    rw [resolveOrder_eq_none member place missing]
    rfl

/-! ## Runs -/

section

variable
  {store : Store}
  {leading : Option Bool}
  {leader restriction : Term}
  {results : List Term}
  {source : Rows}
  {order : List (Term × Collation × Bool)}
  {count skip : Option Term}
  {rows : List Row}

theorem window_all
    {α : Type}
    (items : List α) :
    window (-1) 0 items = items := by
  rw [window, if_pos (by decide)]
  rfl

/-- If as many items as there are may pass, all of them are tested. -/
theorem isSome_of_firstPassing?
    {α : Type}
    {test : α → Option Bool}
    {items kept : List α}
    {wanted : Nat}
    (few : items.length ≤ wanted)
    (passing : firstPassing? test wanted items = some kept) :
    ∀ item ∈ items, (test item).isSome = true := by
  induction items generalizing wanted kept with
  | nil => simp
  | cons first items inductionHypothesis =>
      obtain ⟨wanted, rfl⟩ : ∃ fewer, wanted = fewer + 1 := ⟨wanted - 1, by
        rw [List.length_cons] at few
        omega⟩
      rw [List.length_cons, Nat.add_le_add_iff_right] at few
      rw [firstPassing?, Option.bind_eq_bind, Option.bind_eq_some_iff] at passing
      obtain ⟨passes, tested, passing⟩ := passing
      have others : ∀ item ∈ items, (test item).isSome = true := by
        cases passes with
        | true =>
            rw [if_pos rfl, Option.bind_eq_bind, Option.bind_eq_some_iff] at passing
            obtain ⟨rest, behind, -⟩ := passing
            exact inductionHypothesis few behind
        | false =>
            rw [if_neg Bool.false_ne_true] at passing
            exact inductionHypothesis (Nat.le_succ_of_le few) passing
      rw [List.forall_mem_cons]
      exact ⟨by rw [tested]; rfl, others⟩

/-- A plan that runs without a limit can test all rows of its source, and order those that it keeps. -/
theorem Plan.tested_of_run
    (run : (Plan.mk false false leading leader results source restriction order none none).run
      store [] = some rows)
    {visited : List Row}
    (visits : source.rows store [] = some visited) :
    (∀ row ∈ visited, (restriction.test? store row).isSome = true) ∧
      ∀ row ∈ visited, restriction.keeps store row = true →
        (evalKeys store [] [] row order).isSome = true := by
  have unlimited : evalLimit? store (-1) none = some (-1) := rfl
  have unskipped : evalLimit? store 0 none = some 0 := rfl
  cases comes : source.comeIn order with
  | true =>
      rw [Plan.run_of_comeIn comes unlimited (by decide) unskipped visits,
        Option.bind_eq_some_iff] at run
      obtain ⟨kept, passing, -⟩ := run
      have tested := isSome_of_firstPassing? (List.length_mergeSort _).le passing
      refine ⟨fun row member => tested row (List.mem_mergeSort.2 member), fun row _ _ => ?_⟩
      rw [evalKeys_of_comeIn comes]
      rfl
  | false =>
      rw [Plan.run, unlimited, unskipped, visits] at run
      simp only [Option.bind_eq_bind, Option.bind_some, comes, Bool.false_and, Bool.false_eq_true,
        if_false] at run
      rw [if_neg (by decide)] at run
      simp only [Option.bind_eq_some_iff, Option.some.injEq] at run
      obtain ⟨kept, filtered, outcomes, made, -⟩ := run
      have tested : ∀ row ∈ visited, (restriction.test? store row).isSome = true := by
        intro row member
        obtain ⟨wanted, found⟩ := Lists.exists_of_filterM filtered member
        exact Option.isSome_iff_exists.2 ⟨wanted, found⟩
      obtain rfl := Option.some.inj (filtered.symm.trans (filterM_test? tested))
      refine ⟨tested, fun row member keeps => ?_⟩
      obtain ⟨outcome, -, found⟩ :=
        Lists.exists_result_of_mem_mapM made (List.mem_filter.2 ⟨member, keeps⟩)
      simp only [Option.bind_eq_some_iff] at found
      obtain ⟨-, -, keys, known, -⟩ := found
      exact Option.isSome_iff_exists.2 ⟨keys, known⟩

/-- A limit is taken off the rows that there are without it. -/
theorem Plan.run_of_unlimited
    (run : (Plan.mk false false leading leader results source restriction order none none).run
      store [] = some rows)
    {value : Row → Row}
    (evaluated : ∀ row, evalAll store [] [] row results = some (value row))
    {limit offset : Int}
    (counted : evalLimit? store (-1) count = some limit)
    (skipped : evalLimit? store 0 skip = some offset)
    {visited : List Row}
    (visits : source.rows store [] = some visited) :
    (Plan.mk false false leading leader results source restriction order count skip).run store [] =
        some (window limit offset rows) ∧
      rows = (takenRows store source restriction order visited).map value := by
  obtain ⟨tested, keyed⟩ := Plan.tested_of_run run visits
  have unlimited : evalLimit? store (-1) none = some (-1) := rfl
  have whole := @Plan.run_of_ungrouped store leading leader restriction results source order none
    none visited (-1) 0 unlimited (by decide) rfl visits tested value (fun row _ _ => evaluated row)
    keyed
  rw [run, window_all, Option.some.injEq] at whole
  refine ⟨?_, whole⟩
  by_cases zero : limit = 0
  · rw [Plan.run, counted, zero, window, if_neg (by decide)]
    rfl
  · rw [Plan.run_of_ungrouped counted zero skipped visits tested (fun row _ _ => evaluated row)
      keyed, whole, map_window]

end

/-- A limit is taken off the one row that a grouped plan makes of all. -/
theorem Plan.run_grouped_of_limit
    {limit offset : Int}
    (counted : evalLimit? store (-1) count = some limit)
    (positive : limit ≠ 0)
    (skipped : evalLimit? store 0 skip = some offset) :
    (Plan.mk false true leading leader results source restriction order count skip).run store [] =
      ((Plan.mk false true leading leader results source restriction order none none).run
        store []).map (window limit offset) := by
  have unlimited : evalLimit? store (-1) none = some (-1) := rfl
  have unskipped : evalLimit? store 0 none = some 0 := rfl
  rw [Plan.run, Plan.run, counted, skipped, unlimited, unskipped]
  simp only [Option.bind_eq_bind, Option.bind_some, if_neg positive, Bool.not_true, Bool.and_false,
    Bool.false_eq_true, if_false, if_true, window_all]
  rw [if_neg (by decide)]
  simp only [Option.map_bind, Function.comp_def, Option.map_some, map_window]

/-- The rows of the records, in any order. -/
theorem exists_rows_of_visit
    (store : Store)
    (visit : Visit × Bool) :
    ∃ entries : List (Record × Nat), entries.Perm (numbered store.blocks) ∧
      (Rows.table .blocks visit.1 visit.2).rows store [] =
        some (entries.map (entryRow fun entry => [.integer entry.2])) := by
  obtain ⟨visit, reversed⟩ := visit
  let sorted := (numbered store.blocks).mergeSort fun a b => visit.allows a.1 b.1
  have perm : sorted.Perm (numbered store.blocks) := List.mergeSort_perm _ _
  cases reversed with
  | false => exact ⟨sorted, perm, by rw [Rows.rows]; rfl⟩
  | true =>
      refine ⟨sorted.reverse, (List.reverse_perm _).trans perm, ?_⟩
      rw [Rows.rows, List.map_reverse]
      rfl

/-! ## Heights -/

/-- A statement is not too high if none of its parts is. -/
theorem Tail.isNone_height?_select (tail : Tail) (items : List Item) :
    (tail.select false items).height?.isNone =
      !(tail.source.height?.isSome && (itemsHeight? items).isSome &&
        (optionHeight? tail.condition).isSome && (orderHeight? tail.order).isSome &&
        ((optionHeight? tail.count).bind fun count =>
          (optionHeight? tail.skip).bind fun skip => above? (max count skip)).isSome) := by
  obtain ⟨source, condition, order, count, skip⟩ := tail
  rw [Tail.select, Select.height?]
  cases source.height? with
  | none => rfl
  | some rows =>
      cases itemsHeight? items with
      | none => rfl
      | some results =>
          cases optionHeight? condition with
          | none => rfl
          | some height =>
              dsimp only
              cases optionHeight? count with
              | none => cases orderHeight? order <;> rfl
              | some number =>
                  cases optionHeight? skip with
                  | none => cases orderHeight? order <;> rfl
                  | some skipped =>
                      simp only [Option.bind_eq_bind, Option.bind_some]
                      cases above? (max number skipped) <;> cases orderHeight? order <;> rfl

/-! ## Answers -/

/-- The answer to a statement without parameters. -/
def Select.answer? (store : Store) (select : Select) : Option Answer :=
  if select.height?.isNone then none
  else do
    let resolved ← resolve? select []
    let rows ← resolved.plan.run store []
    some ⟨resolved.results.map Result.name, rows⟩

theorem answer?_of_read?
    {text : String}
    {select : Select}
    (read : Prepared.read? text.toList = some ⟨select, 0⟩)
    (store : Store) :
    Sql.answer? store text [] = select.answer? store := by
  rw [Sql.answer?, read, Select.answer?, Option.bind_eq_bind, Option.bind_some, List.length_nil,
    bne_self_eq_false, Bool.or_false]

theorem Select.answer?_eq_some_iff
    {store : Store}
    {select : Select}
    {answer : Answer} :
    select.answer? store = some answer ↔
      select.height?.isNone = false ∧ ∃ resolved rows, resolve? select [] = some resolved ∧
        resolved.plan.run store [] = some rows ∧ answer = ⟨resolved.results.map Result.name, rows⟩ := by
  rw [Select.answer?]
  cases select.height?.isNone with
  | true => simp
  | false =>
      simp only [Bool.false_eq_true, if_false, Option.bind_eq_bind, Option.bind_eq_some_iff,
        Option.some.injEq, true_and]
      constructor
      · rintro ⟨resolved, resolves, rows, run, rfl⟩
        exact ⟨resolved, rows, resolves, run, rfl⟩
      · rintro ⟨resolved, rows, resolves, run, rfl⟩
        exact ⟨resolved, resolves, rows, run, rfl⟩

/-- The rows of an answer are those of records, under the names of all columns. -/
structure Answer.IsStored (answer : Answer) : Prop where
  /-- The names are those of all columns. -/
  names : answer.names = Table.recordColumns.map fun column => some column.1
  /-- The rows are those of records. -/
  rows : ∀ row ∈ answer.rows, ∃ record, row = Record.toRow record

/-- The values of a column. -/
def Answer.values (answer : Answer) (name : String) : List Value :=
  answer.rows.map fun row => row[answer.names.idxOf (some name)]?.getD .null

/-- The rows of records are made up of them again. -/
theorem Answer.IsStored.map_toRow
    {answer : Answer}
    (stored : answer.IsStored) :
    answer.records.map Record.toRow = answer.rows := by
  rw [Answer.records, List.map_map]
  refine (List.map_congr_left fun row member => ?_).trans (List.map_id _)
  obtain ⟨record, rfl⟩ := stored.rows row member
  rw [Function.comp_apply, stored.names, toRecord_toRow, id_eq]

/-- Every record has an identifier and the identifier of a document, which are counted. -/
theorem Answer.IsStored.countValues
    {answer : Answer}
    (stored : answer.IsStored) :
    countValues false (answer.values "id") = answer.rows.length ∧
      countValues true (answer.values "root_id") =
        (distinct (answer.records.map Record.rootId)).length := by
  have ids : answer.values "id" = (answer.records.map Record.id).map Value.text := by
    rw [Answer.values, ← stored.map_toRow, stored.names, List.map_map, List.map_map]
    exact List.map_congr_left fun record _ => rfl
  have documents : answer.values "root_id" =
      (answer.records.map Record.rootId).map Value.text := by
    rw [Answer.values, ← stored.map_toRow, stored.names, List.map_map, List.map_map]
    exact List.map_congr_left fun record _ => rfl
  rw [ids, documents, countValues_texts, countValues_texts, if_neg Bool.false_ne_true, if_pos rfl,
    List.length_map, Answer.records, List.length_map]
  exact ⟨rfl, rfl⟩

/-- The value of a limit that may be missing. -/
def limitValue? (store : Store) (missing : Int) (body : Option Expr) : Option Int := do
  let limit ← resolveLimit onNothing body
  evalLimit? store missing limit

/-- Of a single row a limit leaves that row unless some are skipped. -/
theorem window_singleton
    {α : Type}
    {limit offset : Int}
    (positive : limit ≠ 0)
    (item : α) :
    window limit offset [item] = if offset ≤ 0 then [item] else [] := by
  rw [window]
  by_cases skipped : offset ≤ 0
  · rw [if_pos skipped, Int.toNat_of_nonpos skipped, List.drop_zero]
    split_ifs with negative
    · rfl
    · rw [List.take_of_length_le]
      rw [List.length_singleton]
      omega
  · have none : List.drop offset.toNat [item] = [] := by
      rw [List.drop_eq_nil_iff, List.length_singleton]
      omega
    rw [if_neg skipped, none, List.take_nil, ite_self]

theorem planOf_tallyResults
    (restriction : Term)
    (order : List (Term × Collation × Bool))
    (count skip : Option Term) :
    let terms := tallyResults.flatten.map (·.typed.term)
    planOf terms restriction order count skip =
      .mk false true none (.value .null)
        [.count false (.column 0 (recordColumn "id")),
          .count true (.column 0 (recordColumn "root_id"))]
        (.table .blocks (visitOf terms restriction order).1 (visitOf terms restriction order).2)
        restriction order count skip := rfl

/-- The limit of a statement that counts is taken off its one row. -/
theorem run_planOf_tallyResults_of_limit
    {store : Store}
    (restriction : Term)
    (order : List (Term × Collation × Bool))
    {count skip : Option Term}
    {limit offset : Int}
    (counted : evalLimit? store (-1) count = some limit)
    (positive : limit ≠ 0)
    (skipped : evalLimit? store 0 skip = some offset) :
    let terms := tallyResults.flatten.map (·.typed.term)
    (planOf terms restriction order count skip).run store [] =
      ((planOf terms restriction order none none).run store []).map (window limit offset) := by
  intro terms
  rw [planOf_tallyResults, planOf_tallyResults]
  exact Plan.run_grouped_of_limit counted positive skipped

section

variable
  {store : Store}
  {tail : Tail}
  {label : String}
  {limit offset : Int}

/-- The statement without a limit is not higher. -/
theorem isNone_height?_unlimited
    {items : List Item}
    (low : (tail.select false items).height?.isNone = false) :
    (tail.unlimited.select false items).height?.isNone = false := by
  rw [Tail.isNone_height?_select] at low ⊢
  simp only [Bool.not_eq_false', Bool.and_eq_true] at low ⊢
  exact ⟨low.1, rfl⟩

/-- Whatever is selected, the height is not too great. -/
theorem isNone_height?_tally
    (low : (tail.select false [.all]).height?.isNone = false) :
    (tail.select false Reader.tallyItems).height?.isNone = false := by
  rw [Tail.isNone_height?_select] at low ⊢
  exact low

/-- The rows that a limit leaves are those that it leaves of the rows that there are without it. -/
theorem answer?_selecting
    (onRecords : tail.IsOnBlocks label)
    (counted : limitValue? store (-1) tail.count = some limit)
    (skipped : limitValue? store 0 tail.skip = some offset)
    {whole limited : Answer}
    (answers : (tail.unlimited.select false [.all]).answer? store = some whole)
    (leaves : (tail.select false [.all]).answer? store = some limited) :
    limited = { whole with rows := window limit offset whole.rows } := by
  obtain ⟨-, resolved, rows, resolves, run, rfl⟩ := Select.answer?_eq_some_iff.1 leaves
  obtain ⟨-, other, all, unlimited, runs, rfl⟩ := Select.answer?_eq_some_iff.1 answers
  obtain ⟨restriction, order, count, skip, rfl, ungrouped, again, counts, skips⟩ :=
    resolve?_selecting onRecords resolves
  obtain rfl := Option.some.inj (unlimited.symm.trans again)
  rw [limitValue?, counts, Option.bind_eq_bind, Option.bind_some] at counted
  rw [limitValue?, skips, Option.bind_eq_bind, Option.bind_some] at skipped
  have grouped : (Term.anyAggregate ((allResults label).map (·.typed.term)) ||
      Term.anyAggregate (order.map (·.1))) = false := by
    rw [ungrouped]
    rfl
  rw [planOf, grouped] at run runs
  obtain ⟨entries, -, visits⟩ := exists_rows_of_visit store
    (visitOf ((allResults label).map (·.typed.term)) restriction order)
  obtain ⟨terms, -⟩ := @columnResults_scopeColumns label .blocks (by decide)
  have evaluated (row : Row) : evalAll store [] [] row ((allResults label).map (·.typed.term)) =
      some ((List.range Table.recordColumns.length).map fun index => row[index]?.getD .null) := by
    rw [allResults, terms, evalAll_columns]
  have left := (Plan.run_of_unlimited runs evaluated counted skipped visits).1
  rw [run, Option.some.injEq] at left
  rw [left]

/-- The statement that counts takes its limit off its one row. -/
theorem answer?_tallying
    (onRecords : tail.IsOnBlocks label)
    (counted : limitValue? store (-1) tail.count = some limit)
    (positive : limit ≠ 0)
    (skipped : limitValue? store 0 tail.skip = some offset)
    {limited : Answer}
    (leaves : (tail.select false Reader.tallyItems).answer? store = some limited) :
    ∃ whole, (tail.unlimited.select false Reader.tallyItems).answer? store = some whole ∧
      limited = { whole with rows := window limit offset whole.rows } := by
  obtain ⟨low, resolved, rows, resolves, run, rfl⟩ := Select.answer?_eq_some_iff.1 leaves
  obtain ⟨restriction, order, count, skip, rfl, unlimited, counts, skips, -⟩ :=
    resolve?_limited onRecords (resolveItems_tallyItems label) resolves
  rw [limitValue?, counts, Option.bind_eq_bind, Option.bind_some] at counted
  rw [limitValue?, skips, Option.bind_eq_bind, Option.bind_some] at skipped
  rw [run_planOf_tallyResults_of_limit restriction order counted positive skipped,
    Option.map_eq_some_iff] at run
  obtain ⟨all, runs, rfl⟩ := run
  exact ⟨_, Select.answer?_eq_some_iff.2
    ⟨isNone_height?_unlimited low, _, all, unlimited, runs, rfl⟩, rfl⟩

/-- Where a condition can be tested in every row, the rows are counted in whatever order they are
visited. -/
theorem run_planOf_tallyResults
    {restriction : Term}
    {order : List (Term × Collation × Bool)}
    {entries : List (Record × Nat)}
    (stored : entries.Perm (numbered store.blocks))
    (tested : ∀ row ∈ entries.map (entryRow fun entry => [.integer entry.2]),
      (restriction.test? store row).isSome = true) :
    let records := (entries.filter fun entry =>
      restriction.keeps store (entryRow (fun entry => [.integer entry.2]) entry)).map Prod.fst
    (planOf (tallyResults.flatten.map (·.typed.term)) restriction order none none).run store [] =
      some [[.integer records.length, .integer (distinct (records.map Record.rootId)).length]] := by
  intro records
  obtain ⟨others, again, visits⟩ := exists_rows_of_visit store
    (visitOf (tallyResults.flatten.map (·.typed.term)) restriction order)
  have same : others.Perm entries := again.trans stored.symm
  have retested : ∀ row ∈ others.map (entryRow fun entry => [.integer entry.2]),
      (restriction.test? store row).isSome = true :=
    fun row member => tested row ((same.map _).mem_iff.1 member)
  have run := @Plan.run_counting store restriction _ _ _ visits retested none none (-1) 0 rfl
    (by decide) rfl order
  have perm : ((others.filter fun entry =>
      restriction.keeps store (entryRow (fun entry => [.integer entry.2]) entry)).map
        Prod.fst).Perm records := (same.filter _).map _
  dsimp only at run
  rw [perm.length_eq, length_distinct_of_perm (perm.map Record.rootId), window_all] at run
  rw [planOf_tallyResults]
  exact run

/-- What a statement selects without a limit: the records of which its condition is true. -/
theorem exists_entries_of_answer?
    (onRecords : tail.IsOnBlocks label)
    {whole : Answer}
    (answers : (tail.unlimited.select false [.all]).answer? store = some whole) :
    ∃ (restriction : Term) (order : List (Term × Collation × Bool)) (entries : List (Record × Nat)),
      resolve? (tail.unlimited.select false [.all]) [] =
        some ⟨planOf ((allResults label).map (·.typed.term)) restriction order none none,
          allResults label⟩ ∧
      entries.Perm (numbered store.blocks) ∧
      (∀ row ∈ entries.map (entryRow fun entry => [.integer entry.2]),
        (restriction.test? store row).isSome = true) ∧
      whole.names = (Table.recordColumns.map fun column => some column.1) ∧
      whole.rows.Perm ((entries.filter fun entry =>
        restriction.keeps store (entryRow (fun entry => [.integer entry.2]) entry)).map fun entry =>
          Record.toRow entry.1) := by
  have unlimited : tail.unlimited.IsOnBlocks label := onRecords
  obtain ⟨-, resolved, rows, resolves, run, rfl⟩ := Select.answer?_eq_some_iff.1 answers
  obtain ⟨restriction, order, count, skip, rfl, ungrouped, again, counts, skips⟩ :=
    resolve?_selecting unlimited resolves
  obtain ⟨rfl, rfl⟩ : count = none ∧ skip = none :=
    ⟨(Option.some.inj counts).symm, (Option.some.inj skips).symm⟩
  have grouped : (Term.anyAggregate ((allResults label).map (·.typed.term)) ||
      Term.anyAggregate (order.map (·.1))) = false := by
    rw [ungrouped]
    rfl
  rw [planOf, grouped] at run
  obtain ⟨entries, stored, visits⟩ := exists_rows_of_visit store
    (visitOf ((allResults label).map (·.typed.term)) restriction order)
  obtain ⟨terms, names⟩ := @columnResults_scopeColumns label .blocks (by decide)
  have evaluated (row : Row) : evalAll store [] [] row ((allResults label).map (·.typed.term)) =
      some ((List.range Table.recordColumns.length).map fun index => row[index]?.getD .null) := by
    rw [allResults, terms, evalAll_columns]
  obtain ⟨tested, -⟩ := Plan.tested_of_run run visits
  obtain ⟨-, taken⟩ := @Plan.run_of_unlimited _ _ _ _ _ _ _ none none _ run _ evaluated _ _ rfl rfl
    _ visits
  refine ⟨restriction, order, entries, resolves, stored, tested, names, ?_⟩
  rw [taken]
  refine ((takenRows_perm ..).map _).trans (.of_eq ?_)
  rw [List.filter_map, List.map_map]
  exact List.map_congr_left fun entry _ => rfl

/-- The rows of a statement without a limit are those of records. -/
theorem stored_of_answer?
    (onRecords : tail.IsOnBlocks label)
    {whole : Answer}
    (answers : (tail.unlimited.select false [.all]).answer? store = some whole) :
    whole.IsStored := by
  obtain ⟨restriction, order, entries, -, -, -, names, perm⟩ :=
    exists_entries_of_answer? onRecords answers
  refine ⟨names, fun row member => ?_⟩
  obtain ⟨entry, -, rfl⟩ := List.mem_map.1 (perm.subset member)
  exact ⟨entry.1, rfl⟩

/-- The records that a statement selects without a limit are counted, unless a term of its order is
the number of a column beyond the two counts. -/
theorem answer?_tally
    (onRecords : tail.IsOnBlocks label)
    (clear : tail.avoids isTallyName = true)
    {whole : Answer}
    (answers : (tail.unlimited.select false [.all]).answer? store = some whole) :
    ((tail.unlimited.select false Reader.tallyItems).answer? store).map Answer.rows =
      if orderFits 2 tail.order then
        some [[.integer whole.rows.length,
          .integer (distinct (whole.records.map Record.rootId)).length]]
      else none := by
  have unlimited : tail.unlimited.IsOnBlocks label := onRecords
  obtain ⟨low, -⟩ := Select.answer?_eq_some_iff.1 answers
  obtain ⟨restriction, order, entries, resolves, stored, tested, names, perm⟩ :=
    exists_entries_of_answer? onRecords answers
  let kept := (entries.filter fun entry =>
    restriction.keeps store (entryRow (fun entry => [.integer entry.2]) entry)).map Prod.fst
  have records : whole.records.Perm kept := by
    rw [Answer.records, names]
    refine (perm.map _).trans (.of_eq ?_)
    rw [List.map_map]
    refine List.map_congr_left fun entry _ => ?_
    rw [Function.comp_apply, toRecord_toRow]
  have length : kept.length = whole.rows.length := by
    rw [← records.length_eq, Answer.records, List.length_map]
  have tallying := resolve?_tallying unlimited clear resolves
  split_ifs with fits
  · rw [if_pos (show orderFits 2 tail.unlimited.order = true from fits)] at tallying
    obtain ⟨order, planned⟩ := tallying
    have answer := Select.answer?_eq_some_iff.2
      ⟨isNone_height?_tally low, _, _, planned, run_planOf_tallyResults stored tested, rfl⟩
    rw [answer, Option.map_some, length, length_distinct_of_perm (records.map Record.rootId)]
  · rw [if_neg (show ¬ orderFits 2 tail.unlimited.order = true from fits)] at tallying
    rw [Select.answer?, tallying]
    split_ifs <;> rfl

/-- With its limit the statement that counts is answered if it is without, as long as its row may be
asked for. -/
theorem isSome_answer?_tallying
    (onRecords : tail.IsOnBlocks label)
    (clear : tail.avoids isTallyName = true)
    (counted : limitValue? store (-1) tail.count = some limit)
    (positive : limit ≠ 0)
    (skipped : limitValue? store 0 tail.skip = some offset)
    {whole limited : Answer}
    (answers : (tail.unlimited.select false [.all]).answer? store = some whole)
    (leaves : (tail.select false [.all]).answer? store = some limited) :
    ((tail.select false Reader.tallyItems).answer? store).isSome = orderFits 2 tail.order := by
  obtain ⟨low, resolved, -, resolves, -⟩ := Select.answer?_eq_some_iff.1 leaves
  obtain ⟨restriction, order, count, skip, rfl, -, -, counts, skips⟩ :=
    resolve?_selecting onRecords resolves
  rw [limitValue?, counts, Option.bind_eq_bind, Option.bind_some] at counted
  rw [limitValue?, skips, Option.bind_eq_bind, Option.bind_some] at skipped
  have tallying := resolve?_tallying onRecords clear resolves
  have whole := answer?_tally onRecords clear answers
  cases fits : orderFits 2 tail.order with
  | true =>
      rw [fits, if_pos rfl] at tallying whole
      obtain ⟨again, planned⟩ := tallying
      obtain ⟨tally, tallied, -⟩ := Option.map_eq_some_iff.1 whole
      obtain ⟨-, other, rows, unlimited, run, -⟩ := Select.answer?_eq_some_iff.1 tallied
      obtain ⟨condition, terms, count', skip', same, without, -⟩ :=
        resolve?_limited onRecords (resolveItems_tallyItems label) planned
      obtain ⟨rfl, rfl, -⟩ := planOf_inj (congrArg Resolved.plan same)
      obtain rfl := Option.some.inj (unlimited.symm.trans without)
      have left := run_planOf_tallyResults_of_limit restriction again counted positive skipped
      dsimp only at left run
      rw [run, Option.map_some] at left
      exact Option.isSome_iff_exists.2 ⟨_, Select.answer?_eq_some_iff.2
        ⟨isNone_height?_tally low, _, _, planned, left, rfl⟩⟩
  | false =>
      rw [fits, if_neg Bool.false_ne_true] at tallying
      rw [Select.answer?, tallying]
      split_ifs <;> rfl

end

end Sql
end BlockSearch
