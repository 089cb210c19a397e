import BlockSearch.Proofs.Search.Keyword
import BlockSearch.Proofs.Search.Literal
import Mathlib.Data.Finset.Card
import Mathlib.Data.List.Perm.Subperm

/-!
# Counts of searches

What a search shows and what it counts come from two statements. They agree: the records that are
counted are those of which the limit leaves some to show, and they depend on what is asked for, not
on the order, the grouping or the limit.
-/

namespace BlockSearch

/-! ## Matches -/

namespace Found

/-- The matches of a query by a method that does not run it as a statement. -/
def matchesOf (context : SearchContext) (method : Method) (query : List Char) : List Record :=
  let text := Query.removeInvisible query
  match method with
  | .keyword => readMatches context (context.settings.expression (Query.phraseQuery text))
  | .querySyntax => readMatches context (context.settings.expression text)
  | .regex =>
      context.store.blocks.filter fun record =>
        record.Matches context.settings context.filter text
  | .passthrough => []

/-- What an expression looks for does not depend on the limit. -/
theorem expression_limit
    (settings : SearchSettings)
    (limit : Nat)
    (query : List Char) :
    { settings with limit }.expression query = settings.expression query := rfl

theorem mode_limit
    (settings : SearchSettings)
    (limit : Nat) :
    { settings with limit }.mode = settings.mode := rfl

theorem patternHeight?_limit
    (settings : SearchSettings)
    (limit : Nat) :
    patternHeight? { settings with limit } = patternHeight? settings := rfl

/-- The matches depend neither on the order nor on the limit. -/
theorem matchesOf_congr
    (context : SearchContext)
    (method : Method)
    (query : List Char)
    (order : Order)
    (limit : Nat) :
    matchesOf { context with settings := { context.settings with limit }, order } method query =
      matchesOf context method query := by
  cases method with
  | keyword => simp only [matchesOf, readMatches, expression_limit, mode_limit]
  | querySyntax => simp only [matchesOf, readMatches, expression_limit, mode_limit]
  | regex => rfl
  | passthrough => rfl

/-! ## Tallies -/

/-- The identifiers of a record and of its document, which no mark changes. -/
def place (record : Record) : String × String := (record.id, record.rootId)

theorem map_place_withExcerpts
    (excerpt : FullText.Markers → List FullText.Instance → List Char → List Char)
    (mode : CaseMode)
    (expression : FullText.Expression)
    (records : List Record) :
    (records.map (withExcerpts excerpt mode expression)).map place = records.map place := by
  rw [List.map_map]
  exact List.map_congr_left fun record _ => rfl

/-- Records are matches, as many as a limit allows, and all matches are counted. -/
structure Tallies (limit : Nat) (matching : List Record) (found : Found) : Prop where
  /-- The records are matches. -/
  among : (found.records.map place).Subperm (matching.map place)
  /-- As many as the limit allows. -/
  shown : found.records.length = min limit matching.length
  /-- The matches are counted. -/
  blocks : found.blocks = matching.length
  /-- Their documents are counted. -/
  documents : found.documents = (distinct (matching.map Record.rootId)).length

/-- A search for an expression that succeeds tallies what matches the expression. -/
theorem tallies_of_byExpression
    {context : SearchContext}
    (short : context.filter.IsShort)
    (allowed : context.settings.limit ≤ greatestLimit)
    {text : List Char}
    {found : Found}
    (answered : byExpression context text = .ok found) :
    found.Tallies context.settings.limit (readMatches context text) := by
  rcases byExpression_eq context short text with
    ⟨failed, -⟩ | ⟨ordered, size, perm, limited, answer⟩
  · rw [failed] at answered
    cases answered
  · obtain rfl := Except.ok.inj (answer.symm.trans answered)
    refine ⟨?_, ?_, rfl, rfl⟩
    · rw [map_place_withExcerpts]
      exact ((ordered.take_sublist size).map place).subperm.trans (perm.map place).subperm
    · rw [List.length_map, List.length_take, perm.length_eq, (limited allowed).1]

/-- A search for a text that succeeds has a condition that is not too high. -/
theorem isSome_height?_of_byLiteral
    {context : SearchContext}
    {query : List Char}
    {found : Found}
    (answered : byLiteral context query = .ok found) :
    (context.filter.height? false (patternHeight? context.settings)).isSome = true := by
  rw [Option.isSome_iff_ne_none]
  intro high
  rw [byLiteral_of_high context high] at answered
  cases answered

/-- A search for a text that succeeds tallies the records that match it. -/
theorem tallies_of_byLiteral
    {context : SearchContext}
    (short : context.filter.IsShort)
    (allowed : context.settings.limit ≤ greatestLimit)
    {query : List Char}
    {found : Found}
    (answered : byLiteral context query = .ok found) :
    found.Tallies context.settings.limit (matchesOf context .regex query) := by
  obtain ⟨chosen, rest, selects, answer⟩ :=
    byLiteral_eq context (isSome_height?_of_byLiteral answered) short allowed query
  obtain rfl := Except.ok.inj (answer.symm.trans answered)
  have front := (List.sublist_append_left chosen rest).map place
  exact ⟨front.subperm.trans (selects.perm.map place).subperm, selects.length_eq, rfl, rfl⟩

/-- A search that succeeds tallies the matches of its method. -/
theorem tallies_of_byMethod
    {context : SearchContext}
    {method : Method}
    (written : method ≠ .passthrough)
    (short : context.filter.IsShort)
    (allowed : context.settings.limit ≤ greatestLimit)
    {query : List Char}
    {found : Found}
    (answered : byMethod context method query = .ok found) :
    found.Tallies context.settings.limit (matchesOf context method query) := by
  cases method with
  | keyword =>
      rw [byMethod, byKeyword] at answered
      exact tallies_of_byExpression short allowed answered
  | querySyntax =>
      rw [byMethod, byQuerySyntax] at answered
      exact tallies_of_byExpression short allowed answered
  | regex => exact tallies_of_byLiteral short allowed answered
  | passthrough => exact absurd rfl written

/-! ## Success -/

/--
A search for an expression that succeeds does so in every order and up to every limit, unless its
limit was zero.
-/
theorem exists_byExpression
    {context : SearchContext}
    (short : context.filter.IsShort)
    (allowed : context.settings.limit ≤ greatestLimit)
    {text : List Char}
    {found : Found}
    (answered : byExpression context text = .ok found)
    (order : Order)
    {limit : Nat}
    (within : limit ≤ greatestLimit)
    (wanted : context.settings.limit ≠ 0 ∨ limit = 0) :
    ∃ again, byExpression { context with settings := { context.settings with limit }, order } text =
      .ok again := by
  rcases byExpression_eq { context with settings := { context.settings with limit }, order } short
    text with ⟨-, high | ⟨unread, unmet⟩ | refused⟩ | ⟨ordered, size, -, -, answer⟩
  · rw [byExpression_of_high context high] at answered
    cases answered
  · rcases byExpression_eq context short text with ⟨failed, -⟩ | ⟨ordered, size, -, limited, -⟩
    · rw [failed] at answered
      cases answered
    · have vain := (limited allowed).2 unread
      simp only [isVain, Bool.or_eq_false_iff, Bool.or_eq_true, beq_iff_eq, beq_eq_false_iff_ne]
        at vain unmet
      rw [unmet.2] at vain
      have zero := vain.resolve_right Bool.false_ne_true
      exact absurd zero (wanted.resolve_right unmet.1)
  · exact absurd within (Nat.not_le_of_lt refused)
  · exact ⟨_, answer⟩

/-- A search that succeeds does so in every order and up to every limit, unless its limit was zero. -/
theorem exists_byMethod
    {context : SearchContext}
    {method : Method}
    (written : method ≠ .passthrough)
    (short : context.filter.IsShort)
    (allowed : context.settings.limit ≤ greatestLimit)
    {query : List Char}
    {found : Found}
    (answered : byMethod context method query = .ok found)
    (order : Order)
    {limit : Nat}
    (within : limit ≤ greatestLimit)
    (wanted : context.settings.limit ≠ 0 ∨ limit = 0) :
    ∃ again, byMethod { context with settings := { context.settings with limit }, order } method
      query = .ok again := by
  cases method with
  | keyword =>
      rw [byMethod, byKeyword] at answered ⊢
      rw [expression_limit]
      exact exists_byExpression short allowed answered order within wanted
  | querySyntax =>
      rw [byMethod, byQuerySyntax] at answered ⊢
      rw [expression_limit]
      exact exists_byExpression short allowed answered order within wanted
  | regex =>
      rw [byMethod] at answered ⊢
      have low := isSome_height?_of_byLiteral answered
      rw [← patternHeight?_limit context.settings limit] at low
      obtain ⟨chosen, rest, -, answer⟩ := byLiteral_eq
        { context with settings := { context.settings with limit }, order } low short within query
      exact ⟨_, answer⟩
  | passthrough => exact absurd rfl written

/-! ## Documents -/

section

variable
  {limit : Nat}
  {matching : List Record}
  {found : Found}

/-- The documents that are counted are those of the matches. -/
theorem Tallies.documents_eq_card
    (tallies : found.Tallies limit matching) :
    found.documents = (matching.map Record.rootId).toFinset.card := by
  rw [tallies.documents, ← List.toFinset_card_of_nodup (nodup_distinct _)]
  congr 1
  ext text
  simp

/-- There are at most as many documents as matches. -/
theorem Tallies.documents_le_blocks
    (tallies : found.Tallies limit matching) :
    found.documents ≤ found.blocks := by
  rw [tallies.documents_eq_card, tallies.blocks, ← List.length_map]
  exact List.toFinset_card_le _

/-- There are no documents only without matches. -/
theorem Tallies.blocks_eq_zero
    (tallies : found.Tallies limit matching)
    (none : found.documents = 0) :
    found.blocks = 0 := by
  rw [tallies.documents_eq_card, Finset.card_eq_zero, List.toFinset_eq_empty_iff,
    List.map_eq_nil_iff] at none
  rw [tallies.blocks, none, List.length_nil]

end

end Found

/-! ## Answers -/

namespace Engine

theorem exists_found_of_search
    {engine : Engine}
    {request : Request}
    (filled : Text.trim request.query.toList ≠ [])
    (notId : BlockId.accepts (Query.removeInvisible (Text.trim request.query.toList)) = false)
    {response : Response}
    (answered : (engine.search request).1 = .ok response) :
    ∃ found entries, Found.byMethod
        ⟨engine.store, engine.settings, Filter.ofRequest request engine.settings, request.order⟩
        request.method (Text.trim request.query.toList) = .ok found ∧
      engine.present request found.records = .ok entries ∧
      response = ⟨entries, found.blocks, found.documents⟩ := by
  rw [search_eq filled notId] at answered
  cases result : Found.byMethod
    ⟨engine.store, engine.settings, Filter.ofRequest request engine.settings, request.order⟩
    request.method (Text.trim request.query.toList) with
  | error error =>
      rw [result] at answered
      cases answered
  | ok found =>
      rw [result] at answered
      change (engine.present request found.records).map _ = _ at answered
      cases shown : engine.present request found.records with
      | error error =>
          rw [shown] at answered
          cases answered
      | ok entries =>
          rw [shown] at answered
          cases answered
          exact ⟨found, entries, rfl, shown, rfl⟩

/-- Without groups every record found is shown under its own identifiers. -/
theorem places_present
    {engine : Engine}
    {request : Request}
    (ungrouped : request.grouping = .none)
    {records : List Record}
    {entries : List Entry}
    (shown : engine.present request records = .ok entries) :
    entries.map (fun entry => (entry.block.id, entry.block.rootId)) = records.map Found.place := by
  rw [present, ungrouped] at shown
  cases shown
  rw [List.map_map, List.map_map]
  rfl

/-- Records can be shown without groups, and in groups if there are not too many of them. -/
theorem exists_present
    {engine : Engine}
    {request : Request}
    {records : List Record}
    (few : request.grouping = .none ∨ records.length ≤ Store.lookUpLimit) :
    ∃ entries, engine.present request records = .ok entries := by
  rw [present]
  cases grouping : request.grouping with
  | none => exact ⟨_, rfl⟩
  | document =>
      have fits := few.resolve_left (by rw [grouping]; decide)
      have documents : (Group.rootIds (records.map (Block.ofRecord engine.mode []))).length ≤
          Store.lookUpLimit := by
        refine le_trans ?_ fits
        rw [Group.rootIds]
        exact (distinctFrom_sublist ..).length_le.trans (by simp)
      dsimp only
      rw [Group.byDocument_eq, if_pos documents]
      exact ⟨_, rfl⟩

/--
A search whose paths are not too long counts all matches and their documents and shows as many of them
as the limit allows. Neither count depends on the order, the grouping or the limit. Neither does its
success, unless the limit was zero or more documents than can be looked up may have to be shown.
-/
theorem search_counts
    {engine : Engine}
    {request : Request}
    {response : Response}
    (written : request.method ≠ .passthrough)
    (filled : Text.trim request.query.toList ≠ [])
    (notId : BlockId.accepts (Query.removeInvisible (Text.trim request.query.toList)) = false)
    (short : (Filter.ofRequest request engine.settings).IsShort)
    (allowed : engine.settings.limit ≤ greatestLimit)
    (answered : (engine.search request).1 = .ok response) :
    let matching := Found.matchesOf
      ⟨engine.store, engine.settings, Filter.ofRequest request engine.settings, request.order⟩
      request.method (Text.trim request.query.toList)
    (request.grouping = .none →
      response.entries.length = min engine.settings.limit response.blocks ∧
        (response.entries.map fun entry => (entry.block.id, entry.block.rootId)).Subperm
          (matching.map fun record => (record.id, record.rootId))) ∧
      response.blocks = matching.length ∧
      response.documents = (matching.map Record.rootId).toFinset.card ∧
      response.documents ≤ response.blocks ∧
      (response.documents = 0 → response.blocks = 0) ∧
      ∀ order grouping limit, limit ≤ greatestLimit →
        let changed := (search { engine with settings := { engine.settings with limit } }
          { request with order, grouping }).1
        ((engine.settings.limit ≠ 0 ∨ limit = 0) →
          (grouping = .none ∨ limit ≤ Store.lookUpLimit) → ∃ other, changed = .ok other) ∧
          ∀ other, changed = .ok other →
            other.blocks = response.blocks ∧ other.documents = response.documents := by
  intro matching
  obtain ⟨found, entries, result, shown, rfl⟩ := exists_found_of_search filled notId answered
  have tallies := Found.tallies_of_byMethod written short allowed result
  refine ⟨fun ungrouped => ?_, tallies.blocks, tallies.documents_eq_card,
    tallies.documents_le_blocks, tallies.blocks_eq_zero, ?_⟩
  · have places := places_present ungrouped shown
    have length := congrArg List.length places
    rw [List.length_map, List.length_map] at length
    refine ⟨?_, ?_⟩
    · rw [length, tallies.shown, tallies.blocks]
    · rw [places]
      exact tallies.among
  · intro order grouping limit within changed
    let again : Engine := { engine with settings := { engine.settings with limit } }
    let request' : Request := { request with order, grouping }
    refine ⟨fun wanted few => ?_, fun other answer => ?_⟩
    · obtain ⟨more, outcome⟩ :=
        Found.exists_byMethod written short allowed result order within wanted
      have size := (Found.tallies_of_byMethod written short within outcome).shown
      obtain ⟨shownAgain, presented⟩ := @exists_present again request' more.records
        (few.imp_right fun fits => size.trans_le ((min_le_left _ _).trans fits))
      have answer := congrArg Prod.fst (@search_eq again request' filled notId)
      have unchanged : Found.byMethod ⟨again.store, again.settings,
          Filter.ofRequest request' again.settings, request'.order⟩ request'.method
            (Text.trim request'.query.toList) = .ok more := outcome
      rw [unchanged] at answer
      refine ⟨⟨shownAgain, more.blocks, more.documents⟩, answer.trans ?_⟩
      exact congrArg (Except.map _) presented
    · obtain ⟨more, _, outcome, -, rfl⟩ := @exists_found_of_search again request' filled notId other
        answer
      have same := Found.tallies_of_byMethod written short within outcome
      have unchanged := Found.matchesOf_congr
        ⟨engine.store, engine.settings, Filter.ofRequest request engine.settings, request.order⟩
        request.method (Text.trim request.query.toList) order limit
      exact ⟨same.blocks.trans ((congrArg List.length unchanged).trans tallies.blocks.symm),
        same.documents.trans ((congrArg (fun records =>
          (distinct (records.map Record.rootId)).length) unchanged).trans tallies.documents.symm)⟩

/-- Of three blocks in two documents a limit of one leaves one to show. -/
theorem search_counts_with_limit :
    let first : Record := { id := "a", rootId := "d", type := "p", content := "quick fox" }
    let second : Record := { id := "b", rootId := "d", type := "p", tag := "#fox#" }
    let third : Record := { id := "c", rootId := "e", type := "p", content := "foxes" }
    let other : Record := { id := "o", rootId := "f", type := "p", content := "fo x" }
    let engine : Engine :=
      { store := { blocks := [first, other, second, third] }
        settings := { limit := 1 } }
    let request : Request := { query := " fox ", method := .keyword }
    ∃ response, (engine.search request).1 = .ok response ∧ response.entries.length = 1 ∧
      response.blocks = 3 ∧ response.documents = 2 := by
  intro first second third other engine request
  have filled : Text.trim request.query.toList ≠ [] := by decide +kernel
  have notId :
      BlockId.accepts (Query.removeInvisible (Text.trim request.query.toList)) = false := by
    decide +kernel
  have whole : '\x00' ∉ Query.removeInvisible (Text.trim request.query.toList) := by decide +kernel
  have allowed : engine.settings.limit ≤ greatestLimit := by decide
  have short : (Filter.ofRequest request engine.settings).IsShort := List.forall_mem_nil _
  let context : SearchContext :=
    ⟨engine.store, engine.settings, Filter.ofRequest request engine.settings, request.order⟩
  have matching : Found.matchesOf context .keyword (Text.trim request.query.toList) =
      [first, second, third] := by
    refine (Found.readMatches_phraseQuery context whole).trans ?_
    decide +kernel
  obtain ⟨response, answered⟩ : ∃ response, (engine.search request).1 = .ok response := by
    rcases Found.byKeyword_eq context short whole with
      ⟨-, high | refused⟩ | ⟨ordered, size, _, -, -, found⟩
    · cases high
    · exact absurd allowed (Nat.not_le_of_lt refused)
    · have answer := congrArg Prod.fst (@search_eq engine request filled notId)
      rw [show request.method = .keyword from rfl, Found.byMethod, found] at answer
      exact ⟨_, answer⟩
  obtain ⟨shown, blocks, documents, -⟩ :=
    search_counts (by decide) filled notId short allowed answered
  rw [matching] at blocks documents
  have size := (shown rfl).1
  rw [blocks] at size
  exact ⟨response, answered, size, blocks, documents⟩

/-- Records with the same texts match an expression alike, so that both may come first. -/
theorem rankAllows_of_same_texts
    {store : Store}
    {mode : CaseMode}
    {expression : FullText.Expression}
    {first second : Record × Nat}
    (same : FullText.Document.ofRecord mode first.1 = .ofRecord mode second.1) :
    Found.rankAllows store mode expression (Order.relevanceDesc.key true) first second = true := by
  have value (entry : Record × Nat) :
      (Sql.entryRow (Sql.rankedValues store mode expression) entry)[Found.indexColumn mode
        (Order.relevanceDesc.key true).name]?.getD .null =
      .real (FullText.rank
        (FullText.Corpus.of (store.blocks.map (.ofRecord mode)) expression) (.ofRecord mode entry.1)
        (expression.instances (.ofRecord mode entry.1))) := by
    cases mode <;> rfl
  rw [Found.rankAllows, Sql.rowsAllow, Sql.evalKeys_column, Sql.evalKeys_column, value, value, same]
  generalize FullText.rank _ _ _ = rank
  -- Nothing is known of the order of real numbers, not even that no number is below itself.
  have ascending : (Order.relevanceDesc.key true).direction.getD false = false := rfl
  by_cases below : rank < rank
  · simp [Sql.keysAllow, Sql.Value.ordering, Sql.Value.realOrdering, below, ascending]
  · simp [Sql.keysAllow, Sql.Value.ordering, Sql.Value.realOrdering, below]

/-- A block below the first path is shown, but none is counted where another one meets a path that is
too long. -/
theorem uncounted_of_long
    {path : String}
    (long : Sql.Like.greatestSize ≤ path.toList.length) :
    let shown : Record := { id := "a", rootId := "d", path := "/d", type := "p", content := "hello" }
    let other : Record := { shown with id := "b", path := "/e" }
    let engine : Engine := { store := { blocks := [shown, other] }, settings := { limit := 1 } }
    let request : Request :=
      { query := "hello", method := .keyword, order := .relevanceDesc, paths := ["/d", path] }
    ∃ entry, (engine.search request).1 = .ok ⟨[entry], 0, 0⟩ := by
  intro shown other engine request
  let context : SearchContext :=
    ⟨engine.store, engine.settings, Filter.ofRequest request engine.settings, request.order⟩
  have pieces : (∃ piece ∈ Query.pieces "hello".toList, 3 ≤ piece.length) ∧
      ∀ piece ∈ Query.pieces "hello".toList, 3 ≤ piece.length →
        ∃ field ∈ ({} : SearchSettings).searchedFields,
          FullText.Holds .insensitive piece (shown.text field).toList := by
    decide +kernel
  obtain ⟨expression, read, holds⟩ :=
    engine.settings.exists_read?_phraseQuery (show '\x00' ∉ "hello".toList by decide)
  have holdsShown := (holds shown).2 pieces
  have holdsOther : expression.holds (.ofRecord .insensitive other) = true := holdsShown
  have typed : "p" ∈ (Filter.ofRequest request engine.settings).codes :=
    (by decide : "p" ∈ ({} : SearchSettings).selectedTypes.map BlockType.code)
  have untested : context.filter.verdict other = none :=
    @Filter.verdict_of_long _ other typed rfl ["/d"] [] path rfl (by decide +kernel) long
  have accepted : context.filter.verdict shown = some true :=
    Filter.verdict_of_front typed rfl rfl (by decide +kernel)
  have entries : Sql.matchingEntries context.store .insensitive expression =
      [(shown, 1), (other, 2)] := by
    refine List.filter_eq_self.2 fun entry member => ?_
    rcases List.mem_pair.1 member with rfl | rfl
    · exact holdsShown
    · exact holdsOther
  have inOrder : [(shown, 1), (other, 2)].mergeSort
      (Found.rankAllows context.store .insensitive expression (context.order.key true)) =
        [(shown, 1), (other, 2)] :=
    List.mergeSort_of_pairwise (List.pairwise_pair.2 (rankAllows_of_same_texts rfl))
  have passing : Sql.firstPassing? (fun entry : Record × Nat => context.filter.verdict entry.1) 1
      [(shown, 1), (other, 2)] = some [(shown, 1)] := by
    rw [Sql.firstPassing?, accepted]
    rfl
  rw [← inOrder, ← entries] at passing
  have typedFilter : context.filter.types ≠ [] := fun none => by
    have codes : context.filter.codes = [] := congrArg (List.map BlockType.code) none
    rw [show (Filter.ofRequest request engine.settings).codes = [] from codes] at typed
    cases typed
  have narrow : context.filter.IsNarrow := ⟨Nat.zero_le 997, show 2 ≤ 997 by decide⟩
  have found := @Found.byExpression_by_rank context rfl typedFilter
    (Filter.isSome_height?_of_isNarrow narrow false (by decide)) (show 1 ≤ greatestLimit by decide)
    (show 1 ≠ 0 by decide) _ _ read _ passing other
    (List.mem_cons_of_mem shown List.mem_cons_self) holdsOther untested
  rw [search_hello rfl, show request.method = .keyword from rfl, Found.byMethod, Found.byKeyword,
    removeInvisible_hello, found]
  exact ⟨_, rfl⟩

/-- A block is shown up to a limit of one, and the number of matches that is counted is zero. -/
theorem shown_but_uncounted :
    let shown : Record := { id := "a", rootId := "d", path := "/d", type := "p", content := "hello" }
    let other : Record := { shown with id := "b", path := "/e" }
    let engine : Engine := { store := { blocks := [shown, other] }, settings := { limit := 1 } }
    let request : Request :=
      { query := "hello", method := .keyword, order := .relevanceDesc
        paths := ["/d", String.ofList (List.replicate Sql.Like.greatestSize 'a')] }
    ∃ response, (engine.search request).1 = .ok response ∧
      response.entries.length ≠ min engine.settings.limit response.blocks := by
  intro shown other engine request
  obtain ⟨entry, answer⟩ := uncounted_of_long Filter.greatestSize_le_length_replicate
  exact ⟨_, answer, (by decide : 1 ≠ min 1 0)⟩

end Engine
end BlockSearch
