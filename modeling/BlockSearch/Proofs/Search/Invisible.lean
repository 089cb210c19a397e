import BlockSearch.Proofs.Search.Literal
import BlockSearch.Proofs.Text.Blank

/-!
# Invisible characters in queries

A search trims the query and then removes its invisible characters. A blank behind an invisible
character at an end of the query is not trimmed, and a query of invisible characters alone is not
empty. For exactly these queries a search can tell that invisible characters were there.
-/

namespace BlockSearch

/-! ## Queries -/

namespace Query

variable {query : List Char}

theorem removeInvisible_of_infix
    {part text : List Char}
    (inside : part <:+: removeInvisible text) :
    removeInvisible part = part := by
  refine List.filter_eq_self.2 fun c member => ?_
  exact (List.mem_filter.1 (inside.subset member)).2

/-- Trimming behind the removal takes away what trimming before it has left. -/
theorem trim_removeInvisible_trim (query : List Char) :
    Text.trim (removeInvisible (Text.trim query)) = Text.trim (removeInvisible query) := by
  obtain ⟨before, behind, front, back, split⟩ := Text.exists_eq_append_trim query
  have visible : ∀ {text : List Char}, Text.AllBlank text → Text.AllBlank (removeInvisible text) :=
    fun blank c member => blank c (List.mem_filter.1 member).1
  have parts : removeInvisible query =
      removeInvisible before ++ (removeInvisible (Text.trim query) ++ removeInvisible behind) := by
    conv_lhs => rw [split, removeInvisible, List.filter_append, List.filter_append]
    rfl
  rw [parts, Text.trim_blank_append (visible front), Text.trim_append_blank (visible back)]

theorem trim_removeInvisible_infix (query : List Char) :
    Text.trim (removeInvisible query) <:+: removeInvisible (Text.trim query) := by
  rw [← trim_removeInvisible_trim]
  exact Text.trim_infix _

theorem trim_ofList (query : String) :
    Text.trim (String.ofList (removeInvisible query.toList)).toList =
      Text.trim (removeInvisible query.toList) := by
  rw [String.toList_ofList]

theorem removeInvisible_trim_ofList (query : String) :
    removeInvisible (Text.trim (String.ofList (removeInvisible query.toList)).toList) =
      Text.trim (removeInvisible query.toList) := by
  rw [trim_ofList, removeInvisible_of_infix (Text.trim_infix _)]

/--
It makes no difference to a query whether it is trimmed before or after its invisible characters
are removed, and it is not made up of these alone.
-/
def Settled (query : List Char) : Prop :=
  removeInvisible (Text.trim query) = Text.trim (removeInvisible query) ∧
    (Text.trim (removeInvisible query) = [] → Text.trim query = [])

instance (query : List Char) : Decidable (Settled query) := by
  unfold Settled
  infer_instance

/-- Invisible characters inside of a query and at its ends do no harm. -/
example : Settled " \u200ba\u200b b\u200b ".toList := by decide +kernel

/-- Nothing must be left to be trimmed, and something must be left. -/
example : ¬ Settled "\u200b a".toList ∧ ¬ Settled "\u200b".toList := by decide +kernel

end Query

/-! ## Answers -/

namespace Engine

/-- What is found depends on the visible characters of the trimmed query. -/
theorem find_congr
    {left right : List Char}
    (same : Query.removeInvisible left = Query.removeInvisible right)
    (engine : Engine)
    (request : Request) :
    engine.find request left = engine.find request right := by
  rw [find, find, same]
  cases request.method <;>
    simp only [Found.byMethod, Found.byKeyword, Found.byQuerySyntax, Found.byStatement,
      Found.byStatementOn, Found.byLiteral, same]

theorem search_of_blank
    {query : String}
    (blank : Text.trim query.toList = [])
    (engine : Engine)
    (request : Request) :
    engine.search { request with query } = (.ok {}, engine.wait) := by
  rw [search, respond]
  simp [blank]

/-- The answer to a query in place of that of a request. -/
theorem respond_with_query
    {query : String}
    (filled : Text.trim query.toList ≠ [])
    (engine : Engine)
    (request : Request) :
    engine.respond { request with query } =
      (engine.find request (Text.trim query.toList)).bind fun found =>
        (engine.present request found.records).map fun entries =>
          ⟨entries, found.blocks, found.documents⟩ :=
  @respond_of_filled engine { request with query } filled

/-! ## Queries that are not settled -/

/-- A block whose identifier and content are a text. -/
def blockOfText (text : List Char) : Record :=
  { id := String.ofList text, type := "p", content := String.ofList text }

/-- An engine whose only block has a text as its identifier and content. -/
def ofText (text : List Char) : Engine where
  store := { blocks := [blockOfText text] }

theorem matches_blockOfText_iff
    {text sought : List Char} :
    (blockOfText text).Matches {} (Filter.ofSettings {}) sought ↔ sought <:+: text := by
  have accepted : (Filter.ofSettings {}).accepts (blockOfText text) = true := by
    have type : (Filter.ofSettings {}).codes.contains "p" = true := by decide +kernel
    exact Bool.and_eq_true_iff.2 ⟨Bool.and_eq_true_iff.2 ⟨type, rfl⟩, rfl⟩
  constructor
  · rintro ⟨-, field, searched, inside⟩
    have fields : field ∈ [Field.content, .name, .aliases, .memo, .tag] := searched
    cases field <;> simp [blockOfText, Record.text] at fields inside <;> simp [inside]
  · exact fun inside => ⟨accepted, .content, by decide, by simpa [blockOfText, Record.text]⟩

/-- How many blocks an engine with a single block finds for a text as it is written. -/
theorem search_ofText
    {query : String}
    {sought : List Char}
    (filled : Text.trim query.toList ≠ [])
    (asked : Query.removeInvisible (Text.trim query.toList) = sought)
    (text : List Char) :
    ((ofText text).search { query, method := .regex }).1.map Response.blocks =
      .ok (if sought <:+: text ∧ (BlockId.accepts sought = true → sought = text) then 1 else 0) := by
  let request : Request := { query, method := .regex }
  have responded : ((ofText text).search request).1.map Response.blocks =
      ((ofText text).find request (Text.trim query.toList)).map Found.blocks := by
    rw [search, @respond_of_filled _ request filled]
    cases (ofText text).find request (Text.trim query.toList) <;> rfl
  rw [responded, find, asked]
  by_cases id : BlockId.accepts sought = true
  · rw [if_pos id, Found.byId, Store.find?]
    by_cases same : sought = text
    · simp [same, ofText, blockOfText, Except.map]
    · have other : ¬ String.ofList text = String.ofList sought :=
        fun equal => same (String.ofList_injective equal).symm
      simp [same, id, ofText, blockOfText, other, Except.map]
  · have allowed : ((ofText text).settings.limit ≤ greatestLimit) := by
      change 64 ≤ greatestLimit
      decide
    obtain ⟨chosen, rest, -, found⟩ :=
      Found.byLiteral_eq ⟨(ofText text).store, (ofText text).settings,
        Filter.ofRequest request (ofText text).settings, request.order⟩ (by rfl)
        (List.forall_mem_nil _) allowed (Text.trim query.toList)
    have matching : ((ofText text).store.blocks.filter fun record =>
        record.Matches {} (Filter.ofSettings {}) sought) =
          if sought <:+: text then [blockOfText text] else [] := by
      simp only [ofText, List.filter_cons, List.filter_nil, matches_blockOfText_iff,
        decide_eq_true_eq]
    rw [if_neg id, show request.method = .regex from rfl, Found.byMethod, found, asked]
    change Except.ok (((ofText text).store.blocks.filter fun record =>
        record.Matches {} (Filter.ofSettings {}) sought).length) = _
    rw [matching]
    by_cases inside : sought <:+: text <;> simp [inside, id]

/-- An engine whose only block is what a query asks for finds that block. -/
theorem search_ofText_self
    {query : String}
    {sought : List Char}
    (filled : Text.trim query.toList ≠ [])
    (asked : Query.removeInvisible (Text.trim query.toList) = sought) :
    ((ofText sought).search { query, method := .regex }).1.map Response.blocks = .ok 1 := by
  rw [search_ofText filled asked, if_pos ⟨List.infix_refl _, fun _ => rfl⟩]

/-- A query that finds nothing in any engine is blank. -/
theorem trim_eq_nil_of_search
    {query : String}
    (nothing : ∀ (engine : Engine) (request : Request),
      engine.search { request with query } = (.ok {}, engine.wait)) :
    Text.trim query.toList = [] := by
  by_contra filled
  have one := search_ofText_self filled rfl
  rw [nothing _ { query, method := .regex }] at one
  cases one

/-- A query of which all engines make the same as of its visible characters is settled. -/
theorem settled_of_search
    {query : String}
    (same : ∀ (engine : Engine) (request : Request),
      engine.search { request with query } =
        engine.search
          { request with query := String.ofList (Query.removeInvisible query.toList) }) :
    Query.Settled query.toList := by
  have asked := Query.removeInvisible_trim_ofList query
  have trimmed := Query.trim_ofList query
  by_cases blank : Text.trim (Query.removeInvisible query.toList) = []
  · have nothing := trim_eq_nil_of_search fun engine request =>
      (same engine request).trans (search_of_blank (trimmed.trans blank) engine request)
    refine ⟨?_, fun _ => nothing⟩
    rw [blank, nothing]
    rfl
  · have inside := Query.trim_removeInvisible_infix query.toList
    have filled : Text.trim query.toList ≠ [] := by
      intro none
      rw [none] at inside
      exact blank (List.infix_nil.1 inside)
    have one := search_ofText_self (trimmed ▸ blank) asked
    rw [← same _ { query, method := .regex }, search_ofText filled rfl] at one
    split_ifs at one with held
    · exact ⟨held.1.sublist.antisymm inside.sublist, fun none => absurd none blank⟩
    · cases one

/--
A search gives the same answer as without the invisible characters of its query, in every engine,
exactly when the query is settled; and a query finds nothing in every engine exactly when it is
blank before its invisible characters are removed.
-/
theorem search_removeInvisible_iff (query : String) :
    ((∀ (engine : Engine) (request : Request),
        engine.search { request with query } =
          engine.search
            { request with query := String.ofList (Query.removeInvisible query.toList) }) ↔
      Query.Settled query.toList) ∧
    ((∀ (engine : Engine) (request : Request),
        engine.search { request with query } = (.ok {}, engine.wait)) ↔
      Text.trim query.toList = []) := by
  refine ⟨⟨settled_of_search, fun settled engine request => ?_⟩, trim_eq_nil_of_search,
    search_of_blank⟩
  have asked := Query.removeInvisible_trim_ofList query
  have trimmed := Query.trim_ofList query
  by_cases blank : Text.trim query.toList = []
  · have nothing : Text.trim (Query.removeInvisible query.toList) = [] := by
      rw [← settled.1, blank]
      rfl
    rw [search_of_blank blank, search_of_blank (trimmed.trans nothing)]
  · have filled := fun none => blank (settled.2 (trimmed.symm.trans none))
    rw [search, search, respond_with_query blank, respond_with_query filled,
      find_congr (settled.1.trans asked.symm)]

end Engine
end BlockSearch
