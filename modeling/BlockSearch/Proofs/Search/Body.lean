import BlockSearch.Engine.Search
import BlockSearch.Proofs.Search.Filter
import BlockSearch.Proofs.Sql.Answer
import BlockSearch.Search.Found
import Mathlib.Data.String.Basic

/-!
# Searches as pairs of statements

A search writes one body and puts two heads in front of it: one selects records in an order and up
to a limit, and one counts all of them and their documents. Both are about the same records, so
that the counts are those of what is selected without the limit. The records that a limit leaves are
in order, and none that is left out strictly precedes one of them. Neither statement can be run if
their condition is too high.
-/

namespace BlockSearch

/-! ## Keys of records -/

namespace Order

/-- The key of a record comes strictly before that of another. -/
def Precedes (order : Order) (first second : Record) : Prop :=
  match order with
  | .createdAsc => first.created < second.created
  | .createdDesc => second.created < first.created
  | .updatedAsc => first.updated < second.updated
  | .updatedDesc => second.updated < first.updated
  | .type | .contentOrder | .relevanceAsc | .relevanceDesc => first.sort < second.sort

variable {order : Order} {first second third : Record}

theorem allows_iff : order.allows first second = true ↔ ¬ order.Precedes second first := by
  cases order <;> simp [allows, Precedes]

theorem Precedes.asymm (before : order.Precedes first second) : ¬ order.Precedes second first := by
  cases order <;> exact lt_asymm before

/-- What does not come before a record does not come before a later one. -/
theorem not_precedes_trans
    (early : ¬ order.Precedes second first)
    (late : ¬ order.Precedes third second) :
    ¬ order.Precedes third first := by
  cases order <;> simp only [Precedes, not_lt] at * <;>
    first
    | exact le_trans early late
    | exact le_trans late early

theorem pairwise_mergeSort (order : Order) (records : List Record) :
    (records.mergeSort order.allows).Pairwise fun first second =>
      ¬ order.Precedes second first := by
  have sorted : (records.mergeSort order.allows).Pairwise fun first second =>
      order.allows first second = true := by
    apply List.pairwise_mergeSort
    · intro first second third early late
      rw [allows_iff] at *
      exact not_precedes_trans early late
    · intro first second
      rw [Bool.or_eq_true, allows_iff, allows_iff, ← not_and_or]
      exact fun ⟨before, behind⟩ => before.asymm behind
  exact sorted.imp allows_iff.1

/-! ## Limits -/

/-- Some records are those that a limit leaves of the matches; the rest is left out. -/
structure Selects
    (order : Order)
    (limit : Nat)
    (matching chosen rest : List Record) : Prop where
  /-- Every match is chosen or left out, once. -/
  perm : (chosen ++ rest).Perm matching
  /-- As many are chosen as the limit allows. -/
  length_eq : chosen.length = min limit matching.length
  /-- The chosen records are in order. -/
  ordered : chosen.Pairwise fun first second => ¬ order.Precedes second first
  /-- No record that is left out strictly precedes a chosen one. -/
  least : ∀ first ∈ chosen, ∀ other ∈ rest, ¬ order.Precedes other first

/-- The front of the matches in order is what a limit leaves. -/
theorem selects_take
    (order : Order)
    (limit : Nat)
    {found matching : List Record}
    (same : found.Perm matching) :
    order.Selects limit matching ((found.mergeSort order.allows).take limit)
      ((found.mergeSort order.allows).drop limit) := by
  have sorted := pairwise_mergeSort order found
  rw [← List.take_append_drop limit (found.mergeSort order.allows), List.pairwise_append] at sorted
  refine ⟨?_, ?_, sorted.1, sorted.2.2⟩
  · rw [List.take_append_drop]
    exact (List.mergeSort_perm found order.allows).trans same
  · rw [List.length_take, List.length_mergeSort, same.length_eq]

end Order

open Sql

/-! ## Orders as text -/

namespace Order

/-- The column that records are ordered by, and the direction as far as it is written. -/
def key (ranked : Bool) : Order → Reader.Key
  | .createdAsc => ⟨"created", some false⟩
  | .createdDesc => ⟨"created", some true⟩
  | .updatedAsc => ⟨"updated", some false⟩
  | .updatedDesc => ⟨"updated", some true⟩
  | .relevanceAsc => if ranked then ⟨"rank", some true⟩ else ⟨"sort", some false⟩
  | .relevanceDesc => if ranked then ⟨"rank", none⟩ else ⟨"sort", some false⟩
  | .type | .contentOrder => ⟨"sort", some false⟩

theorem clause_eq_text (order : Order) (ranked : Bool) :
    order.clause ranked = (order.key ranked).text := by
  cases ranked <;> cases order <;> rfl

theorem key_mem_names (order : Order) (ranked : Bool) :
    (order.key ranked).name ∈ Reader.Key.names := by
  cases ranked <;> cases order <;> decide

/-- Without ranks records are ordered by columns that are stored. -/
theorem key_mem_storedKeys (order : Order) : (order.key false).name ∈ storedKeys := by
  cases order <;> decide

end Order

/-! ## Two statements with one body -/

namespace Found

/-- The records that a search visits and of which its condition holds. -/
def visited
    (store : Store)
    (table : Table)
    (values : List String)
    (holds : Record → Bool) : List Record :=
  (store.blocks.filter (table.visits values)).filter holds

variable
  {table : Table}
  {fragment : Fragment}
  {clause : Clause}

/-- The statements that are written for a body with a condition. -/
theorem byBody_eq_statements
    (text : fragment.text = "FROM " ++ table.name ++ " WHERE " ++ clause.text)
    (store : Store)
    (listing : Listing)
    (order : Order)
    (ranked : Bool)
    (limit : Nat) :
    byBody store listing.text fragment (order.clause ranked) limit =
      match records? store
        (clause.statement listing table (some ⟨(order.key ranked).sorting, limit⟩))
        fragment.values with
      | none => .error .statement
      | some records =>
          let counts := (counts? store (clause.statement .counts table none)
            fragment.values).getD (0, 0)
          .ok ⟨records, counts.1, counts.2⟩ := by
  have selecting : "SELECT " ++ listing.text ++ " " ++ fragment.text ++ " " ++
      order.clause ranked ++ " LIMIT " ++ toString limit =
        clause.statement listing table (some ⟨(order.key ranked).sorting, limit⟩) := by
    simp only [Clause.statement, Reader.Ending.text, Reader.Key.sorting, text,
      order.clause_eq_text, String.append_assoc]
  have counting : "SELECT COUNT(id), COUNT(DISTINCT root_id) " ++ fragment.text =
      clause.statement .counts table none := by
    simp only [Clause.statement, Reader.Ending.text, Listing.counts, text, String.append_empty,
      ← String.append_assoc]
    rfl
  simp only [byBody, selecting, counting, countsOrZero]
  rfl

/-- A body with a condition that is too high cannot be searched. -/
theorem byBody_of_high
    (text : fragment.text = "FROM " ++ table.name ++ " WHERE " ++ clause.text)
    (restricts : clause.Restricts table fragment.values)
    (high : clause.body.height? = none)
    {listing : Listing}
    (stands : listing.Stands)
    (store : Store)
    (order : Order)
    (ranked : Bool)
    (limit : Nat) :
    byBody store listing.text fragment (order.clause ranked) limit = .error .statement := by
  have ends := Reader.Key.stands_sorting (order.key_mem_names ranked) fragment.values.length
  rw [byBody_eq_statements text, restricts.records?_of_high stands ends high]

/-- What a body selects is counted by the same condition. -/
theorem byBody_eq
    (ofRecords : table ≠ .references)
    (bound : fragment.values ≠ [])
    (text : fragment.text = "FROM " ++ table.name ++ " WHERE " ++ clause.text)
    (restricts : clause.Restricts table fragment.values)
    (low : clause.body.height?.isSome = true)
    {store : Store}
    (settles : clause.Settles table fragment.values store)
    (listing : Listing)
    (order : Order)
    (ranked : Bool)
    (limit : Nat) :
    let matching := visited store table fragment.values clause.holds
    byBody store listing.text fragment (order.clause ranked) limit =
      match records? store
        (clause.statement listing table (some ⟨(order.key ranked).sorting, limit⟩))
        fragment.values with
      | none => .error .statement
      | some records =>
          .ok ⟨records, matching.length, (distinct (matching.map Record.rootId)).length⟩ := by
  intro matching
  rw [byBody_eq_statements text, restricts.counts?_statement ofRecords bound low settles]
  rfl

/-- A body on the stored records selects the first ones in an order of those that it counts. -/
theorem byBody_all
    (bound : fragment.values ≠ [])
    (text : fragment.text = "FROM " ++ Table.blocks.name ++ " WHERE " ++ clause.text)
    (restricts : clause.Restricts .blocks fragment.values)
    (low : clause.body.height?.isSome = true)
    {store : Store}
    (settles : clause.Settles .blocks fragment.values store)
    (order : Order)
    {limit : Nat}
    (allowed : limit ≤ greatestLimit) :
    let matching := store.blocks.filter clause.holds
    ∃ found : List Record, found.Perm matching ∧
      byBody store "*" fragment (order.clause false) limit =
        .ok ⟨(found.mergeSort (columnAllows (order.key false).name
          ((order.key false).direction.getD false))).take limit,
            matching.length, (distinct (matching.map Record.rootId)).length⟩ := by
  intro matching
  have all : visited store .blocks fragment.values clause.holds = matching := by
    simp [visited, Table.visits, matching]
  obtain ⟨found, perm, records⟩ :=
    restricts.records?_all bound low order.key_mem_storedKeys allowed settles
  refine ⟨found, perm, ?_⟩
  have answer := byBody_eq (by decide) bound text restricts low settles .all order false limit
  rw [records, all] at answer
  exact answer

end Found

/-! ## Answers -/

namespace Engine

/-- The answer to a query that is not blank shows what is found. -/
theorem respond_of_filled
    {engine : Engine}
    {request : Request}
    (filled : Text.trim request.query.toList ≠ []) :
    engine.respond request =
      (engine.find request (Text.trim request.query.toList)).bind fun found =>
        (engine.present request found.records).map fun entries =>
          ⟨entries, found.blocks, found.documents⟩ := by
  rw [respond, if_neg (by simpa using filled)]
  cases engine.find request (Text.trim request.query.toList) with
  | error error => rfl
  | ok found =>
      change (engine.present request found.records).bind _ =
        (engine.present request found.records).map _
      cases engine.present request found.records <;> rfl

/-- The answer to a query that is not blank and no identifier shows what its method finds. -/
theorem search_eq
    {engine : Engine}
    {request : Request}
    (filled : Text.trim request.query.toList ≠ [])
    (notId : BlockId.accepts (Query.removeInvisible (Text.trim request.query.toList)) = false) :
    engine.search request =
      ((Found.byMethod
        ⟨engine.store, engine.settings, Filter.ofRequest request engine.settings, request.order⟩
        request.method (Text.trim request.query.toList)).bind fun found =>
          (engine.present request found.records).map fun entries =>
            ⟨entries, found.blocks, found.documents⟩,
        engine.wait) := by
  rw [search, respond_of_filled filled, find, notId, if_neg Bool.false_ne_true]

/-- Nothing is taken off the word `hello`. -/
theorem removeInvisible_hello : Query.removeInvisible "hello".toList = "hello".toList := by
  decide +kernel

/-- A search for the word `hello` runs its method for the word. -/
theorem search_hello
    {engine : Engine}
    {request : Request}
    (query : request.query = "hello") :
    engine.search request =
      ((Found.byMethod
        ⟨engine.store, engine.settings, Filter.ofRequest request engine.settings, request.order⟩
        request.method "hello".toList).bind fun found =>
          (engine.present request found.records).map fun entries =>
            ⟨entries, found.blocks, found.documents⟩,
        engine.wait) := by
  have trimmed : Text.trim "hello".toList = "hello".toList := by decide +kernel
  have answer := @search_eq engine request
  rw [query, trimmed, removeInvisible_hello] at answer
  exact answer (by decide) (by decide +kernel)

/-- Something is left of a query that is not blank. -/
theorem trim_ne_nil_of_removeInvisible
    {query text : List Char}
    (asked : Query.removeInvisible (Text.trim query) = text)
    (nonempty : text ≠ []) :
    Text.trim query ≠ [] := by
  rintro empty
  rw [empty] at asked
  exact nonempty asked.symm

end Engine
end BlockSearch
