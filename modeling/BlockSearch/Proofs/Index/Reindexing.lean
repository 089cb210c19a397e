import BlockSearch.Index.Store
import BlockSearch.Proofs.Index.Records

/-!
# Indexing a document

What is left of a store when the records of a document are replaced, in one equation: the
records that neither belong to the document nor have an identifier of its new records stay as
they are, and the new records come last.
-/

namespace BlockSearch
namespace Store

@[simp] theorem blocks_insert
    (store : Store)
    (record : Record) :
    (store.insert record).blocks = store.blocks.filter (·.id != record.id) ++ [record] := rfl

@[simp] theorem blocks_removeDocument
    (store : Store)
    (rootId : String) :
    (store.removeDocument rootId).blocks = store.blocks.filter (·.rootId != rootId) := rfl

/-- Records with different identifiers come last, and replace those with their identifiers. -/
theorem foldl_insert
    {records : List Record}
    (nodup : (records.map Record.id).Nodup)
    (store : Store) :
    records.foldl insert store =
      { store with
        blocks := store.blocks.filter (fun row => decide (row.id ∉ records.map Record.id)) ++
          records } := by
  induction records generalizing store with
  | nil => simp
  | cons record records inductionHypothesis =>
      rw [List.map_cons, List.nodup_cons] at nodup
      have kept : [record].filter (fun row => decide (row.id ∉ records.map Record.id)) =
          [record] := by
        rw [List.filter_eq_self]
        simpa using nodup.1
      have both : (fun row : Record => decide (row.id ∉ record.id :: records.map Record.id)) =
          fun row => decide (row.id ∉ records.map Record.id) && (row.id != record.id) := by
        funext row
        by_cases here : row.id = record.id <;> simp [here]
      rw [List.foldl_cons, inductionHypothesis nodup.2, List.map_cons, both, ← List.filter_filter,
        blocks_insert, List.filter_append, kept, List.append_assoc, List.singleton_append]
      rfl

/-- Whether a record is neither one of a document nor has one of some identifiers. -/
def stays (rootId : String) (ids : List String) (row : Record) : Bool :=
  row.rootId != rootId && decide (row.id ∉ ids)

/-- The store behind the indexing of a document. -/
theorem index?_eq_some
    {tree : Tree}
    {records : List Record}
    (recorded : tree.records? = some records)
    (store : Store) :
    store.index? tree =
      some
        ({ store with
          blocks := store.blocks.filter (stays tree.id (records.map Record.id)) ++ records },
        records.length) := by
  rw [index?, recorded, Option.map_some, foldl_insert (Tree.nodup_records? recorded),
    blocks_removeDocument, List.filter_filter]
  have both : (fun row : Record =>
      decide (row.id ∉ records.map Record.id) && (row.rootId != tree.id)) =
        stays tree.id (records.map Record.id) := by
    funext row
    rw [stays, Bool.and_comm]
  rw [both]
  rfl

/-- Of the new records none stays when its document is indexed again. -/
theorem filter_stays_records
    {tree : Tree}
    {records : List Record}
    (recorded : tree.records? = some records) :
    records.filter (stays tree.id (records.map Record.id)) = [] := by
  rw [List.filter_eq_nil_iff]
  intro row member
  simp [stays, Tree.rootId_of_mem_records? recorded member]

/-- What an indexed document has put into the store. -/
theorem exists_records_of_index?
    {store indexed : Store}
    {tree : Tree}
    {count : Nat}
    (outcome : store.index? tree = some (indexed, count)) :
    ∃ records, tree.records? = some records ∧ count = records.length ∧
      indexed =
        { store with
          blocks := store.blocks.filter (stays tree.id (records.map Record.id)) ++ records } := by
  cases recorded : tree.records? with
  | none =>
      rw [index?, recorded] at outcome
      contradiction
  | some records =>
      rw [index?_eq_some recorded] at outcome
      cases outcome
      exact ⟨records, rfl, rfl, rfl⟩

/-- Once a document has been indexed, indexing it again changes nothing. -/
theorem index?_index?
    {store indexed : Store}
    {tree : Tree}
    {count : Nat}
    (outcome : store.index? tree = some (indexed, count)) :
    indexed.index? tree = some (indexed, count) := by
  obtain ⟨records, recorded, rfl, rfl⟩ := exists_records_of_index? outcome
  rw [index?_eq_some recorded, List.filter_append, filter_stays_records recorded,
    List.append_nil, List.filter_filter]
  simp only [Bool.and_self]

/-- The records that a document has once it has been indexed are its new ones. -/
theorem filter_rootId_of_index?
    {store indexed : Store}
    {tree : Tree}
    {records : List Record}
    {count : Nat}
    (outcome : store.index? tree = some (indexed, count))
    (recorded : tree.records? = some records) :
    indexed.blocks.filter (·.rootId == tree.id) = records := by
  rw [index?_eq_some recorded] at outcome
  cases outcome
  have others : (store.blocks.filter (stays tree.id (records.map Record.id))).filter
      (·.rootId == tree.id) = [] := by
    rw [List.filter_filter, List.filter_eq_nil_iff]
    intro row _
    by_cases own : row.rootId = tree.id <;> simp [stays, own]
  have own : records.filter (·.rootId == tree.id) = records := by
    rw [List.filter_eq_self]
    intro row member
    simpa using Tree.rootId_of_mem_records? recorded member
  rw [List.filter_append, others, own, List.nil_append]

/-- Records of other documents are the same when none of them has a new identifier. -/
theorem filter_of_index?
    {store indexed : Store}
    {tree : Tree}
    {records : List Record}
    {count : Nat}
    (outcome : store.index? tree = some (indexed, count))
    (recorded : tree.records? = some records)
    {wanted : Record → Bool}
    (others : ∀ row, wanted row = true → row.rootId ≠ tree.id)
    (apart : ∀ row ∈ store.blocks, wanted row = true → row.id ∉ records.map Record.id) :
    indexed.blocks.filter wanted = store.blocks.filter wanted := by
  rw [index?_eq_some recorded] at outcome
  cases outcome
  have none : records.filter wanted = [] := by
    rw [List.filter_eq_nil_iff]
    intro row member wantedRow
    exact others row wantedRow (Tree.rootId_of_mem_records? recorded member)
  rw [List.filter_append, none, List.append_nil, List.filter_filter]
  apply List.filter_congr
  intro row member
  by_cases wantedRow : wanted row = true
  · have otherRoot : (row.rootId != tree.id) = true := by simpa using others row wantedRow
    rw [wantedRow, stays, otherRoot, decide_eq_true (apart row member wantedRow)]
    rfl
  · simp [wantedRow]

end Store
end BlockSearch
