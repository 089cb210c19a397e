import BlockSearch.Proofs.Index.Reindexing
import Mathlib.Data.List.Induction

/-!
# Histories of a store

A store is filled by putting in single records and by indexing documents. Whatever the
history, its records are those of a plain list in which the record with an identifier is
erased when another one comes in, and the record that is found for an identifier is the last
one that came in with it, unless its document was indexed again since.
-/

namespace BlockSearch
namespace Store

/-- A change of the records. -/
inductive Change
  /-- Put in one record. -/
  | insert (record : Record)
  /-- Replace the records of a document by those of its tree. -/
  | index (tree : Tree)

namespace Change

/-- The store behind a change. There is none when a document has no records. -/
def run? (store : Store) : Change → Option Store
  | insert record => some (store.insert record)
  | index tree => (store.index? tree).map Prod.fst

/-- Put a row behind the others, in place of the one with its identifier. -/
def putRow (rows : List Record) (row : Record) : List Record :=
  rows.eraseP (·.id == row.id) ++ [row]

/-- What a change does to a plain list of rows. -/
def onRows (rows : List Record) : Change → List Record
  | insert record => putRow rows record
  | index tree =>
      (tree.records?.getD []).foldl putRow (rows.filter (·.rootId != tree.id))

end Change

/-- The store behind some changes. -/
def runAll? (store : Store) (changes : List Change) : Option Store := changes.foldlM Change.run? store

/-- A step of a change. -/
inductive Event
  /-- A record comes in. -/
  | put (record : Record)
  /-- All records of a document go. -/
  | clear (rootId : String)

namespace Event

/-- The store behind a step. -/
def run (store : Store) : Event → Store
  | put record => store.insert record
  | clear rootId => store.removeDocument rootId

/-- Whether a record does not outlast a step. -/
def Ousts (record : Record) : Event → Prop
  | put other => other.id = record.id
  | clear rootId => record.rootId = rootId

end Event

/-- The steps of a change. -/
def Change.events : Change → List Event
  | insert record => [.put record]
  | index tree => .clear tree.id :: (tree.records?.getD []).map .put

/-- The record of an identifier that came in last and that no step since has ousted. -/
def Latest (log : List Event) (record : Record) : Prop :=
  ∃ before after, log = before ++ .put record :: after ∧
    ∀ event ∈ after, ¬ event.Ousts record

/-! ## Steps -/

/-- No two records of a store have the same identifier. -/
def DistinctIds (store : Store) : Prop := (store.blocks.map Record.id).Nodup

/-- A record that comes in takes the place of at most one. -/
theorem DistinctIds.blocks_insert
    {store : Store}
    (distinct : store.DistinctIds)
    (record : Record) :
    (store.insert record).blocks = Change.putRow store.blocks record := by
  rw [Change.putRow, Lists.eraseP_eq_filter_of_nodup distinct]
  rfl

theorem DistinctIds.insert
    {store : Store}
    (distinct : store.DistinctIds)
    (record : Record) :
    (store.insert record).DistinctIds := by
  rw [DistinctIds, Store.blocks_insert, List.map_append, List.nodup_append]
  refine ⟨(List.filter_sublist.map Record.id).nodup distinct, by simp, ?_⟩
  intro id member other last same
  rw [List.map_singleton, List.mem_singleton] at last
  obtain ⟨row, kept, rfl⟩ := List.mem_map.1 member
  have different := (List.mem_filter.1 kept).2
  simp [same, last] at different

theorem DistinctIds.removeDocument
    {store : Store}
    (distinct : store.DistinctIds)
    (rootId : String) :
    (store.removeDocument rootId).DistinctIds :=
  (List.filter_sublist.map Record.id).nodup distinct

/-- Records that come in one after the other. -/
theorem DistinctIds.foldl_insert
    {store : Store}
    (distinct : store.DistinctIds)
    (records : List Record) :
    (records.foldl Store.insert store).DistinctIds ∧
      (records.foldl Store.insert store).blocks = records.foldl Change.putRow store.blocks := by
  induction records generalizing store with
  | nil => exact ⟨distinct, rfl⟩
  | cons record records inductionHypothesis =>
      rw [List.foldl_cons, List.foldl_cons, ← distinct.blocks_insert]
      exact inductionHypothesis (distinct.insert record)

/-- The steps of putting in records are what the store does with them. -/
theorem foldl_run_put
    (records : List Record)
    (store : Store) :
    (records.map Event.put).foldl Event.run store = records.foldl Store.insert store := by
  rw [List.foldl_map]
  rfl

/-- A change of a store is the change of its rows, and is made in its steps. -/
theorem DistinctIds.run?
    {store : Store}
    (distinct : store.DistinctIds)
    {change : Change}
    (indexable : ∀ tree, change = .index tree → tree.records? ≠ none) :
    ∃ result, change.run? store = some result ∧
      result = change.events.foldl Event.run store ∧
      result.blocks = change.onRows store.blocks ∧ result.DistinctIds := by
  cases change with
  | insert record =>
      exact ⟨_, rfl, rfl, distinct.blocks_insert record, distinct.insert record⟩
  | index tree =>
      obtain ⟨records, recorded⟩ := Option.ne_none_iff_exists'.1 (indexable tree rfl)
      have filled := (distinct.removeDocument tree.id).foldl_insert records
      refine ⟨records.foldl Store.insert (store.removeDocument tree.id), ?_, ?_, ?_, filled.1⟩
      · rw [Change.run?, index?, recorded]
        rfl
      · rw [Change.events, recorded, List.foldl_cons, Option.getD_some, foldl_run_put]
        rfl
      · rw [filled.2, Change.onRows, recorded]
        rfl

/-! ## Histories -/

/-- A history of changes, in the store, in the rows and step by step. -/
theorem DistinctIds.runAll?
    {store : Store}
    (distinct : store.DistinctIds)
    {changes : List Change}
    (indexable : ∀ tree, Change.index tree ∈ changes → tree.records? ≠ none) :
    ∃ result, store.runAll? changes = some result ∧
      result = (changes.flatMap Change.events).foldl Event.run store ∧
      result.blocks = changes.foldl Change.onRows store.blocks ∧ result.DistinctIds := by
  induction changes generalizing store with
  | nil => exact ⟨store, rfl, rfl, rfl, distinct⟩
  | cons change changes inductionHypothesis =>
      have first : ∀ tree, change = .index tree → tree.records? ≠ none := fun tree same =>
        indexable tree (same ▸ List.mem_cons_self)
      obtain ⟨next, changed, steps, rows, nextDistinct⟩ := distinct.run? first
      obtain ⟨result, later, laterSteps, laterRows, resultDistinct⟩ :=
        inductionHypothesis nextDistinct fun tree member =>
          indexable tree (List.mem_cons_of_mem _ member)
      refine ⟨result, ?_, ?_, ?_, resultDistinct⟩
      · rw [Store.runAll?, List.foldlM_cons, changed]
        exact later
      · rw [List.flatMap_cons, List.foldl_append, ← steps]
        exact laterSteps
      · rw [List.foldl_cons, ← rows]
        exact laterRows

/-- One more step keeps what it does not oust. -/
theorem latest_append_singleton
    {log : List Event}
    {event : Event}
    {record : Record} :
    Latest (log ++ [event]) record ↔
      event = .put record ∨ (Latest log record ∧ ¬ event.Ousts record) := by
  constructor
  · rintro ⟨before, after, split, outlasts⟩
    rcases List.eq_nil_or_concat after with rfl | ⟨after, last, rfl⟩
    · exact .inl (by simpa using (List.append_inj' split rfl).2)
    · rw [List.concat_eq_append] at split outlasts
      rw [← List.cons_append, ← List.append_assoc] at split
      obtain ⟨rfl, same⟩ := List.append_inj' split rfl
      obtain rfl := List.singleton_inj.1 same
      refine .inr ⟨⟨before, after, rfl, fun other member => ?_⟩, ?_⟩
      · exact outlasts other (List.mem_append_left _ member)
      · exact outlasts event (by simp)
  · rintro (rfl | ⟨⟨before, after, rfl, outlasts⟩, outlastsLast⟩)
    · exact ⟨log, [], rfl, by simp⟩
    · refine ⟨before, after ++ [event], by simp, fun other member => ?_⟩
      rcases List.mem_append.1 member with earlier | last
      · exact outlasts other earlier
      · rwa [List.mem_singleton.1 last]

/-- The records of a store are those that no step since they came in has ousted. -/
theorem mem_blocks_foldl_run
    (references : List Reference)
    (log : List Event)
    {record : Record} :
    record ∈ (log.foldl Event.run { references }).blocks ↔ Latest log record := by
  -- From the back: the last event comes to the rows of all the others.
  induction log using List.reverseRecOn with
  | nil => simp [Latest]
  | append_singleton log event inductionHypothesis =>
      rw [List.foldl_append, latest_append_singleton, ← inductionHypothesis]
      generalize log.foldl Event.run { references } = store
      cases event with
      | put new =>
          have last : Event.put new = Event.put record ↔ record = new := by
            rw [Event.put.injEq, eq_comm]
          rw [List.foldl_cons, List.foldl_nil, Event.run, blocks_insert, List.mem_append,
            List.mem_filter, List.mem_singleton, last, or_comm, Event.Ousts, bne_iff_ne,
            ne_comm (a := record.id)]
      | clear rootId =>
          have noRecord : Event.clear rootId ≠ Event.put record := Event.noConfusion
          rw [List.foldl_cons, List.foldl_nil, Event.run, blocks_removeDocument, List.mem_filter,
            bne_iff_ne, Event.Ousts]
          simp only [noRecord, false_or, ne_eq]

/--
Any history of single records and indexed documents gives the rows of a plain list. The
identifiers of the rows differ, and the row found for an identifier is the one that came in
last with it and has not been ousted since. Indexing one more document returns the number of
rows that it then has, has no effect when it is repeated, and leaves the rows of other
documents, unless they have an identifier of the document, as they are and in their order.
-/
theorem runAll?_eq_rows
    {changes : List Change}
    (indexable : ∀ tree, Change.index tree ∈ changes → tree.records? ≠ none)
    (references : List Reference) :
    ∃ store, runAll? { references } changes = some store ∧
      store.blocks = changes.foldl Change.onRows [] ∧
      (store.blocks.map Record.id).Nodup ∧
      (∀ id record, store.find? id = some record ↔
        record.id = id ∧ Latest (changes.flatMap Change.events) record) ∧
      ∀ tree, tree.records? ≠ none →
        ∃ indexed count, store.index? tree = some (indexed, count) ∧
          (indexed.blocks.filter (·.rootId == tree.id)).length = count ∧
          indexed.index? tree = some (indexed, count) ∧
          ∀ wanted : Record → Bool,
            (∀ row, wanted row = true →
              row.rootId ≠ tree.id ∧ ∀ i, (tree.node i).id ≠ some row.id) →
            indexed.blocks.filter wanted = store.blocks.filter wanted := by
  have empty : DistinctIds { references } := List.nodup_nil
  obtain ⟨store, result, steps, rows, distinct⟩ := empty.runAll? indexable
  refine ⟨store, result, rows, distinct, fun id record => ?_, fun tree recordable => ?_⟩
  · rw [find?, Lists.find?_eq_some_iff_of_nodup distinct, steps, mem_blocks_foldl_run, and_comm]
  · obtain ⟨records, recorded⟩ := Option.ne_none_iff_exists'.1 recordable
    have outcome := index?_eq_some recorded store
    refine ⟨_, _, outcome, ?_, index?_index? outcome, fun wanted apart => ?_⟩
    · rw [filter_rootId_of_index? outcome recorded]
    · refine filter_of_index? outcome recorded (fun row wantedRow => (apart row wantedRow).1)
        fun row _ wantedRow member => ?_
      obtain ⟨record, recordMember, same⟩ := List.mem_map.1 member
      obtain ⟨i, _, idOf⟩ := Tree.exists_id_of_mem_records? recorded recordMember
      exact (apart row wantedRow).2 i (idOf.trans (congrArg some same))

/-- A block that moves into a document is no row of its old document any more. -/
theorem runAll?_eq_rows_of_moved_block :
    let tree := (Tree.new "d" "b" "/d.sy" "/D").appendNew 0 .paragraph (some "p")
    let old : Record := { id := "p", rootId := "c" }
    let changes : List Change := [.insert old, .index tree]
    (∀ tree, Change.index tree ∈ changes → tree.records? ≠ none) ∧
      ∃ store, runAll? {} changes = some store ∧
        store.blocks.map (fun row => (row.id, row.rootId)) = [("d", "d"), ("p", "d")] ∧
        ¬ Latest (changes.flatMap Change.events) old := by
  intro tree old changes
  have indexable : ∀ tree, Change.index tree ∈ changes → tree.records? ≠ none := by
    intro other member
    have same : other = tree := by simpa [changes] using member
    rw [same]
    decide +kernel
  obtain ⟨store, result, rows, _, found, _⟩ := runAll?_eq_rows indexable []
  refine ⟨indexable, store, result, ?_, fun latest => ?_⟩
  · rw [rows]
    decide +kernel
  · have here := (found "p" old).2 ⟨rfl, latest⟩
    rw [find?, rows] at here
    revert here
    decide +kernel

end Store
end BlockSearch
