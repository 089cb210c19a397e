import BlockSearch.Command.Run
import BlockSearch.Proofs.Forest.History
import BlockSearch.Proofs.Index.Reindexing
import BlockSearch.Proofs.Replace.Revision

/-!
# Stores that agree with their library

A store agrees with a library when it holds, for every document, exactly the records that the
document gives. A replacement may end anywhere, but it changes only documents that are indexed
again afterwards. So the store agrees with the library again, provided that no two documents
share the identifier of a block and every document is found by its path.
-/

namespace BlockSearch

/-! ## Documents -/

namespace Store

/-- The records that a store has of a document are those that the document gives. -/
def AgreesWith (store : Store) (tree : Tree) : Prop :=
  ∃ records, tree.records? = some records ∧
    (store.blocks.filter (·.rootId == tree.id)).Perm records

/-- A store agrees with a document that has just been indexed. -/
theorem agreesWith_of_index?
    {store indexed : Store}
    {tree : Tree}
    {count : Nat}
    (outcome : store.index? tree = some (indexed, count)) :
    indexed.AgreesWith tree := by
  obtain ⟨records, recorded, _⟩ := exists_records_of_index? outcome
  exact ⟨records, recorded, by rw [filter_rootId_of_index? outcome recorded]⟩

/-- A store agrees with a document as before when one with other blocks has been indexed. -/
theorem AgreesWith.index?
    {store indexed : Store}
    {tree other : Tree}
    {count : Nat}
    (agrees : store.AgreesWith other)
    (outcome : store.index? tree = some (indexed, count))
    (forest : tree.IsForest)
    (otherForest : other.IsForest)
    (different : other.id ≠ tree.id)
    (disjoint : tree.blockIds.Disjoint other.blockIds) :
    indexed.AgreesWith other := by
  obtain ⟨otherRecords, otherRecorded, rows⟩ := agrees
  obtain ⟨records, recorded, _⟩ := exists_records_of_index? outcome
  refine ⟨otherRecords, otherRecorded, ?_⟩
  have kept : indexed.blocks.filter (·.rootId == other.id) =
      store.blocks.filter (·.rootId == other.id) := by
    refine filter_of_index? outcome recorded (fun row own => ?_) fun row member own shared => ?_
    · rw [beq_iff_eq] at own
      exact own ▸ different
    · -- The row is a record of the other document, so its identifier is one of its blocks.
      have otherRow : row ∈ otherRecords := rows.subset (List.mem_filter.2 ⟨member, own⟩)
      obtain ⟨record, recordMember, same⟩ := List.mem_map.1 shared
      exact disjoint (same ▸ forest.mem_blockIds_of_mem_records? recorded recordMember)
        (otherForest.mem_blockIds_of_mem_records? otherRecorded otherRow)
  rw [kept]
  exact rows

end Store

/-! ## Libraries -/

namespace Library

/-- The blocks of all documents have ASCII identifiers, and no two documents share one. -/
structure Apart (library : Library) : Prop where
  /-- The identifiers are ASCII. -/
  ascii : ∀ id tree, library.load id = .ok tree → ∀ name ∈ tree.blockIds, BlockId.IsAscii name
  /-- Different documents have different blocks. -/
  disjoint : ∀ id tree other third, library.load id = .ok tree →
    library.load other = .ok third → tree.id ≠ third.id → tree.blockIds.Disjoint third.blockIds

/-- Revised documents have the blocks that they had. -/
theorem Apart.revision
    {library written : Library}
    {roots : List String}
    (apart : library.Apart)
    (revision : library.Revision written roots) :
    written.Apart := by
  have source : ∀ {id new}, written.load id = .ok new →
      ∃ tree, library.load id = .ok tree ∧ new.id = tree.id ∧ new.blockIds = tree.blockIds := by
    intro id new loaded
    obtain ⟨tree, before⟩ := revision.origin id new loaded
    obtain ⟨other, loadedOther, revised, _⟩ := revision.keeps id tree before
    rw [loaded] at loadedOther
    cases loadedOther
    exact ⟨tree, before, revised.id, revised.blockIds⟩
  constructor
  · intro id new loaded
    obtain ⟨tree, before, _, blockIds⟩ := source loaded
    rw [blockIds]
    exact apart.ascii id tree before
  · intro id new other third loaded otherLoaded different
    obtain ⟨tree, before, treeId, blockIds⟩ := source loaded
    obtain ⟨otherTree, otherBefore, otherId, otherBlockIds⟩ := source otherLoaded
    rw [blockIds, otherBlockIds]
    rw [treeId, otherId] at different
    exact apart.disjoint id tree other otherTree before otherBefore different

end Library

/-! ## Engines -/

/-- The store of an engine agrees with all documents of its library. -/
def Engine.Consistent (engine : Engine) : Prop :=
  ∀ id tree, engine.library.load id = .ok tree → engine.store.AgreesWith tree

namespace Command

/--
Indexing documents again never fails. The store agrees afterwards with the documents that have
been indexed, and with all those with which it agreed before.
-/
theorem reindex_agreesWith
    {engine : Engine}
    (sound : engine.library.Sound)
    (apart : engine.library.Apart)
    (roots : List String) :
    ∃ final, reindex engine roots = (.ok (), final) ∧ final.library = engine.library ∧
      ∀ id tree, engine.library.load id = .ok tree →
        (engine.store.AgreesWith tree ∨
          ∃ rootId ∈ roots, engine.library.idOf? rootId = some tree.id) →
        final.store.AgreesWith tree := by
  induction roots generalizing engine with
  | nil => exact ⟨engine, rfl, rfl, fun id tree _ before => by simpa using before⟩
  | cons rootId roots inductionHypothesis =>
      rw [reindex]
      cases loaded : engine.library.load rootId with
      | error error =>
          obtain ⟨final, run, library, agrees⟩ := inductionHypothesis sound apart
          refine ⟨final, run, library, fun id tree loadedTree before => ?_⟩
          have nothing : engine.library.idOf? rootId = none := by
            rw [Library.idOf?, loaded]
            rfl
          rw [List.exists_mem_cons_iff, nothing] at before
          exact agrees id tree loadedTree (by simpa using before)
      | ok first =>
          have forest := sound.isForest loaded
          obtain ⟨store, count, outcome⟩ : ∃ store count,
              engine.store.index? first = some (store, count) := by
            obtain ⟨records, recorded⟩ := Option.ne_none_iff_exists'.1
              (forest.records?_ne_none (apart.ascii rootId first loaded))
            exact ⟨_, _, Store.index?_eq_some recorded engine.store⟩
          simp only [Engine.index, outcome]
          obtain ⟨final, run, library, agrees⟩ :=
            @inductionHypothesis { engine with store } sound apart
          refine ⟨final, run, library, fun id tree loadedTree before => ?_⟩
          -- A document agrees from here on when it is the one just indexed, and it still does
          -- when it is another one, since the two share no block.
          apply agrees id tree loadedTree
          by_cases same : tree.id = first.id
          · left
            rw [sound.eq_of_id loadedTree loaded same]
            exact Store.agreesWith_of_index? outcome
          · rw [List.exists_mem_cons_iff, Library.idOf?_of_load loaded, Option.some.injEq] at before
            rcases before with agreed | here | later
            · exact .inl (agreed.index? outcome forest (sound.isForest loadedTree) same
                (apart.disjoint rootId first id tree loaded loadedTree (Ne.symm same)))
            · exact absurd here.symm same
            · exact .inr later

/-- The documents that are indexed after a replacement are those that it looks in. -/
theorem mem_indexed_iff
    (store : Store)
    (ids : List String)
    (rootId : String) :
    rootId ∈ ((distinct ((store.findAll ids).map Record.rootId)).mergeSort fun a b => a ≤ b) ↔
      rootId ∈ store.rootsOf ids := by
  rw [List.mem_mergeSort, mem_distinct, Store.findAll, List.map_filterMap,
    ← Store.rootsOf_distinct, Store.rootsOf, mem_distinct]
  rfl

/--
After text has been replaced and the documents of the blocks have been indexed again, the
store agrees with the library, however the replacement ended: it may not have begun, it may
have failed at any document, and documents may have other titles.
-/
theorem consistent_replaceAndIndex
    {engine : Engine}
    (sound : engine.library.Sound)
    (resolves : engine.library.Resolves)
    (apart : engine.library.Apart)
    (consistent : engine.Consistent)
    (request : Replacement) :
    ∃ final,
      reindex (engine.replace request).2
          ((distinct ((engine.store.findAll request.ids).map Record.rootId)).mergeSort
            fun a b => a ≤ b) = (.ok (), final) ∧
        final.library = (engine.replace request).2.library ∧ final.Consistent ∧
        ∀ database asJson,
          (replaceAndIndex ⟨engine, database⟩ request asJson).files =
            Session.files ⟨final, database⟩ := by
  obtain ⟨revision, sameStore⟩ := Engine.revision_replace sound resolves request
  obtain ⟨final, run, library, agrees⟩ := reindex_agreesWith revision.sound
    (apart.revision revision)
    ((distinct ((engine.store.findAll request.ids).map Record.rootId)).mergeSort fun a b => a ≤ b)
  refine ⟨final, run, library, fun id new loaded => ?_, fun database asJson => ?_⟩
  · rw [library] at loaded
    apply agrees id new loaded
    obtain ⟨tree, before⟩ := revision.origin id new loaded
    obtain ⟨other, loadedOther, revised, same⟩ := revision.keeps id tree before
    rw [loaded] at loadedOther
    cases loadedOther
    by_cases touched : ∃ rootId ∈ engine.store.rootsOf request.ids,
        engine.library.idOf? rootId = some tree.id
    · obtain ⟨rootId, listed, root⟩ := touched
      refine .inr ⟨rootId, (mem_indexed_iff _ _ _).2 listed, ?_⟩
      rw [revision.idOf?_eq, root, revised.id]
    · push Not at touched
      left
      rw [sameStore, same touched]
      exact consistent id tree before
  · rw [replaceAndIndex]
    simp only [run]
    rw [Session.finish]
    cases (engine.replace request).1 <;> rfl

/-- Of two documents the first is rewritten and indexed again, and the second is rejected. -/
theorem consistent_replaceAndIndex_with_rejected_write :
    let first := ((Tree.new "c" "b" "/c.sy" "/C").appendNew 0 .paragraph (some "p")).appendNew 1
      (.text "cat") none
    let second := ((Tree.new "d" "b" "/d.sy" "/D").appendNew 0 .paragraph (some "q")).appendNew 1
      (.text "cat") none
    let engine : Engine :=
      { store := ⟨first.records?.getD [] ++ second.records?.getD [], []⟩
        library := .memory { trees := [first, second], failing := ["d"] } }
    let request : Replacement := { keyword := "cat", replacement := "dog", ids := ["p", "q"] }
    engine.library.Sound ∧ engine.library.Resolves ∧ engine.library.Apart ∧ engine.Consistent ∧
      (engine.replace request).1.isOk = false ∧
      ∃ final, reindex (engine.replace request).2 ["c", "d"] = (.ok (), final) ∧
        final.Consistent ∧
        final.store.blocks.map (fun row => (row.id, row.content)) =
          [("c", ""), ("p", "dog"), ("d", ""), ("q", "cat")] := by
  intro first second engine request
  have forests : ∀ tree ∈ [first, second], tree.IsForest := by
    have firstForest : first.IsForest := (((Tree.Built.new "c" "b" "/c.sy" "/C").appendNew
      (by decide) .paragraph (some "p")).appendNew (by decide) (.text "cat") none).isForest
    have secondForest : second.IsForest := (((Tree.Built.new "d" "b" "/d.sy" "/D").appendNew
      (by decide) .paragraph (some "q")).appendNew (by decide) (.text "cat") none).isForest
    simpa using ⟨firstForest, secondForest⟩
  have member : ∀ {id tree}, engine.library.load id = .ok tree → tree ∈ [first, second] :=
    fun loaded => List.mem_of_find?_eq_some (Library.load_memory_eq_ok_iff.1 loaded)
  have sound : engine.library.Sound := ⟨by decide, forests⟩
  have resolves : engine.library.Resolves := by
    intro id tree loaded
    have each : ∀ tree ∈ [first, second],
        engine.library.target? tree.box tree.path = some tree := by decide +kernel
    exact each tree (member loaded)
  have apart : engine.library.Apart := by
    constructor
    · intro id tree loaded
      have each : ∀ tree ∈ [first, second], ∀ name ∈ tree.blockIds, BlockId.IsAscii name := by
        decide +kernel
      exact each tree (member loaded)
    · intro id tree other third loaded otherLoaded different name shared
      have each : ∀ tree ∈ [first, second], ∀ third ∈ [first, second], tree.id ≠ third.id →
          ∀ name ∈ tree.blockIds, name ∉ third.blockIds := by decide +kernel
      exact each tree (member loaded) third (member otherLoaded) different name shared
  have consistent : engine.Consistent := by
    intro id tree loaded
    have each : ∀ tree ∈ [first, second], tree.records? = some (tree.records?.getD []) ∧
        (engine.store.blocks.filter (·.rootId == tree.id)).Perm (tree.records?.getD []) := by
      decide +kernel
    exact ⟨_, each tree (member loaded)⟩
  have roots : ((distinct ((engine.store.findAll request.ids).map Record.rootId)).mergeSort
      fun a b => a ≤ b) = ["c", "d"] := by
    have listed : distinct ((engine.store.findAll request.ids).map Record.rootId) = ["c", "d"] := by
      decide +kernel
    rw [listed]
    exact List.mergeSort_of_pairwise (by decide)
  obtain ⟨final, run, _, consistentLater, _⟩ :=
    consistent_replaceAndIndex sound resolves apart consistent request
  rw [roots] at run
  refine ⟨sound, resolves, apart, consistent, by decide +kernel, final, run, consistentLater, ?_⟩
  have rows : (reindex (engine.replace request).2 ["c", "d"]).2.store.blocks.map
      (fun row => (row.id, row.content)) =
        [("c", ""), ("p", "dog"), ("d", ""), ("q", "cat")] := by decide +kernel
  rwa [run] at rows

end Command
end BlockSearch
