import BlockSearch.Proofs.Library.Target
import BlockSearch.Proofs.Replace.Groups
import BlockSearch.Proofs.Replace.Rewriting

/-!
# Batches of rewritten documents

A replacement writes its documents one after the other. When one of them cannot be loaded or
written, those before it are written once each and nothing else has happened. Otherwise all
of them are written once each, and renamings and tasks come last.
-/

namespace BlockSearch

/-! ## Shelves -/

namespace Shelf

/-- A document can be loaded, and it can be written. -/
def Accepts (shelf : Shelf) (id : String) : Prop := shelf.find? id ≠ none ∧ id ∉ shelf.failing

/-- Why a document cannot be rewritten. -/
def failure (shelf : Shelf) (id : String) : SearchError :=
  match shelf.find? id with
  | none => .tree (.notFound id)
  | some tree => .persist id (.unwritable tree.path "write rejected")

/-- Different documents that are written are written once each, and no other is. -/
theorem writeCount_eq
    {before after : Shelf}
    {written : List String}
    (writes : after.writes = before.writes ++ written)
    (nodup : written.Nodup)
    (id : String) :
    after.writeCount id = before.writeCount id + if id ∈ written then 1 else 0 := by
  rw [writeCount, writeCount, writes, List.count_append]
  congr 1
  split_ifs with member
  · exact List.count_eq_one_of_mem nodup member
  · exact List.count_eq_zero_of_not_mem member

/-- Some documents have been written, and nothing else has happened. -/
structure Wrote (before after : Shelf) (written : List String) : Prop where
  /-- They have been written in this order. -/
  writes : after.writes = before.writes ++ written
  /-- The same documents cannot be written. -/
  failing : after.failing = before.failing
  /-- All other documents are what they were. -/
  others : ∀ id, id ∉ written → after.find? id = before.find? id
  /-- Every document has the title and the path of titles that it had. -/
  titles : ∀ id, (after.find? id).map (fun tree => (tree.title, tree.hpath)) =
    (before.find? id).map fun tree => (tree.title, tree.hpath)

namespace Wrote

variable {before after later : Shelf}

theorem refl (shelf : Shelf) : Wrote shelf shelf [] :=
  ⟨(List.append_nil _).symm, rfl, fun _ _ => rfl, fun _ => rfl⟩

theorem trans
    {written more : List String}
    (first : Wrote before after written)
    (second : Wrote after later more) :
    Wrote before later (written ++ more) where
  writes := by rw [second.writes, first.writes, List.append_assoc]
  failing := second.failing.trans first.failing
  others id untouched := by
    rw [List.mem_append, not_or] at untouched
    rw [second.others id untouched.2, first.others id untouched.1]
  titles id := (second.titles id).trans (first.titles id)

/-- Documents that have not been written can be rewritten as before. -/
theorem accepts_iff
    {written : List String}
    (wrote : Wrote before after written)
    {id : String}
    (untouched : id ∉ written) :
    after.Accepts id ↔ before.Accepts id := by
  rw [Accepts, Accepts, wrote.others id untouched, wrote.failing]

theorem failure_eq
    {written : List String}
    (wrote : Wrote before after written)
    {id : String}
    (untouched : id ∉ written) :
    after.failure id = before.failure id := by
  rw [failure, failure, wrote.others id untouched]

end Wrote

/-- A document that is rewritten is written once, in its place. -/
theorem write_reworded
    {shelf : Shelf}
    {id : String}
    {tree other : Tree}
    (found : shelf.find? id = some tree)
    (writable : id ∉ shelf.failing)
    (reworded : tree.Reworded other) :
    ∃ after, shelf.write other = .ok after ∧ Wrote shelf after [id] ∧
      after.find? id = some other ∧ (shelf.Separate → after.Separate) := by
  have same : other.id = id := reworded.id_eq.trans (id_eq_of_find? found)
  have written : shelf.write other =
      .ok (put { shelf with writes := shelf.writes ++ [id] } other) := by
    rw [write, same, if_neg (by simpa using writable)]
  have find?_after : ∀ name, (put { shelf with writes := shelf.writes ++ [id] } other).find? name =
      if name = id then some other else shelf.find? name := by
    intro name
    rw [find?_put, same]
    rfl
  refine ⟨_, written, ⟨rfl, rfl, ?_, ?_⟩, ?_, fun separate => ?_⟩
  · intro name untouched
    rw [find?_after, if_neg (by simpa using untouched)]
  · intro name
    rw [find?_after]
    split_ifs with here
    · rw [here, found, Option.map_some, Option.map_some, reworded.title_eq, reworded.hpath_eq]
    · rfl
  · rw [find?_after, if_pos rfl]
  · exact @Separate.put { shelf with writes := shelf.writes ++ [id] }
      ⟨separate.ids, separate.places⟩ tree other (List.mem_of_find?_eq_some found)
      reworded.id_eq reworded.box_eq reworded.path_eq

end Shelf

/-! ## Documents -/

namespace Engine

variable {shelf : Shelf}

/-- The renamings that a document in a batch needs. -/
def renamingsIn
    (shelf : Shelf)
    (replacer : Replacer)
    (members : String → List String)
    (rootId : String) : List Renaming :=
  match shelf.find? rootId with
  | some tree =>
      (tree.titlesIn replacer (members rootId)).map fun title => ⟨tree.box, tree.path, title⟩
  | none => []

/-- The documents of a batch have been rewritten and written, and nothing else has happened. -/
structure Rewrote
    (replacer : Replacer)
    (members : String → List String)
    (before after : Shelf)
    (roots : List String) : Prop where
  /-- They have been written. -/
  wrote : before.Wrote after roots
  /-- They have been rewritten. -/
  trees : ∀ rootId ∈ roots, after.find? rootId = (before.find? rootId).map fun tree =>
    (tree.rewriteBlocks replacer (members rootId)).tree
  /-- They lie where they lay. -/
  separate : before.Separate → after.Separate

theorem Rewrote.refl
    (replacer : Replacer)
    (members : String → List String)
    (shelf : Shelf) :
    Rewrote replacer members shelf shelf [] := ⟨.refl shelf, by simp, fun separate => separate⟩

/-- One document is rewritten, and then others are. -/
theorem Rewrote.cons
    {replacer : Replacer}
    {members : String → List String}
    {next after : Shelf}
    {rootId : String}
    {roots : List String}
    (first : Rewrote replacer members shelf next [rootId])
    (later : Rewrote replacer members next after roots)
    (new : rootId ∉ roots) :
    Rewrote replacer members shelf after (rootId :: roots) where
  wrote := first.wrote.trans later.wrote
  trees := by
    rw [List.forall_mem_cons]
    constructor
    · rw [later.wrote.others rootId new, first.trees rootId (List.mem_singleton_self _)]
    · intro other member
      have untouched : other ∉ [rootId] := fun same => new (List.mem_singleton.1 same ▸ member)
      rw [later.trees other member, first.wrote.others other untouched]
  separate separate := later.separate (first.separate separate)

/-- A document that is accepted is rewritten. -/
theorem rewriteDocument_of_accepts
    (replacer : Replacer)
    {rootId : String}
    (accepts : shelf.Accepts rootId)
    (members : String → List String) :
    ∃ after,
      rewriteDocument replacer (.memory shelf) rootId (members rootId) =
          .ok (.memory after, renamingsIn shelf replacer members rootId) ∧
        Rewrote replacer members shelf after [rootId] := by
  obtain ⟨tree, found⟩ := Option.ne_none_iff_exists'.1 accepts.1
  have reworded := tree.reworded_rewriteBlocks replacer (members rootId)
  obtain ⟨after, written, wrote, rewritten, separate⟩ :=
    Shelf.write_reworded found accepts.2 reworded
  refine ⟨after, ?_, wrote, ?_, separate⟩
  · simp only [rewriteDocument, Library.load, found, Library.write, written, Except.map,
      Tree.reverse_titles_rewriteBlocks, renamingsIn]
  · rw [List.forall_mem_singleton, rewritten, found, Option.map_some]

/-- A document that is not accepted fails for the reason it has. -/
theorem rewriteDocument_of_not_accepts
    (replacer : Replacer)
    {rootId : String}
    (rejects : ¬ shelf.Accepts rootId)
    (ids : List String) :
    rewriteDocument replacer (.memory shelf) rootId ids = .error (shelf.failure rootId) := by
  cases found : shelf.find? rootId with
  | none => simp only [rewriteDocument, Library.load, found, Shelf.failure]
  | some tree =>
      have failing : rootId ∈ shelf.failing := by
        by_contra writable
        exact rejects ⟨by simp [found], writable⟩
      have reworded := tree.reworded_rewriteBlocks replacer ids
      have same := reworded.id_eq.trans (Shelf.id_eq_of_find? found)
      have rejected : shelf.write (tree.rewriteBlocks replacer ids).tree =
          .error (.unwritable tree.path "write rejected") := by
        rw [Shelf.write, same, if_pos (by simpa using failing), reworded.path_eq]
      simp only [rewriteDocument, Library.load, found, Library.write, rejected, Except.map,
        Shelf.failure]

/-- Accepted documents at the front are rewritten, each once, before the others. -/
theorem rewriteDocuments_append
    (replacer : Replacer)
    {roots : List String}
    (nodup : roots.Nodup)
    (accepts : ∀ rootId ∈ roots, shelf.Accepts rootId)
    (members : String → List String)
    (renamings : List Renaming)
    (written : Nat)
    (others : List (String × List String)) :
    ∃ after,
      rewriteDocuments replacer ⟨.memory shelf, renamings, written⟩
          ((roots.map fun rootId => (rootId, members rootId)) ++ others) =
          rewriteDocuments replacer
            ⟨.memory after, renamings ++ roots.flatMap (renamingsIn shelf replacer members),
              written + roots.length⟩ others ∧
        Rewrote replacer members shelf after roots := by
  induction roots generalizing shelf renamings written with
  | nil => exact ⟨shelf, by simp, .refl replacer members shelf⟩
  | cons rootId roots inductionHypothesis =>
      rw [List.nodup_cons] at nodup
      rw [List.forall_mem_cons] at accepts
      obtain ⟨next, first, rewrote⟩ := rewriteDocument_of_accepts replacer accepts.1 members
      have untouched : ∀ other ∈ roots, other ∉ [rootId] := fun other member same =>
        nodup.1 (List.mem_singleton.1 same ▸ member)
      have acceptsLater : ∀ other ∈ roots, next.Accepts other := fun other member =>
        (rewrote.wrote.accepts_iff (untouched other member)).2 (accepts.2 other member)
      obtain ⟨after, run, rewroteLater⟩ := inductionHypothesis nodup.2 acceptsLater
        (renamings ++ renamingsIn shelf replacer members rootId) (written + 1)
      have later : roots.flatMap (renamingsIn next replacer members) =
          roots.flatMap (renamingsIn shelf replacer members) :=
        List.flatMap_congr fun other member => by
          rw [renamingsIn, rewrote.wrote.others other (untouched other member), renamingsIn]
      refine ⟨after, ?_, rewrote.cons rewroteLater nodup.1⟩
      rw [List.map_cons, List.cons_append, rewriteDocuments, first]
      simp only
      rw [run, later, List.flatMap_cons, List.append_assoc, List.length_cons, Nat.add_assoc,
        Nat.add_comm 1]

/-- Renamings write nothing. -/
theorem renameAll_memory
    (shelf : Shelf)
    (renamings : List Renaming) :
    ∃ after count, renameAll (.memory shelf) renamings = (.memory after, count) ∧
      after.writes = shelf.writes := by
  induction renamings generalizing shelf with
  | nil => exact ⟨shelf, 0, rfl, rfl⟩
  | cons change renamings inductionHypothesis =>
      cases renamed : shelf.rename change.box change.path change.title with
      | error error =>
          obtain ⟨after, count, run, writes⟩ := inductionHypothesis shelf
          refine ⟨after, count, ?_, writes⟩
          simp only [renameAll, Library.rename, renamed, Except.map, run]
      | ok next =>
          have kept : next.writes = shelf.writes := by
            unfold Shelf.rename at renamed
            split at renamed
            · cases renamed
              rfl
            · contradiction
          obtain ⟨after, count, run, writes⟩ := inductionHypothesis next
          refine ⟨after, count + 1, ?_, writes.trans kept⟩
          simp only [renameAll, Library.rename, renamed, Except.map, run]

/-! ## Replacements -/

/-- The first document that is not accepted ends the batch behind the accepted ones. -/
theorem replaceGroups_of_first_failure
    {engine : Engine}
    (kept : engine.library = .memory shelf)
    (replacer : Replacer)
    {done rest : List String}
    {bad : String}
    (nodup : (done ++ bad :: rest).Nodup)
    (accepts : ∀ rootId ∈ done, shelf.Accepts rootId)
    (rejects : ¬ shelf.Accepts bad)
    (members : String → List String)
    (several : Bool) :
    ∃ after,
      engine.replaceGroups replacer
          ((done ++ bad :: rest).map fun rootId => (rootId, members rootId)) several =
          (.error (shelf.failure bad), { engine with library := .memory after }) ∧
        shelf.Wrote after done := by
  rw [List.nodup_append] at nodup
  obtain ⟨after, run, ⟨wrote, _, _⟩⟩ := rewriteDocuments_append replacer nodup.1 accepts members
    [] 0 ((bad :: rest).map fun rootId => (rootId, members rootId))
  have untouched : bad ∉ done := fun member => nodup.2.2 bad member bad List.mem_cons_self rfl
  have error := rewriteDocument_of_not_accepts replacer
    (fun accepted => rejects ((wrote.accepts_iff untouched).1 accepted)) (members bad)
  refine ⟨after, ?_, wrote⟩
  rw [replaceGroups, kept, List.map_append, run, List.map_cons, rewriteDocuments, error,
    wrote.failure_eq untouched]

/-- When all documents are accepted they are rewritten, and the renamings come last. -/
theorem exists_replaceGroups_eq
    {engine : Engine}
    (kept : engine.library = .memory shelf)
    (replacer : Replacer)
    {roots : List String}
    (nodup : roots.Nodup)
    (accepts : ∀ rootId ∈ roots, shelf.Accepts rootId)
    (members : String → List String)
    (several : Bool) :
    ∃ written, Rewrote replacer members shelf written roots ∧
      ∀ library count,
        renameAll (.memory written) (roots.flatMap (renamingsIn shelf replacer members)) =
          (library, count) →
        engine.replaceGroups replacer (roots.map fun rootId => (rootId, members rootId)) several =
          (.ok ⟨roots.length, count⟩,
            { (if several then engine.wait.addTask (.reload reloadDelay) else engine.wait) with
              library }) := by
  obtain ⟨written, run, rewrote⟩ :=
    rewriteDocuments_append replacer nodup accepts members [] 0 []
  rw [List.append_nil, List.nil_append, Nat.zero_add, rewriteDocuments] at run
  refine ⟨written, rewrote, fun library count renamed => ?_⟩
  rw [replaceGroups, kept, run]
  simp only [renamed]
  cases several <;> rfl

/-- When all documents are accepted the batch ends well. -/
theorem replaceGroups_of_accepts
    {engine : Engine}
    (kept : engine.library = .memory shelf)
    (replacer : Replacer)
    {roots : List String}
    (nodup : roots.Nodup)
    (accepts : ∀ rootId ∈ roots, shelf.Accepts rootId)
    (members : String → List String)
    (several : Bool) :
    ∃ summary final,
      engine.replaceGroups replacer (roots.map fun rootId => (rootId, members rootId)) several =
          (.ok summary, final) ∧
        summary.written = roots.length ∧
        (∃ after, final.library = .memory after ∧ after.writes = shelf.writes ++ roots) ∧
        final.tasks = if several then engine.tasks ++ [.reload reloadDelay] else engine.tasks := by
  obtain ⟨written, rewrote, result⟩ :=
    exists_replaceGroups_eq kept replacer nodup accepts members several
  obtain ⟨after, count, renamed, writes⟩ :=
    renameAll_memory written (roots.flatMap (renamingsIn shelf replacer members))
  refine ⟨_, _, result _ _ renamed, rfl, ⟨after, rfl, writes.trans rewrote.wrote.writes⟩, ?_⟩
  cases several <;> rfl

/--
A replacement over documents in memory. A block without a record ends it before anything is
written. Otherwise the documents of the blocks are written in the order in which these name
them, up to the first that cannot be loaded or written: those before it are written once
each, and nothing else has happened. When there is none, all are written once each, no other
document is, and everything is shown anew later when there are two different blocks.
-/
theorem replace_in_memory
    {engine : Engine}
    {shelf : Shelf}
    {request : Replacement}
    {replacer : Replacer}
    (kept : engine.library = .memory shelf)
    (supported :
      Replacer.ofMethod? request.keyword request.replacement request.method = some replacer)
    (different : request.keyword ≠ request.replacement) :
    ((∃ id ∈ request.ids, engine.store.find? id = none) →
      ∃ id ∈ request.ids, engine.store.find? id = none ∧
        engine.replace request = (.error (.tree (.notFound id)), engine.wait)) ∧
    ((∀ id ∈ request.ids, engine.store.find? id ≠ none) →
      (∀ done bad rest, engine.store.rootsOf request.ids = done ++ bad :: rest →
        (∀ rootId ∈ done, shelf.Accepts rootId) → ¬ shelf.Accepts bad →
        ∃ after,
          engine.replace request =
            (.error (shelf.failure bad), { engine.wait with library := .memory after }) ∧
          shelf.Wrote after done ∧
          ∀ id, after.writeCount id = shelf.writeCount id + if id ∈ done then 1 else 0) ∧
      ((∀ rootId ∈ engine.store.rootsOf request.ids, shelf.Accepts rootId) →
        ∃ summary final, engine.replace request = (.ok summary, final)) ∧
      ∀ summary final, engine.replace request = (.ok summary, final) →
        (∀ rootId ∈ engine.store.rootsOf request.ids, shelf.Accepts rootId) ∧
        summary.written = (engine.store.rootsOf request.ids).length ∧
        (∃ after, final.library = .memory after ∧
          after.writes = shelf.writes ++ engine.store.rootsOf request.ids ∧
          ∀ id, after.writeCount id =
            shelf.writeCount id + if id ∈ engine.store.rootsOf request.ids then 1 else 0) ∧
        ((∃ left ∈ request.ids, ∃ right ∈ request.ids, left ≠ right) →
          final.tasks = engine.tasks ++ [.reload reloadDelay]) ∧
        ((∀ left ∈ request.ids, ∀ right ∈ request.ids, left = right) →
          final.tasks = engine.tasks)) := by
  refine ⟨fun missing => ?_, fun recorded => ?_⟩
  · exact replace_of_not_recorded supported different missing
  · have run := replace_of_recorded supported different recorded
    have nodup := engine.store.nodup_rootsOf request.ids
    have keptWaiting : engine.wait.library = .memory shelf := kept
    have fails : ∀ done bad rest, engine.store.rootsOf request.ids = done ++ bad :: rest →
        (∀ rootId ∈ done, shelf.Accepts rootId) → ¬ shelf.Accepts bad →
        ∃ after,
          engine.replace request =
            (.error (shelf.failure bad), { engine.wait with library := .memory after }) ∧
          shelf.Wrote after done ∧
          ∀ id, after.writeCount id = shelf.writeCount id + if id ∈ done then 1 else 0 := by
      intro done bad rest split accepts rejects
      rw [split] at run nodup
      obtain ⟨after, error, wrote⟩ := replaceGroups_of_first_failure keptWaiting replacer nodup
        accepts rejects _ _
      exact ⟨after, run.trans error, wrote,
        Shelf.writeCount_eq wrote.writes (List.nodup_append.1 nodup).1⟩
    refine ⟨fails, fun accepts => ?_, fun summary final done => ?_⟩
    · obtain ⟨summary, final, result, _⟩ :=
        replaceGroups_of_accepts keptWaiting replacer nodup accepts _ _
      exact ⟨summary, final, run.trans result⟩
    · have accepts : ∀ rootId ∈ engine.store.rootsOf request.ids, shelf.Accepts rootId := by
        by_contra rejects
        obtain ⟨front, bad, back, split, before, rejects⟩ := Lists.exists_first rejects
        obtain ⟨after, error, _⟩ := fails front bad back split before rejects
        rw [done] at error
        cases error
      obtain ⟨_, _, result, written, ⟨after, library, writes⟩, tasks⟩ :=
        replaceGroups_of_accepts keptWaiting replacer nodup accepts
          (engine.store.membersOf (distinct request.ids)) (1 < (distinct request.ids).length)
      rw [← run, done] at result
      cases result
      refine ⟨accepts, written,
        ⟨after, library, writes, Shelf.writeCount_eq writes nodup⟩, fun several => ?_,
        fun same => ?_⟩
      · rw [tasks, if_pos (decide_eq_true (one_lt_length_distinct_iff.2 several))]
        rfl
      · rw [tasks, if_neg]
        · rfl
        · intro several
          obtain ⟨left, leftMember, right, rightMember, unequal⟩ :=
            one_lt_length_distinct_iff.1 (of_decide_eq_true several)
          exact unequal (same left leftMember right rightMember)

/-- The second of two documents cannot be written, and the first has been written once. -/
theorem replace_in_memory_with_rejected_write :
    let shelf : Shelf :=
      { trees := [Tree.new "a" "box" "/a.sy" "/A", Tree.new "b" "box" "/b.sy" "/B"]
        failing := ["b"] }
    let engine : Engine :=
      { store := { blocks := [{ id := "p", rootId := "a" }, { id := "q", rootId := "b" }] }
        library := .memory shelf }
    let request : Replacement := { keyword := "x", replacement := "y", ids := ["p", "q", "p"] }
    engine.library = .memory shelf ∧
      Replacer.ofMethod? request.keyword request.replacement request.method =
        some (.literal "x".toList "y".toList) ∧
      request.keyword ≠ request.replacement ∧
      ∃ after,
        engine.replace request =
          (.error (.persist "b" (.unwritable "/b.sy" "write rejected")),
            { engine.wait with library := .memory after }) ∧
        shelf.Wrote after ["a"] ∧
        ∀ id, after.writeCount id = shelf.writeCount id + if id ∈ ["a"] then 1 else 0 := by
  intro shelf engine request
  have different : request.keyword ≠ request.replacement := by decide
  obtain ⟨_, recorded⟩ := @replace_in_memory engine shelf request _ rfl rfl different
  obtain ⟨fails, _⟩ := recorded (by decide)
  refine ⟨rfl, rfl, different, fails ["a"] "b" [] (by decide) ?_ ?_⟩
  · intro rootId member
    rw [List.mem_singleton.1 member]
    exact ⟨by decide, by decide⟩
  · exact fun accepted => accepted.2 (by decide)

end Engine
end BlockSearch
