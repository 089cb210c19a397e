import BlockSearch.Proofs.Replace.Batch

/-!
# Blocks in any order

The order in which the blocks of a replacement are named decides in which order documents are
written and renamed, and in which order the subtrees of a document are walked. Of all that
nothing is left in the end: every node is rewritten as often, and every document is written
and renamed as often, with the same title each time.
-/

namespace BlockSearch

/-! ## Documents -/

namespace Tree

/-- Rewriting some nodes in another order leads to the same document. -/
theorem foldl_rewriteNode_of_perm
    (replacer : Replacer)
    (tree : Tree)
    {left right : List NodeId}
    (perm : left.Perm right) :
    left.foldl (rewriteNode replacer) tree = right.foldl (rewriteNode replacer) tree := by
  have reworded := (reworded_foldl_rewriteNode replacer tree right).symm.trans
    (reworded_foldl_rewriteNode replacer tree left)
  refine reworded.eq_of_kind fun i => ?_
  rw [kind_foldl_rewriteNode, kind_foldl_rewriteNode, perm.count_eq]

/-- The walks over blocks in another order are the same walks. -/
theorem walked_perm
    (tree : Tree)
    {left right : List String}
    (perm : left.Perm right) :
    (tree.walked left).Perm (tree.walked right) := (perm.filterMap _).flatMap_right _

/-- The renamings that are due in a document. -/
def changesOf (tree : Tree) (renamings : List Renaming) : List Renaming :=
  renamings.filter fun change => change.box == tree.box && change.path == tree.path

/-- A document after the renamings that are due in it. -/
def renamed (tree : Tree) (renamings : List Renaming) : Tree :=
  (tree.changesOf renamings).foldl (fun tree change => tree.retitle change.title) tree

theorem changesOf_congr
    {tree other : Tree}
    (box : other.box = tree.box)
    (path : other.path = tree.path)
    (renamings : List Renaming) :
    other.changesOf renamings = tree.changesOf renamings := by
  rw [changesOf, changesOf, box, path]

/-- A renaming in the place of a document is the first that is due in it. -/
theorem renamed_cons_of_place
    (tree : Tree)
    (title : String)
    (renamings : List Renaming) :
    tree.renamed (⟨tree.box, tree.path, title⟩ :: renamings) =
      (tree.retitle title).renamed renamings := by
  have due : tree.changesOf (⟨tree.box, tree.path, title⟩ :: renamings) =
      ⟨tree.box, tree.path, title⟩ :: tree.changesOf renamings := List.filter_cons_of_pos (by simp)
  have same : (tree.retitle title).changesOf renamings = tree.changesOf renamings :=
    changesOf_congr rfl rfl renamings
  rw [renamed, due, List.foldl_cons, renamed, same]

theorem renamed_cons_of_other_place
    {tree : Tree}
    {change : Renaming}
    (elsewhere : ¬ (change.box = tree.box ∧ change.path = tree.path))
    (renamings : List Renaming) :
    tree.renamed (change :: renamings) = tree.renamed renamings := by
  have none : tree.changesOf (change :: renamings) = tree.changesOf renamings :=
    List.filter_cons_of_neg (by simpa using elsewhere)
  rw [renamed, none, renamed]

end Tree

/-! ## Renamings -/

namespace Shelf

variable {shelf : Shelf}

/-- All documents that are to be renamed are there. -/
def Places (shelf : Shelf) (renamings : List Renaming) : Prop :=
  ∀ change ∈ renamings, ∃ id tree, shelf.find? id = some tree ∧
    tree.box = change.box ∧ tree.path = change.path

/-- A document is renamed, and all others are what they were. -/
theorem Separate.rename
    (separate : shelf.Separate)
    {tree : Tree}
    (member : tree ∈ shelf.trees)
    (title : String) :
    ∃ next, shelf.rename tree.box tree.path title = .ok next ∧ next.Separate ∧
      next.writes = shelf.writes ∧
      ∀ id, next.find? id = (shelf.find? id).map (tree.retitle title).overwrite := by
  refine ⟨shelf.put (tree.retitle title), ?_, separate.put member rfl rfl rfl, rfl, fun id => ?_⟩
  · rw [Shelf.rename, separate.find?_place_eq_some member]
  · have own : (tree.retitle title).id = tree.id := rfl
    rw [find?_put, own]
    split_ifs with same
    · rw [same, separate.find?_eq_some member, Option.map_some, Tree.overwrite, own, if_pos rfl]
    · cases found : shelf.find? id with
      | none => rfl
      | some other =>
          rw [Option.map_some, Tree.overwrite, own, id_eq_of_find? found, if_neg same]

/-- Of all documents only the renamed one has a renaming less to go. -/
theorem Separate.renamed_cons
    (separate : shelf.Separate)
    {tree other : Tree}
    (member : tree ∈ shelf.trees)
    (otherMember : other ∈ shelf.trees)
    (title : String)
    (renamings : List Renaming) :
    other.renamed (⟨tree.box, tree.path, title⟩ :: renamings) =
      ((tree.retitle title).overwrite other).renamed renamings := by
  have own : (tree.retitle title).id = tree.id := rfl
  rw [Tree.overwrite, own]
  split_ifs with same
  · rw [separate.ids other otherMember tree member same, Tree.renamed_cons_of_place]
  · apply Tree.renamed_cons_of_other_place
    rintro ⟨box, path⟩
    exact same (congrArg Tree.id (separate.places other otherMember tree member box.symm path.symm))

/-- A document that is to be renamed stays in its place when another title is given. -/
theorem Places.rename
    {renamings : List Renaming}
    (places : shelf.Places renamings)
    (separate : shelf.Separate)
    {tree : Tree}
    (member : tree ∈ shelf.trees)
    {title : String}
    {next : Shelf}
    (found : ∀ id, next.find? id = (shelf.find? id).map (tree.retitle title).overwrite) :
    next.Places renamings := by
  intro change due
  obtain ⟨id, other, here, place⟩ := places change due
  have later := found id
  rw [here, Option.map_some, Tree.overwrite] at later
  split_ifs at later with same
  · rw [separate.ids other (List.mem_of_find?_eq_some here) tree member same] at place
    exact ⟨id, _, later, place⟩
  · exact ⟨id, _, later, place⟩

end Shelf

namespace Engine

variable {shelf : Shelf}

/-- Renamings of documents that are there all succeed, and each changes its own document. -/
theorem renameAll_of_places
    (separate : shelf.Separate)
    {renamings : List Renaming}
    (places : shelf.Places renamings) :
    ∃ after, renameAll (.memory shelf) renamings = (.memory after, renamings.length) ∧
      after.writes = shelf.writes ∧
      ∀ id, after.find? id = (shelf.find? id).map fun tree => tree.renamed renamings := by
  induction renamings generalizing shelf with
  | nil =>
      refine ⟨shelf, rfl, rfl, fun id => ?_⟩
      cases shelf.find? id <;> rfl
  | cons change renamings inductionHypothesis =>
      rw [Shelf.Places, List.forall_mem_cons] at places
      obtain ⟨⟨_, tree, here, box, path⟩, others⟩ := places
      obtain ⟨_, _, title⟩ := change
      subst box path
      have member := List.mem_of_find?_eq_some here
      obtain ⟨next, renames, separateNext, kept, found⟩ := separate.rename member title
      obtain ⟨after, run, writes, foundAfter⟩ :=
        inductionHypothesis separateNext (Shelf.Places.rename others separate member found)
      refine ⟨after, ?_, writes.trans kept, fun id => ?_⟩
      · simp only [renameAll, Library.rename, renames, Except.map, run, List.length_cons]
      · rw [foundAfter, found]
        cases there : shelf.find? id with
        | none => rfl
        | some other =>
            rw [Option.map_some, Option.map_some, Option.map_some,
              separate.renamed_cons member (List.mem_of_find?_eq_some there)]

/-! ## Batches -/

/-- What a document is when the documents of a batch have been written. -/
def rewritten
    (replacer : Replacer)
    (members : String → List String)
    (roots : List String)
    (tree : Tree) : Tree :=
  if tree.id ∈ roots then (tree.rewriteBlocks replacer (members tree.id)).tree else tree

theorem reworded_rewritten
    (replacer : Replacer)
    (members : String → List String)
    (roots : List String)
    (tree : Tree) :
    tree.Reworded (rewritten replacer members roots tree) := by
  rw [rewritten]
  split_ifs
  · exact tree.reworded_rewriteBlocks replacer _
  · exact .refl tree

/-- All documents behind a batch, those in it and the others. -/
theorem Rewrote.find?_eq
    {replacer : Replacer}
    {members : String → List String}
    {roots : List String}
    {after : Shelf}
    (rewrote : Rewrote replacer members shelf after roots)
    (id : String) :
    after.find? id = (shelf.find? id).map (rewritten replacer members roots) := by
  by_cases member : id ∈ roots
  · rw [rewrote.trees id member]
    refine Option.map_congr fun tree there => ?_
    rw [rewritten, Shelf.id_eq_of_find? there, if_pos member]
  · rw [rewrote.wrote.others id member]
    cases there : shelf.find? id with
    | none => rfl
    | some tree =>
        rw [Option.map_some, rewritten, Shelf.id_eq_of_find? there, if_neg member]

/-- A renaming that a batch needs is that of a document, with the title that this gets. -/
theorem exists_of_mem_renamings
    {replacer : Replacer}
    {members : String → List String}
    {roots : List String}
    {change : Renaming}
    (needed : change ∈ roots.flatMap (renamingsIn shelf replacer members)) :
    ∃ rootId tree, shelf.find? rootId = some tree ∧
      change = ⟨tree.box, tree.path, replacer.apply tree.title⟩ := by
  obtain ⟨rootId, _, here⟩ := List.mem_flatMap.1 needed
  cases found : shelf.find? rootId with
  | none => simp [renamingsIn, found] at here
  | some tree =>
      rw [renamingsIn, found] at here
      obtain ⟨title, reported, rfl⟩ := List.mem_map.1 here
      exact ⟨rootId, tree, found, by rw [Tree.eq_of_mem_titlesIn reported]⟩

/-- The renamings that a batch needs are those of documents that are there. -/
theorem Rewrote.places
    {replacer : Replacer}
    {members : String → List String}
    {roots : List String}
    {after : Shelf}
    (rewrote : Rewrote replacer members shelf after roots) :
    after.Places (roots.flatMap (renamingsIn shelf replacer members)) := by
  intro change needed
  obtain ⟨rootId, tree, before, rfl⟩ := exists_of_mem_renamings needed
  have later := rewrote.find?_eq rootId
  rw [before, Option.map_some] at later
  have reworded := reworded_rewritten replacer members roots tree
  exact ⟨rootId, _, later, reworded.box_eq, reworded.path_eq⟩

/-- A batch of accepted documents, in full. -/
theorem replaceGroups_of_separate
    {engine : Engine}
    (kept : engine.library = .memory shelf)
    (replacer : Replacer)
    (separate : shelf.Separate)
    {roots : List String}
    (nodup : roots.Nodup)
    (accepts : ∀ rootId ∈ roots, shelf.Accepts rootId)
    (members : String → List String)
    (several : Bool) :
    ∃ after,
      engine.replaceGroups replacer (roots.map fun rootId => (rootId, members rootId)) several =
        (.ok ⟨roots.length, (roots.flatMap (renamingsIn shelf replacer members)).length⟩,
          { (if several then engine.wait.addTask (.reload reloadDelay) else engine.wait) with
            library := .memory after }) ∧
      after.writes = shelf.writes ++ roots ∧
      ∀ id, after.find? id = (shelf.find? id).map fun tree =>
        (rewritten replacer members roots tree).renamed
          (roots.flatMap (renamingsIn shelf replacer members)) := by
  obtain ⟨written, rewrote, result⟩ :=
    exists_replaceGroups_eq kept replacer nodup accepts members several
  obtain ⟨after, renames, writes, found⟩ :=
    renameAll_of_places (rewrote.separate separate) rewrote.places
  refine ⟨after, result _ _ renames, writes.trans rewrote.wrote.writes, fun id => ?_⟩
  rw [found, rewrote.find?_eq, Option.map_map]
  rfl

/-! ## Orders -/

/-- All renamings that a document needs in a batch are the same. -/
theorem eq_of_mem_changesOf
    (separate : shelf.Separate)
    {replacer : Replacer}
    {members : String → List String}
    {roots : List String}
    {tree : Tree}
    (member : tree ∈ shelf.trees)
    {change : Renaming}
    (due : change ∈ tree.changesOf (roots.flatMap (renamingsIn shelf replacer members))) :
    change = ⟨tree.box, tree.path, replacer.apply tree.title⟩ := by
  obtain ⟨needed, place⟩ := List.mem_filter.1 due
  obtain ⟨_, other, found, rfl⟩ := exists_of_mem_renamings needed
  obtain ⟨box, path⟩ : other.box = tree.box ∧ other.path = tree.path := by simpa using place
  rw [separate.places other (List.mem_of_find?_eq_some found) tree member box path]

section

variable
  {replacer : Replacer}
  {members otherMembers : String → List String}
  {roots otherRoots : List String}

/-- A document is rewritten to the same in any order. -/
theorem rewritten_of_perm
    (sameRoots : roots.Perm otherRoots)
    (sameMembers : ∀ rootId, (members rootId).Perm (otherMembers rootId))
    (tree : Tree) :
    rewritten replacer members roots tree = rewritten replacer otherMembers otherRoots tree := by
  rw [rewritten, rewritten, Tree.tree_rewriteBlocks, Tree.tree_rewriteBlocks,
    Tree.foldl_rewriteNode_of_perm replacer tree (tree.walked_perm (sameMembers tree.id))]
  simp only [sameRoots.mem_iff]

theorem renamingsIn_perm
    (replacer : Replacer)
    (shelf : Shelf)
    (sameRoots : roots.Perm otherRoots)
    (sameMembers : ∀ rootId, (members rootId).Perm (otherMembers rootId)) :
    (roots.flatMap (renamingsIn shelf replacer members)).Perm
      (otherRoots.flatMap (renamingsIn shelf replacer otherMembers)) := by
  refine sameRoots.flatMap fun rootId _ => ?_
  rw [renamingsIn, renamingsIn]
  cases shelf.find? rootId with
  | none => rfl
  | some tree => exact ((sameMembers rootId).filterMap _).map _

/-- A document needs the same renamings in any order. -/
theorem changesOf_of_perm
    (separate : shelf.Separate)
    (sameRoots : roots.Perm otherRoots)
    (sameMembers : ∀ rootId, (members rootId).Perm (otherMembers rootId))
    {tree : Tree}
    (member : tree ∈ shelf.trees) :
    tree.changesOf (roots.flatMap (renamingsIn shelf replacer members)) =
      tree.changesOf (otherRoots.flatMap (renamingsIn shelf replacer otherMembers)) := by
  have perm : (tree.changesOf (roots.flatMap (renamingsIn shelf replacer members))).Perm
      (tree.changesOf (otherRoots.flatMap (renamingsIn shelf replacer otherMembers))) :=
    (renamingsIn_perm replacer shelf sameRoots sameMembers).filter _
  let change : Renaming := ⟨tree.box, tree.path, replacer.apply tree.title⟩
  calc tree.changesOf (roots.flatMap (renamingsIn shelf replacer members))
    _ = List.replicate _ change :=
        List.eq_replicate_of_mem fun _ due => eq_of_mem_changesOf separate member due
    _ = List.replicate _ change := by rw [perm.length_eq]
    _ = tree.changesOf (otherRoots.flatMap (renamingsIn shelf replacer otherMembers)) :=
        (List.eq_replicate_of_mem fun _ due => eq_of_mem_changesOf separate member due).symm

/-- A document is the same after a batch in any order. -/
theorem renamed_rewritten_of_perm
    (separate : shelf.Separate)
    (sameRoots : roots.Perm otherRoots)
    (sameMembers : ∀ rootId, (members rootId).Perm (otherMembers rootId))
    {tree : Tree}
    (member : tree ∈ shelf.trees) :
    (rewritten replacer members roots tree).renamed
        (roots.flatMap (renamingsIn shelf replacer members)) =
      (rewritten replacer otherMembers otherRoots tree).renamed
        (otherRoots.flatMap (renamingsIn shelf replacer otherMembers)) := by
  have reworded := reworded_rewritten replacer otherMembers otherRoots tree
  have changes := Tree.changesOf_congr reworded.box_eq reworded.path_eq
  rw [rewritten_of_perm sameRoots sameMembers, Tree.renamed, Tree.renamed, changes, changes,
    changesOf_of_perm separate sameRoots sameMembers member]

end

/--
A replacement over documents in memory comes to the same in whatever order the blocks are
named. Every document is the same afterwards and has been written as often, the summary is
the same, and so is all else that the engine holds. The blocks must have records, their
documents must be there and must be writable, and no two documents may lie in the same place,
since a document is renamed by its place.
-/
theorem replace_of_perm
    {engine : Engine}
    (kept : engine.library = .memory shelf)
    (ids : (shelf.trees.map (·.id)).Nodup)
    (places : (shelf.trees.map fun tree => (tree.box, tree.path)).Nodup)
    {request : Replacement}
    {replacer : Replacer}
    (supported :
      Replacer.ofMethod? request.keyword request.replacement request.method = some replacer)
    (recorded : ∀ id ∈ request.ids, engine.store.find? id ≠ none)
    (accepts : ∀ rootId ∈ engine.store.rootsOf request.ids, shelf.Accepts rootId)
    {others : List String}
    (perm : request.ids.Perm others) :
    ∃ (summary : ReplacementSummary) (final : Engine) (left right : Shelf),
      engine.replace request = (.ok summary, { final with library := .memory left }) ∧
      engine.replace { request with ids := others } =
        (.ok summary, { final with library := .memory right }) ∧
      ∀ id, left.find? id = right.find? id ∧ left.writeCount id = right.writeCount id := by
  by_cases same : request.keyword = request.replacement
  · have skipped : ∀ ids, engine.replace { request with ids } =
        (.ok {}, { engine.wait with library := .memory shelf }) := by
      intro ids
      rw [← kept]
      exact replace_of_same supported same
    exact ⟨{}, engine.wait, shelf, shelf, skipped request.ids, skipped others,
      fun _ => ⟨rfl, rfl⟩⟩
  · have separate := Shelf.Separate.of_nodup ids places
    have sameIds : (distinct request.ids).Perm (distinct others) := distinct_perm perm
    have sameRoots : (engine.store.rootsOf request.ids).Perm (engine.store.rootsOf others) :=
      distinct_perm (perm.filterMap _)
    have sameMembers : ∀ rootId, (engine.store.membersOf (distinct request.ids) rootId).Perm
        (engine.store.membersOf (distinct others) rootId) := fun rootId => sameIds.filter _
    have recordedOthers : ∀ id ∈ others, engine.store.find? id ≠ none :=
      fun id member => recorded id (perm.mem_iff.2 member)
    have acceptsOthers : ∀ rootId ∈ engine.store.rootsOf others, shelf.Accepts rootId :=
      fun rootId member => accepts rootId (sameRoots.mem_iff.2 member)
    have keptWaiting : engine.wait.library = .memory shelf := kept
    obtain ⟨left, leftRun, leftWrites, leftFound⟩ := replaceGroups_of_separate keptWaiting replacer
      separate (engine.store.nodup_rootsOf request.ids) accepts
      (engine.store.membersOf (distinct request.ids)) (1 < (distinct request.ids).length)
    obtain ⟨right, rightRun, rightWrites, rightFound⟩ := replaceGroups_of_separate keptWaiting
      replacer separate (engine.store.nodup_rootsOf others) acceptsOthers
      (engine.store.membersOf (distinct others)) (1 < (distinct others).length)
    have renamings := renamingsIn_perm replacer shelf sameRoots sameMembers
    rw [← replace_of_recorded supported same recorded] at leftRun
    rw [← @replace_of_recorded engine { request with ids := others } replacer supported same
      recordedOthers, ← sameRoots.length_eq, ← renamings.length_eq, ← sameIds.length_eq] at rightRun
    refine ⟨_, _, left, right, leftRun, rightRun, fun id => ⟨?_, ?_⟩⟩
    · rw [leftFound, rightFound]
      cases found : shelf.find? id with
      | none => rfl
      | some tree =>
          rw [Option.map_some, Option.map_some, renamed_rewritten_of_perm separate sameRoots
            sameMembers (List.mem_of_find?_eq_some found)]
    · rw [Shelf.writeCount, Shelf.writeCount, leftWrites, rightWrites,
        (sameRoots.append_left shelf.writes).count_eq]

/-- A document and its paragraph are named in either order, before or behind another document. -/
theorem replace_of_perm_with_new_title :
    let first := (((Tree.new "d" "box" "/d.sy" "/a").setTitle "a").appendNew 0 .paragraph
      (some "p")).appendNew 1 (.text "a") none
    let second := (Tree.new "e" "box" "/e.sy" "/E").appendNew 0 (.codeBlock "" "a") (some "q")
    let shelf : Shelf := { trees := [first, second] }
    let engine : Engine :=
      { store :=
          { blocks := [{ id := "d", rootId := "d" }, { id := "p", rootId := "d" },
              { id := "q", rootId := "e" }] }
        library := .memory shelf }
    let request : Replacement := { keyword := "a", replacement := "ba", ids := ["d", "p", "q"] }
    engine.library = .memory shelf ∧
      (shelf.trees.map (·.id)).Nodup ∧
      (shelf.trees.map fun tree => (tree.box, tree.path)).Nodup ∧
      Replacer.ofMethod? request.keyword request.replacement request.method =
        some (.literal "a".toList "ba".toList) ∧
      (∀ id ∈ request.ids, engine.store.find? id ≠ none) ∧
      (∀ rootId ∈ engine.store.rootsOf request.ids, shelf.Accepts rootId) ∧
      request.ids.Perm ["q", "p", "d"] ∧
      ∃ (summary : ReplacementSummary) (final : Engine) (left right : Shelf),
        engine.replace request = (.ok summary, { final with library := .memory left }) ∧
        engine.replace { request with ids := ["q", "p", "d"] } =
          (.ok summary, { final with library := .memory right }) ∧
        ∀ id, left.find? id = right.find? id ∧ left.writeCount id = right.writeCount id := by
  intro first second shelf engine request
  have ids : (shelf.trees.map (·.id)).Nodup := by decide
  have places : (shelf.trees.map fun tree => (tree.box, tree.path)).Nodup := by decide
  have recorded : ∀ id ∈ request.ids, engine.store.find? id ≠ none := by decide
  have roots : engine.store.rootsOf request.ids = ["d", "e"] := by decide
  have accepts : ∀ rootId ∈ engine.store.rootsOf request.ids, shelf.Accepts rootId := by
    intro rootId member
    rw [roots, List.mem_cons, List.mem_singleton] at member
    rcases member with rfl | rfl
    · exact ⟨by decide, by decide⟩
    · exact ⟨by decide, by decide⟩
  have perm : request.ids.Perm ["q", "p", "d"] := by decide
  exact ⟨rfl, ids, places, rfl, recorded, accepts, perm,
    @replace_of_perm shelf engine rfl ids places request _ rfl recorded accepts _ perm⟩

end Engine
end BlockSearch
