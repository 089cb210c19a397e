import BlockSearch.Proofs.Library.Target
import BlockSearch.Proofs.Replace.Walks

/-!
# Libraries after a replacement

However a replacement ends, it moves no document and no block, and the only documents that it
has changed are those that it was to look in. A document with a new title is among these,
because its path leads to itself.
-/

namespace BlockSearch

/-! ## Documents -/

namespace Tree

/--
A document with other texts or another title: it lies where it lay, and so do its nodes. Those
that are blocks stay blocks, and they keep their identifiers.
-/
structure Revised (tree other : Tree) : Prop where
  /-- The identifier of the document stays. -/
  id : other.id = tree.id
  /-- The notebook stays. -/
  box : other.box = tree.box
  /-- The path stays. -/
  path : other.path = tree.path
  /-- All links stay. -/
  links : SameLinks tree other
  /-- All identifiers stay. -/
  ids : ∀ i, (other.node i).id = (tree.node i).id
  /-- Blocks stay blocks, and no other node becomes one. -/
  block : ∀ i, (other.kind i).isBlock = (tree.kind i).isBlock

namespace Revised

variable {tree other third : Tree}

theorem refl (tree : Tree) : Revised tree tree :=
  ⟨rfl, rfl, rfl, .refl tree, fun _ => rfl, fun _ => rfl⟩

theorem trans
    (first : Revised tree other)
    (second : Revised other third) :
    Revised tree third where
  id := second.id.trans first.id
  box := second.box.trans first.box
  path := second.path.trans first.path
  links := first.links.trans second.links
  ids i := (second.ids i).trans (first.ids i)
  block i := (second.block i).trans (first.block i)

/-- The blocks keep their identifiers and their order. -/
theorem blockIds
    (revised : Revised tree other) :
    other.blockIds = tree.blockIds := by
  rw [Tree.blockIds, Tree.blockIds, revised.links.descendants]
  apply List.filterMap_congr
  intro i _
  rw [blockId?, blockId?, revised.block, revised.ids]

end Revised

theorem isBlock_rewrite
    (replacer : Replacer)
    (kind : Kind) :
    (replacer.rewrite kind).isBlock = kind.isBlock := by
  cases kind <;> rfl

theorem revised_rewriteNode
    (replacer : Replacer)
    (tree : Tree)
    (i : NodeId) :
    Revised tree (rewriteNode replacer tree i) where
  id := rfl
  box := rfl
  path := rfl
  links := (reworded_rewriteNode replacer tree i).links
  ids := (reworded_rewriteNode replacer tree i).ids
  block j := by
    rw [kind_rewriteNode]
    split_ifs
    · exact isBlock_rewrite replacer _
    · rfl

theorem revised_foldl_rewriteNode
    (replacer : Replacer)
    (tree : Tree)
    (nodes : List NodeId) :
    Revised tree (nodes.foldl (rewriteNode replacer) tree) := by
  induction nodes generalizing tree with
  | nil => exact .refl tree
  | cons i nodes inductionHypothesis =>
      exact (revised_rewriteNode replacer tree i).trans (inductionHypothesis _)

theorem revised_rewriteBlocks
    (tree : Tree)
    (replacer : Replacer)
    (ids : List String) :
    Revised tree (tree.rewriteBlocks replacer ids).tree := by
  rw [tree_rewriteBlocks]
  exact revised_foldl_rewriteNode _ _ _

theorem revised_retitle
    (tree : Tree)
    (title : String) :
    Revised tree (tree.retitle title) where
  id := rfl
  box := rfl
  path := rfl
  links := tree.sameLinks_retitle title
  ids := (tree.retitled_retitle title).ids
  block i := by rw [kind_retitle]

end Tree

/-! ## Libraries -/

namespace Library

/-- A library in which the documents under some identifiers may have been revised. -/
structure Revision (library written : Library) (roots : List String) : Prop where
  /-- Documents lie where their identifiers say. -/
  sound : written.Sound
  /-- Every document is found by its path. -/
  resolves : written.Resolves
  /-- No document is lost, and only those under the identifiers have changed. -/
  keeps : ∀ id tree, library.load id = .ok tree →
    ∃ new, written.load id = .ok new ∧ tree.Revised new ∧
      ((∀ rootId ∈ roots, library.idOf? rootId ≠ some tree.id) → new = tree)
  /-- There are no new documents. -/
  origin : ∀ id new, written.load id = .ok new → ∃ tree, library.load id = .ok tree

namespace Revision

variable {library written third : Library} {roots : List String}

theorem refl
    (sound : library.Sound)
    (resolves : library.Resolves)
    (roots : List String) :
    Revision library library roots where
  sound := sound
  resolves := resolves
  keeps _ tree loaded := ⟨tree, loaded, .refl tree, fun _ => rfl⟩
  origin _ tree loaded := ⟨tree, loaded⟩

/-- The same identifiers lead to the same documents. -/
theorem idOf?_eq
    (revision : Revision library written roots) :
    written.idOf? = library.idOf? := by
  funext id
  cases loaded : library.load id with
  | ok tree =>
      obtain ⟨new, loadedNew, revised, _⟩ := revision.keeps id tree loaded
      rw [idOf?_of_load loadedNew, idOf?_of_load loaded, revised.id]
  | error error =>
      cases later : written.load id with
      | ok new =>
          obtain ⟨tree, before⟩ := revision.origin id new later
          rw [loaded] at before
          contradiction
      | error other => rw [idOf?, idOf?, loaded, later]; rfl

theorem trans
    (first : Revision library written roots)
    (second : Revision written third roots) :
    Revision library third roots where
  sound := second.sound
  resolves := second.resolves
  keeps id tree loaded := by
    obtain ⟨middle, loadedMiddle, revised, same⟩ := first.keeps id tree loaded
    obtain ⟨new, loadedNew, revisedNew, sameNew⟩ := second.keeps id middle loadedMiddle
    refine ⟨new, loadedNew, revised.trans revisedNew, fun untouched => ?_⟩
    rw [sameNew, same untouched]
    rw [first.idOf?_eq, same untouched]
    exact untouched
  origin id new loaded := by
    obtain ⟨middle, loadedMiddle⟩ := second.origin id new loaded
    exact first.origin id middle loadedMiddle

/-- One revised document in the place of the one under an identifier. -/
theorem of_overwrite
    (sound : library.Sound)
    (soundLater : written.Sound)
    (resolves : written.Resolves)
    {rootId : String}
    (listed : rootId ∈ roots)
    {id : String}
    {tree new : Tree}
    (loaded : library.load id = .ok tree)
    (root : library.idOf? rootId = some tree.id)
    (revised : tree.Revised new)
    (loads : ∀ other, written.load other = (library.load other).map new.overwrite) :
    Revision library written roots where
  sound := soundLater
  resolves := resolves
  keeps other third otherLoaded := by
    have result := loads other
    rw [otherLoaded] at result
    refine ⟨new.overwrite third, result, ?_⟩
    rw [Tree.overwrite]
    split_ifs with same
    · have equal := sound.eq_of_id otherLoaded loaded (same.trans revised.id)
      subst equal
      exact ⟨revised, fun untouched => absurd root (untouched rootId listed)⟩
    · exact ⟨.refl third, fun _ => rfl⟩
  origin other later otherLoaded := by
    rw [loads] at otherLoaded
    cases before : library.load other with
    | ok tree => exact ⟨tree, rfl⟩
    | error error =>
        rw [before] at otherLoaded
        contradiction

end Revision
end Library

/-! ## Batches -/

namespace Engine

/-- A renaming of a document under one of some identifiers. -/
def Due (library : Library) (roots : List String) (change : Renaming) : Prop :=
  ∃ rootId ∈ roots, ∃ tree, library.load rootId = .ok tree ∧
    tree.box = change.box ∧ tree.path = change.path

/-- A renaming stays due, because no document moves. -/
theorem Due.revised
    {library written : Library}
    {roots : List String}
    {change : Renaming}
    (due : Due library roots change)
    (revision : library.Revision written roots) :
    Due written roots change := by
  obtain ⟨rootId, listed, tree, loaded, box, path⟩ := due
  obtain ⟨new, loadedNew, revised, _⟩ := revision.keeps rootId tree loaded
  exact ⟨rootId, listed, new, loadedNew, revised.box.trans box, revised.path.trans path⟩

/-- One document that has been rewritten. -/
theorem revision_rewriteDocument
    {replacer : Replacer}
    {library written : Library}
    {roots ids : List String}
    {rootId : String}
    {renamings : List Renaming}
    (sound : library.Sound)
    (resolves : library.Resolves)
    (listed : rootId ∈ roots)
    (done : rewriteDocument replacer library rootId ids = .ok (written, renamings)) :
    library.Revision written roots ∧ ∀ change ∈ renamings, Due written roots change := by
  unfold rewriteDocument at done
  cases loaded : library.load rootId with
  | error error =>
      rw [loaded] at done
      contradiction
  | ok tree =>
      simp only [loaded] at done
      cases wrote : library.write (tree.rewriteBlocks replacer ids).tree with
      | error error =>
          rw [wrote] at done
          contradiction
      | ok next =>
          rw [wrote] at done
          obtain ⟨rfl, rfl⟩ := Prod.mk.inj (Except.ok.inj done)
          have replaces := Tree.replaces_of_reworded (tree.reworded_rewriteBlocks replacer ids)
          have revised := tree.revised_rewriteBlocks replacer ids
          obtain ⟨soundLater, loads⟩ := sound.write loaded replaces wrote
          have revision : library.Revision next roots :=
            .of_overwrite sound soundLater
              (resolves.write sound loaded replaces revised.box revised.path wrote) listed loaded
              (Library.idOf?_of_load loaded) revised loads
          refine ⟨revision, fun change member => Due.revised ?_ revision⟩
          obtain ⟨title, _, rfl⟩ := List.mem_map.1 member
          exact ⟨rootId, listed, tree, loaded, rfl, rfl⟩

/-- However far a batch comes, it has revised documents under its identifiers only. -/
theorem revision_rewriteDocuments
    {replacer : Replacer}
    {roots : List String}
    {groups : List (String × List String)}
    (listed : ∀ group ∈ groups, group.1 ∈ roots)
    {progress : Progress}
    (sound : progress.library.Sound)
    (resolves : progress.library.Resolves)
    (due : ∀ change ∈ progress.renamings, Due progress.library roots change) :
    progress.library.Revision (rewriteDocuments replacer progress groups).2.library roots ∧
      ∀ change ∈ (rewriteDocuments replacer progress groups).2.renamings,
        Due (rewriteDocuments replacer progress groups).2.library roots change := by
  induction groups generalizing progress with
  | nil => exact ⟨.refl sound resolves roots, due⟩
  | cons group groups inductionHypothesis =>
      rw [List.forall_mem_cons] at listed
      obtain ⟨rootId, ids⟩ := group
      rw [rewriteDocuments]
      cases done : rewriteDocument replacer progress.library rootId ids with
      | error error => exact ⟨.refl sound resolves roots, due⟩
      | ok result =>
          obtain ⟨next, renamings⟩ := result
          obtain ⟨revision, dueNew⟩ := revision_rewriteDocument sound resolves listed.1 done
          -- What was due before this document was written is still due, as none has moved.
          have dueAll : ∀ change ∈ progress.renamings ++ renamings,
              Due next roots change := by
            intro change member
            rcases List.mem_append.1 member with earlier | new
            · exact (due change earlier).revised revision
            · exact dueNew change new
          obtain ⟨later, dueLater⟩ := @inductionHypothesis listed.2
            ⟨next, progress.renamings ++ renamings, progress.written + 1⟩ revision.sound
            revision.resolves dueAll
          exact ⟨revision.trans later, dueLater⟩

/-- Renamings that are due revise documents under the identifiers only. -/
theorem revision_renameAll
    {roots : List String}
    {renamings : List Renaming}
    {library : Library}
    (sound : library.Sound)
    (resolves : library.Resolves)
    (due : ∀ change ∈ renamings, Due library roots change) :
    library.Revision (renameAll library renamings).1 roots := by
  induction renamings generalizing library with
  | nil => exact .refl sound resolves roots
  | cons first renamings inductionHypothesis =>
      rw [List.forall_mem_cons] at due
      rw [renameAll]
      cases renamed : library.rename first.box first.path first.title with
      | error error => exact inductionHypothesis sound resolves due.2
      | ok next =>
          obtain ⟨soundNext, id, tree, loaded, target, loads⟩ := sound.rename renamed
          obtain ⟨rootId, listed, third, loadedThird, box, path⟩ := due.1
          -- The path leads back to the document that the renaming came from.
          have own := resolves rootId third loadedThird
          rw [box, path, target] at own
          obtain rfl := Option.some.inj own
          have revision : library.Revision next roots :=
            .of_overwrite sound soundNext (resolves.rename sound renamed) listed loaded
              (Library.idOf?_of_load loadedThird) (tree.revised_retitle first.title) loads
          exact revision.trans (inductionHypothesis revision.sound revision.resolves
            fun change member => (due.2 change member).revised revision)

/-- However a batch with its renamings ends, it has revised documents of its groups only. -/
theorem revision_replaceGroups
    {engine : Engine}
    (sound : engine.library.Sound)
    (resolves : engine.library.Resolves)
    (replacer : Replacer)
    {roots : List String}
    {groups : List (String × List String)}
    (listed : ∀ group ∈ groups, group.1 ∈ roots)
    (several : Bool) :
    engine.library.Revision (engine.replaceGroups replacer groups several).2.library roots ∧
      (engine.replaceGroups replacer groups several).2.store = engine.store := by
  have batch := @revision_rewriteDocuments replacer roots groups listed
    { library := engine.library } sound resolves (by simp)
  rw [replaceGroups]
  generalize rewriteDocuments replacer { library := engine.library } groups = outcome at batch ⊢
  obtain ⟨result, progress⟩ := outcome
  obtain ⟨revision, due⟩ := batch
  cases result with
  | error error => exact ⟨revision, rfl⟩
  | ok _ =>
      have later := revision_renameAll revision.sound revision.resolves due
      cases several with
      | false => exact ⟨revision.trans later, rfl⟩
      | true => exact ⟨revision.trans later, rfl⟩

/-- However a replacement ends, it has revised the documents of its blocks only. -/
theorem revision_replace
    {engine : Engine}
    (sound : engine.library.Sound)
    (resolves : engine.library.Resolves)
    (request : Replacement) :
    engine.library.Revision (engine.replace request).2.library
        (engine.store.rootsOf request.ids) ∧
      (engine.replace request).2.store = engine.store := by
  have unchanged := Library.Revision.refl sound resolves (engine.store.rootsOf request.ids)
  cases supported :
      Replacer.ofMethod? request.keyword request.replacement request.method with
  | none =>
      rw [replace, supported]
      exact ⟨unchanged, rfl⟩
  | some replacer =>
      by_cases different : request.keyword = request.replacement
      · rw [replace, supported]
        simp only [if_pos different]
        exact ⟨unchanged, rfl⟩
      by_cases recorded : ∀ id ∈ request.ids, engine.store.find? id ≠ none
      · rw [replace_of_recorded supported different recorded]
        refine @revision_replaceGroups engine.wait sound resolves replacer _ _
          (fun group member => ?_) _
        obtain ⟨rootId, listed, rfl⟩ := List.mem_map.1 member
        exact listed
      · push Not at recorded
        obtain ⟨_, _, _, outcome⟩ := replace_of_not_recorded supported different recorded
        rw [outcome]
        exact ⟨unchanged, rfl⟩

end Engine
end BlockSearch
