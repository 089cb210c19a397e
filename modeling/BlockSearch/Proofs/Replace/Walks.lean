import BlockSearch.Proofs.Library.Update
import BlockSearch.Proofs.Replace.Groups
import BlockSearch.Proofs.Replace.Rewriting

/-!
# Walks over documents

A replacement that ends well has rewritten every document along its walks over the blocks in
it, one walk after the other, and has given some documents other titles. Documents that it
does not walk over are loaded as before.
-/

namespace BlockSearch

/-! ## Documents -/

namespace Library

/-- The identifier of the document that is loaded under an identifier. -/
def idOf? (library : Library) (rootId : String) : Option String :=
  ((library.load rootId).toOption).map (·.id)

theorem idOf?_of_load
    {library : Library}
    {id : String}
    {tree : Tree}
    (loaded : library.load id = .ok tree) :
    library.idOf? id = some tree.id := by
  rw [idOf?, loaded]
  rfl

/-- Documents that take the place of others keep the identifiers. -/
theorem idOf?_of_overwrite
    {library written : Library}
    {new : Tree}
    (loads : ∀ id, written.load id = (library.load id).map new.overwrite) :
    written.idOf? = library.idOf? := by
  funext id
  rw [idOf?, idOf?, loads]
  cases library.load id with
  | error error => rfl
  | ok tree =>
      have same : (new.overwrite tree).id = tree.id := by
        rw [Tree.overwrite]
        split_ifs with same
        · exact same.symm
        · rfl
      exact congrArg some same

end Library

namespace Tree

theorem replaces_of_reworded
    {tree other : Tree}
    (reworded : Reworded tree other) :
    Replaces other tree := by
  refine ⟨reworded.id_eq, reworded.links.isForest, fun stored => ?_⟩
  exact stored.of_sameLinks reworded.links reworded.id_eq (reworded.ids root)
    ((reworded.document root).2 stored.document) fun i _ => reworded.attributes i

/-- A document with another title: its nodes are what and where they were. -/
structure Retitled (tree other : Tree) : Prop where
  /-- All links stay. -/
  links : SameLinks tree other
  /-- All kinds stay. -/
  kind : ∀ i, other.kind i = tree.kind i
  /-- All identifiers stay. -/
  ids : ∀ i, (other.node i).id = (tree.node i).id

theorem Retitled.refl (tree : Tree) : Retitled tree tree := ⟨.refl tree, fun _ => rfl, fun _ => rfl⟩

theorem Retitled.trans
    {tree other third : Tree}
    (first : Retitled tree other)
    (second : Retitled other third) :
    Retitled tree third where
  links := first.links.trans second.links
  kind i := (second.kind i).trans (first.kind i)
  ids i := (second.ids i).trans (first.ids i)

theorem retitled_retitle
    (tree : Tree)
    (title : String) :
    Retitled tree (tree.retitle title) where
  links := tree.sameLinks_retitle title
  kind := tree.kind_retitle title
  ids := field_modify Node.id (by intro node; rfl) tree root

end Tree

namespace Engine

/-- The nodes of a document that a batch walks over, once for every walk. -/
def walkedIn
    (library : Library)
    (members : String → List String)
    (roots : List String)
    (tree : Tree) : List NodeId :=
  roots.flatMap fun rootId =>
    if library.idOf? rootId = some tree.id then tree.walked (members rootId) else []

theorem walkedIn_cons
    (library : Library)
    (members : String → List String)
    (rootId : String)
    (roots : List String)
    (tree : Tree) :
    walkedIn library members (rootId :: roots) tree =
      (if library.idOf? rootId = some tree.id then tree.walked (members rootId) else []) ++
        walkedIn library members roots tree := List.flatMap_cons

theorem walkedIn_congr
    {library written : Library}
    (ids : written.idOf? = library.idOf?)
    (members : String → List String)
    (roots : List String)
    {tree other : Tree}
    (reworded : Tree.Reworded tree other) :
    walkedIn written members roots other = walkedIn library members roots tree := by
  rw [walkedIn, walkedIn, ids, reworded.id_eq]
  simp only [reworded.walked_eq]

/-- A batch that ends well has rewritten every document along its walks over it. -/
theorem rewriteDocuments_loads
    {replacer : Replacer}
    {members : String → List String}
    {roots : List String}
    {library : Library}
    {renamings : List Renaming}
    {written : Nat}
    {progress : Progress}
    (sound : library.Sound)
    (run : rewriteDocuments replacer ⟨library, renamings, written⟩
      (roots.map fun rootId => (rootId, members rootId)) = (.ok (), progress)) :
    progress.library.Sound ∧
      ∀ id tree, library.load id = .ok tree →
        progress.library.load id =
          .ok ((walkedIn library members roots tree).foldl (Tree.rewriteNode replacer) tree) := by
  induction roots generalizing library renamings written with
  | nil =>
      cases run
      exact ⟨sound, fun id tree loaded => loaded⟩
  | cons rootId roots inductionHypothesis =>
      rw [List.map_cons, rewriteDocuments, rewriteDocument] at run
      cases loadedRoot : library.load rootId with
      | error error =>
          rw [loadedRoot] at run
          cases run
      | ok first =>
          rw [loadedRoot] at run
          have reworded := first.reworded_rewriteBlocks replacer (members rootId)
          cases wrote : library.write (first.rewriteBlocks replacer (members rootId)).tree with
          | error error =>
              simp only [wrote] at run
              cases run
          | ok next =>
              simp only [wrote] at run
              obtain ⟨soundNext, loads⟩ :=
                sound.write loadedRoot (Tree.replaces_of_reworded reworded) wrote
              obtain ⟨soundLater, later⟩ := inductionHypothesis soundNext run
              refine ⟨soundLater, fun id tree loaded => ?_⟩
              have ids := Library.idOf?_of_overwrite loads
              have loadedNext := loads id
              rw [loaded] at loadedNext
              rw [later id _ loadedNext, walkedIn_cons, Library.idOf?_of_load loadedRoot,
                Tree.overwrite, reworded.id_eq]
              by_cases same : tree.id = first.id
              · have equal := sound.eq_of_id loaded loadedRoot same
                subst equal
                rw [if_pos rfl, if_pos rfl, List.foldl_append, ← Tree.tree_rewriteBlocks,
                  walkedIn_congr ids members roots reworded]
              · rw [if_neg same, if_neg (by simpa using Ne.symm same), List.nil_append,
                  walkedIn_congr ids members roots (.refl tree)]

/-- Renamings change titles only. -/
theorem renameAll_loads
    {library : Library}
    (sound : library.Sound)
    (renamings : List Renaming)
    {id : String}
    {tree : Tree}
    (loaded : library.load id = .ok tree) :
    ∃ after, (renameAll library renamings).1.load id = .ok after ∧ Tree.Retitled tree after := by
  induction renamings generalizing library tree with
  | nil => exact ⟨tree, loaded, .refl tree⟩
  | cons change renamings inductionHypothesis =>
      rw [renameAll]
      cases renamed : library.rename change.box change.path change.title with
      | error error => exact inductionHypothesis sound loaded
      | ok next =>
          obtain ⟨soundNext, other, third, otherLoaded, _, loads⟩ := sound.rename renamed
          have loadedNext := loads id
          rw [loaded] at loadedNext
          obtain ⟨after, loadedAfter, retitled⟩ := inductionHypothesis soundNext loadedNext
          refine ⟨after, loadedAfter, Tree.Retitled.trans ?_ retitled⟩
          rw [Tree.overwrite]
          split_ifs with same
          · rw [sound.eq_of_id loaded otherLoaded same]
            exact third.retitled_retitle change.title
          · exact .refl tree

/-! ## Replacements -/

/-- Only a replacement in blocks that have records ends well. -/
theorem recorded_of_replace
    {engine final : Engine}
    {request : Replacement}
    {replacer : Replacer}
    {summary : ReplacementSummary}
    (supported :
      Replacer.ofMethod? request.keyword request.replacement request.method = some replacer)
    (different : request.keyword ≠ request.replacement)
    (done : engine.replace request = (.ok summary, final)) :
    ∀ id ∈ request.ids, engine.store.find? id ≠ none := by
  by_contra missing
  push Not at missing
  obtain ⟨_, _, _, error⟩ := replace_of_not_recorded supported different missing
  rw [done] at error
  cases error

/-- A replacement that ends well has rewritten a document along its walks over it. -/
theorem replace_loads
    {engine final : Engine}
    {request : Replacement}
    {replacer : Replacer}
    {summary : ReplacementSummary}
    (sound : engine.library.Sound)
    (supported :
      Replacer.ofMethod? request.keyword request.replacement request.method = some replacer)
    (different : request.keyword ≠ request.replacement)
    (done : engine.replace request = (.ok summary, final))
    {rootId : String}
    {tree : Tree}
    (loaded : engine.library.load rootId = .ok tree) :
    ∃ after, final.library.load rootId = .ok after ∧
      Tree.Retitled
        ((walkedIn engine.library (engine.store.membersOf (distinct request.ids))
          (engine.store.rootsOf request.ids) tree).foldl (Tree.rewriteNode replacer) tree)
        after := by
  have recorded := recorded_of_replace supported different done
  rw [replace_of_recorded supported different recorded, replaceGroups] at done
  cases run : rewriteDocuments replacer { library := engine.wait.library }
      ((engine.store.rootsOf request.ids).map fun rootId =>
        (rootId, engine.store.membersOf (distinct request.ids) rootId)) with
  | mk result progress =>
      rw [run] at done
      cases result with
      | error error => cases done
      | ok _ =>
          obtain ⟨soundWritten, loads⟩ := rewriteDocuments_loads sound run
          have kept : final.library = (renameAll progress.library progress.renamings).1 := by
            simp only [Prod.mk.injEq] at done
            rw [← done.2]
            split_ifs <;> rfl
          rw [kept]
          exact renameAll_loads soundWritten progress.renamings (loads rootId tree loaded)

end Engine
end BlockSearch
