import BlockSearch.Proofs.Library.Update

/-!
# Documents found by their paths

A document is renamed by its notebook and path. When every document of a library is the one
that is found for its own notebook and path, this stays so however documents are written and
renamed, because neither moves a document.
-/

namespace BlockSearch
/-! ## Shelves -/

namespace Shelf

/-- Documents with the same identifier are the same, and so are documents in the same place. -/
structure Separate (shelf : Shelf) : Prop where
  /-- No identifier belongs to two documents. -/
  ids : ∀ left ∈ shelf.trees, ∀ right ∈ shelf.trees, left.id = right.id → left = right
  /-- No place belongs to two documents. -/
  places : ∀ left ∈ shelf.trees, ∀ right ∈ shelf.trees,
    left.box = right.box → left.path = right.path → left = right

namespace Separate

variable {shelf : Shelf}

theorem of_nodup
    (ids : (shelf.trees.map (·.id)).Nodup)
    (places : (shelf.trees.map fun tree => (tree.box, tree.path)).Nodup) :
    shelf.Separate where
  ids _ left _ right same := List.inj_on_of_nodup_map ids left right same
  places _ left _ right box path :=
    List.inj_on_of_nodup_map places left right (Prod.ext box path)

theorem find?_eq_some
    (separate : shelf.Separate)
    {tree : Tree}
    (member : tree ∈ shelf.trees) :
    shelf.find? tree.id = some tree :=
  Lists.find?_eq_some_of_unique member (by simp) fun other otherMember same =>
    separate.ids other otherMember tree member (by simpa using same)

/-- A document is the only one in its place. -/
theorem find?_place_eq_some
    (separate : shelf.Separate)
    {tree : Tree}
    (member : tree ∈ shelf.trees) :
    (shelf.trees.find? fun other => other.box == tree.box && other.path == tree.path) =
      some tree := by
  refine Lists.find?_eq_some_of_unique member (by simp) fun other otherMember same => ?_
  obtain ⟨box, path⟩ : other.box = tree.box ∧ other.path = tree.path := by simpa using same
  exact separate.places other otherMember tree member box path

/-- A document that stays in its place keeps the others apart. -/
theorem put
    (separate : shelf.Separate)
    {tree new : Tree}
    (member : tree ∈ shelf.trees)
    (id : new.id = tree.id)
    (box : new.box = tree.box)
    (path : new.path = tree.path) :
    (shelf.put new).Separate := by
  have members : ∀ {other}, other ∈ (shelf.put new).trees →
      (other ∈ shelf.trees ∧ other.id ≠ new.id) ∨ other = new := mem_put.1
  -- No document that was there before lies where the new one does.
  have apart : ∀ {other}, other ∈ shelf.trees → other.id ≠ new.id →
      ¬ (other.box = new.box ∧ other.path = new.path) := by
    rintro other old different ⟨sameBox, samePath⟩
    have same := separate.places other old tree member (sameBox.trans box) (samePath.trans path)
    exact different (same ▸ id.symm)
  constructor
  · intro left leftMember right rightMember same
    rcases members leftMember with ⟨leftOld, leftDifferent⟩ | rfl
    · rcases members rightMember with ⟨rightOld, _⟩ | rfl
      · exact separate.ids left leftOld right rightOld same
      · exact absurd same leftDifferent
    · rcases members rightMember with ⟨_, rightDifferent⟩ | rfl
      · exact absurd same.symm rightDifferent
      · rfl
  · intro left leftMember right rightMember sameBox samePath
    rcases members leftMember with ⟨leftOld, leftDifferent⟩ | rfl
    · rcases members rightMember with ⟨rightOld, _⟩ | rfl
      · exact separate.places left leftOld right rightOld sameBox samePath
      · exact absurd ⟨sameBox, samePath⟩ (apart leftOld leftDifferent)
    · rcases members rightMember with ⟨rightOld, rightDifferent⟩ | rfl
      · exact absurd ⟨sameBox.symm, samePath.symm⟩ (apart rightOld rightDifferent)
      · rfl

end Separate
end Shelf

/-! ## Libraries -/

namespace Library

/-- Every document is the one that is renamed for its own notebook and path. -/
def Resolves (library : Library) : Prop :=
  ∀ id tree, library.load id = .ok tree → library.target? tree.box tree.path = some tree

/-- Documents of a shelf in the same place are the same. -/
theorem Resolves.separate
    {shelf : Shelf}
    (sound : Sound (.memory shelf))
    (resolves : Resolves (.memory shelf)) :
    shelf.Separate where
  ids _ left _ right same := List.inj_on_of_nodup_map sound.1 left right same
  places left leftMember right rightMember box path := by
    have found := resolves left.id left
      (load_memory_eq_ok_iff.2 (Shelf.find?_of_mem sound.1 leftMember))
    have foundRight := resolves right.id right
      (load_memory_eq_ok_iff.2 (Shelf.find?_of_mem sound.1 rightMember))
    rw [← box, ← path, found] at foundRight
    exact Option.some.inj foundRight

theorem resolves_of_separate
    {shelf : Shelf}
    (separate : shelf.Separate) :
    Resolves (.memory shelf) := fun _ _ loaded =>
  separate.find?_place_eq_some (List.mem_of_find?_eq_some (load_memory_eq_ok_iff.1 loaded))

/-- A document in a file is found in the place of the one with its identifier. -/
theorem Resolves.files
    {folder written : Folder}
    (resolves : Resolves (.files folder))
    {new : Tree}
    (place : ∀ id tree, folder.load id = .ok tree → tree.id = new.id →
      new.box = tree.box ∧ new.path = tree.path)
    (loads : ∀ id, written.load id = (folder.load id).map new.overwrite) :
    Resolves (.files written) := by
  intro id later loaded
  have source : ∃ tree, folder.load id = .ok tree ∧ new.overwrite tree = later := by
    have result : written.load id = .ok later := loaded
    rw [loads] at result
    cases before : folder.load id with
    | error error =>
        rw [before] at result
        contradiction
    | ok tree =>
        rw [before] at result
        exact ⟨tree, rfl, Except.ok.inj result⟩
  obtain ⟨tree, before, rfl⟩ := source
  have samePath : (new.overwrite tree).path = tree.path := by
    rw [Tree.overwrite]
    split_ifs with same
    · exact (place id tree before same).2
    · rfl
  obtain ⟨stem, stemOf, loadedStem⟩ := target?_files_eq_some_iff.1 (resolves id tree before)
  refine target?_files_eq_some_iff.2 ⟨stem, samePath ▸ stemOf, ?_⟩
  rw [loads, loadedStem]
  rfl

/-- Writing a document that stays in its place. -/
theorem Resolves.write
    {library written : Library}
    (sound : library.Sound)
    (resolves : library.Resolves)
    {id : String}
    {tree new : Tree}
    (loaded : library.load id = .ok tree)
    (replaces : new.Replaces tree)
    (box : new.box = tree.box)
    (path : new.path = tree.path)
    (wrote : library.write new = .ok written) :
    written.Resolves := by
  cases library with
  | memory shelf =>
      have member : tree ∈ shelf.trees :=
        List.mem_of_find?_eq_some (load_memory_eq_ok_iff.1 loaded)
      rw [Library.write, Shelf.write] at wrote
      split_ifs at wrote
      · contradiction
      · cases wrote
        exact resolves_of_separate
          (@Shelf.Separate.put { shelf with writes := shelf.writes ++ [new.id] }
            (resolves.separate sound) tree new member replaces.id box path)
  | files folder =>
      rw [Library.write] at wrote
      cases result : folder.write new with
      | error error =>
          rw [result] at wrote
          contradiction
      | ok rewritten =>
          rw [result] at wrote
          cases wrote
          refine resolves.files (fun other third otherLoaded same => ?_)
            (sound.writeFile loaded replaces result).2
          rw [sound.eq_of_id otherLoaded loaded (same.trans replaces.id)]
          exact ⟨box, path⟩

/-- Renaming moves no document. -/
theorem Resolves.rename
    {library renamed : Library}
    (sound : library.Sound)
    (resolves : library.Resolves)
    {box path title : String}
    (renames : library.rename box path title = .ok renamed) :
    renamed.Resolves := by
  cases library with
  | memory shelf =>
      rw [Library.rename, Shelf.rename] at renames
      split at renames
      · rename_i tree found
        cases renames
        exact resolves_of_separate
          ((resolves.separate sound).put (List.mem_of_find?_eq_some found) rfl rfl rfl)
      · contradiction
  | files folder =>
      rw [Library.rename, Folder.rename] at renames
      split at renames
      · rename_i id stem
        cases loaded : folder.load id with
        | error error =>
            rw [loaded] at renames
            contradiction
        | ok tree =>
            rw [loaded] at renames
            have wrote : Library.write (.files folder) (tree.retitle title) = .ok renamed := renames
            exact resolves.write sound loaded (tree.replaces_retitle title) rfl rfl wrote
      · contradiction

end Library
end BlockSearch
