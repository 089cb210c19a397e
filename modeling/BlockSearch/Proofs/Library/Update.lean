import BlockSearch.Library.Basic
import BlockSearch.Proofs.Document.Compact
import BlockSearch.Proofs.Library.Files

/-!
# Documents of a library

When documents lie where their identifiers say, writing or renaming one of them changes what
is loaded under its identifier and under no other.
-/

namespace BlockSearch

/-! ## Documents that take the place of others -/

namespace Tree

/-- A document takes the place of another: it is as well formed, and lies in the same place. -/
structure Replaces (new tree : Tree) : Prop where
  /-- The identifier stays. -/
  id : new.id = tree.id
  /-- A forest stays one. -/
  forest : tree.IsForest → new.IsForest
  /-- A stored document stays one. -/
  stored : tree.Stored → new.Stored

/-- What a document is when another has been written. -/
def overwrite (new tree : Tree) : Tree := if tree.id = new.id then new else tree

theorem sameLinks_retitle
    (tree : Tree)
    (title : String) :
    SameLinks tree (tree.retitle title) :=
  (SameLinks.modify (by intro node; rfl) tree root).trans ⟨rfl, fun _ => rfl⟩

theorem node_retitle_of_ne
    (tree : Tree)
    (title : String)
    {i : NodeId}
    (different : i ≠ root) :
    (tree.retitle title).node i = tree.node i := by
  have same : (tree.retitle title).node i = (tree.setTitle title).node i := rfl
  rw [same, setTitle, setAttribute]
  by_cases inside : root < tree.size
  · rw [node_modify inside, if_neg different]
  · rw [modify_of_size_le (Nat.le_of_not_lt inside)]

/-- Another title changes no kind. -/
theorem kind_retitle
    (tree : Tree)
    (title : String)
    (i : NodeId) :
    (tree.retitle title).kind i = tree.kind i :=
  field_modify Node.kind (by intro node; rfl) tree root i

/-- A document with another title takes the place of the document. -/
theorem replaces_retitle
    (tree : Tree)
    (title : String) :
    Replaces (tree.retitle title) tree := by
  have same := tree.sameLinks_retitle title
  refine ⟨rfl, same.isForest, fun stored => ?_⟩
  apply stored.of_sameLinks same rfl
  · exact field_modify Node.id (by intro node; rfl) tree root root
  · rw [kind_retitle, stored.document]
  · intro i different
    rw [node_retitle_of_ne tree title different]

end Tree

/-! ## Shelves -/

namespace Shelf

theorem id_eq_of_find?
    {shelf : Shelf}
    {id : String}
    {tree : Tree}
    (found : shelf.find? id = some tree) :
    tree.id = id := by
  simpa using List.find?_some found

variable {shelf : Shelf} {tree : Tree}

/-- A document that is put in takes the place of the one with its identifier. -/
theorem trees_put_of_mem
    {old : Tree}
    (member : old ∈ shelf.trees)
    (same : old.id = tree.id) :
    (shelf.put tree).trees = shelf.trees.map tree.overwrite := by
  have present : shelf.trees.any (·.id == tree.id) = true :=
    List.any_eq_true.2 ⟨old, member, by simpa using same⟩
  rw [put]
  dsimp only
  rw [if_pos present]
  simp only [beq_iff_eq]
  rfl

/-- A document with a new identifier is put behind the others. -/
theorem trees_put_of_fresh
    (fresh : ∀ old ∈ shelf.trees, old.id ≠ tree.id) :
    (shelf.put tree).trees = shelf.trees ++ [tree] := by
  have absent : ¬ shelf.trees.any (·.id == tree.id) = true := by simpa using fresh
  rw [put]
  dsimp only
  rw [if_neg absent]

/-- An identifier belongs to a document, or it is new. -/
theorem exists_mem_or_fresh
    (shelf : Shelf)
    (id : String) :
    (∃ old ∈ shelf.trees, old.id = id) ∨ ∀ old ∈ shelf.trees, old.id ≠ id := by
  by_cases present : ∃ old ∈ shelf.trees, old.id = id
  · exact .inl present
  · exact .inr fun old member same => present ⟨old, member, same⟩

/-- A document that is put in is there, and so are those with other identifiers. -/
theorem mem_put
    {other : Tree} :
    other ∈ (shelf.put tree).trees ↔
      (other ∈ shelf.trees ∧ other.id ≠ tree.id) ∨ other = tree := by
  rcases shelf.exists_mem_or_fresh tree.id with ⟨old, member, same⟩ | fresh
  · rw [trees_put_of_mem member same, List.mem_map]
    constructor
    · rintro ⟨third, thirdMember, rfl⟩
      rw [Tree.overwrite]
      split_ifs with here
      · exact .inr rfl
      · exact .inl ⟨thirdMember, here⟩
    · rintro (⟨otherMember, different⟩ | rfl)
      · exact ⟨other, otherMember, if_neg different⟩
      · exact ⟨old, member, if_pos same⟩
  · rw [trees_put_of_fresh fresh, List.mem_append, List.mem_singleton,
      and_iff_left_of_imp (fresh other)]

/-- A document that is put in is found, and all others are what they were. -/
theorem find?_put
    (shelf : Shelf)
    (tree : Tree)
    (id : String) :
    (shelf.put tree).find? id = if id = tree.id then some tree else shelf.find? id := by
  rcases shelf.exists_mem_or_fresh tree.id with ⟨old, member, same⟩ | fresh
  · have named : ((fun other : Tree => other.id == id) ∘ tree.overwrite) =
        fun other => other.id == id := by
      funext other
      rw [Function.comp_apply, Tree.overwrite]
      split_ifs with here
      · rw [here]
      · rfl
    rw [find?, trees_put_of_mem member same, List.find?_map, named, find?]
    cases found : shelf.trees.find? fun other => other.id == id with
    | none =>
        have different : id ≠ tree.id := fun here => by
          simpa [here, same] using List.find?_eq_none.1 found old member
        rw [if_neg different, Option.map_none]
    | some other =>
        have own : other.id = id := by simpa using List.find?_some found
        rw [Option.map_some, Tree.overwrite, own]
        split_ifs <;> rfl
  · rw [find?, trees_put_of_fresh fresh, List.find?_append, find?]
    split_ifs with here
    · rw [List.find?_eq_none.2, here]
      · simp
      · intro other member
        simpa [here] using fresh other member
    · simp [Ne.symm here]

/-- A document that is put in leaves every identifier to one document. -/
theorem nodup_put
    (nodup : (shelf.trees.map (·.id)).Nodup)
    (tree : Tree) :
    ((shelf.put tree).trees.map (·.id)).Nodup := by
  rcases shelf.exists_mem_or_fresh tree.id with ⟨old, member, same⟩ | fresh
  · have ids : ((·.id) ∘ tree.overwrite) = fun other => other.id := by
      funext other
      rw [Function.comp_apply, Tree.overwrite]
      split_ifs with here
      · exact here.symm
      · rfl
    rwa [trees_put_of_mem member same, List.map_map, ids]
  · rw [trees_put_of_fresh fresh, List.map_append, List.nodup_append]
    refine ⟨nodup, by simp, ?_⟩
    rintro _ left _ right rfl
    obtain ⟨other, member, here⟩ := List.mem_map.1 left
    rw [List.map_singleton, List.mem_singleton] at right
    exact fresh other member (here.trans right)

theorem find?_of_mem
    (nodup : (shelf.trees.map (·.id)).Nodup)
    (member : tree ∈ shelf.trees) :
    shelf.find? tree.id = some tree :=
  Lists.find?_eq_some_of_unique member (by simp) fun _ otherMember same =>
    List.inj_on_of_nodup_map nodup otherMember member (by simpa using same)

end Shelf

/-! ## Folders -/

namespace Folder

/-- What is loaded has been read from the text at a location. -/
theorem load_eq_ok_iff
    {folder : Folder}
    {id : String}
    {tree : Tree} :
    folder.load id = .ok tree ↔
      ∃ location text, folder.files.location? (folder.pathOf id) = some location ∧
        folder.files.textAt? location = some text ∧ Tree.read text = .ok tree := by
  unfold load Files.read?
  constructor
  · intro loaded
    split at loaded
    · rename_i text read
      obtain ⟨location, found, textAt⟩ := Option.bind_eq_some_iff.1 read
      exact ⟨location, text, found, textAt, loaded⟩
    · contradiction
  · rintro ⟨location, text, found, textAt, read⟩
    simp only [found, Option.bind_some, textAt, read]

/-- Writing a document changes the files only. -/
theorem write_eq_ok_iff
    {folder written : Folder}
    {new : Tree} :
    folder.write new = .ok written ↔
      ∃ files, folder.files.writeDeep? (folder.pathOf new.id) new.print = some files ∧
        written = { folder with files } := by
  unfold write
  dsimp only
  cases folder.files.writeDeep? (folder.pathOf new.id) new.print <;> simp [eq_comm]

/-- A document that is written again is read from where it was. -/
theorem load_write
    {folder written : Folder}
    {new : Tree}
    {location : Location}
    (found : folder.files.location? (folder.pathOf new.id) = some location)
    (stored : new.Stored)
    (wrote : folder.write new = .ok written) :
    written.pathOf = folder.pathOf ∧ written.files.location? = folder.files.location? ∧
      ∀ other, written.load other =
        if folder.files.location? (folder.pathOf other) = some location then .ok new
        else folder.load other := by
  obtain ⟨files, writes, rfl⟩ := write_eq_ok_iff.1 wrote
  rw [((Files.writeDeep?_eq_some_iff found).1 writes).2]
  refine ⟨rfl, rfl, fun other => ?_⟩
  have samePath : pathOf { folder with files := folder.files.putText location new.print } other =
      folder.pathOf other := rfl
  unfold load Files.read?
  rw [Files.location?_putText, samePath]
  cases located : folder.files.location? (folder.pathOf other) with
  | none => simp
  | some place =>
      simp only [Option.bind_some, Files.textAt?_putText, Option.some.injEq]
      split_ifs with same
      · simp only [stored.read_eq_ok]
      · rfl

end Folder

/-! ## Libraries -/

namespace Library

/--
Documents lie where their identifiers say. In memory every identifier belongs to one document,
and the nodes of each form a forest; the file that a document is read from is the one that it
would be written to.
-/
def Sound : Library → Prop
  | .memory shelf => (shelf.trees.map (·.id)).Nodup ∧ ∀ tree ∈ shelf.trees, tree.IsForest
  | .files folder => ∀ id tree, folder.load id = .ok tree →
      folder.files.location? (folder.pathOf tree.id) = folder.files.location? (folder.pathOf id)

theorem load_memory_eq_ok_iff
    {shelf : Shelf}
    {id : String}
    {tree : Tree} :
    load (.memory shelf) id = .ok tree ↔ shelf.find? id = some tree := by
  rw [load]
  cases shelf.find? id <;> simp

/-- Documents with the same identifier are the same. -/
theorem Sound.eq_of_id
    {library : Library}
    (sound : library.Sound)
    {id other : String}
    {tree third : Tree}
    (loaded : library.load id = .ok tree)
    (otherLoaded : library.load other = .ok third)
    (same : tree.id = third.id) :
    tree = third := by
  cases library with
  | memory shelf =>
      have left := load_memory_eq_ok_iff.1 loaded
      have right := load_memory_eq_ok_iff.1 otherLoaded
      have sameId : id = other := by
        rw [← Shelf.id_eq_of_find? left, ← Shelf.id_eq_of_find? right, same]
      rw [sameId, right] at left
      exact (Option.some.inj left).symm
  | files folder =>
      obtain ⟨location, text, found, textAt, read⟩ := Folder.load_eq_ok_iff.1 loaded
      obtain ⟨otherLocation, otherText, otherFound, otherTextAt, otherRead⟩ :=
        Folder.load_eq_ok_iff.1 otherLoaded
      have here := sound id tree loaded
      have there := sound other third otherLoaded
      rw [same, there, found, otherFound, Option.some.injEq] at here
      rw [← here, otherTextAt, Option.some.injEq] at textAt
      rw [← textAt, otherRead] at read
      cases read
      rfl

/-- Every document that can be loaded is a forest. -/
theorem Sound.isForest
    {library : Library}
    (sound : library.Sound)
    {id : String}
    {tree : Tree}
    (loaded : library.load id = .ok tree) :
    tree.IsForest := by
  cases library with
  | memory shelf =>
      exact sound.2 tree (List.mem_of_find?_eq_some (load_memory_eq_ok_iff.1 loaded))
  | files folder =>
      obtain ⟨_, _, _, _, read⟩ := Folder.load_eq_ok_iff.1 loaded
      exact (Tree.Stored.of_read read).forest

/-- A forest can be put in. -/
theorem Sound.insert
    {shelf : Shelf}
    (sound : Sound (.memory shelf))
    {new : Tree}
    (forest : new.IsForest) :
    Sound (.memory (shelf.put new)) := by
  refine ⟨Shelf.nodup_put sound.1 new, fun other member => ?_⟩
  rcases Shelf.mem_put.1 member with ⟨old, _⟩ | rfl
  · exact sound.2 other old
  · exact forest

/-- A document that is put in takes the place of the one with its identifier. -/
theorem Sound.put
    {shelf : Shelf}
    (sound : Sound (.memory shelf))
    {tree new : Tree}
    (member : tree ∈ shelf.trees)
    (replaces : new.Replaces tree) :
    Sound (.memory (shelf.put new)) ∧
      ∀ id, load (.memory (shelf.put new)) id = (load (.memory shelf) id).map new.overwrite := by
  refine ⟨sound.insert (replaces.forest (sound.2 tree member)), fun id => ?_⟩
  rw [load, load, Shelf.find?_put]
  split_ifs with same
  · rw [same, replaces.id, Shelf.find?_of_mem sound.1 member]
    simp [Except.map, Tree.overwrite, replaces.id]
  · cases found : shelf.find? id with
    | none => rfl
    | some other =>
        have different : other.id ≠ new.id := Shelf.id_eq_of_find? found ▸ same
        simp [Except.map, Tree.overwrite, different]

/-- A file that is written again holds the new document, and all others are what they were. -/
theorem Sound.writeFile
    {folder written : Folder}
    (sound : Sound (.files folder))
    {id : String}
    {tree new : Tree}
    (loaded : folder.load id = .ok tree)
    (replaces : new.Replaces tree)
    (wrote : folder.write new = .ok written) :
    Sound (.files written) ∧
      ∀ other, written.load other = (folder.load other).map new.overwrite := by
  obtain ⟨location, text, found, textAt, read⟩ := Folder.load_eq_ok_iff.1 loaded
  have own : folder.files.location? (folder.pathOf new.id) = some location := by
    rw [replaces.id, sound id tree loaded, found]
  obtain ⟨samePath, sameLocation, loads⟩ :=
    Folder.load_write own (replaces.stored (Tree.Stored.of_read read)) wrote
  have result : ∀ other, written.load other = (folder.load other).map new.overwrite := by
    intro other
    rw [loads]
    split_ifs with here
    · have old : folder.load other = .ok tree :=
        Folder.load_eq_ok_iff.2 ⟨location, text, here, textAt, read⟩
      rw [old]
      simp [Except.map, Tree.overwrite, replaces.id]
    · cases old : folder.load other with
      | error error => rfl
      | ok third =>
          have elsewhere : third.id ≠ new.id := fun same => here (by
            rw [← sound other third old, same, own])
          simp [Except.map, Tree.overwrite, elsewhere]
  refine ⟨fun other third loadedLater => ?_, result⟩
  rw [samePath, sameLocation]
  rw [loads] at loadedLater
  split_ifs at loadedLater with here
  · cases loadedLater
    rw [own, here]
  · exact sound other third loadedLater

/-- Writing a document that takes the place of one that can be loaded. -/
theorem Sound.write
    {library written : Library}
    (sound : library.Sound)
    {id : String}
    {tree new : Tree}
    (loaded : library.load id = .ok tree)
    (replaces : new.Replaces tree)
    (wrote : library.write new = .ok written) :
    written.Sound ∧ ∀ other, written.load other = (library.load other).map new.overwrite := by
  cases library with
  | memory shelf =>
      have member : tree ∈ shelf.trees :=
        List.mem_of_find?_eq_some (load_memory_eq_ok_iff.1 loaded)
      rw [Library.write, Shelf.write] at wrote
      split_ifs at wrote
      · contradiction
      · cases wrote
        exact @Sound.put { shelf with writes := shelf.writes ++ [new.id] } sound tree new member
          replaces
  | files folder =>
      rw [Library.write] at wrote
      cases result : folder.write new with
      | error error =>
          rw [result] at wrote
          contradiction
      | ok rewritten =>
          rw [result] at wrote
          cases wrote
          exact sound.writeFile loaded replaces result

/--
The document that is renamed for a path: in memory the first one with the path, and in files
the one whose identifier is the name of the file in the path.
-/
def target? : Library → (box path : String) → Option Tree
  | .memory shelf, box, path => shelf.trees.find? fun tree => tree.box == box && tree.path == path
  | .files folder, _, path => (Path.fileStem? path).bind fun id => (folder.load id).toOption

/-- Of documents in files the one that the file in a path holds is renamed. -/
theorem target?_files_eq_some_iff
    {folder : Folder}
    {box path : String}
    {tree : Tree} :
    target? (.files folder) box path = some tree ↔
      ∃ stem, Path.fileStem? path = some stem ∧ folder.load stem = .ok tree := by
  rw [target?, Option.bind_eq_some_iff]
  refine exists_congr fun stem => and_congr_right fun _ => ?_
  cases folder.load stem <;> simp [Except.toOption]

/-- Renaming a document changes its title and no other document. -/
theorem Sound.rename
    {library renamed : Library}
    (sound : library.Sound)
    {box path title : String}
    (renames : library.rename box path title = .ok renamed) :
    renamed.Sound ∧ ∃ id tree, library.load id = .ok tree ∧ library.target? box path = some tree ∧
      ∀ other, renamed.load other = (library.load other).map (tree.retitle title).overwrite := by
  cases library with
  | memory shelf =>
      rw [Library.rename, Shelf.rename] at renames
      split at renames
      · rename_i tree found
        cases renames
        have member := List.mem_of_find?_eq_some found
        obtain ⟨soundLater, loads⟩ := sound.put member (tree.replaces_retitle title)
        refine ⟨soundLater, tree.id, tree, ?_, found, loads⟩
        rw [load, Shelf.find?_of_mem sound.1 member]
      · contradiction
  | files folder =>
      rw [Library.rename, Folder.rename] at renames
      split at renames
      · rename_i id stem
        cases loaded : folder.load id with
        | error error =>
            rw [loaded] at renames
            contradiction
        | ok tree =>
            rw [loaded] at renames
            have result : (folder.write (tree.retitle title)).map Library.files = .ok renamed :=
              renames
            cases wrote : folder.write (tree.retitle title) with
            | error error =>
                rw [wrote] at result
                contradiction
            | ok rewritten =>
                rw [wrote] at result
                cases result
                obtain ⟨soundLater, loads⟩ :=
                  sound.writeFile loaded (tree.replaces_retitle title) wrote
                refine ⟨soundLater, id, tree, loaded, ?_, loads⟩
                rw [target?, stem, Option.bind_some, loaded]
                rfl
      · contradiction

end Library
end BlockSearch
