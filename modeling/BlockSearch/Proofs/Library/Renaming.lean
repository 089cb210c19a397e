import BlockSearch.Proofs.Library.History
import BlockSearch.Proofs.Text.Occurrence
import Mathlib.Data.List.Find

/-!
# Documents renamed twice

A renaming puts the title in the place of what follows the last slash of the path of titles. So
a later renaming takes the earlier title away exactly when this has no slash in it; of any other
title the part before its last slash stays in the path.
-/

namespace BlockSearch

/-! ## Titles -/

/-- Of two values that a name is given the second one stays. -/
theorem Attribute.set_set
    (name first second : String)
    (pairs : List (String × String)) :
    set name second (set name first pairs) = set name second pairs := by
  induction pairs with
  | nil => simp [set]
  | cons pair pairs inductionHypothesis =>
      rw [set, set]
      split_ifs with here
      · rw [set, if_pos rfl]
      · rw [set, if_neg here, inductionHypothesis]

namespace Tree

/-- The path of titles before the name of the document itself. -/
def parentPath (tree : Tree) : List Char :=
  ((Text.cutAtLast? '/' tree.hpath.toList).map (·.1)).getD []

theorem hpath_retitle
    (tree : Tree)
    (title : String) :
    (tree.retitle title).hpath.toList = tree.parentPath ++ '/' :: title.toList := by
  rw [retitle, parentPath]
  cases Text.cutAtLast? '/' tree.hpath.toList <;> simp

/-- What stands before the last slash of a title is added to the path before the name. -/
theorem parentPath_retitle
    (tree : Tree)
    (title : String) :
    (tree.retitle title).parentPath =
      tree.parentPath ++
        ((Text.cutAtLast? '/' title.toList).map fun cut => '/' :: cut.1).getD [] := by
  rw [parentPath, hpath_retitle]
  cases cut : Text.cutAtLast? '/' title.toList with
  | none =>
      rw [Text.cutAtLast?_append_cons (Text.cutAtLast?_eq_none_iff.1 cut)]
      simp
  | some parts =>
      obtain ⟨split, plain⟩ := Text.eq_append_of_cutAtLast? cut
      have whole : tree.parentPath ++ '/' :: title.toList =
          (tree.parentPath ++ '/' :: parts.1) ++ '/' :: parts.2 := by
        rw [split]
        simp
      rw [whole, Text.cutAtLast?_append_cons plain]
      rfl

theorem parentPath_retitle_eq_iff
    {tree : Tree}
    {title : String} :
    (tree.retitle title).parentPath = tree.parentPath ↔ '/' ∉ title.toList := by
  rw [parentPath_retitle, List.append_right_eq_self, ← Text.cutAtLast?_eq_none_iff]
  cases Text.cutAtLast? '/' title.toList <;> simp

/-- Two titles in turn give what the second one gives alone, up to the path before it. -/
theorem retitle_retitle
    (tree : Tree)
    (first second : String) :
    (tree.retitle first).retitle second =
      { tree.retitle second with
        hpath := String.ofList ((tree.retitle first).parentPath ++ '/' :: second.toList) } := by
  have nodes : ((tree.retitle first).retitle second).nodes = (tree.retitle second).nodes := by
    apply Array.ext_getElem?
    intro i
    simp only [retitle, setTitle, setAttribute, modify, Array.getElem?_modify]
    split_ifs with here
    · rw [Option.map_map]
      congr 1
      funext node
      rw [Function.comp_apply, Attribute.set_set]
    · rfl
  have hpath : ((tree.retitle first).retitle second).hpath =
      String.ofList ((tree.retitle first).parentPath ++ '/' :: second.toList) := by
    rw [← hpath_retitle, String.ofList_toList]
  dsimp only
  rw [← nodes, ← hpath]
  rfl

theorem retitle_retitle_eq_iff
    {tree : Tree}
    {first second : String} :
    (tree.retitle first).retitle second = tree.retitle second ↔ '/' ∉ first.toList := by
  refine Iff.trans ?_ (parentPath_retitle_eq_iff : _ = tree.parentPath ↔ _)
  constructor
  · intro same
    have paths := congrArg (fun tree : Tree => tree.hpath.toList) same
    simp only [hpath_retitle] at paths
    exact List.append_cancel_right paths
  · intro same
    rw [retitle_retitle, same, ← hpath_retitle, String.ofList_toList]

/-- Of two documents that are written in the same place the second one stays. -/
theorem overwrite_comp_overwrite
    {first second : Tree}
    (same : first.id = second.id) :
    second.overwrite ∘ first.overwrite = second.overwrite := by
  funext tree
  rw [Function.comp_apply, overwrite, overwrite, overwrite, same]
  split_ifs with here
  · rfl
  · rfl

end Tree

/-! ## Shelves -/

namespace Shelf

variable {shelf : Shelf}

/-- Of two documents that are put into the same place the second one stays. -/
theorem put_put
    {first second : Tree}
    (same : first.id = second.id) :
    (shelf.put first).put second = shelf.put second := by
  have member : first ∈ (shelf.put first).trees := mem_put.2 (.inr rfl)
  have trees : ((shelf.put first).put second).trees = (shelf.put second).trees := by
    rw [trees_put_of_mem member same]
    rcases shelf.exists_mem_or_fresh first.id with ⟨old, oldMember, here⟩ | fresh
    · rw [trees_put_of_mem oldMember here, trees_put_of_mem oldMember (here.trans same),
        List.map_map, Tree.overwrite_comp_overwrite same]
    · rw [trees_put_of_fresh fresh, trees_put_of_fresh (same ▸ fresh), List.map_append,
        List.map_singleton, Tree.overwrite, if_pos same]
      congr 1
      conv_rhs => rw [← List.map_id shelf.trees]
      exact List.map_congr_left fun other otherMember => if_neg (same ▸ fresh other otherMember)
  exact congrArg (fun trees => { shelf with trees }) trees

/-- The document that is found in a place is found there with another title. -/
theorem find?_place_put_retitle
    (nodup : (shelf.trees.map (·.id)).Nodup)
    {box path : String}
    {tree : Tree}
    (found : (shelf.trees.find? fun other => other.box == box && other.path == path) = some tree)
    (title : String) :
    ((shelf.put (tree.retitle title)).trees.find? fun other =>
      other.box == box && other.path == path) = some (tree.retitle title) := by
  have member := List.mem_of_find?_eq_some found
  have place : ∀ other ∈ shelf.trees,
      ((fun other : Tree => other.box == box && other.path == path) ∘
        (tree.retitle title).overwrite) other = (other.box == box && other.path == path) := by
    intro other otherMember
    rw [Function.comp_apply, Tree.overwrite]
    split_ifs with here
    · rw [List.inj_on_of_nodup_map nodup otherMember member here]
      rfl
    · rfl
  have trees : (shelf.put (tree.retitle title)).trees =
      shelf.trees.map (tree.retitle title).overwrite := trees_put_of_mem member rfl
  rw [trees, List.find?_map, List.find?_congr place, found, Option.map_some, Tree.overwrite]
  exact congrArg some (if_pos rfl)

end Shelf

/-! ## Folders -/

namespace Folder

variable {folder : Folder} {location : Location}

/-- A document that lies in a file is written there, if the file can be given a text. -/
theorem write_eq_ok_iff_of_found
    {new : Tree}
    (found : folder.files.location? (folder.pathOf new.id) = some location)
    {written : Folder} :
    folder.write new = .ok written ↔
      folder.files.Writable (folder.pathOf new.id) location ∧
        written = { folder with files := folder.files.putText location new.print } := by
  rw [write_eq_ok_iff]
  constructor
  · rintro ⟨files, writes, rfl⟩
    obtain ⟨writable, rfl⟩ := (Files.writeDeep?_eq_some_iff found).1 writes
    exact ⟨writable, rfl⟩
  · rintro ⟨writable, rfl⟩
    exact ⟨_, (Files.writeDeep?_eq_some_iff found).2 ⟨writable, rfl⟩, rfl⟩

/-- Where a document has been written, another one can be written before and behind it. -/
theorem write_again
    {first second : Tree}
    (same : second.id = first.id)
    (found : folder.files.location? (folder.pathOf first.id) = some location)
    {written : Folder}
    (wrote : folder.write first = .ok written) :
    ∃ once, folder.write second = .ok once ∧ written.write second = .ok once := by
  obtain ⟨writable, rfl⟩ := (write_eq_ok_iff_of_found found).1 wrote
  rw [← same] at found writable
  let later : Folder := { folder with files := folder.files.putText location first.print }
  have foundLater : later.files.location? (later.pathOf second.id) = some location := found
  refine ⟨_, (write_eq_ok_iff_of_found found).2 ⟨writable, rfl⟩,
    (write_eq_ok_iff_of_found foundLater).2 ⟨?_, ?_⟩⟩
  · exact ⟨writable.absolute, writable.noDirectory⟩
  · rw [Files.putText_putText]

end Folder

/-! ## Libraries -/

namespace Library

variable {library renamed : Library} {box path : String} {tree : Tree}

theorem rename_memory
    {shelf : Shelf}
    (found : target? (.memory shelf) box path = some tree)
    (title : String) :
    rename (.memory shelf) box path title = .ok (.memory (shelf.put (tree.retitle title))) := by
  rw [target?] at found
  rw [rename, Shelf.rename, found]
  rfl

theorem rename_files_eq_ok_iff
    {folder : Folder}
    (found : target? (.files folder) box path = some tree)
    {title : String} :
    rename (.files folder) box path title = .ok renamed ↔
      ∃ written, folder.write (tree.retitle title) = .ok written ∧ renamed = .files written := by
  obtain ⟨stem, stemOf, loaded⟩ := target?_files_eq_some_iff.1 found
  have writes : folder.rename path title = folder.write (tree.retitle title) := by
    rw [Folder.rename, stemOf]
    dsimp only
    rw [loaded]
    rfl
  rw [rename, writes]
  cases folder.write (tree.retitle title) <;> simp [Except.map, eq_comm]

/-- A document that has been renamed is found where it was found. -/
theorem Sound.target?_rename
    (sound : library.Sound)
    (found : library.target? box path = some tree)
    {title : String}
    (renames : library.rename box path title = .ok renamed) :
    renamed.target? box path = some (tree.retitle title) := by
  cases library with
  | memory shelf =>
      rw [rename_memory found] at renames
      cases renames
      exact Shelf.find?_place_put_retitle sound.1 found title
  | files folder =>
      obtain ⟨stem, stemOf, loaded⟩ := target?_files_eq_some_iff.1 found
      obtain ⟨written, wrote, rfl⟩ := (rename_files_eq_ok_iff found).1 renames
      refine target?_files_eq_some_iff.2 ⟨stem, stemOf, ?_⟩
      rw [(sound.writeFile loaded (tree.replaces_retitle title) wrote).2, loaded, Except.map,
        Tree.overwrite]
      exact congrArg Except.ok (if_pos rfl)

/-- A document that could be renamed can be renamed again, and it could be renamed so at once. -/
theorem Sound.rename_again
    (sound : library.Sound)
    (found : library.target? box path = some tree)
    {first : String}
    (renames : library.rename box path first = .ok renamed)
    (second : String) :
    ∃ once twice, library.rename box path second = .ok once ∧
      renamed.rename box path second = .ok twice ∧
      ((tree.retitle first).retitle second = tree.retitle second → twice = once) := by
  have foundLater := sound.target?_rename found renames
  cases library with
  | memory shelf =>
      rw [rename_memory found] at renames
      cases renames
      refine ⟨_, _, rename_memory found second, rename_memory foundLater second, fun same => ?_⟩
      have sameId : (tree.retitle first).id = (tree.retitle second).id := rfl
      rw [same, Shelf.put_put sameId]
  | files folder =>
      obtain ⟨stem, _, loaded⟩ := target?_files_eq_some_iff.1 found
      obtain ⟨location, _, located, _⟩ := Folder.load_eq_ok_iff.1 loaded
      have place : folder.files.location? (folder.pathOf (tree.retitle first).id) =
          some location := by
        rw [(tree.replaces_retitle first).id, sound stem tree loaded, located]
      obtain ⟨written, wrote, rfl⟩ := (rename_files_eq_ok_iff found).1 renames
      have sameTwice := ((tree.retitle first).replaces_retitle second).id
      have sameOnce := (tree.replaces_retitle second).id.trans (tree.replaces_retitle first).id.symm
      obtain ⟨once, wroteOnce, _⟩ := Folder.write_again sameOnce place wrote
      obtain ⟨twice, wroteTwice, wroteLater⟩ := Folder.write_again sameTwice place wrote
      refine ⟨.files once, .files twice, (rename_files_eq_ok_iff found).2 ⟨once, wroteOnce, rfl⟩,
        (rename_files_eq_ok_iff foundLater).2 ⟨twice, wroteLater, rfl⟩, fun same => ?_⟩
      rw [same, wroteOnce] at wroteTwice
      rw [Except.ok.inj wroteTwice]

/-- What is loaded after a renaming: the document with its title, and every other as it was. -/
theorem Sound.load_rename
    (sound : library.Sound)
    (found : library.target? box path = some tree)
    {title : String}
    (renames : library.rename box path title = .ok renamed)
    (id : String) :
    renamed.load id = (library.load id).map (tree.retitle title).overwrite := by
  obtain ⟨_, _, other, _, otherFound, loads⟩ := sound.rename renames
  rw [found] at otherFound
  cases otherFound
  exact loads id

/--
After two renamings of a document every other one is as it was, and the document is as the second
renaming alone would leave it, except for the path of titles: what the first title has before its
last slash stays there. So the first renaming is overwritten exactly if its title has no slash.
-/
theorem rename_rename
    (sound : library.Sound)
    (found : library.target? box path = some tree)
    {first : String}
    (renames : library.rename box path first = .ok renamed)
    (second : String) :
    ∃ once twice, library.rename box path second = .ok once ∧
      renamed.rename box path second = .ok twice ∧
      (∀ id, once.load id = (library.load id).map (tree.retitle second).overwrite) ∧
      (∀ id, twice.load id =
        (library.load id).map ((tree.retitle first).retitle second).overwrite) ∧
      (tree.retitle first).retitle second =
        { tree.retitle second with
          hpath := String.ofList ((tree.retitle first).parentPath ++ '/' :: second.toList) } ∧
      ((tree.retitle first).parentPath = tree.parentPath ↔ '/' ∉ first.toList) ∧
      (twice = once ↔ '/' ∉ first.toList) := by
  obtain ⟨once, twice, renamesOnce, renamesTwice, overwritten⟩ :=
    sound.rename_again found renames second
  obtain ⟨soundLater, place, other, loaded, otherFound, _⟩ := sound.rename renames
  rw [found] at otherFound
  cases otherFound
  have loadOnce := sound.load_rename found renamesOnce
  have sameId := (tree.retitle first).replaces_retitle second |>.id
  have loadTwice : ∀ id, twice.load id =
      (library.load id).map ((tree.retitle first).retitle second).overwrite := by
    intro id
    rw [soundLater.load_rename (sound.target?_rename found renames) renamesTwice id,
      sound.load_rename found renames id]
    cases library.load id with
    | error reason => rfl
    | ok tree =>
        exact congrArg Except.ok (congrFun (Tree.overwrite_comp_overwrite sameId.symm) tree)
  refine ⟨once, twice, renamesOnce, renamesTwice, loadOnce, loadTwice,
    tree.retitle_retitle first second, Tree.parentPath_retitle_eq_iff, ?_⟩
  rw [← (Tree.retitle_retitle_eq_iff : _ = tree.retitle second ↔ _)]
  refine ⟨fun same => ?_, overwritten⟩
  have loadBoth := (loadTwice place).symm.trans
    ((congrArg (load · place) same).trans (loadOnce place))
  rw [loaded, Except.map, Except.map, Tree.overwrite, Tree.overwrite] at loadBoth
  rw [if_pos (sameId.trans (tree.replaces_retitle first).id).symm,
    if_pos (tree.replaces_retitle second).id.symm] at loadBoth
  exact Except.ok.inj loadBoth

/-- What stands before the slash of the first title is still in the path after the second one. -/
theorem rename_rename_of_slash :
    let tree := Tree.new "d" "b" "/d.sy" "/Notes/Old"
    let library : Library := .memory { trees := [tree] }
    library.Sound ∧ library.target? "b" "/d.sy" = some tree ∧
      ∃ renamed once twice, library.rename "b" "/d.sy" "a/b" = .ok renamed ∧
        library.rename "b" "/d.sy" "c" = .ok once ∧ renamed.rename "b" "/d.sy" "c" = .ok twice ∧
        (once.load "d").map (·.hpath) = .ok "/Notes/c" ∧
        (twice.load "d").map (·.hpath) = .ok "/Notes/a/c" ∧ twice ≠ once := by
  intro tree library
  have sound : library.Sound :=
    (Written.put (.memory [] []) (Tree.Built.new "d" "b" "/d.sy" "/Notes/Old").isForest).sound
  have found : library.target? "b" "/d.sy" = some tree := by decide
  have renames := rename_memory found "a/b"
  obtain ⟨once, twice, renamesOnce, renamesTwice, loadOnce, loadTwice, _, _, overwritten⟩ :=
    rename_rename sound found renames "c"
  refine ⟨sound, found, _, once, twice, renames, renamesOnce, renamesTwice, ?_, ?_, fun same => ?_⟩
  · rw [loadOnce]
    decide +kernel
  · rw [loadTwice]
    decide +kernel
  · exact absurd (overwritten.1 same) (by decide)

end Library
end BlockSearch
