import BlockSearch.Proofs.Library.Update

/-!
# Libraries with a history

Writing puts every document into the file that its identifier names. So documents lie where
their identifiers say in every library that putting in, writing and renaming lead to, when
they did so in the beginning.
-/

namespace BlockSearch

/-! ## Folders -/

namespace Folder

/-- Every file with a document is the one that the identifier of the document names. -/
def Placed (folder : Folder) : Prop :=
  ∀ location text tree, folder.files.textAt? location = some text → Tree.read text = .ok tree →
    folder.files.location? (folder.pathOf tree.id) = some location

theorem Placed.sound
    {folder : Folder}
    (placed : folder.Placed) :
    Library.Sound (.files folder) := by
  intro id tree loaded
  obtain ⟨location, text, found, textAt, read⟩ := load_eq_ok_iff.1 loaded
  rw [placed location text tree textAt read, found]

/-- Writing a document puts it into its place and leaves all others in theirs. -/
theorem Placed.write
    {folder written : Folder}
    (placed : folder.Placed)
    {tree : Tree}
    (wrote : folder.write tree = .ok written) :
    written.Placed := by
  obtain ⟨files, writes, rfl⟩ := write_eq_ok_iff.1 wrote
  obtain ⟨created, place, extension, found, rfl⟩ := Files.exists_of_writeDeep? writes
  intro location text other textAt read
  rw [Files.textAt?_putText] at textAt
  rw [Files.location?_putText]
  split_ifs at textAt with here
  · cases textAt
    have same : other.id = tree.id := congrArg (·.1) (Tree.header_of_read_print read)
    rw [same, here]
    exact found
  · have kept : folder.files.textAt? location = some text := by
      rwa [Files.textAt?, extension.contents] at textAt
    exact extension.location? (placed location text other kept read)

end Folder

/-! ## Libraries -/

namespace Library

/--
Documents lie where their identifiers say, also those in files that no identifier leads to
so far.
-/
def Placed : Library → Prop
  | .memory shelf => Sound (.memory shelf)
  | .files folder => folder.Placed

theorem Placed.sound
    {library : Library}
    (placed : library.Placed) :
    library.Sound := by
  cases library with
  | memory shelf => exact placed
  | files folder => exact Folder.Placed.sound placed

theorem Placed.write
    {library written : Library}
    (placed : library.Placed)
    {tree : Tree}
    (forest : tree.IsForest)
    (wrote : library.write tree = .ok written) :
    written.Placed := by
  cases library with
  | memory shelf =>
      rw [Library.write, Shelf.write] at wrote
      split_ifs at wrote
      · contradiction
      · cases wrote
        exact @Sound.insert { shelf with writes := shelf.writes ++ [tree.id] } placed tree forest
  | files folder =>
      rw [Library.write] at wrote
      cases result : folder.write tree with
      | error error =>
          rw [result] at wrote
          contradiction
      | ok rewritten =>
          rw [result] at wrote
          cases wrote
          exact Folder.Placed.write placed result

theorem Placed.rename
    {library renamed : Library}
    (placed : library.Placed)
    {box path title : String}
    (renames : library.rename box path title = .ok renamed) :
    renamed.Placed := by
  cases library with
  | memory shelf =>
      have sound := (placed.sound.rename renames).1
      rw [Library.rename] at renames
      cases result : shelf.rename box path title with
      | error error =>
          rw [result] at renames
          contradiction
      | ok next =>
          rw [result] at renames
          cases renames
          exact sound
  | files folder =>
      rw [Library.rename, Folder.rename] at renames
      split at renames
      · rename_i id stem
        cases loaded : folder.load id with
        | error error =>
            rw [loaded] at renames
            contradiction
        | ok tree =>
            rw [loaded] at renames
            have wrote : Library.write (.files folder) (tree.retitle title) = .ok renamed := renames
            exact placed.write ((tree.replaces_retitle title).forest
              (placed.sound.isForest loaded)) wrote
      · contradiction

/-- The libraries that putting in, writing and renaming documents lead to. -/
inductive Written : Library → Prop
  /-- Nothing has been put in. -/
  | memory (writes failing : List String) : Written (.memory ⟨[], writes, failing⟩)
  /-- The files are in their places already. -/
  | files {folder : Folder} (placed : folder.Placed) : Written (.files folder)
  /-- A document has been put in. -/
  | put {shelf : Shelf} (before : Written (.memory shelf)) {tree : Tree}
      (forest : tree.IsForest) : Written (.memory (shelf.put tree))
  /-- A document has been written. -/
  | write {library written : Library} (before : Written library) {tree : Tree}
      (forest : tree.IsForest) (wrote : library.write tree = .ok written) : Written written
  /-- A document has been renamed. -/
  | rename {library renamed : Library} (before : Written library) {box path title : String}
      (renames : library.rename box path title = .ok renamed) : Written renamed

/-- In every library with a history documents lie where their identifiers say. -/
theorem Written.sound
    {library : Library}
    (written : Written library) :
    library.Sound := by
  apply Placed.sound
  induction written with
  | memory writes failing => exact ⟨List.nodup_nil, by simp⟩
  | files placed => exact placed
  | put before forest placed => exact Sound.insert placed forest
  | write before forest wrote placed => exact placed.write forest wrote
  | rename before renames placed => exact placed.rename renames

end Library
end BlockSearch
