import BlockSearch.Library.Files
import BlockSearch.Proofs.Library.Path
import BlockSearch.Proofs.Lists

/-!
# Writing files

A path that leads somewhere passes directories only, so writing a file there again creates
none. It changes the text at one location, and every path leads where it led. A file that is
new may come with new directories, and then more paths lead somewhere.
-/

namespace BlockSearch
namespace Files

variable {files : Files}

/-! ## Files that exist -/

/-- Only a directory can be left by a name. -/
theorem hasDirectory_of_follow?
    {location next : Location}
    {name : List Char}
    (followed : files.follow? location name = some next) :
    files.hasDirectory location = true := by
  unfold follow? at followed
  split_ifs at followed with blocked
  all_goals
    rw [Bool.or_eq_true, not_or] at blocked
    simpa using blocked.1

/-- Entering directories that exist creates none. -/
theorem foldlM_enter?
    {names : List (List Char)}
    {start location : Location}
    (followed : names.foldlM files.follow? start = some location)
    (directory : files.hasDirectory location = true) :
    names.foldlM enter? (files, start) = some (files, location) := by
  induction names generalizing start with
  | nil =>
      cases followed
      rfl
  | cons name names inductionHypothesis =>
      rw [List.foldlM_cons, Option.bind_eq_bind, Option.bind_eq_some_iff] at followed
      obtain ⟨next, first, others⟩ := followed
      -- The next location is left by another name, or it is the last one.
      have nextDirectory : files.hasDirectory next = true := by
        cases names with
        | nil =>
            cases others
            exact directory
        | cons name names =>
            rw [List.foldlM_cons, Option.bind_eq_bind, Option.bind_eq_some_iff] at others
            obtain ⟨_, second, _⟩ := others
            exact hasDirectory_of_follow? second
      have entered : enter? (files, start) name = some (files, next) := by
        simp [enter?, first, createDirectory?, nextDirectory]
      rw [List.foldlM_cons, entered]
      exact inductionHypothesis others

/-- The directories that lead to a file that can be found exist. -/
theorem createDirectories?_parent
    {path parent : String}
    {location : Location}
    (found : files.location? path = some location)
    (parentOf : Path.parent? path = some parent)
    (absolute : Path.isAbsolute parent = true) :
    files.createDirectories? parent = some files := by
  have entered : ∃ directory,
      (Text.splitOn ['/'] parent.toList).foldlM enter? (files, []) = some (files, directory) := by
    rcases Path.parent?_spec parentOf with rfl | rfl | ⟨back, split⟩
    · have names : Text.splitOn ['/'] "/".toList = [[], []] := by
        have text : "/".toList = [] ++ '/' :: [] := by decide
        rw [text, Text.splitOn_append_cons, Text.splitOn_of_not_mem (by simp)]
        rfl
      have root : [[], []].foldlM files.follow? [] = some [] := rfl
      exact ⟨[], by rw [names, foldlM_enter? root rfl]⟩
    · contradiction
    · unfold location? at found
      split_ifs at found
      rw [split, Text.splitOn_append_cons, List.foldlM_append, Option.bind_eq_bind,
        Option.bind_eq_some_iff] at found
      obtain ⟨directory, front, behind⟩ := found
      have isDirectory : files.hasDirectory directory = true := by
        cases names : Text.splitOn ['/'] back with
        | nil => exact absurd names (Text.splitOn_ne_nil back)
        | cons name names =>
            rw [names, List.foldlM_cons, Option.bind_eq_bind, Option.bind_eq_some_iff] at behind
            obtain ⟨_, followed, _⟩ := behind
            exact hasDirectory_of_follow? followed
      exact ⟨directory, foldlM_enter? front isDirectory⟩
  obtain ⟨directory, entered⟩ := entered
  rw [createDirectories?, if_pos absolute, entered, Option.map_some]

/--
Whether the file that a path leads to can be given a text: the directories before it are those
of an absolute path, and it is no directory itself.
-/
structure Writable (files : Files) (path : String) (location : Location) : Prop where
  /-- The path to its directory begins at the root. -/
  absolute : ∀ parent, Path.parent? path = some parent → Path.isAbsolute parent = true
  /-- No directory stands in its place. -/
  noDirectory : files.hasDirectory location = false

/-- Writing a file that can be found changes its text and nothing else. -/
theorem writeDeep?_eq_some_iff
    {path text : String}
    {location : Location}
    (found : files.location? path = some location)
    {written : Files} :
    files.writeDeep? path text = some written ↔
      files.Writable path location ∧ written = files.putText location text := by
  have write : files.write? path text = some written ↔
      files.hasDirectory location = false ∧ written = files.putText location text := by
    rw [write?, found]
    dsimp only
    split_ifs with directory
    · simp [directory]
    · simp [directory, eq_comm]
  have writable : files.Writable path location ↔
      (∀ parent, Path.parent? path = some parent → Path.isAbsolute parent = true) ∧
        files.hasDirectory location = false := ⟨fun h => ⟨h.1, h.2⟩, fun h => ⟨h.1, h.2⟩⟩
  rw [writable]
  unfold writeDeep?
  cases parentOf : Path.parent? path with
  | none => simpa using write
  | some parent =>
      dsimp only
      by_cases absolute : Path.isAbsolute parent = true
      · rw [createDirectories?_parent found parentOf absolute, Option.bind_some, write]
        simp [absolute]
      · rw [createDirectories?, if_neg absolute, Option.bind_none]
        simp [absolute]

/-- Of two texts that the file at a location is given the second one stays. -/
theorem putText_putText
    (files : Files)
    (location : Location)
    (first second : String) :
    (files.putText location first).putText location second = files.putText location second := by
  simp [putText, List.filter_append, List.filter_filter]

/-- Texts do not change where paths lead. -/
theorem location?_putText
    (files : Files)
    (location : Location)
    (text path : String) :
    (files.putText location text).location? path = files.location? path := rfl

theorem textAt?_putText
    (files : Files)
    (location other : Location)
    (text : String) :
    (files.putText location text).textAt? other =
      if other = location then some text else files.textAt? other := by
  have found : (files.putText location text).contents.find? (·.1 == other) =
      if other = location then some (location, text)
      else files.contents.find? (·.1 == other) :=
    Lists.find?_replaced Prod.fst files.contents (location, text) other
  rw [textAt?, textAt?, found]
  split_ifs <;> rfl

/-! ## Files that are new -/

variable {other : Files}

/-- Files with more directories and with the same texts. -/
structure Extends (files other : Files) : Prop where
  /-- No directory is lost. -/
  directories : ∀ location, files.hasDirectory location = true → other.hasDirectory location = true
  /-- All texts stay. -/
  contents : other.contents = files.contents

namespace Extends

theorem refl (files : Files) : Extends files files := ⟨fun _ => id, rfl⟩

theorem trans
    {third : Files}
    (first : Extends files other)
    (second : Extends other third) :
    Extends files third where
  directories location directory := second.directories location (first.directories location directory)
  contents := second.contents.trans first.contents

theorem follow?
    (extension : Extends files other)
    {location next : Location}
    {name : List Char}
    (followed : files.follow? location name = some next) :
    other.follow? location name = some next := by
  have directory := hasDirectory_of_follow? followed
  have otherDirectory := extension.directories location directory
  unfold Files.follow? at followed ⊢
  rw [directory] at followed
  rwa [otherDirectory]

/-- Where a path leads, it leads when there are more directories. -/
theorem location?
    (extension : Extends files other)
    {path : String}
    {location : Location}
    (found : files.location? path = some location) :
    other.location? path = some location := by
  unfold Files.location? at found ⊢
  split_ifs at found ⊢
  generalize Text.splitOn ['/'] path.toList = names at found ⊢
  generalize ([] : Location) = start at found ⊢
  induction names generalizing start with
  | nil => exact found
  | cons name names inductionHypothesis =>
      rw [List.foldlM_cons, Option.bind_eq_bind, Option.bind_eq_some_iff] at found ⊢
      obtain ⟨next, first, others⟩ := found
      exact ⟨next, extension.follow? first, inductionHypothesis next others⟩

end Extends

theorem extends_createDirectory?
    {location : Location}
    (creates : files.createDirectory? location = some other) :
    Extends files other := by
  unfold createDirectory? at creates
  split_ifs at creates
  · cases creates
    exact .refl files
  · cases creates
    refine ⟨fun location directory => ?_, rfl⟩
    unfold hasDirectory at directory ⊢
    rw [Bool.or_eq_true] at directory ⊢
    exact directory.imp_right fun listed => by simp_all

theorem extends_foldlM_enter?
    {names : List (List Char)}
    {start last : Location}
    (entered : names.foldlM enter? (files, start) = some (other, last)) :
    Extends files other := by
  induction names generalizing files start with
  | nil =>
      cases entered
      exact .refl _
  | cons name names inductionHypothesis =>
      rw [List.foldlM_cons, Option.bind_eq_bind, Option.bind_eq_some_iff] at entered
      obtain ⟨⟨middle, next⟩, first, others⟩ := entered
      simp only [enter?, Option.bind_eq_bind, Option.bind_eq_some_iff] at first
      obtain ⟨location, _, created, creates, same⟩ := first
      cases same
      exact (extends_createDirectory? creates).trans (inductionHypothesis others)

/-- A file that has been written is found where its path leads, and all others as before. -/
theorem exists_of_writeDeep?
    {path text : String}
    {written : Files}
    (writes : files.writeDeep? path text = some written) :
    ∃ created location, Extends files created ∧ created.location? path = some location ∧
      written = created.putText location text := by
  have wrote : ∃ created, Extends files created ∧ created.write? path text = some written := by
    unfold writeDeep? at writes
    split at writes
    · obtain ⟨created, creates, wrote⟩ := Option.bind_eq_some_iff.1 writes
      unfold createDirectories? at creates
      split_ifs at creates
      obtain ⟨⟨_, last⟩, entered, rfl⟩ := Option.map_eq_some_iff.1 creates
      exact ⟨_, extends_foldlM_enter? entered, wrote⟩
    · exact ⟨files, .refl files, writes⟩
  obtain ⟨created, extension, wrote⟩ := wrote
  unfold write? at wrote
  split at wrote
  · rename_i location found
    split_ifs at wrote
    exact ⟨created, location, extension, found, (Option.some.inj wrote).symm⟩
  · contradiction

end Files
end BlockSearch
