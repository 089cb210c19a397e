import BlockSearch.Config.Merge
import BlockSearch.Proofs.Lists

/-!
# Precedence of configuration files

Every setting is decided by the first file that gives it, and a file that gives nothing of a
section does not change that section.
-/

namespace BlockSearch

namespace ConfigFile

/-! ## What a file gives -/

/-- A setting of searches that a file gives. -/
def setting? {α : Type} (setting : SearchLayer → Option α) (file : ConfigFile) : Option α :=
  file.layer.search.bind setting

/-- What a layer says of a type. -/
def flag? (type : BlockType) (layer : SearchLayer) : Option Bool :=
  layer.types.bind fun types => types type

/-- A place of the store that a file gives, with the file. -/
def place?
    (place : StorePlaces → Option String)
    (file : ConfigFile) : Option (ConfigFile × String) :=
  (file.layer.store.bind place).map fun text => (file, text)

/-- A path that is given by the text in a file, in the directory of that file. -/
def Places (home : Option String) (given : ConfigFile × String) (path : String) : Prop :=
  ∃ directory, Path.parent? given.1.path = some directory ∧
    Path.resolve home directory given.2 = .ok path

/-- A file gives no setting of searches. -/
structure SilentOnSearch (file : ConfigFile) : Prop where
  /-- No limit. -/
  limit : file.setting? SearchLayer.limit = none
  /-- Nothing of letters of different case. -/
  caseSensitive : file.setting? SearchLayer.caseSensitive = none
  /-- Nothing of names. -/
  name : file.setting? SearchLayer.name = none
  /-- Nothing of aliases. -/
  aliases : file.setting? SearchLayer.aliases = none
  /-- Nothing of memos. -/
  memo : file.setting? SearchLayer.memo = none
  /-- Nothing of attributes. -/
  ial : file.setting? SearchLayer.ial = none
  /-- No limit of the text of references. -/
  referenceTextLimit : file.setting? SearchLayer.referenceTextLimit = none
  /-- No type. -/
  types : ∀ type, file.setting? (flag? type) = none

/-- A file gives no place of the store. -/
structure SilentOnStore (file : ConfigFile) : Prop where
  /-- No database. -/
  database : file.place? StorePlaces.database = none
  /-- No directory of documents. -/
  trees : file.place? StorePlaces.trees = none

/-- A file names no box. -/
def SilentOnNotebooks (file : ConfigFile) : Prop := ∀ id, file.notebooks.lookup id = none

/-! ## Settings of searches -/

/-- A setting is what the file gives, or else what it was below. -/
theorem searchOver_setting
    {α : Type}
    {setting : SearchLayer → Option α}
    {result : SearchSettings → α}
    (covers : ∀ layer below, result (layer.cover below) = (setting layer).getD (result below))
    (file : ConfigFile)
    (below : SearchSettings) :
    result (file.searchOver below) = (file.setting? setting).getD (result below) := by
  unfold searchOver setting?
  cases file.layer.search with
  | none => rfl
  | some layer => exact covers layer below

/-- A file that gives no setting of searches leaves all of them as they are. -/
theorem SilentOnSearch.searchOver_eq
    {file : ConfigFile}
    (silent : file.SilentOnSearch)
    (below : SearchSettings) :
    file.searchOver below = below := by
  obtain ⟨limit, caseSensitive, name, aliases, memo, ial, referenceTextLimit, types⟩ := silent
  unfold searchOver
  cases known : file.layer.search with
  | none => rfl
  | some layer =>
      simp only [setting?, flag?, known, Option.bind_some] at *
      simp only [SearchLayer.cover, limit, caseSensitive, name, aliases, memo, ial,
        referenceTextLimit, types, Option.getD_none]

/-! ## Places of the store -/

/-- Places of a store, each of which is covered by the same place of a layer. -/
def Covered (place : StorePlaces → Option String) : Prop :=
  ∀ {layer below result : StorePlaces} {home : Option String} {directory : String},
    layer.cover home directory below = .ok result →
      StorePlaces.placeOver home directory (place layer) (place below) = .ok (place result)

theorem cover_eq_ok_iff
    {layer below result : StorePlaces}
    {home : Option String}
    {directory : String} :
    layer.cover home directory below = .ok result ↔
      StorePlaces.placeOver home directory layer.database below.database = .ok result.database ∧
        StorePlaces.placeOver home directory layer.trees below.trees = .ok result.trees := by
  unfold StorePlaces.cover
  cases StorePlaces.placeOver home directory layer.database below.database with
  | error failure => simp [bind, Except.bind]
  | ok database =>
      cases StorePlaces.placeOver home directory layer.trees below.trees with
      | error failure => simp [bind, Except.bind]
      | ok trees =>
          obtain ⟨_, _⟩ := result
          simp [bind, Except.bind]

theorem covered_database : Covered StorePlaces.database :=
  fun covers => (cover_eq_ok_iff.1 covers).1

theorem covered_trees : Covered StorePlaces.trees :=
  fun covers => (cover_eq_ok_iff.1 covers).2

/-- Whether a path of a layer can be used does not depend on the path below it. -/
theorem exists_placeOver
    {home path below result : Option String}
    {directory : String}
    (placed : StorePlaces.placeOver home directory path below = .ok result)
    (other : Option String) :
    ∃ again, StorePlaces.placeOver home directory path other = .ok again := by
  cases path with
  | none => exact ⟨other, rfl⟩
  | some path => exact ⟨result, placed⟩

/-- Whether a file can lie over others does not depend on them. -/
theorem exists_placesOver
    {home : Option String}
    {file : ConfigFile}
    {below result : StorePlaces}
    (placed : file.placesOver home below = .ok result)
    (other : StorePlaces) :
    ∃ again, file.placesOver home other = .ok again := by
  unfold placesOver at placed ⊢
  split at placed
  · exact ⟨other, by simp [*]⟩
  · cases placed
  · next layer directory given lies =>
      obtain ⟨database, trees⟩ := cover_eq_ok_iff.1 placed
      obtain ⟨otherDatabase, database⟩ := exists_placeOver database other.database
      obtain ⟨otherTrees, trees⟩ := exists_placeOver trees other.trees
      refine ⟨⟨otherDatabase, otherTrees⟩, ?_⟩
      simpa only [given, lies] using cover_eq_ok_iff.2 ⟨database, trees⟩

/-- A path of a layer is the place, or else the one below it. -/
theorem rel_placeOver
    {home path below result : Option String}
    {file : ConfigFile}
    {directory : String}
    (lies : Path.parent? file.path = some directory)
    (placed : StorePlaces.placeOver home directory path below = .ok result)
    {first : Option (ConfigFile × String)}
    (known : Option.Rel (Places home) first below) :
    Option.Rel (Places home) ((path.map fun text => (file, text)).or first) result := by
  cases path with
  | none =>
      obtain rfl : below = result := Except.ok.inj placed
      exact known
  | some text =>
      unfold StorePlaces.placeOver at placed
      cases resolved : Path.resolve home directory text with
      | error failure => simp [resolved, Except.map] at placed
      | ok path =>
          obtain rfl : some path = result := by simpa [resolved, Except.map] using placed
          exact .some ⟨directory, lies, resolved⟩

/-- A place is what the file gives, or else what it was below. -/
theorem rel_placesOver
    {place : StorePlaces → Option String}
    (covered : Covered place)
    {home : Option String}
    {file : ConfigFile}
    {below result : StorePlaces}
    (placed : file.placesOver home below = .ok result)
    {first : Option (ConfigFile × String)}
    (known : Option.Rel (Places home) first (place below)) :
    Option.Rel (Places home) ((file.place? place).or first) (place result) := by
  unfold placesOver at placed
  split at placed
  · next absent =>
      obtain rfl : below = result := Except.ok.inj placed
      rw [place?, absent]
      exact known
  · cases placed
  · next layer directory given lies =>
      rw [place?, given]
      exact rel_placeOver lies (covered placed) known

/-- A file that gives no place of the store leaves the places as they are. -/
theorem SilentOnStore.placesOver_eq
    {file : ConfigFile}
    (silent : file.SilentOnStore)
    {home : Option String}
    {below result : StorePlaces}
    (placed : file.placesOver home below = .ok result) :
    result = below := by
  obtain ⟨database, trees⟩ := silent
  unfold placesOver at placed
  split at placed
  · exact (Except.ok.inj placed).symm
  · cases placed
  · next layer directory given lies =>
      simp only [place?, given, Option.bind_some, Option.map_eq_none_iff] at database trees
      rw [cover_eq_ok_iff, database, trees] at placed
      obtain ⟨_, _⟩ := result
      exact congrArg₂ StorePlaces.mk (Except.ok.inj placed.1).symm (Except.ok.inj placed.2).symm

end ConfigFile

namespace Config

open ConfigFile

/-! ## Files over each other -/

/-- A setting is that of the first file to give it, or else the default. -/
theorem mergeSearch_setting
    {α : Type}
    {setting : SearchLayer → Option α}
    {result : SearchSettings → α}
    (covers : ∀ layer below, result (layer.cover below) = (setting layer).getD (result below))
    (files : List ConfigFile) :
    result (mergeSearch files) = (files.findSome? (setting? setting)).getD (result {}) := by
  induction files with
  | nil => rfl
  | cons file files inductionHypothesis =>
      rw [mergeSearch, List.foldr_cons, searchOver_setting covers, List.findSome?_cons,
        ← mergeSearch, inductionHypothesis]
      cases file.setting? setting <;> rfl

theorem mergePlaces_cons
    {home : Option String}
    {file : ConfigFile}
    {files : List ConfigFile}
    {places : StorePlaces} :
    mergePlaces home (file :: files) = .ok places ↔
      ∃ below, mergePlaces home files = .ok below ∧ file.placesOver home below = .ok places := by
  rw [mergePlaces, List.foldr_cons, ← mergePlaces]
  cases mergePlaces home files with
  | error failure => simp [Except.bind]
  | ok below => simp [Except.bind]

/-- A place is what the first file to give it says, in the directory of that file. -/
theorem rel_mergePlaces
    {place : StorePlaces → Option String}
    (covered : Covered place)
    (absent : place {} = none)
    {home : Option String}
    {files : List ConfigFile}
    {places : StorePlaces}
    (merged : mergePlaces home files = .ok places) :
    Option.Rel (Places home) (files.findSome? (ConfigFile.place? place)) (place places) := by
  induction files generalizing places with
  | nil =>
      obtain rfl : {} = places := Except.ok.inj merged
      rw [absent]
      exact .none
  | cons file files inductionHypothesis =>
      obtain ⟨below, merged, placed⟩ := mergePlaces_cons.1 merged
      have first := rel_placesOver covered placed (inductionHypothesis merged)
      rw [List.findSome?_cons]
      cases given : file.place? place <;> rwa [given] at first

/-- Without one of the files the places can still be found, and are the same if it gives none. -/
theorem exists_mergePlaces_without
    {home : Option String}
    {file : ConfigFile}
    {before after : List ConfigFile}
    {places : StorePlaces}
    (merged : mergePlaces home (before ++ file :: after) = .ok places) :
    ∃ without, mergePlaces home (before ++ after) = .ok without ∧
      (file.SilentOnStore → without = places) := by
  induction before generalizing places with
  | nil =>
      obtain ⟨below, merged, placed⟩ := mergePlaces_cons.1 merged
      exact ⟨below, merged, fun silent => (silent.placesOver_eq placed).symm⟩
  | cons first before inductionHypothesis =>
      obtain ⟨below, merged, placed⟩ := mergePlaces_cons.1 merged
      obtain ⟨without, mergedWithout, same⟩ := inductionHypothesis merged
      obtain ⟨result, placedWithout⟩ := exists_placesOver placed without
      refine ⟨result, mergePlaces_cons.2 ⟨without, mergedWithout, placedWithout⟩, fun silent => ?_⟩
      rw [same silent, placed] at placedWithout
      exact (Except.ok.inj placedWithout).symm

/-- Without a file that gives no setting of searches, the settings are the same. -/
theorem mergeSearch_without
    {file : ConfigFile}
    (silent : file.SilentOnSearch)
    (before after : List ConfigFile) :
    mergeSearch (before ++ after) = mergeSearch (before ++ file :: after) := by
  simp only [mergeSearch, List.foldr_append, List.foldr_cons, silent.searchOver_eq]

/-- No box is named twice. -/
theorem nodup_mergeNotebooks (files : List ConfigFile) :
    ((mergeNotebooks files).map Prod.fst).Nodup :=
  (((List.mergeSort_perm _ _).map Prod.fst).nodup_iff).2 (nodup_map_distinctBy Prod.fst _)

/-- The names are in the order of the boxes. -/
theorem pairwise_mergeNotebooks (files : List ConfigFile) :
    (mergeNotebooks files).Pairwise fun a b => a.1 ≤ b.1 := by
  have sorted := List.pairwise_mergeSort
    (fun (a b c : String × String) (ab : decide (a.1 ≤ b.1) = true)
      (bc : decide (b.1 ≤ c.1) = true) =>
      decide_eq_true (String.le_trans (of_decide_eq_true ab) (of_decide_eq_true bc)))
    (fun a b => by simpa using String.le_total a.1 b.1)
    (distinctBy Prod.fst (files.flatMap ConfigFile.notebooks))
  exact sorted.imp of_decide_eq_true

/-- The name of a box is that of the first file to name it. -/
theorem lookup_mergeNotebooks
    (files : List ConfigFile)
    (id : String) :
    (mergeNotebooks files).lookup id = files.findSome? fun file => file.notebooks.lookup id := by
  have sorted := List.mergeSort_perm (distinctBy Prod.fst (files.flatMap ConfigFile.notebooks))
    fun a b => a.1 ≤ b.1
  rw [mergeNotebooks, Lists.lookup_eq_of_perm sorted (nodup_mergeNotebooks files), distinctBy,
    lookup_distinctFrom List.not_mem_nil, Lists.lookup_flatMap]

/-- Without a file that names no box, the names are the same. -/
theorem mergeNotebooks_without
    {file : ConfigFile}
    (silent : file.SilentOnNotebooks)
    (before after : List ConfigFile) :
    mergeNotebooks (before ++ after) = mergeNotebooks (before ++ file :: after) := by
  have empty : file.notebooks = [] := by
    refine List.eq_nil_iff_forall_not_mem.2 fun named member => ?_
    simpa using List.lookup_eq_none_iff.1 (silent named.1) named member
  simp only [mergeNotebooks, List.flatMap_append, List.flatMap_cons, empty, List.nil_append]

/-- A configuration consists of the sections that the files give, if the places can be found. -/
theorem merge_eq_ok_iff
    {home : Option String}
    {files : List ConfigFile}
    {config : Config} :
    merge home files = .ok config ↔
      ∃ store, mergePlaces home files = .ok store ∧
        config =
          { search := mergeSearch files
            store
            notebooks := mergeNotebooks files
            root := files.head?.bind fun file => Path.parent? file.path } := by
  unfold merge
  cases mergePlaces home files with
  | error failure => simp [bind, Except.bind]
  | ok store => simp [bind, Except.bind, eq_comm]

/-- Every setting of searches is that of the first file to give it, or else its default. -/
structure SearchFrom (files : List ConfigFile) (search : SearchSettings) : Prop where
  /-- Most rows of a result. -/
  limit : search.limit = (files.findSome? (setting? SearchLayer.limit)).getD 64
  /-- Whether letters of different case differ. -/
  caseSensitive :
    search.caseSensitive = (files.findSome? (setting? SearchLayer.caseSensitive)).getD false
  /-- Whether names are searched. -/
  name : search.name = (files.findSome? (setting? SearchLayer.name)).getD true
  /-- Whether aliases are searched. -/
  aliases : search.aliases = (files.findSome? (setting? SearchLayer.aliases)).getD true
  /-- Whether memos are searched. -/
  memo : search.memo = (files.findSome? (setting? SearchLayer.memo)).getD true
  /-- Whether attributes are searched. -/
  ial : search.ial = (files.findSome? (setting? SearchLayer.ial)).getD false
  /-- Most characters of the text of a reference. -/
  referenceTextLimit :
    search.referenceTextLimit =
      (files.findSome? (setting? SearchLayer.referenceTextLimit)).getD 96
  /-- Which types are searched when a request names none. -/
  types : ∀ type, search.types type =
    (files.findSome? (setting? (flag? type))).getD type.searchedByDefault

theorem searchFrom_mergeSearch (files : List ConfigFile) :
    SearchFrom files (mergeSearch files) where
  limit := mergeSearch_setting (fun _ _ => rfl) files
  caseSensitive := mergeSearch_setting (fun _ _ => rfl) files
  name := mergeSearch_setting (fun _ _ => rfl) files
  aliases := mergeSearch_setting (fun _ _ => rfl) files
  memo := mergeSearch_setting (fun _ _ => rfl) files
  ial := mergeSearch_setting (fun _ _ => rfl) files
  referenceTextLimit := mergeSearch_setting (fun _ _ => rfl) files
  types type :=
    @mergeSearch_setting _ (flag? type) (SearchSettings.types · type) (fun _ _ => rfl) files

/--
Every part of a configuration is decided by the first file that gives it. A setting of searches is
the one of that file, or its default if no file gives it. A place of the store is the path in that
file, as it reads in the directory of this very file, and there is none if no file gives it. A box
has the name that the first file to name it gives, and has one name only. Without any one of the
files there is still a configuration, and each section of which the file gives nothing is the same.
-/
theorem merge_first
    {home : Option String}
    {files : List ConfigFile}
    {config : Config}
    (merged : merge home files = .ok config) :
    SearchFrom files config.search ∧
      Option.Rel (Places home) (files.findSome? (ConfigFile.place? StorePlaces.database))
        config.store.database ∧
      Option.Rel (Places home) (files.findSome? (ConfigFile.place? StorePlaces.trees))
        config.store.trees ∧
      (config.notebooks.map Prod.fst).Nodup ∧
      (∀ id, config.notebooks.lookup id = files.findSome? fun file => file.notebooks.lookup id) ∧
      ∀ before file after, files = before ++ file :: after →
        ∃ without, merge home (before ++ after) = .ok without ∧
          (file.SilentOnSearch → without.search = config.search) ∧
          (file.SilentOnStore → without.store = config.store) ∧
          (file.SilentOnNotebooks → without.notebooks = config.notebooks) := by
  obtain ⟨store, placed, rfl⟩ := merge_eq_ok_iff.1 merged
  refine ⟨searchFrom_mergeSearch files, rel_mergePlaces covered_database rfl placed,
    rel_mergePlaces covered_trees rfl placed, nodup_mergeNotebooks files,
    lookup_mergeNotebooks files, ?_⟩
  rintro before file after rfl
  obtain ⟨places, placedWithout, samePlaces⟩ := exists_mergePlaces_without placed
  exact ⟨_, merge_eq_ok_iff.2 ⟨places, placedWithout, rfl⟩,
    fun silent => mergeSearch_without silent _ _, samePlaces,
    fun silent => mergeNotebooks_without silent _ _⟩

/-- Of three files the first gives a path, the second a limit and a name, the third all of them. -/
theorem merge_first_of_three :
    let near : ConfigFile := ⟨"/p/.quarry.toml", { store := some { trees := some "data" } }⟩
    let middle : ConfigFile := ⟨"/q/.quarry.toml",
      { search := some { limit := some 7 }, notebooks := some [("b", "Work")] }⟩
    let far : ConfigFile := ⟨"/home/u/.quarry.toml",
      { search := some { limit := some 9, memo := some false }
        store := some { trees := some "other", database := some "~/blocks.db" }
        notebooks := some [("a", "Notes"), ("b", "Play")] }⟩
    ∃ config, merge (some "/home/u") [near, middle, far] = .ok config ∧
      SearchFrom [near, middle, far] config.search ∧
      config.search.limit = 7 ∧ config.search.memo = false ∧ config.search.referenceTextLimit = 96 ∧
      config.store.trees = some "/p/data" ∧ config.store.database = some "/home/u/blocks.db" ∧
      config.notebooks.lookup "b" = some "Work" ∧ config.notebooks.lookup "a" = some "Notes" := by
  intro near middle far
  have placed : mergePlaces (some "/home/u") [near, middle, far] =
      .ok ⟨some "/home/u/blocks.db", some "/p/data"⟩ := by
    decide
  have merged := merge_eq_ok_iff.2 ⟨_, placed, rfl⟩
  obtain ⟨search, -, -, -, names, -⟩ := merge_first merged
  refine ⟨_, merged, search, rfl, rfl, rfl, by decide, by decide, ?_, ?_⟩
  · rw [names]
    rfl
  · rw [names]
    rfl

end Config
end BlockSearch
