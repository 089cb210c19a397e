import BlockSearch.Config.Format
import BlockSearch.Proofs.Config.Precedence
import BlockSearch.Proofs.Toml.Lines

/-!
# Reading written configuration

A configuration that files make is written as one file that makes the same configuration again,
wherever that file lies.
-/

namespace BlockSearch

open Toml

namespace Config

/-! ## What is written -/

/-- The settings of searches, the types apart, with their names. -/
def searchMembers (search : SearchSettings) : Members :=
  [("limit", .integer search.limit), ("case_sensitive", .boolean search.caseSensitive),
    ("name", .boolean search.name), ("alias", .boolean search.aliases),
    ("memo", .boolean search.memo), ("ial", .boolean search.ial),
    ("ref_text_max_len", .integer search.referenceTextLimit)]

/-- The types with their names. -/
def typeMembers (types : BlockType → Bool) : Members :=
  BlockType.all.map fun type => (type.settingName, .boolean (types type))

/-- Texts with their names. -/
def textMembers (texts : List (String × String)) : Members :=
  texts.map fun named => (named.1, .string named.2)

/-- The places of the store that there are, with their names. -/
def placeTexts (store : StorePlaces) : List (String × String) :=
  (store.database.toList.map fun path => ("database", path)) ++
    store.trees.toList.map fun path => ("trees", path)

/-- The table of the settings of searches. -/
def searchTable (search : SearchSettings) : Toml :=
  .table .header (searchMembers search ++ [("types", .table .header (typeMembers search.types))])

/-- The document of a configuration. -/
def document (config : Config) : Members :=
  [("search", searchTable config.search),
    ("store", .table .header (textMembers (placeTexts config.store))),
    ("notebooks", .table .header (textMembers config.notebooks))]

/-- The lines of a configuration. -/
def lines (config : Config) : List Line :=
  .header [] "search" :: ((searchMembers config.search).map Line.ofNamed ++
    .header ["search"] "types" :: ((typeMembers config.search.types).map Line.ofNamed ++
      .header [] "store" :: ((textMembers (placeTexts config.store)).map Line.ofNamed ++
        .header [] "notebooks" :: ((textMembers config.notebooks).map Line.ofNamed ++ []))))

/-! ## Lines and tables -/

theorem storeLines_eq (store : StorePlaces) :
    storeLines store =
      writeHeader "store" ++ (placeTexts store).flatMap fun named => writeText named.1 named.2 := by
  obtain ⟨database, trees⟩ := store
  cases database <;> cases trees <;> simp [storeLines, placeLine, placeTexts]

/-- A configuration that can be written and read back. -/
structure Printable (config : Config) : Prop where
  /-- The most rows of a result are a number of 64 bits. -/
  limit : config.search.limit < UInt64.size
  /-- So are the most characters of the text of a reference. -/
  referenceTextLimit : config.search.referenceTextLimit < UInt64.size
  /-- The path of the database begins at the root. -/
  database : ∀ path ∈ config.store.database, Path.isAbsolute path = true
  /-- So does the path of the directory of documents. -/
  trees : ∀ path ∈ config.store.trees, Path.isAbsolute path = true
  /-- No box has two names. -/
  different : (config.notebooks.map Prod.fst).Nodup
  /-- The names are in the order of the boxes. -/
  sorted : config.notebooks.Pairwise fun a b => a.1 ≤ b.1

theorem reads_searchLines
    {config : Config}
    (printable : config.Printable)
    {rest : List Char}
    {lines : List Line}
    (reads : Reads rest lines) :
    Reads (searchLines config.search ++ rest)
      (.header [] "search" :: ((searchMembers config.search).map Line.ofNamed ++ lines)) := by
  have keys := ((((((reads.pair (spells_natural printable.referenceTextLimit)
    "ref_text_max_len").pair
    (spells_flag config.search.ial) "ial").pair
    (spells_flag config.search.memo) "memo").pair
    (spells_flag config.search.aliases) "alias").pair
    (spells_flag config.search.name) "name").pair
    (spells_flag config.search.caseSensitive) "case_sensitive").pair
    (spells_natural printable.limit) "limit"
  have table := keys.header "search" rfl
  simp only [searchLines, List.append_assoc]
  exact table

theorem reads_typeLines
    (types : BlockType → Bool)
    {rest : List Char}
    {lines : List Line}
    (reads : Reads rest lines) :
    Reads (typeLines types ++ rest)
      (.header ["search"] "types" :: ((typeMembers types).map Line.ofNamed ++ lines)) := by
  have keys := @Reads.pairs BlockType BlockType.settingName _ _ _ _ reads
    (fun type => spells_flag (types type)) BlockType.all
  have table := keys.headerDot "search" "types" rfl rfl
  rw [typeLines, List.append_assoc]
  exact table

/-- The texts of a table in front of other lines are read first. -/
theorem reads_texts
    (texts : List (String × String))
    {rest : List Char}
    {lines : List Line}
    (reads : Reads rest lines) :
    Reads ((texts.flatMap fun named => writeText named.1 named.2) ++ rest)
      ((textMembers texts).map Line.ofNamed ++ lines) :=
  have spells : ∀ named : String × String, Spells (quoted named.2.toList) (.string named.2) :=
    fun named => spells_quoted named.2
  @Reads.pairs (String × String) Prod.fst _ _ _ _ reads spells texts

theorem reads_storeLines
    (store : StorePlaces)
    {rest : List Char}
    {lines : List Line}
    (reads : Reads rest lines) :
    Reads (storeLines store ++ rest)
      (.header [] "store" :: ((textMembers (placeTexts store)).map Line.ofNamed ++ lines)) := by
  have table := (reads_texts (placeTexts store) reads).header "store" rfl
  rw [storeLines_eq, List.append_assoc]
  exact table

theorem reads_notebookLines
    (notebooks : List (String × String))
    {rest : List Char}
    {lines : List Line}
    (reads : Reads rest lines) :
    Reads (notebookLines notebooks ++ rest)
      (.header [] "notebooks" :: ((textMembers notebooks).map Line.ofNamed ++ lines)) := by
  have table := (reads_texts notebooks reads).header "notebooks" rfl
  rw [notebookLines, List.append_assoc]
  exact table

/-- A written configuration is read as its lines. -/
theorem reads_print
    {config : Config}
    (printable : config.Printable) :
    Reads config.print.toList (lines config) := by
  have notebooks := reads_notebookLines config.notebooks Reads.nil
  have store := reads_storeLines config.store notebooks.empty
  have search := reads_searchLines printable (reads_typeLines config.search.types store.empty).empty
  rw [List.append_nil] at search
  rw [print, String.toList_ofList]
  simp only [List.append_assoc, List.cons_append]
  exact search

/-- The lines of a configuration make its document. -/
theorem ofLines?_lines
    {config : Config}
    (different : (config.notebooks.map Prod.fst).Nodup) :
    ofLines? (lines config) = some (document config) := by
  have keys {texts : List (String × String)} (different : (texts.map Prod.fst).Nodup) :
      ((textMembers texts).map Prod.fst).Nodup := by
    simpa [textMembers, Function.comp_def] using different
  have places : ((placeTexts config.store).map Prod.fst).Nodup := by
    cases database : config.store.database <;> cases trees : config.store.trees <;>
      simp [placeTexts, database, trees]
  have searchKeys : ((searchMembers config.search).map Prod.fst).Nodup := by
    change ["limit", "case_sensitive", "name", "alias", "memo", "ial", "ref_text_max_len"].Nodup
    decide
  have typeKeys : ((typeMembers config.search.types).map Prod.fst).Nodup := by
    change (BlockType.all.map BlockType.settingName).Nodup
    decide
  have inSearch := @Focus.table [] "search" id [] Focus.document rfl
  have search := @Focus.foldlM_table [] "search" id [] Focus.document rfl _ searchKeys []
  have types := @Focus.foldlM_table (searchMembers config.search) "types" _ _ inSearch rfl _
    typeKeys ["search"]
  have store := @Focus.foldlM_table [("search", searchTable config.search)] "store" id []
    Focus.document rfl _ (keys places) ["search", "types"]
  have notebooks := @Focus.foldlM_table
    [("search", searchTable config.search),
      ("store", .table .header (textMembers (placeTexts config.store)))] "notebooks" id []
    Focus.document rfl _ (keys different) ["store"] []
  have whole : (lines config).foldlM Draft.add? Draft.empty =
      some ⟨document config, ["notebooks"]⟩ :=
    (search _).trans ((types _).trans ((store _).trans notebooks))
  rw [ofLines?, whole]
  rfl

/-! ## Layers -/

/-- What the document of a configuration gives. -/
def layer (config : Config) : ConfigLayer where
  search := some
    { limit := some config.search.limit
      caseSensitive := some config.search.caseSensitive
      name := some config.search.name
      aliases := some config.search.aliases
      memo := some config.search.memo
      ial := some config.search.ial
      referenceTextLimit := some config.search.referenceTextLimit
      types := some fun type => some (config.search.types type) }
  store := some config.store
  notebooks := some config.notebooks

theorem natural?_integer
    {n : Nat}
    (small : n < UInt64.size) :
    natural? (.integer n) = some n :=
  if_pos small

/-- The types are read back. -/
theorem types?_typeMembers (types : BlockType → Bool) :
    SearchLayer.types? (.table .header (typeMembers types)) =
      some fun type => some (types type) := by
  have found : ∀ type ∈ BlockType.all,
      find? (typeMembers types) type.settingName = some (.boolean (types type)) := by
    intro type _
    cases type <;> rfl
  have fields : (BlockType.all.map BlockType.settingName).map (find? (typeMembers types)) =
      BlockType.all.map fun type => some (.boolean (types type)) := by
    rw [List.map_map]
    exact List.map_congr_left found
  have flags : (BlockType.all.map fun type => some (Toml.boolean (types type))).mapM
      (optional? boolean?) = some (BlockType.all.map fun type => some (types type)) := by
    rw [List.mapM_map]
    exact Lists.mapM_eq_map fun type _ => rfl
  have read : SearchLayer.ofFlags (BlockType.all.map fun type => some (types type)) =
      fun type => some (types type) := by
    funext type
    cases type <;> rfl
  rw [SearchLayer.types?, fields?, members?]
  simp only [fields, Option.bind_eq_bind, Option.bind_some, flags, read]

/-- The settings of searches are read back. -/
theorem ofToml?_searchTable
    {config : Config}
    (printable : config.Printable) :
    SearchLayer.ofToml? (searchTable config.search) = (layer config).search := by
  have types := types?_typeMembers config.search.types
  have fields : (searchTable config.search).fields? SearchLayer.names =
      some [some (.integer config.search.limit), some (.boolean config.search.caseSensitive),
        some (.boolean config.search.name), some (.boolean config.search.aliases),
        some (.boolean config.search.memo), some (.boolean config.search.ial),
        some (.integer config.search.referenceTextLimit),
        some (.table .header (typeMembers config.search.types))] := rfl
  rw [SearchLayer.ofToml?, fields]
  simp [optional?, natural?_integer printable.limit,
    natural?_integer printable.referenceTextLimit, types, boolean?, layer]

/-- The places of the store are read back. -/
theorem ofToml?_placeTexts (store : StorePlaces) :
    StorePlaces.ofToml? (.table .header (textMembers (placeTexts store))) = some store := by
  obtain ⟨database, trees⟩ := store
  cases database <;> cases trees <;> rfl

/-- The names of boxes are read back. -/
theorem notebooks?_textMembers (texts : List (String × String)) :
    ConfigLayer.notebooks? (.table .header (textMembers texts)) = some texts := by
  change ((textMembers texts).mapM fun named => named.2.string?.map fun name => (named.1, name)) = _
  rw [textMembers, List.mapM_map]
  exact (@Lists.mapM_eq_map _ _ _ id texts fun named _ => rfl).trans
    (congrArg some (List.map_id texts))

/-- A written configuration is read as the layer that gives all of it. -/
theorem read?_print
    {config : Config}
    (printable : config.Printable) :
    ConfigLayer.read? config.print = some (layer config) := by
  have read : Toml.read? config.print = some (document config) := by
    rw [← ofLines?_lines printable.different]
    refine read?_of_reads (reads_print printable) ?_
    rw [print, String.toList_ofList]
    rfl
  have search := ofToml?_searchTable printable
  have store := ofToml?_placeTexts config.store
  have notebooks := notebooks?_textMembers config.notebooks
  rw [ConfigLayer.read?, read, Option.bind_some, ConfigLayer.ofMembers?]
  simp [document, Toml.find?, optional?, search, store, notebooks, layer]

/-! ## Merging what was read -/

/-- A path from the root is what it stands for in every directory. -/
theorem resolve_of_isAbsolute
    {path : String}
    (absolute : Path.isAbsolute path = true)
    (home : Option String)
    (directory : String) :
    Path.resolve home directory path = .ok path := by
  have first : path.toList.head? = some '/' := beq_iff_eq.1 absolute
  have expanded : Path.expand? home path = some path := by
    unfold Path.expand?
    split
    · next same =>
        rw [same, List.head?_cons] at first
        exact absurd first (by decide)
    · next rest same =>
        rw [same, List.head?_cons] at first
        exact absurd first (by decide)
    · rfl
  rw [Path.resolve, expanded]
  exact congrArg Except.ok (if_pos absolute)

theorem isAbsolute_append
    {path : String}
    (absolute : Path.isAbsolute path = true)
    (more : String) :
    Path.isAbsolute (path ++ more) = true := by
  have first : path.toList.head? = some '/' := beq_iff_eq.1 absolute
  rw [Path.isAbsolute, beq_iff_eq, String.toList_append, List.head?_append, first]
  rfl

/-- In a directory that begins at the root, every path stands for one from the root. -/
theorem isAbsolute_of_resolve
    {home : Option String}
    {directory text path : String}
    (absolute : Path.isAbsolute directory = true)
    (resolved : Path.resolve home directory text = .ok path) :
    Path.isAbsolute path = true := by
  unfold Path.resolve at resolved
  split at resolved
  · next expanded _ =>
      obtain rfl := Except.ok.inj resolved
      unfold Path.join
      split_ifs with already closed
      · exact already
      · exact isAbsolute_append absolute expanded
      · exact isAbsolute_append (isAbsolute_append absolute "/") expanded
  · cases resolved

theorem placeOver_of_isAbsolute
    {path : Option String}
    (absolute : ∀ text ∈ path, Path.isAbsolute text = true)
    (home : Option String)
    (directory : String) :
    StorePlaces.placeOver home directory path none = .ok path := by
  cases path with
  | none => rfl
  | some path =>
      rw [StorePlaces.placeOver, resolve_of_isAbsolute (absolute path rfl)]
      rfl

/-- The layer that gives all of a configuration makes that configuration, wherever it lies. -/
theorem merge_layer
    {config : Config}
    (printable : config.Printable)
    (home : Option String)
    {path directory : String}
    (lies : Path.parent? path = some directory) :
    ∃ again, merge home [⟨path, layer config⟩] = .ok again ∧
      again.search = config.search ∧ again.store = config.store ∧
      again.notebooks = config.notebooks := by
  let file : ConfigFile := ⟨path, layer config⟩
  have covered : file.placesOver home {} = .ok config.store := by
    have database := placeOver_of_isAbsolute printable.database home directory
    have trees := placeOver_of_isAbsolute printable.trees home directory
    rw [ConfigFile.placesOver, lies]
    exact ConfigFile.cover_eq_ok_iff.2 ⟨database, trees⟩
  have placed : mergePlaces home [file] = .ok config.store := mergePlaces_cons.2 ⟨{}, rfl, covered⟩
  have notebooks : mergeNotebooks [file] = config.notebooks := by
    have all : [file].flatMap ConfigFile.notebooks = config.notebooks :=
      List.append_nil config.notebooks
    rw [mergeNotebooks, all, distinctBy_eq_self printable.different]
    exact List.mergeSort_of_pairwise (by simpa using printable.sorted)
  exact ⟨_, merge_eq_ok_iff.2 ⟨config.store, placed, rfl⟩, rfl, rfl, notebooks⟩

/-! ## Merged configurations -/

theorem lt_of_natural?
    {value : Toml}
    {n : Nat}
    (read : natural? value = some n) :
    n < UInt64.size := by
  unfold natural? at read
  split at read
  · split_ifs at read with small
    exact Option.some.inj read ▸ small
  · cases read

theorem exists_of_optional?
    {α : Type}
    {read : Toml → Option α}
    {value : Option Toml}
    {result : α}
    (given : optional? read value = some (some result)) :
    ∃ toml, read toml = some result := by
  cases value with
  | none => cases given
  | some toml => exact ⟨toml, by simpa [optional?] using given⟩

/-- Numbers that a file gives are numbers of 64 bits. -/
theorem lt_of_ofToml?
    {value : Toml}
    {layer : SearchLayer}
    (read : SearchLayer.ofToml? value = some layer) :
    (∀ n ∈ layer.limit, n < UInt64.size) ∧ ∀ n ∈ layer.referenceTextLimit, n < UInt64.size := by
  unfold SearchLayer.ofToml? at read
  simp only [Option.bind_eq_bind, Option.bind_eq_some_iff] at read
  obtain ⟨fields, -, read⟩ := read
  split at read
  · simp only [Option.bind_eq_some_iff] at read
    obtain ⟨_, limitRead, _, -, _, -, _, -, _, -, _, -, _, textRead, _, -, read⟩ := read
    obtain rfl := Option.some.inj read
    constructor
    · rintro n ⟨⟩
      obtain ⟨toml, read⟩ := exists_of_optional? limitRead
      exact lt_of_natural? read
    · rintro n ⟨⟩
      obtain ⟨toml, read⟩ := exists_of_optional? textRead
      exact lt_of_natural? read
  · cases read

/-- The settings of searches of a file are read from a value. -/
theorem exists_of_read?
    {text : String}
    {layer : ConfigLayer}
    (read : ConfigLayer.read? text = some layer)
    {search : SearchLayer}
    (given : layer.search = some search) :
    ∃ value, SearchLayer.ofToml? value = some search := by
  obtain ⟨members, -, read⟩ := Option.bind_eq_some_iff.1 read
  unfold ConfigLayer.ofMembers? at read
  simp only [Option.bind_eq_bind, Option.bind_eq_some_iff] at read
  obtain ⟨_, -, found, searchRead, _, -, _, -, read⟩ := read
  obtain rfl := Option.some.inj read
  obtain rfl : found = some search := given
  exact exists_of_optional? searchRead

/-- What files in directories from the root make can be written and read back. -/
theorem printable_of_merge
    {home : Option String}
    {files : List ConfigFile}
    {config : Config}
    (merged : merge home files = .ok config)
    (parsed : ∀ file ∈ files, ∃ text, ConfigLayer.read? text = some file.layer)
    (absolute : ∀ file ∈ files, ∃ directory,
      Path.parent? file.path = some directory ∧ Path.isAbsolute directory = true) :
    config.Printable := by
  obtain ⟨store, placed, rfl⟩ := merge_eq_ok_iff.1 merged
  have search := searchFrom_mergeSearch files
  -- A number is a default or one that a file gives.
  have small {setting : SearchLayer → Option Nat} {default : Nat}
      (given : ∀ {value layer}, SearchLayer.ofToml? value = some layer →
        ∀ n ∈ setting layer, n < UInt64.size)
      (smallDefault : default < UInt64.size) :
      (files.findSome? (ConfigFile.setting? setting)).getD default < UInt64.size := by
    cases first : files.findSome? (ConfigFile.setting? setting) with
    | none => exact smallDefault
    | some n =>
        obtain ⟨file, member, gives⟩ := List.exists_of_findSome?_eq_some first
        obtain ⟨layer, layered, gives⟩ := Option.bind_eq_some_iff.1 gives
        obtain ⟨text, read⟩ := parsed file member
        obtain ⟨value, read⟩ := exists_of_read? read layered
        exact given read n gives
  -- A place is a path in the directory of the file that gives it.
  have fromRoot {place : StorePlaces → Option String} {result : Option String}
      (first : Option.Rel (ConfigFile.Places home) (files.findSome? (ConfigFile.place? place))
        result) :
      ∀ path ∈ result, Path.isAbsolute path = true := by
    rintro path ⟨⟩
    generalize found : files.findSome? (ConfigFile.place? place) = given at first
    obtain ⟨directory, lies, resolved⟩ := first
    obtain ⟨file, member, gives⟩ := List.exists_of_findSome?_eq_some found
    obtain ⟨text, -, rfl⟩ := Option.map_eq_some_iff.1 gives
    obtain ⟨other, liesThere, fromRoot⟩ := absolute file member
    obtain rfl : directory = other := Option.some.inj (lies.symm.trans liesThere)
    exact isAbsolute_of_resolve fromRoot resolved
  exact {
    limit := search.limit ▸ small (fun read => (lt_of_ofToml? read).1) (by decide)
    referenceTextLimit :=
      search.referenceTextLimit ▸ small (fun read => (lt_of_ofToml? read).2) (by decide)
    database := fromRoot (rel_mergePlaces ConfigFile.covered_database rfl placed)
    trees := fromRoot (rel_mergePlaces ConfigFile.covered_trees rfl placed)
    different := nodup_mergeNotebooks files
    sorted := pairwise_mergeNotebooks files }

/--
A configuration that files in directories from the root make is written as one file that is read
again, and wherever this file lies, it makes the same settings of searches, the same places of
the store and the same names of boxes, whatever characters the names, boxes and paths hold.
-/
theorem merge_read?_print
    {home : Option String}
    {files : List ConfigFile}
    {config : Config}
    (merged : merge home files = .ok config)
    (parsed : ∀ file ∈ files, ∃ text, ConfigLayer.read? text = some file.layer)
    (absolute : ∀ file ∈ files, ∃ directory,
      Path.parent? file.path = some directory ∧ Path.isAbsolute directory = true)
    (otherHome : Option String)
    {path directory : String}
    (lies : Path.parent? path = some directory) :
    ∃ layer again, ConfigLayer.read? config.print = some layer ∧
      merge otherHome [⟨path, layer⟩] = .ok again ∧
      again.search = config.search ∧ again.store = config.store ∧
      again.notebooks = config.notebooks := by
  have printable := printable_of_merge merged parsed absolute
  obtain ⟨again, mergedAgain, same⟩ := merge_layer printable otherHome lies
  exact ⟨layer config, again, read?_print printable, mergedAgain, same⟩

/-- Keys and texts with quotes, a backslash, control characters and ends of lines are read again. -/
theorem merge_read?_print_of_marks :
    let text :=
      "[store]\ntrees = \"a\\u0001'\"\n[notebooks]\n\"\" = 'x\\'\n\"a.b\\n\" = '''\n1\n\"2\"'''\n"
    ∃ file config layer again, ConfigLayer.read? text = some file ∧
      merge none [⟨"/p/.quarry.toml", file⟩] = .ok config ∧
      config.store.trees = some "/p/a\x01'" ∧
      config.notebooks = [("", "x\\"), ("a.b\n", "1\n\"2\"")] ∧
      ConfigLayer.read? config.print = some layer ∧
      merge (some "/h") [⟨"/q/.quarry.toml", layer⟩] = .ok again ∧
      again.search = config.search ∧ again.store = config.store ∧
      again.notebooks = config.notebooks := by
  intro text
  let given : ConfigLayer :=
    { store := some { trees := some "a\x01'" }
      notebooks := some [("", "x\\"), ("a.b\n", "1\n\"2\"")] }
  let file : ConfigFile := ⟨"/p/.quarry.toml", given⟩
  have read : ConfigLayer.read? text = some given := by
    unfold text given
    rfl
  have placed : mergePlaces none [file] = .ok ⟨none, some "/p/a\x01'"⟩ := by decide
  have merged := merge_eq_ok_iff.2 ⟨_, placed, rfl⟩
  have notebooks : mergeNotebooks [file] = [("", "x\\"), ("a.b\n", "1\n\"2\"")] :=
    List.mergeSort_of_pairwise (by decide)
  have parsed : ∀ other ∈ [file], ∃ text, ConfigLayer.read? text = some other.layer := by
    simpa using ⟨text, read⟩
  have absolute : ∀ other ∈ [file], ∃ directory,
      Path.parent? other.path = some directory ∧ Path.isAbsolute directory = true := by
    simpa using ⟨"/p", by decide⟩
  obtain ⟨layer, again, readAgain, mergedAgain, same⟩ :=
    @merge_read?_print _ _ _ merged parsed absolute (some "/h") "/q/.quarry.toml" "/q" (by decide)
  exact ⟨given, _, layer, again, read, merged, rfl, notebooks, readAgain, mergedAgain, same⟩

end Config
end BlockSearch
