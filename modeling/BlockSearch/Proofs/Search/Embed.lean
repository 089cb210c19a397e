import BlockSearch.Engine.Search
import BlockSearch.Proofs.Index.Consistency
import BlockSearch.Proofs.Index.History
import BlockSearch.Proofs.Library.Cache
import BlockSearch.Proofs.Sql.Selection

/-!
# Blocks that an embed shows

An embed leaves out the rows whose type is that of embeds. The type is the one that the
statement selects, and not the one that is stored: a row without a type is shown, whatever its
block is. A statement that selects all columns of the records shows no embed.
-/

namespace BlockSearch

/-! ## Shown blocks -/

namespace Embedded

/-- A shown block has the identifier of its record, which names a node of its document. -/
theorem ofRecord?_eq_some
    {style : Style}
    {tree : Tree}
    {record : Record}
    {embedded : Embedded}
    (shown : ofRecord? style tree record = some embedded) :
    embedded.block.id = record.id ∧ tree.findBlock? record.id ≠ none := by
  rw [ofRecord?, Option.map_eq_some_iff] at shown
  obtain ⟨i, found, rfl⟩ := shown
  exact ⟨rfl, by rw [found]; simp⟩

theorem exists_ofRecord?
    (style : Style)
    {tree : Tree}
    {record : Record}
    (found : tree.findBlock? record.id ≠ none) :
    ∃ embedded, ofRecord? style tree record = some embedded := by
  obtain ⟨i, here⟩ := Option.ne_none_iff_exists'.1 found
  rw [ofRecord?, here]
  exact ⟨_, rfl⟩

/-- The records are shown that are in their documents, as far as the cache admits these. -/
theorem ofRecords_eq
    {style : Style}
    {load : String → Except TreeError Tree}
    {cache : TreeCache}
    {asked : List String}
    (serves : cache.Serves load asked)
    (records : List Record) :
    ofRecords style load cache records =
      records.filterMap fun record =>
        if record.rootId ∈ TreeCache.admitted load cache.capacity
            (asked ++ records.map Record.rootId) then
          (load record.rootId).toOption.bind fun tree => ofRecord? style tree record
        else none := by
  induction records generalizing cache asked with
  | nil => rfl
  | cons record records inductionHypothesis =>
      obtain ⟨servesNext, capacity, answer⟩ := serves.get record.rootId
      have others := inductionHypothesis servesNext
      have behind : asked ++ [record.rootId] ++ records.map Record.rootId =
          asked ++ (record :: records).map Record.rootId := by simp
      -- Whether this document is admitted is known as soon as it is asked for.
      have known : record.rootId ∈ TreeCache.admitted load cache.capacity
            (asked ++ [record.rootId] ++ records.map Record.rootId) ↔
          record.rootId ∈ TreeCache.admitted load cache.capacity (asked ++ [record.rootId]) :=
        TreeCache.mem_admitted_append (List.mem_append_right _ List.mem_cons_self) _
      rw [capacity] at others
      rw [behind] at others known
      rw [ofRecords, List.filterMap_cons]
      simp only [others, answer, known]
      split_ifs
      · cases (load record.rootId).toOption.bind fun tree => ofRecord? style tree record <;> rfl
      · rfl

/-- The rows whose blocks an embed may show. -/
theorem mem_shown_iff
    {excluded : List String}
    {rows : List Record}
    {row : Record} :
    row ∈ shown excluded rows ↔ row ∈ rows ∧ row.type ≠ embedType ∧ row.id ∉ excluded := by
  simp [shown]

/-- A block is shown for a row whose type is not that of embeds, in a document that is loaded. -/
theorem mem_ofRecords_shown
    {style : Style}
    {load : String → Except TreeError Tree}
    {excluded : List String}
    {rows : List Record}
    {embedded : Embedded}
    (member : embedded ∈ ofRecords style load .forRequest (shown excluded rows)) :
    ∃ row ∈ rows, row.type ≠ embedType ∧ row.id ∉ excluded ∧
      ∃ tree, load row.rootId = .ok tree ∧ ofRecord? style tree row = some embedded := by
  rw [ofRecords_eq (.forRequest load), List.mem_filterMap] at member
  obtain ⟨row, here, made⟩ := member
  obtain ⟨selected, type, kept⟩ := mem_shown_iff.1 here
  split_ifs at made
  obtain ⟨tree, loads, made⟩ := Option.bind_eq_some_iff.1 made
  refine ⟨row, selected, type, kept, tree, ?_, made⟩
  cases loaded : load row.rootId with
  | error error => simp [loaded, Except.toOption] at loads
  | ok other => simpa [loaded, Except.toOption] using loads

/-- Every block that is shown for some rows is that of one whose type is not that of embeds. -/
theorem exists_row_of_mem
    {style : Style}
    {load : String → Except TreeError Tree}
    {excluded : List String}
    {rows : List Record}
    {embedded : Embedded}
    (member : embedded ∈ ofRecords style load .forRequest (shown excluded rows)) :
    ∃ row ∈ rows, row.id = embedded.block.id ∧ row.type ≠ embedType ∧ row.id ∉ excluded := by
  obtain ⟨row, selected, type, kept, tree, _, made⟩ := mem_ofRecords_shown member
  exact ⟨row, selected, (ofRecord?_eq_some made).1.symm, type, kept⟩

/-- With room for all documents, all blocks of such rows are shown that are in their documents. -/
theorem exists_mem_iff
    {style : Style}
    {load : String → Except TreeError Tree}
    {excluded : List String}
    {rows : List Record}
    (enough : (distinct (rows.map Record.rootId)).length ≤ TreeCache.requestCapacity)
    (id : String) :
    (∃ embedded ∈ ofRecords style load .forRequest (shown excluded rows),
        embedded.block.id = id) ↔
      ∃ row ∈ rows, row.id = id ∧ row.type ≠ embedType ∧ id ∉ excluded ∧
        ∃ tree, load row.rootId = .ok tree ∧ tree.findBlock? id ≠ none := by
  constructor
  · rintro ⟨embedded, member, rfl⟩
    obtain ⟨row, selected, type, kept, tree, loaded, made⟩ := mem_ofRecords_shown member
    obtain ⟨same, found⟩ := ofRecord?_eq_some made
    rw [same]
    exact ⟨row, selected, rfl, type, kept, tree, loaded, found⟩
  · rintro ⟨row, selected, rfl, type, kept, tree, loaded, found⟩
    obtain ⟨embedded, made⟩ := exists_ofRecord? style found
    have here := mem_shown_iff.2 ⟨selected, type, kept⟩
    have inside : distinct ((shown excluded rows).map Record.rootId) ⊆
        distinct (rows.map Record.rootId) := by
      intro rootId member
      rw [mem_distinct] at member ⊢
      obtain ⟨other, listed, rfl⟩ := List.mem_map.1 member
      exact List.mem_map_of_mem (mem_shown_iff.1 listed).1
    have fewer := ((nodup_distinct _).subperm inside).length_le
    have admitted : row.rootId ∈ TreeCache.admitted load TreeCache.forRequest.capacity
        ((shown excluded rows).map Record.rootId) :=
      TreeCache.mem_admitted_of_length_le (Nat.le_trans fewer enough)
        (TreeCache.mem_loadable.2 ⟨List.mem_map_of_mem here, tree, loaded⟩)
    refine ⟨embedded, ?_, (ofRecord?_eq_some made).1⟩
    rw [ofRecords_eq (.forRequest load), List.mem_filterMap]
    refine ⟨row, here, ?_⟩
    rw [List.nil_append, if_pos admitted, loaded]
    exact made

end Embedded

/-! ## Embeds -/

namespace Engine

/-- The statement that is run for an embed. -/
def embedStatement (engine : Engine) (request : EmbedRequest) : String :=
  String.ofList <|
    Statement.withLimit engine.settings.limit (Query.removeInvisible request.statement.toList)

/-- Whether the statement of an embed selects all columns of a table of records. -/
def TakesRecords (engine : Engine) (request : EmbedRequest) : Prop :=
  ∃ prepared, Sql.Prepared.read? (engine.embedStatement request).toList = some prepared ∧
    prepared.select.TakesRecords

/-- The outcome of an embed, by the rows of its statement. -/
theorem embed_eq
    (engine : Engine)
    (request : EmbedRequest) :
    engine.embed request =
      match Sql.records? engine.store (engine.embedStatement request) [] with
      | none => (.error .statement, engine.wait)
      | some rows =>
          (.ok (Embedded.ofRecords
              ⟨request.heading, request.breadcrumb, engine.mode, engine.notebooks⟩
              engine.library.load .forRequest (Embedded.shown request.excluded rows)),
            engine.wait.addTask
              (.indexEmbed request.id ((Embedded.shown request.excluded rows).map Record.id))) := by
  have selected : engine.wait.embeddedRecords? request =
      (Sql.records? engine.store (engine.embedStatement request) []).map
        (Embedded.shown request.excluded) := rfl
  unfold embed
  simp only [selected]
  cases Sql.records? engine.store (engine.embedStatement request) [] <;> rfl

/-- The rows of an embed that could be resolved. -/
theorem embed_eq_ok
    {engine after : Engine}
    {request : EmbedRequest}
    {shown : List Embedded}
    (done : engine.embed request = (.ok shown, after)) :
    ∃ rows, Sql.records? engine.store (engine.embedStatement request) [] = some rows ∧
      shown = Embedded.ofRecords
        ⟨request.heading, request.breadcrumb, engine.mode, engine.notebooks⟩
        engine.library.load .forRequest (Embedded.shown request.excluded rows) := by
  rw [embed_eq] at done
  cases answered : Sql.records? engine.store (engine.embedStatement request) [] with
  | none =>
      rw [answered] at done
      cases done
  | some rows =>
      rw [answered] at done
      cases done
      exact ⟨rows, rfl, rfl⟩

/-- A recorded embed has a record with the type of embeds. -/
theorem Consistent.exists_record_of_queryEmbed
    {engine : Engine}
    (consistent : engine.Consistent)
    {id : String}
    {tree : Tree}
    (loaded : engine.library.load id = .ok tree)
    (nodup : (tree.namedBlocks.map fun i => (tree.node i).id).Nodup)
    {i : NodeId}
    (named : i ∈ tree.namedBlocks)
    {name : String}
    (idOf : (tree.node i).id = some name)
    {statement : String}
    (kindOf : tree.kind i = .queryEmbed statement) :
    ∃ record ∈ engine.store.blocks, record.id = name ∧ record.type = Embedded.embedType := by
  obtain ⟨records, recorded, rows⟩ := consistent id tree loaded
  obtain ⟨record, member, same⟩ := Tree.exists_record_of_mem_namedBlocks recorded named idOf
  obtain ⟨j, otherNamed, recordOf⟩ := Tree.exists_of_mem_records? recorded member
  have otherId : (tree.node j).id = some name := by
    obtain ⟨k, _, hasId⟩ := Tree.of_mem_namedBlocks (fun _ => True) (by simp) trivial otherNamed
    obtain ⟨other, otherOf⟩ := Option.isSome_iff_exists.1 hasId
    have value := (Tree.record?_eq_some recordOf).2
    rw [otherOf, Option.getD_some, same] at value
    rw [otherOf, value]
  obtain rfl := List.inj_on_of_nodup_map nodup otherNamed named (otherId.trans idOf.symm)
  refine ⟨record, (List.mem_filter.1 (rows.mem_iff.2 member)).1, same, ?_⟩
  rw [Tree.type_of_record? recordOf, kindOf]
  rfl

/-- Rows with all columns have the types that are stored. -/
theorem type_of_takesRecords
    {engine : Engine}
    {request : EmbedRequest}
    (distinctIds : engine.store.DistinctIds)
    (takes : engine.TakesRecords request)
    {rows : List Record}
    (answered : Sql.records? engine.store (engine.embedStatement request) [] = some rows)
    {row : Record}
    (selected : row ∈ rows)
    (named : row.id ≠ "")
    {record : Record}
    (member : record ∈ engine.store.blocks)
    (same : record.id = row.id) :
    record.type = row.type := by
  obtain ⟨prepared, read, takesAll⟩ := takes
  rcases Sql.mem_blocks_of_takesRecords read takesAll answered selected with rowMember | empty
  · rw [List.inj_on_of_nodup_map distinctIds member rowMember same]
  · rw [empty] at named
    exact absurd rfl named

/--
An embed shows the blocks of the rows of its statement that are in their documents, except
those with an excluded identifier and those whose selected type is that of embeds; what is
stored of a block does not matter. So an embed is shown if the statement selects no type. If
it selects all columns of the records, no embed is shown: neither a block that is stored as
one, nor one of a document with which the store agrees.
-/
theorem embed_shows_by_selected_type
    {engine after : Engine}
    {request : EmbedRequest}
    {shown : List Embedded}
    (done : engine.embed request = (.ok shown, after)) :
    ∃ rows, Sql.records? engine.store (engine.embedStatement request) [] = some rows ∧
      (∀ embedded ∈ shown, ∃ row ∈ rows, row.id = embedded.block.id ∧
        row.type ≠ Embedded.embedType ∧ row.id ∉ request.excluded) ∧
      ((distinct (rows.map Record.rootId)).length ≤ TreeCache.requestCapacity →
        ∀ id, (∃ embedded ∈ shown, embedded.block.id = id) ↔
          ∃ row ∈ rows, row.id = id ∧ row.type ≠ Embedded.embedType ∧ id ∉ request.excluded ∧
            ∃ tree, engine.library.load row.rootId = .ok tree ∧ tree.findBlock? id ≠ none) ∧
      (engine.store.DistinctIds → engine.TakesRecords request →
        ∀ embedded ∈ shown, embedded.block.id ≠ "" →
          (∀ record ∈ engine.store.blocks, record.id = embedded.block.id →
            record.type ≠ Embedded.embedType) ∧
          (engine.Consistent → ∀ id tree, engine.library.load id = .ok tree →
            (tree.namedBlocks.map fun i => (tree.node i).id).Nodup →
            ∀ i ∈ tree.namedBlocks, (tree.node i).id = some embedded.block.id →
              ∀ statement, tree.kind i ≠ .queryEmbed statement)) := by
  obtain ⟨rows, answered, rfl⟩ := embed_eq_ok done
  refine ⟨rows, answered, fun embedded member => Embedded.exists_row_of_mem member,
    fun enough id => Embedded.exists_mem_iff enough id, ?_⟩
  intro distinctIds takes embedded member named
  obtain ⟨row, selected, same, type, _⟩ := Embedded.exists_row_of_mem member
  rw [← same] at named ⊢
  have stored : ∀ record ∈ engine.store.blocks, record.id = row.id →
      record.type ≠ Embedded.embedType := by
    intro record recordMember sameId
    rwa [type_of_takesRecords distinctIds takes answered selected named recordMember sameId]
  refine ⟨stored, ?_⟩
  intro consistent id document loaded nodup i namedBlock idOf statement kindOf
  obtain ⟨record, recordMember, sameId, embeds⟩ :=
    consistent.exists_record_of_queryEmbed loaded nodup namedBlock idOf kindOf
  exact stored record recordMember sameId embeds

/--
Of a document that holds an embed, a statement that selects the identifiers only shows the
embed, and one that selects all columns does not.
-/
theorem embed_shows_by_selected_type_of_query_embed :
    let tree := (Tree.new "d" "b" "/d.sy" "/D").appendNew 0 (.queryEmbed "SELECT 1") (some "q")
    let engine : Engine :=
      { store := ⟨tree.records?.getD [], []⟩
        library := .memory { trees := [tree] } }
    let identifiers : EmbedRequest := { id := "e", statement := "select id, root_id from blocks" }
    let all : EmbedRequest := { id := "e", statement := "select * from blocks" }
    tree.kind 1 = .queryEmbed "SELECT 1" ∧ engine.store.DistinctIds ∧ engine.Consistent ∧
      (∃ record ∈ engine.store.blocks, record.id = "q" ∧ record.type = Embedded.embedType) ∧
      (∃ shown after, engine.embed identifiers = (.ok shown, after) ∧
        ∃ embedded ∈ shown, embedded.block.id = "q") ∧
      engine.TakesRecords all ∧
      ∃ shown after, engine.embed all = (.ok shown, after) ∧
        (∃ embedded ∈ shown, embedded.block.id = "d") ∧
        ∀ embedded ∈ shown, embedded.block.id ≠ "q" := by
  intro tree engine identifiers all
  have distinctIds : engine.store.DistinctIds := by
    unfold Store.DistinctIds
    decide +kernel
  have stored : ∃ record ∈ engine.store.blocks, record.id = "q" ∧
      record.type = Embedded.embedType := by decide +kernel
  have consistent : engine.Consistent := by
    intro id other loaded
    have same : other = tree :=
      List.mem_singleton.1 (List.mem_of_find?_eq_some (Library.load_memory_eq_ok_iff.1 loaded))
    have agrees : tree.records? = some (tree.records?.getD []) ∧
        (engine.store.blocks.filter (·.rootId == tree.id)).Perm (tree.records?.getD []) := by
      decide +kernel
    exact same ▸ ⟨_, agrees⟩
  have nodup : (tree.namedBlocks.map fun i => (tree.node i).id).Nodup := by decide +kernel
  have found : tree.findBlock? "q" ≠ none ∧ tree.findBlock? "d" ≠ none := by decide +kernel
  have statement : engine.embedStatement all = "select * from blocks LIMIT 64" := by
    decide +kernel
  have takes : engine.TakesRecords all := by
    refine ⟨_, statement ▸ Sql.read?_all, ?_⟩
    unfold Sql.Select.TakesRecords
    decide
  refine ⟨rfl, distinctIds, consistent, stored, ?_, takes, ?_⟩
  · have selected : Sql.records? engine.store (engine.embedStatement identifiers) [] =
        some [{ id := "d", rootId := "d" }, { id := "q", rootId := "d" }] := by
      have statement : engine.embedStatement identifiers =
          "select id, root_id from blocks LIMIT 64" := by decide +kernel
      rw [statement, Sql.records?_identifiers]
      decide +kernel
    obtain ⟨shown, after, done⟩ : ∃ shown after, engine.embed identifiers = (.ok shown, after) := by
      rw [embed_eq, selected]
      exact ⟨_, _, rfl⟩
    obtain ⟨rows, answered, _, exactly, _⟩ := embed_shows_by_selected_type done
    rw [selected, Option.some.injEq] at answered
    subst answered
    refine ⟨shown, after, done, (exactly (by decide) "q").2 ?_⟩
    exact ⟨{ id := "q", rootId := "d" }, by decide, rfl, by decide, by decide, tree, rfl, found.1⟩
  · have selected : Sql.records? engine.store (engine.embedStatement all) [] =
        some (engine.store.blocks.take 64) := by
      rw [statement, Sql.records?_all]
    obtain ⟨shown, after, done⟩ : ∃ shown after, engine.embed all = (.ok shown, after) := by
      rw [embed_eq, selected]
      exact ⟨_, _, rfl⟩
    obtain ⟨rows, answered, _, exactly, hidden⟩ := embed_shows_by_selected_type done
    rw [selected, Option.some.injEq] at answered
    subst answered
    refine ⟨shown, after, done, (exactly (by decide +kernel) "d").2 ?_,
      fun embedded member same => ?_⟩
    · have root : ∃ row ∈ engine.store.blocks.take 64, row.id = "d" ∧
          row.type ≠ Embedded.embedType ∧ row.rootId = "d" := by decide +kernel
      obtain ⟨row, member, same, type, rootId⟩ := root
      exact ⟨row, member, same, type, by decide, tree, by rw [rootId]; rfl, found.2⟩
    · have named : embedded.block.id ≠ "" := by
        rw [same]
        decide
      exact (hidden distinctIds takes embedded member named).2 consistent "d" tree rfl nodup 1
        (by decide +kernel) (congrArg some same.symm) "SELECT 1" rfl

end Engine
end BlockSearch
