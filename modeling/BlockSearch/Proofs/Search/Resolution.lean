import BlockSearch.Proofs.Search.Embed

/-!
# Rows that an embed resolves

The rows of the statement of an embed, less embeds and excluded blocks, are left to be indexed,
in their order. Of these the rows are shown whose block is in its document, as long as the document
is one of the first that can be loaded. A statement that cannot be run leaves nothing behind.
-/

namespace BlockSearch

/-! ## Named nodes -/

namespace Tree

/-- Some node that can be reached from the root has an identifier. -/
def Names (tree : Tree) (id : String) : Prop :=
  ∃ i ∈ tree.descendants root, (tree.node i).id = some id

instance (tree : Tree) (id : String) : Decidable (tree.Names id) := by
  unfold Names
  infer_instance

theorem findBlock?_isSome_iff
    {tree : Tree}
    {id : String} :
    (tree.findBlock? id).isSome = true ↔ tree.Names id := by
  rw [findBlock?, List.find?_isSome]
  simp [Names]

end Tree

/-! ## Rows in their documents -/

namespace Embedded

/-- The block of a row is in its document, and the document can be loaded. -/
def Resolves (load : String → Except TreeError Tree) (row : Record) : Prop :=
  ∃ tree, load row.rootId = .ok tree ∧ tree.Names row.id

variable
  {load : String → Except TreeError Tree}
  {style : Style}

theorem resolves_iff
    {row : Record} :
    Resolves load row ↔
      ((load row.rootId).toOption.bind fun tree => ofRecord? style tree row).isSome = true := by
  cases loaded : load row.rootId with
  | error error => simp [Resolves, loaded, Except.toOption]
  | ok tree => simp [Resolves, loaded, Except.toOption, ofRecord?, ← Tree.findBlock?_isSome_iff]

instance (load : String → Except TreeError Tree) : DecidablePred (Resolves load) := fun _ =>
  decidable_of_iff _
    (@resolves_iff load ⟨.withSection, false, .sensitive, []⟩ _).symm

/-- The first documents of some rows that can be loaded, as many as one request keeps. -/
def documents (load : String → Except TreeError Tree) (rows : List Record) : List String :=
  (distinct ((rows.map Record.rootId).filter fun id => (load id).isOk)).take
    TreeCache.requestCapacity

/-- What is shown belongs, row by row, to the rows that resolve in one of the first documents. -/
theorem forall₂_ofRecords
    (style : Style)
    (load : String → Except TreeError Tree)
    (rows : List Record) :
    List.Forall₂
      (fun row embedded => embedded.block.id = row.id ∧
        ∃ tree, load row.rootId = .ok tree ∧ ofRecord? style tree row = some embedded)
      (rows.filter fun row => row.rootId ∈ documents load rows ∧ Resolves load row)
      (ofRecords style load .forRequest rows) := by
  have step := Lists.forall₂_filterMap
    (fun row => if row.rootId ∈ documents load rows then
      (load row.rootId).toOption.bind fun tree => ofRecord? style tree row else none) rows
  have same : (rows.filter fun row => row.rootId ∈ documents load rows ∧ Resolves load row) =
      rows.filter fun row => (if row.rootId ∈ documents load rows then
        (load row.rootId).toOption.bind fun tree => ofRecord? style tree row else none).isSome := by
    refine List.filter_congr fun row _ => ?_
    rw [Bool.eq_iff_iff, decide_eq_true_iff, @resolves_iff load style]
    split_ifs with first <;> simp [first]
  rw [ofRecords_eq (.forRequest load), same]
  refine step.imp fun row embedded made => ?_
  split_ifs at made
  obtain ⟨tree, loads, made⟩ := Option.bind_eq_some_iff.1 made
  refine ⟨(ofRecord?_eq_some made).1, tree, ?_, made⟩
  cases loaded : load row.rootId with
  | error error => simp [loaded, Except.toOption] at loads
  | ok other => simpa [loaded, Except.toOption] using loads

end Embedded

/-! ## Outcomes -/

namespace Engine

/--
An embed leaves one task behind, for the rows of its statement that are neither embeds nor
excluded, and shows those of them, in the same order, that resolve in one of the first documents
that can be loaded. If the statement cannot be run, no task is left and the outcome is the same
with every library.
-/
theorem embed_resolves_in_order
    (engine : Engine)
    (request : EmbedRequest) :
    (Sql.records? engine.store (engine.embedStatement request) [] = none →
      ∀ library : Library,
        { engine with library }.embed request =
          (.error .statement, { engine with library }.wait)) ∧
    ∀ rows, Sql.records? engine.store (engine.embedStatement request) [] = some rows →
      let kept := rows.filter fun row =>
        row.type ≠ Embedded.embedType ∧ row.id ∉ request.excluded
      ∃ shown, engine.embed request =
          (.ok shown, engine.wait.addTask (.indexEmbed request.id (kept.map Record.id))) ∧
        List.Forall₂
          (fun row embedded => embedded.block.id = row.id ∧
            ∃ tree, engine.library.load row.rootId = .ok tree ∧
              Embedded.ofRecord?
                ⟨request.heading, request.breadcrumb, engine.mode, engine.notebooks⟩ tree row =
                some embedded)
          (kept.filter fun row => row.rootId ∈ Embedded.documents engine.library.load kept ∧
            Embedded.Resolves engine.library.load row)
          shown ∧
        ∀ embedded ∈ shown, embedded.block.id ∉ request.excluded := by
  constructor
  · intro unanswered library
    have same : Sql.records? { engine with library }.store
        ({ engine with library }.embedStatement request) [] = none := unanswered
    rw [embed_eq, same]
  · intro rows answered kept
    have same : Embedded.shown request.excluded rows = kept := by
      refine List.filter_congr fun row _ => ?_
      rw [Bool.eq_iff_iff, decide_eq_true_iff]
      simp
    have done := embed_eq engine request
    simp only [answered, same] at done
    refine ⟨_, done, Embedded.forall₂_ofRecords _ _ kept, fun embedded member => ?_⟩
    rw [← same] at member
    obtain ⟨row, -, sameId, -, kept⟩ := Embedded.exists_row_of_mem member
    rwa [← sameId]

/-- A row of a missing document is left to be indexed, but it is not shown. -/
theorem embed_resolves_in_order_with_missing_document :
    let tree := (Tree.new "d" "b" "/d.sy" "/D").appendNew 0 .paragraph (some "p")
    let records : List Record :=
      [{ id := "x", rootId := "e" }, { id := "p", rootId := "d" }, { id := "q", rootId := "d" },
        { id := "d", rootId := "d" }]
    let engine : Engine := { store := ⟨records, []⟩, library := .memory { trees := [tree] } }
    let broken : EmbedRequest := { id := "b", statement := "select" }
    let request : EmbedRequest :=
      { id := "b", statement := "select id, root_id from blocks", excluded := ["d"] }
    Sql.records? engine.store (engine.embedStatement broken) [] = none ∧
      engine.embed broken = (.error .statement, engine.wait) ∧
      Sql.records? engine.store (engine.embedStatement request) [] = some records ∧
      ∃ shown, engine.embed request =
          (.ok shown, engine.wait.addTask (.indexEmbed "b" ["x", "p", "q"])) ∧
        shown.map (·.block.id) = ["p"] := by
  intro tree records engine broken request
  have unread : (Sql.Prepared.read? (engine.embedStatement broken).toList).isNone = true := by
    decide +kernel
  have unanswered : Sql.records? engine.store (engine.embedStatement broken) [] = none := by
    rw [Sql.records?_eq, Sql.answer?, Option.isNone_iff_eq_none.1 unread]
    rfl
  have statement : engine.embedStatement request = "select id, root_id from blocks LIMIT 64" := by
    decide +kernel
  have answered : Sql.records? engine.store (engine.embedStatement request) [] = some records := by
    rw [statement, Sql.records?_identifiers]
    rfl
  obtain ⟨fails, resolves⟩ := embed_resolves_in_order engine request
  obtain ⟨shown, done, rows, -⟩ := resolves records answered
  refine ⟨unanswered, (embed_resolves_in_order engine broken).1 unanswered _, answered, shown, done,
    ?_⟩
  have visible : ((records.filter fun row =>
      row.type ≠ Embedded.embedType ∧ row.id ∉ request.excluded).filter fun row =>
        row.rootId ∈ Embedded.documents engine.library.load (records.filter fun row =>
          row.type ≠ Embedded.embedType ∧ row.id ∉ request.excluded) ∧
        Embedded.Resolves engine.library.load row).map Record.id = ["p"] := by decide +kernel
  rw [← visible, ← List.forall₂_eq_eq_eq, List.forall₂_map_left_iff, List.forall₂_map_right_iff]
  exact (rows.imp fun row embedded made => made.1).flip

end Engine
end BlockSearch
