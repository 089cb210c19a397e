import BlockSearch.Index.Derivation
import BlockSearch.Proofs.Forest.Descent
import BlockSearch.Proofs.Lists

/-!
# Records of a document

Every record that a document gives belongs to the document and to a block with its identifier,
and no two records have the same identifier. A document has records when the identifiers of
its blocks are ASCII: then a creation time ends between two characters.
-/

namespace BlockSearch

/-! ## Creation times -/

namespace BlockId

/-- Whether all characters of an identifier are ASCII. -/
def IsAscii (id : String) : Prop := ∀ c ∈ id.toList, c.val ≤ 127

instance (id : String) : Decidable (IsAscii id) :=
  List.decidableBAll (fun c : Char => c.val ≤ 127) id.toList

/-- Of ASCII characters each takes up one byte. -/
theorem takeBytes?_eq_take
    {size : Nat}
    {text : List Char}
    (ascii : ∀ c ∈ text, c.val ≤ 127)
    (long : size ≤ text.length) :
    takeBytes? size text = some (text.take size) := by
  induction text generalizing size with
  | nil =>
      obtain rfl : size = 0 := Nat.eq_zero_of_le_zero long
      rw [takeBytes?, List.take_zero]
  | cons c text inductionHypothesis =>
      cases size with
      | zero => rw [takeBytes?, List.take_zero]
      | succ size =>
          rw [List.forall_mem_cons] at ascii
          have single : c.utf8Size = 1 := Char.utf8Size_eq_one_iff.2 ascii.1
          rw [takeBytes?, if_pos (by omega), single, Nat.add_sub_cancel,
            inductionHypothesis ascii.2 (Nat.le_of_succ_le_succ long), Option.map_some,
            List.take_succ_cons]

theorem stampLength_le_of_isBlockId
    {id : String}
    (accepted : isBlockId id = true) :
    stampLength ≤ id.toList.length := by
  by_contra short
  rw [isBlockId, accepts, List.drop_eq_nil_of_le (by omega)] at accepted
  contradiction

/-- An ASCII identifier has a creation time. -/
theorem stamp?_ne_none
    {id : String}
    (ascii : IsAscii id) :
    stamp? id ≠ none := by
  rw [stamp?]
  split_ifs with accepted
  · rw [takeBytes?_eq_take ascii (stampLength_le_of_isBlockId accepted)]
    simp
  · simp

end BlockId

/-! ## Records -/

namespace Tree

variable {tree : Tree}

/-- What holds at first and is kept by every visit of a reached node holds after a walk. -/
theorem walkStack_induction
    {σ : Type}
    {visit : σ → NodeId → σ × Verdict}
    (reached : NodeId → Prop)
    (property : σ → Prop)
    (closed : ∀ i, reached i → ∀ j ∈ tree.children i, reached j)
    (step : ∀ state i, reached i → property state → property (visit state i).1)
    {fuel : Nat}
    {state : σ}
    {stack : List NodeId}
    (start : ∀ i ∈ stack, reached i)
    (holds : property state) :
    property (tree.walkStack visit fuel state stack) := by
  -- The nodes that wait on the stack are reached, and so are the children put on top of them.
  induction fuel generalizing state stack with
  | zero => exact holds
  | succ fuel inductionHypothesis =>
      cases stack with
      | nil => exact holds
      | cons i stack =>
          rw [List.forall_mem_cons] at start
          have visited := step state i start.1 holds
          rw [walkStack]
          generalize visit state i = outcome at visited ⊢
          obtain ⟨state, verdict⟩ := outcome
          cases verdict with
          | stop => exact visited
          | skip => exact inductionHypothesis start.2 visited
          | descend =>
              refine inductionHypothesis (fun j member => ?_) visited
              rcases List.mem_append.1 member with child | later
              · exact closed i start.1 j child
              · exact start.2 j later

/-- The blocks that are recorded are reached from the root, are blocks and have an identifier. -/
theorem of_mem_namedBlocks
    (reached : NodeId → Prop)
    (closed : ∀ i, reached i → ∀ j ∈ tree.children i, reached j)
    (start : reached root)
    {i : NodeId}
    (member : i ∈ tree.namedBlocks) :
    reached i ∧ (tree.kind i).isBlock = true ∧ (tree.node i).id.isSome = true := by
  rw [namedBlocks, List.mem_reverse] at member
  revert i
  refine walkStack_induction reached
    (fun found => ∀ {i}, i ∈ found →
      reached i ∧ (tree.kind i).isBlock = true ∧ (tree.node i).id.isSome = true)
    closed ?_ (by simpa using start) (by simp)
  intro found i here holds j member
  unfold visitBlock at member
  split_ifs at member with block named
  · rcases List.mem_cons.1 member with rfl | member
    · exact ⟨here, block, named⟩
    · exact holds member
  · exact holds member
  · exact holds member

/-- A record belongs to its document and has the identifier of its node. -/
theorem record?_eq_some
    {i : NodeId}
    {record : Record}
    (recorded : tree.record? i = some record) :
    record.rootId = tree.id ∧ record.id = (tree.node i).id.getD "" := by
  unfold record? at recorded
  simp only [Option.bind_eq_bind, Option.bind_eq_some_iff, Option.some.injEq] at recorded
  obtain ⟨_, _, rfl⟩ := recorded
  exact ⟨rfl, rfl⟩

/-- The parent of a record is that of its node. -/
theorem parentId_of_record?
    {i : NodeId}
    {record : Record}
    (recorded : tree.record? i = some record) :
    record.parentId = tree.parentId i := by
  unfold record? at recorded
  simp only [Option.bind_eq_bind, Option.bind_eq_some_iff, Option.some.injEq] at recorded
  obtain ⟨_, _, rfl⟩ := recorded
  rfl

/-- The type of a record is that of its node. -/
theorem type_of_record?
    {i : NodeId}
    {record : Record}
    (recorded : tree.record? i = some record) :
    record.type = (tree.kind i).typeCode?.getD "" := by
  unfold record? at recorded
  simp only [Option.bind_eq_bind, Option.bind_eq_some_iff, Option.some.injEq] at recorded
  obtain ⟨_, _, rfl⟩ := recorded
  rfl

/-- Every record is that of a block with an identifier. -/
theorem exists_of_mem_records?
    {records : List Record}
    (recorded : tree.records? = some records)
    {record : Record}
    (member : record ∈ records) :
    ∃ i ∈ tree.namedBlocks, tree.record? i = some record := by
  rw [records?, Option.map_eq_some_iff] at recorded
  obtain ⟨all, each, rfl⟩ := recorded
  exact Lists.exists_of_mem_mapM each ((distinctFrom_sublist Record.id [] all).subset member)

/-- The identifier of a record is one of the document. -/
theorem exists_id_of_mem_records?
    {records : List Record}
    (recorded : tree.records? = some records)
    {record : Record}
    (member : record ∈ records) :
    ∃ i ∈ tree.namedBlocks, (tree.node i).id = some record.id := by
  obtain ⟨i, named, recordOf⟩ := exists_of_mem_records? recorded member
  obtain ⟨_, _, hasId⟩ := of_mem_namedBlocks (fun _ => True) (by simp) trivial named
  obtain ⟨id, idOf⟩ := Option.isSome_iff_exists.1 hasId
  rw [(record?_eq_some recordOf).2, idOf]
  exact ⟨i, named, idOf⟩

/-- Every block that is recorded shares its identifier with a record. -/
theorem exists_record_of_mem_namedBlocks
    {records : List Record}
    (recorded : tree.records? = some records)
    {i : NodeId}
    (named : i ∈ tree.namedBlocks)
    {id : String}
    (idOf : (tree.node i).id = some id) :
    ∃ record ∈ records, record.id = id := by
  rw [records?, Option.map_eq_some_iff] at recorded
  obtain ⟨all, each, rfl⟩ := recorded
  obtain ⟨first, firstMember, recordOf⟩ := Lists.exists_result_of_mem_mapM each named
  have listed : id ∈ (distinctBy Record.id all).map Record.id := by
    rw [distinctBy, map_distinctFrom, mem_distinctFrom]
    refine ⟨List.mem_map.2 ⟨first, firstMember, ?_⟩, by simp⟩
    rw [(record?_eq_some recordOf).2, idOf, Option.getD_some]
  exact List.mem_map.1 listed

/-- The identifier of a block that is recorded is one of the identifiers of blocks. -/
theorem IsForest.mem_blockIds_of_named
    (forest : tree.IsForest)
    {i : NodeId}
    (named : i ∈ tree.namedBlocks)
    {id : String}
    (idOf : (tree.node i).id = some id) :
    id ∈ tree.blockIds := by
  obtain ⟨path, block, _⟩ := of_mem_namedBlocks (tree.Holds root)
    (fun i above j member => above.tail (forest.isParent_of_mem_children member)) .refl named
  have inside : i < tree.size := by
    by_contra outside
    rw [node_of_size_le (Nat.le_of_not_lt outside)] at idOf
    contradiction
  have rooted : root < tree.size := Nat.lt_of_le_of_lt (Nat.zero_le i) inside
  rw [blockIds, List.mem_filterMap]
  refine ⟨i, (forest.mem_descendants rooted).2 path, ?_⟩
  rw [blockId?, if_pos block, idOf]

/-- The records have identifiers of blocks. -/
theorem IsForest.mem_blockIds_of_mem_records?
    (forest : tree.IsForest)
    {records : List Record}
    (recorded : tree.records? = some records)
    {record : Record}
    (member : record ∈ records) :
    record.id ∈ tree.blockIds := by
  obtain ⟨i, named, idOf⟩ := exists_id_of_mem_records? recorded member
  exact forest.mem_blockIds_of_named named idOf

/-- A document whose blocks have ASCII identifiers has records. -/
theorem IsForest.records?_ne_none
    (forest : tree.IsForest)
    (ascii : ∀ id ∈ tree.blockIds, BlockId.IsAscii id) :
    tree.records? ≠ none := by
  have each : ∀ i ∈ tree.namedBlocks, tree.record? i ≠ none := by
    intro i named
    obtain ⟨_, _, hasId⟩ := of_mem_namedBlocks (fun _ => True) (by simp) trivial named
    obtain ⟨id, idOf⟩ := Option.isSome_iff_exists.1 hasId
    have stamped := BlockId.stamp?_ne_none (ascii id (forest.mem_blockIds_of_named named idOf))
    obtain ⟨created, createdOf⟩ := Option.ne_none_iff_exists'.1 stamped
    rw [record?, idOf]
    simp [createdOf]
  obtain ⟨all, results⟩ := Lists.exists_mapM each
  rw [records?, results]
  simp

/-- No two records have the same identifier. -/
theorem nodup_records?
    {records : List Record}
    (recorded : tree.records? = some records) :
    (records.map Record.id).Nodup := by
  rw [records?, Option.map_eq_some_iff] at recorded
  obtain ⟨all, _, rfl⟩ := recorded
  exact nodup_map_distinctBy Record.id all

/-- All records are those of the document. -/
theorem rootId_of_mem_records?
    {records : List Record}
    (recorded : tree.records? = some records)
    {record : Record}
    (member : record ∈ records) :
    record.rootId = tree.id := by
  obtain ⟨i, _, recordOf⟩ := exists_of_mem_records? recorded member
  exact (record?_eq_some recordOf).1

end Tree
end BlockSearch
