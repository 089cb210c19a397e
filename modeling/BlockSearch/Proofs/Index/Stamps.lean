import BlockSearch.Proofs.Index.Reindexing
import BlockSearch.Proofs.Text.Position

/-!
# Creation times

An identifier is tested character by character, and its digits may be of any script; its
creation time is cut off by bytes. The two agree for ASCII digits. For others the fourteen
bytes hold fewer digits, or end inside one of them, and then the document cannot be indexed.
-/

namespace BlockSearch

namespace BlockId

/-- The characters that are cut off by bytes begin the text and take up these bytes. -/
theorem takeBytes?_eq_some_iff
    {size : Nat}
    {text front : List Char} :
    takeBytes? size text = some front ↔ front <+: text ∧ Text.utf8Length front = size := by
  induction text generalizing size front with
  | nil =>
      rw [List.prefix_nil]
      cases size with
      | zero =>
          rw [takeBytes?, Option.some.injEq, eq_comm, iff_self_and]
          rintro rfl
          rfl
      | succ size =>
          rw [takeBytes?]
          constructor
          · intro taken
            exact absurd taken.symm (Option.some_ne_none front)
          · rintro ⟨rfl, length⟩
            exact absurd length (Nat.succ_ne_zero size).symm
  | cons c text inductionHypothesis =>
      have positive := c.utf8Size_pos
      cases size with
      | zero =>
          rw [takeBytes?, Option.some.injEq]
          constructor
          · rintro rfl
            exact ⟨List.nil_prefix, rfl⟩
          · rintro ⟨_, length⟩
            cases front with
            | nil => rfl
            | cons first front =>
                have firstPositive := first.utf8Size_pos
                rw [Text.utf8Length_cons] at length
                omega
      | succ size =>
          rw [takeBytes?]
          constructor
          · intro taken
            split_ifs at taken with fits
            obtain ⟨front, cut, rfl⟩ := Option.map_eq_some_iff.1 taken
            obtain ⟨begins, length⟩ := inductionHypothesis.1 cut
            refine ⟨(List.prefix_cons_inj c).2 begins, ?_⟩
            rw [Text.utf8Length_cons]
            omega
          · rintro ⟨begins, length⟩
            cases front with
            | nil => exact absurd length (Nat.succ_ne_zero size).symm
            | cons first front =>
                obtain ⟨rfl, behind⟩ := List.cons_prefix_cons.1 begins
                rw [Text.utf8Length_cons] at length
                have rest : Text.utf8Length front = size + 1 - first.utf8Size := by omega
                rw [if_pos (by omega), inductionHypothesis.2 ⟨behind, rest⟩, Option.map_some]

/-- An accepted identifier has no creation time when no beginning has fourteen bytes. -/
theorem stamp?_eq_none_iff
    {id : String} :
    stamp? id = none ↔
      isBlockId id = true ∧
        ∀ front, front <+: id.toList → Text.utf8Length front ≠ stampLength := by
  rw [stamp?]
  split_ifs with accepted
  · rw [Option.map_eq_none_iff, Option.eq_none_iff_forall_ne_some, and_iff_right accepted]
    refine forall_congr' fun front => ?_
    rw [Ne, takeBytes?_eq_some_iff, not_and]
  · simp [accepted]

/-- The creation time begins the identifier; it is the fourteen digits when these are ASCII. -/
theorem stamp_of_isBlockId
    {id created : String}
    (accepted : isBlockId id = true)
    (stamped : stamp? id = some created) :
    created.toList <+: id.toList ∧ Text.utf8Length created.toList = stampLength ∧
      (created.toList = id.toList.take stampLength ↔
        ∀ c ∈ id.toList.take stampLength, c.val ≤ 127) := by
  rw [stamp?, if_pos accepted, Option.map_eq_some_iff] at stamped
  obtain ⟨front, taken, rfl⟩ := stamped
  obtain ⟨begins, length⟩ := takeBytes?_eq_some_iff.1 taken
  have digits : (id.toList.take stampLength).length = stampLength := by
    rw [List.length_take, Nat.min_eq_left (stampLength_le_of_isBlockId accepted)]
  rw [String.toList_ofList]
  refine ⟨begins, length, ?_⟩
  rw [← Text.utf8Length_eq_length_iff, digits]
  constructor
  · rintro rfl
    exact length
  · intro bytes
    have whole := takeBytes?_eq_some_iff.2 ⟨List.take_prefix stampLength id.toList, bytes⟩
    exact Option.some.inj (taken.symm.trans whole)

end BlockId

namespace Tree

variable {tree : Tree}

/-- A record has the creation time of its identifier. -/
theorem stamp?_of_record?
    {i : NodeId}
    {record : Record}
    (recorded : tree.record? i = some record) :
    BlockId.stamp? record.id = some record.created := by
  unfold record? at recorded
  simp only [Option.bind_eq_bind, Option.bind_eq_some_iff, Option.some.injEq] at recorded
  obtain ⟨created, stamped, rfl⟩ := recorded
  exact stamped

theorem record?_eq_none_iff
    {i : NodeId} :
    tree.record? i = none ↔ BlockId.stamp? ((tree.node i).id.getD "") = none := by
  unfold record?
  cases stamped : BlockId.stamp? ((tree.node i).id.getD "") <;> simp [stamped]

/-- A document has no records when one of its blocks has none. -/
theorem records?_eq_none_iff :
    tree.records? = none ↔ ∃ i ∈ tree.namedBlocks, tree.record? i = none := by
  rw [records?, Option.map_eq_none_iff]
  constructor
  · intro missing
    by_contra each
    push Not at each
    obtain ⟨all, results⟩ := Lists.exists_mapM each
    exact Option.some_ne_none all (results.symm.trans missing)
  · rintro ⟨i, named, missing⟩
    by_contra present
    obtain ⟨all, results⟩ := Option.ne_none_iff_exists'.1 present
    obtain ⟨record, _, recordOf⟩ := Lists.exists_result_of_mem_mapM results named
    exact Option.some_ne_none record (recordOf.symm.trans missing)

end Tree

/--
A document cannot be indexed when a block has an accepted identifier of which no beginning has
fourteen bytes. In the rows of an indexed document the creation time of an accepted identifier
begins it and has fourteen bytes, so it is the fourteen digits exactly when these are ASCII.
-/
theorem Store.index?_stamps
    (store : Store)
    (tree : Tree) :
    (store.index? tree = none ↔
      ∃ i ∈ tree.namedBlocks, ∃ id, (tree.node i).id = some id ∧
        BlockId.isBlockId id = true ∧
          ∀ front, front <+: id.toList → Text.utf8Length front ≠ BlockId.stampLength) ∧
      ∀ indexed count, store.index? tree = some (indexed, count) →
        ∀ record ∈ indexed.blocks, record.rootId = tree.id →
          BlockId.isBlockId record.id = true →
            record.created.toList <+: record.id.toList ∧
              Text.utf8Length record.created.toList = BlockId.stampLength ∧
              (record.created.toList = record.id.toList.take BlockId.stampLength ↔
                ∀ c ∈ record.id.toList.take BlockId.stampLength, c.val ≤ 127) := by
  constructor
  · rw [index?, Option.map_eq_none_iff, Tree.records?_eq_none_iff]
    refine exists_congr fun i => and_congr_right fun named => ?_
    obtain ⟨_, _, hasId⟩ := Tree.of_mem_namedBlocks (fun _ => True) (by simp) trivial named
    obtain ⟨id, idOf⟩ := Option.isSome_iff_exists.1 hasId
    rw [Tree.record?_eq_none_iff, idOf, Option.getD_some, BlockId.stamp?_eq_none_iff]
    simp
  · intro indexed count outcome record member own accepted
    obtain ⟨records, recorded, _, _⟩ := exists_records_of_index? outcome
    have written : record ∈ records := by
      rw [← filter_rootId_of_index? outcome recorded, List.mem_filter]
      exact ⟨member, by simpa using own⟩
    obtain ⟨i, _, recordOf⟩ := Tree.exists_of_mem_records? recorded written
    exact BlockId.stamp_of_isBlockId accepted (Tree.stamp?_of_record? recordOf)

/-- Digits of three bytes cannot be indexed, and of digits of two bytes seven are left. -/
theorem Store.index?_stamps_of_other_digits :
    let tree := fun id =>
      (Tree.new "20230101120000-aaaaaaa" "b" "/a.sy" "/Doc").appendNew 0 .paragraph (some id)
    Store.index? {} (tree "२०२३०१०११२०५०१-blk0001") = none ∧
      ∃ indexed count record,
        Store.index? {} (tree "٢٠٢٣٠١٠١١٢٠٥٠١-blk0001") = some (indexed, count) ∧
        record ∈ indexed.blocks ∧ record.id = "٢٠٢٣٠١٠١١٢٠٥٠١-blk0001" ∧
        record.rootId = "20230101120000-aaaaaaa" ∧ BlockId.isBlockId record.id = true ∧
        record.created = "٢٠٢٣٠١٠" ∧ Text.utf8Length record.created.toList = 14 ∧
        record.created.toList ≠ record.id.toList.take 14 := by
  intro tree
  have cutInside : BlockId.stamp? "२०२३०१०११२०५०१-blk0001" = none := by decide +kernel
  have second : (Store.index? {} (tree "٢٠٢٣٠١٠١١٢٠٥٠١-blk0001")).bind
      (fun outcome => outcome.1.blocks[1]?.map fun row => (row.id, row.rootId, row.created)) =
        some ("٢٠٢٣٠١٠١١٢٠٥٠١-blk0001", "20230101120000-aaaaaaa", "٢٠٢٣٠١٠") := by
    decide +kernel
  constructor
  · exact (index?_stamps {} (tree "२०२३०१०११२०५०१-blk0001")).1.2
      ⟨1, by decide +kernel, _, rfl, BlockId.stamp?_eq_none_iff.1 cutInside⟩
  · obtain ⟨⟨indexed, count⟩, outcome, row⟩ := Option.bind_eq_some_iff.1 second
    obtain ⟨record, place, fields⟩ := Option.map_eq_some_iff.1 row
    rw [Prod.mk.injEq, Prod.mk.injEq] at fields
    obtain ⟨idOf, own, created⟩ := fields
    have accepted : BlockId.isBlockId record.id = true := by rw [idOf]; decide +kernel
    have member := List.mem_of_getElem? place
    obtain ⟨_, bytes, digits⟩ :=
      (index?_stamps {} _).2 indexed count outcome record member own accepted
    refine ⟨indexed, count, record, outcome, member, idOf, own, accepted, created, bytes, ?_⟩
    intro whole
    have first : '٢' ∈ record.id.toList.take BlockId.stampLength := by
      rw [idOf]
      decide
    exact absurd (digits.1 whole '٢' first) (by decide)

end BlockSearch
