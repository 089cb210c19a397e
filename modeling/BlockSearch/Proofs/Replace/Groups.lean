import BlockSearch.Engine.Replace
import BlockSearch.Proofs.Lists
import Mathlib.Data.List.Induction

/-!
# Blocks under their documents

The blocks of a replacement are put under their documents, one group for each document, in
the order in which the documents are first met. A block without a record has no document,
and then there are no groups.
-/

namespace BlockSearch
namespace Store

/-- The document that a block lies in. -/
def rootOf? (store : Store) (id : String) : Option String := (store.find? id).map (·.rootId)

/-- The documents of some blocks, in the order in which they are first met. -/
def rootsOf (store : Store) (ids : List String) : List String :=
  distinct (ids.filterMap store.rootOf?)

/-- The blocks of one document among some blocks. -/
def membersOf (store : Store) (ids : List String) (rootId : String) : List String :=
  ids.filter fun id => store.rootOf? id == some rootId

theorem nodup_rootsOf
    (store : Store)
    (ids : List String) :
    (store.rootsOf ids).Nodup := nodup_distinct _

/-- Repetitions among the blocks lead to no other documents. -/
theorem rootsOf_distinct
    (store : Store)
    (ids : List String) :
    store.rootsOf (distinct ids) = store.rootsOf ids := distinct_filterMap_distinct _ _

theorem addToGroup_of_not_mem
    {rootId id : String}
    {roots : List String}
    (new : rootId ∉ roots)
    (members : String → List String) :
    addToGroup rootId id (roots.map fun root => (root, members root)) =
      (roots.map fun root => (root, members root)) ++ [(rootId, [id])] := by
  induction roots with
  | nil => rfl
  | cons root roots inductionHypothesis =>
      rw [List.mem_cons, not_or] at new
      rw [List.map_cons, addToGroup, if_neg (Ne.symm new.1), inductionHypothesis new.2,
        List.cons_append]

theorem addToGroup_of_mem
    {rootId id : String}
    {roots : List String}
    (nodup : roots.Nodup)
    (known : rootId ∈ roots)
    (members : String → List String) :
    addToGroup rootId id (roots.map fun root => (root, members root)) =
      roots.map fun root =>
        (root, if root = rootId then members root ++ [id] else members root) := by
  induction roots with
  | nil => contradiction
  | cons root roots inductionHypothesis =>
      rw [List.nodup_cons] at nodup
      rw [List.map_cons, List.map_cons, addToGroup]
      by_cases same : root = rootId
      · subst same
        rw [if_pos rfl, if_pos rfl]
        congr 1
        apply List.map_congr_left
        intro other member
        have different : other ≠ root := fun repeated => nodup.1 (repeated ▸ member)
        rw [if_neg different]
      · rw [if_neg same, if_neg same]
        congr 1
        exact inductionHypothesis nodup.2 ((List.mem_cons.1 known).resolve_left (Ne.symm same))

theorem membersOf_append_singleton
    (store : Store)
    (ids : List String)
    {id rootId : String}
    (root : store.rootOf? id = some rootId)
    (other : String) :
    store.membersOf (ids ++ [id]) other =
      if other = rootId then store.membersOf ids other ++ [id] else store.membersOf ids other := by
  rw [membersOf, List.filter_append, List.filter_cons, List.filter_nil, root]
  by_cases same : other = rootId
  · simp [membersOf, same]
  · simp [membersOf, same, Ne.symm same]

theorem count_membersOf
    (store : Store)
    (ids : List String)
    (id rootId : String) :
    (store.membersOf ids rootId).count id =
      if store.rootOf? id = some rootId then ids.count id else 0 := by
  split_ifs with root
  · exact List.count_filter (by simpa using root)
  · rw [List.count_eq_zero]
    intro member
    exact root (by simpa using (List.mem_filter.1 member).2)

/-- Every block with a record is a member of one group. -/
theorem flatMap_membersOf_perm
    {store : Store}
    {ids : List String}
    (recorded : ∀ id ∈ ids, store.find? id ≠ none) :
    ((store.rootsOf ids).flatMap (store.membersOf ids)).Perm ids := by
  rw [List.perm_iff_count]
  intro id
  have sum : ∀ roots : List String, roots.Nodup →
      (roots.flatMap (store.membersOf ids)).count id =
        if ∃ rootId ∈ roots, store.rootOf? id = some rootId then ids.count id else 0 := by
    intro roots nodup
    induction roots with
    | nil => simp
    | cons rootId roots inductionHypothesis =>
        rw [List.nodup_cons] at nodup
        rw [List.flatMap_cons, List.count_append, count_membersOf, inductionHypothesis nodup.2]
        by_cases root : store.rootOf? id = some rootId
        · have elsewhere : ¬ ∃ other ∈ roots, store.rootOf? id = some other := by
            rintro ⟨other, member, same⟩
            rw [root, Option.some.injEq] at same
            exact nodup.1 (same ▸ member)
          rw [if_pos root, if_neg elsewhere, if_pos ⟨rootId, List.mem_cons_self, root⟩,
            Nat.add_zero]
        · rw [if_neg root, Nat.zero_add]
          simp [root]
  rw [sum _ (store.nodup_rootsOf ids)]
  split_ifs with known
  · rfl
  · symm
    rw [List.count_eq_zero]
    intro member
    obtain ⟨record, found⟩ := Option.ne_none_iff_exists'.1 (recorded id member)
    have root : store.rootOf? id = some record.rootId := by
      rw [rootOf?, found]
      rfl
    refine known ⟨record.rootId, ?_, root⟩
    rw [rootsOf, mem_distinct]
    exact List.mem_filterMap.2 ⟨id, member, root⟩

/-- Blocks that all have a record are grouped under the documents of these. -/
theorem groupByRoot_eq_ok
    {store : Store}
    {ids : List String}
    (recorded : ∀ id ∈ ids, store.find? id ≠ none) :
    store.groupByRoot ids =
      .ok ((store.rootsOf ids).map fun root => (root, store.membersOf ids root)) := by
  induction ids using List.reverseRecOn with
  | nil => rfl
  | append_singleton ids id inductionHypothesis =>
      have earlier := inductionHypothesis fun other member =>
        recorded other (List.mem_append_left _ member)
      obtain ⟨record, found⟩ := Option.ne_none_iff_exists'.1 (recorded id (by simp))
      have root : store.rootOf? id = some record.rootId := by rw [rootOf?, found]; rfl
      have grouped : store.groupByRoot (ids ++ [id]) = .ok (addToGroup record.rootId id
          ((store.rootsOf ids).map fun root => (root, store.membersOf ids root))) := by
        rw [groupByRoot] at earlier ⊢
        rw [List.foldlM_append, earlier]
        simp [found, bind, Except.bind, pure, Except.pure]
      have roots : store.rootsOf (ids ++ [id]) =
          if record.rootId ∈ store.rootsOf ids then store.rootsOf ids
          else store.rootsOf ids ++ [record.rootId] := by
        rw [rootsOf, List.filterMap_append, List.filterMap_cons_some root, List.filterMap_nil,
          distinct_append_singleton, rootsOf]
        simp only [mem_distinct]
      have members := membersOf_append_singleton store ids root
      rw [grouped, roots]
      congr 1
      split_ifs with known
      · rw [addToGroup_of_mem (store.nodup_rootsOf ids) known]
        simp only [members]
      · have none : store.membersOf ids record.rootId = [] := by
          rw [membersOf, List.filter_eq_nil_iff]
          intro other member
          rw [rootsOf, mem_distinct, List.mem_filterMap] at known
          simpa using fun same => known ⟨other, member, same⟩
        rw [addToGroup_of_not_mem known, List.map_append, List.map_singleton, members, if_pos rfl,
          none, List.nil_append]
        congr 1
        apply List.map_congr_left
        intro other member
        have different : other ≠ record.rootId := fun same => known (same ▸ member)
        rw [members, if_neg different]

/-- When some block has no record, the first one is reported. -/
theorem groupByRoot_eq_error
    {store : Store}
    {ids : List String}
    (missing : ∃ id ∈ ids, store.find? id = none) :
    ∃ id ∈ ids, store.find? id = none ∧
      store.groupByRoot ids = .error (.tree (.notFound id)) := by
  have some : ¬ ∀ id ∈ ids, store.find? id ≠ none := by
    push Not
    exact missing
  obtain ⟨front, id, back, rfl, recorded, absent⟩ := Lists.exists_first some
  rw [not_not] at absent
  have earlier := groupByRoot_eq_ok recorded
  refine ⟨id, by simp, absent, ?_⟩
  rw [groupByRoot] at earlier ⊢
  rw [List.foldlM_append, earlier]
  simp [absent, bind, Except.bind]

end Store

/-- A replacement that is the keyword is skipped. -/
theorem Engine.replace_of_same
    {engine : Engine}
    {request : Replacement}
    {replacer : Replacer}
    (supported :
      Replacer.ofMethod? request.keyword request.replacement request.method = some replacer)
    (same : request.keyword = request.replacement) :
    engine.replace request = (.ok {}, engine.wait) := by
  rw [Engine.replace, supported]
  exact if_pos same

/-- A replacement of blocks that all have a record is a batch over the documents of these. -/
theorem Engine.replace_of_recorded
    {engine : Engine}
    {request : Replacement}
    {replacer : Replacer}
    (supported :
      Replacer.ofMethod? request.keyword request.replacement request.method = some replacer)
    (different : request.keyword ≠ request.replacement)
    (recorded : ∀ id ∈ request.ids, engine.store.find? id ≠ none) :
    engine.replace request =
      engine.wait.replaceGroups replacer
        ((engine.store.rootsOf request.ids).map fun rootId =>
          (rootId, engine.store.membersOf (distinct request.ids) rootId))
        (1 < (distinct request.ids).length) := by
  have recordedDistinct : ∀ id ∈ distinct request.ids, engine.store.find? id ≠ none :=
    fun id member => recorded id (mem_distinct.1 member)
  have grouped := Store.groupByRoot_eq_ok recordedDistinct
  rw [Store.rootsOf_distinct] at grouped
  rw [Engine.replace, supported]
  simp only [if_neg different]
  rw [show engine.wait.store = engine.store from rfl, grouped]

/-- A replacement ends before it begins when some block has no record. -/
theorem Engine.replace_of_not_recorded
    {engine : Engine}
    {request : Replacement}
    {replacer : Replacer}
    (supported :
      Replacer.ofMethod? request.keyword request.replacement request.method = some replacer)
    (different : request.keyword ≠ request.replacement)
    (missing : ∃ id ∈ request.ids, engine.store.find? id = none) :
    ∃ id ∈ request.ids, engine.store.find? id = none ∧
      engine.replace request = (.error (.tree (.notFound id)), engine.wait) := by
  have missingDistinct : ∃ id ∈ distinct request.ids, engine.store.find? id = none := by
    simpa using missing
  obtain ⟨id, member, none, error⟩ := Store.groupByRoot_eq_error missingDistinct
  refine ⟨id, mem_distinct.1 member, none, ?_⟩
  rw [Engine.replace, supported]
  simp only [if_neg different]
  rw [show engine.wait.store = engine.store from rfl, error]

end BlockSearch
