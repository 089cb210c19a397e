import BlockSearch.Library.Cache
import BlockSearch.Proofs.Lists
import Mathlib.Data.List.Perm.Subperm

/-!
# The documents that a cache holds

After any requests a cache holds the first different documents that can be loaded, up to its
capacity. A request is answered with a document exactly when the cache holds it afterwards.
-/

namespace BlockSearch

/-- Texts behind others add to the first occurrences only what is not among these. -/
theorem exists_distinct_append (left right : List String) :
    ∃ tail, distinct (left ++ right) = distinct left ++ tail ∧ ∀ text ∈ tail, text ∉ left := by
  induction right generalizing left with
  | nil => exact ⟨[], by simp, by simp⟩
  | cons text right inductionHypothesis =>
      obtain ⟨tail, split, new⟩ := inductionHypothesis (left ++ [text])
      have behind : ∀ other ∈ tail, other ∉ left := fun other member old =>
        new other member (List.mem_append_left _ old)
      rw [List.append_assoc, List.singleton_append, distinct_append_singleton] at split
      split_ifs at split with old
      · exact ⟨tail, split, behind⟩
      · refine ⟨text :: tail, by rw [split, List.append_assoc, List.singleton_append], ?_⟩
        exact List.forall_mem_cons.2 ⟨old, behind⟩

namespace TreeCache

theorem mem_of_kept?
    {cache : TreeCache}
    {id : String}
    {tree : Tree}
    (kept : cache.kept? id = some tree) :
    (id, tree) ∈ cache.trees := by
  rw [kept?, Option.map_eq_some_iff] at kept
  obtain ⟨entry, found, rfl⟩ := kept
  have same : entry.1 = id := by simpa using List.find?_some found
  exact same ▸ List.mem_of_find?_eq_some found

theorem not_mem_of_kept?
    {cache : TreeCache}
    {id : String}
    (none : cache.kept? id = none) :
    id ∉ cache.trees.map (·.1) := by
  rw [kept?, Option.map_eq_none_iff, List.find?_eq_none] at none
  intro member
  obtain ⟨entry, here, same⟩ := List.mem_map.1 member
  exact none entry here (by simpa using same)

/-! ## One request -/

/--
A request finds the document in the cache, or loads it where there is room, or is answered with
nothing and changes nothing.
-/
theorem get_cases
    (cache : TreeCache)
    (load : String → Except TreeError Tree)
    (id : String) :
    (∃ tree, cache.kept? id = some tree ∧ cache.get load id = (some tree, cache)) ∨
      (∃ tree, cache.kept? id = none ∧ cache.trees.length < cache.capacity ∧ load id = .ok tree ∧
        cache.get load id = (some tree, { cache with trees := (id, tree) :: cache.trees })) ∨
      (cache.kept? id = none ∧
        ((∀ tree, load id ≠ .ok tree) ∨ cache.capacity ≤ cache.trees.length) ∧
        cache.get load id = (none, cache)) := by
  unfold get
  cases kept : cache.kept? id with
  | some tree => exact .inl ⟨tree, rfl, rfl⟩
  | none =>
      refine .inr ?_
      by_cases room : cache.trees.length < cache.capacity
      · cases loaded : load id with
        | ok tree => exact .inl ⟨tree, rfl, room, rfl, if_pos room⟩
        | error error => exact .inr ⟨rfl, .inl fun tree => nofun, if_pos room⟩
      · exact .inr ⟨rfl, .inr (Nat.not_lt.1 room), if_neg room⟩

theorem capacity_get
    (cache : TreeCache)
    (load : String → Except TreeError Tree)
    (id : String) :
    (cache.get load id).2.capacity = cache.capacity := by
  rcases get_cases cache load id with ⟨tree, -, same⟩ | ⟨tree, -, -, -, same⟩ | ⟨-, -, same⟩ <;>
    rw [same]

/-- A request is answered with what the cache keeps afterwards. -/
theorem answer_get
    (cache : TreeCache)
    (load : String → Except TreeError Tree)
    (id : String) :
    (cache.get load id).1 = (cache.get load id).2.kept? id := by
  rcases get_cases cache load id with ⟨tree, kept, same⟩ | ⟨tree, -, -, -, same⟩ | ⟨kept, -, same⟩
  · rw [same, kept]
  · rw [same, kept?, List.find?_cons_of_pos (by simp)]
    rfl
  · rw [same, kept]

/-! ## Admitted documents -/

variable
  {load : String → Except TreeError Tree}
  {capacity : Nat}
  {asked : List String}
  {id : String}

/-- The identifiers asked for whose documents can be loaded. -/
def loadable (load : String → Except TreeError Tree) (asked : List String) : List String :=
  asked.filter fun id => (load id).isOk

/-- The first different identifiers whose documents can be loaded, up to a capacity. -/
def admitted
    (load : String → Except TreeError Tree)
    (capacity : Nat)
    (asked : List String) : List String :=
  (distinct (loadable load asked)).take capacity

theorem mem_loadable : id ∈ loadable load asked ↔ id ∈ asked ∧ ∃ tree, load id = .ok tree := by
  rw [loadable, List.mem_filter]
  cases load id <;> simp [Except.isOk, Except.toBool]

theorem mem_loadable_of_mem_admitted
    (member : id ∈ admitted load capacity asked) :
    id ∈ loadable load asked :=
  mem_distinct.1 (List.mem_of_mem_take member)

/-- Later requests do not change whether an identifier is admitted. -/
theorem mem_admitted_append
    (here : id ∈ asked)
    (later : List String) :
    id ∈ admitted load capacity (asked ++ later) ↔ id ∈ admitted load capacity asked := by
  obtain ⟨tail, split, new⟩ :=
    exists_distinct_append (loadable load asked) (loadable load later)
  rw [admitted, loadable, List.filter_append, ← loadable, ← loadable, split, List.take_append,
    List.mem_append, admitted]
  refine or_iff_left fun member => ?_
  have inTail := List.mem_of_mem_take member
  have loads : id ∈ loadable load (asked ++ later) := by
    rw [loadable, List.filter_append, ← mem_distinct, ← loadable, ← loadable, split]
    exact List.mem_append_right _ inTail
  exact new id inTail (mem_loadable.2 ⟨here, (mem_loadable.1 loads).2⟩)

/-- With room for all identifiers, everything that can be loaded is admitted. -/
theorem mem_admitted_of_length_le
    (enough : (distinct asked).length ≤ capacity)
    (loads : id ∈ loadable load asked) :
    id ∈ admitted load capacity asked := by
  have inside : distinct (loadable load asked) ⊆ distinct asked := by
    intro other member
    rw [mem_distinct] at member ⊢
    exact (mem_loadable.1 member).1
  have fewer := ((nodup_distinct (loadable load asked)).subperm inside).length_le
  rw [admitted, List.take_of_length_le (Nat.le_trans fewer enough), mem_distinct]
  exact loads

theorem loadable_concat
    (load : String → Except TreeError Tree)
    (asked : List String)
    (id : String) :
    loadable load (asked ++ [id]) =
      loadable load asked ++ if (load id).isOk then [id] else [] := by
  rw [loadable, List.filter_append, List.filter_singleton, Bool.cond_eq_ite, loadable]

/-- A request for what cannot be loaded, is admitted already or finds no room changes nothing. -/
theorem admitted_concat_of_not
    (refused : (∀ tree, load id ≠ .ok tree) ∨ id ∈ admitted load capacity asked ∨
      capacity ≤ (admitted load capacity asked).length) :
    admitted load capacity (asked ++ [id]) = admitted load capacity asked := by
  rw [admitted, loadable_concat]
  rcases refused with fails | old | full
  · have none : (load id).isOk = false := by
      cases loaded : load id with
      | error error => rfl
      | ok tree => exact absurd loaded (fails tree)
    rw [none, if_neg Bool.false_ne_true, List.append_nil, admitted]
  · have old := mem_loadable_of_mem_admitted old
    split_ifs
    · rw [distinct_append_singleton, if_pos old, admitted]
    · rw [List.append_nil, admitted]
  · obtain ⟨tail, split, -⟩ := exists_distinct_append (loadable load asked)
      (if (load id).isOk then [id] else [])
    rw [admitted, List.length_take] at full
    rw [split, List.take_append_of_le_length (by omega), admitted]

/-- A request for what can be loaded, is new and finds room admits it. -/
theorem admitted_concat_of_room
    {tree : Tree}
    (loaded : load id = .ok tree)
    (new : id ∉ admitted load capacity asked)
    (room : (admitted load capacity asked).length < capacity) :
    admitted load capacity (asked ++ [id]) = admitted load capacity asked ++ [id] := by
  have size := room
  rw [admitted, List.length_take] at size
  have all : admitted load capacity asked = distinct (loadable load asked) :=
    List.take_of_length_le (by omega)
  have ok : (load id).isOk = true := by
    rw [loaded]
    rfl
  rw [all, mem_distinct] at new
  rw [admitted, loadable_concat, if_pos ok, distinct_append_singleton, if_neg new, ← all,
    List.take_of_length_le]
  rw [List.length_append, List.length_singleton]
  exact room

/--
A request keeps the identifiers of a cache those that are admitted. It matters only whether the
document can be loaded, and not what is loaded.
-/
theorem names_get
    {cache : TreeCache}
    {other : String → Except TreeError Tree}
    (names : cache.trees.map (·.1) = (admitted load cache.capacity asked).reverse)
    (same : (other id).isOk = (load id).isOk) :
    (cache.get other id).2.trees.map (·.1) =
      (admitted load cache.capacity (asked ++ [id])).reverse := by
  have size : cache.trees.length = (admitted load cache.capacity asked).length := by
    rw [← List.length_map (·.1), names, List.length_reverse]
  have mem_iff : id ∈ cache.trees.map (·.1) ↔ id ∈ admitted load cache.capacity asked := by
    rw [names, List.mem_reverse]
  rcases get_cases cache other id with
    ⟨tree, kept, answer⟩ | ⟨tree, kept, room, loaded, answer⟩ | ⟨-, refused, answer⟩
  · have old := mem_iff.1 (List.mem_map_of_mem (mem_of_kept? kept))
    rw [answer, names, admitted_concat_of_not (.inr (.inl old))]
  · have new : id ∉ admitted load cache.capacity asked := fun old =>
      not_mem_of_kept? kept (mem_iff.2 old)
    obtain ⟨first, loads⟩ : ∃ first, load id = .ok first := by
      rw [loaded] at same
      cases loads : load id with
      | ok first => exact ⟨first, rfl⟩
      | error error =>
          rw [loads] at same
          contradiction
    rw [answer, admitted_concat_of_room loads new (size ▸ room), List.map_cons, names,
      List.reverse_append, List.reverse_singleton, List.singleton_append]
  · have unchanged : admitted load cache.capacity (asked ++ [id]) =
        admitted load cache.capacity asked := by
      refine admitted_concat_of_not ?_
      rcases refused with fails | full
      · left
        intro tree loads
        cases found : other id with
        | ok first => exact fails first found
        | error error =>
            rw [found, loads] at same
            contradiction
      · exact .inr (.inr (size ▸ full))
    rw [answer, names, unchanged]

/-! ## Requests -/

/-- A cache is what requests for some identifiers make of an empty one. -/
structure Serves
    (cache : TreeCache)
    (load : String → Except TreeError Tree)
    (asked : List String) : Prop where
  /-- The documents kept are those admitted, the latest first. -/
  names : cache.trees.map (·.1) = (admitted load cache.capacity asked).reverse
  /-- What is kept is what would be loaded. -/
  loads : ∀ entry ∈ cache.trees, load entry.1 = .ok entry.2

namespace Serves

variable {cache : TreeCache}

theorem forRequest (load : String → Except TreeError Tree) : forRequest.Serves load [] :=
  ⟨rfl, fun _ member => absurd member List.not_mem_nil⟩

/-- What is kept for an identifier is what would be loaded, if it is admitted. -/
theorem kept?_eq
    (serves : cache.Serves load asked)
    (id : String) :
    cache.kept? id =
      if id ∈ admitted load cache.capacity asked then (load id).toOption else none := by
  have mem_iff : id ∈ admitted load cache.capacity asked ↔ id ∈ cache.trees.map (·.1) := by
    rw [serves.names, List.mem_reverse]
  cases kept : cache.kept? id with
  | some tree =>
      have member := mem_of_kept? kept
      rw [if_pos (mem_iff.2 (List.mem_map_of_mem member)), serves.loads _ member]
      rfl
  | none => rw [if_neg fun old => not_mem_of_kept? kept (mem_iff.1 old)]

/-- What a request answers, and the cache behind it. -/
theorem get
    (serves : cache.Serves load asked)
    (id : String) :
    (cache.get load id).2.Serves load (asked ++ [id]) ∧
      (cache.get load id).2.capacity = cache.capacity ∧
      (cache.get load id).1 =
        if id ∈ admitted load cache.capacity (asked ++ [id]) then (load id).toOption else none := by
  have names := names_get serves.names (rfl : (load id).isOk = (load id).isOk)
  have capacity := capacity_get cache load id
  have loads : ∀ entry ∈ (cache.get load id).2.trees, load entry.1 = .ok entry.2 := by
    rcases get_cases cache load id with ⟨tree, -, same⟩ | ⟨tree, -, -, loaded, same⟩ | ⟨-, -, same⟩
    · rw [same]
      exact serves.loads
    · rw [same]
      exact List.forall_mem_cons.2 ⟨loaded, serves.loads⟩
    · rw [same]
      exact serves.loads
  have served : (cache.get load id).2.Serves load (asked ++ [id]) := ⟨capacity ▸ names, loads⟩
  refine ⟨served, capacity, ?_⟩
  rw [answer_get, ← capacity]
  exact served.kept?_eq id

end Serves
end TreeCache
end BlockSearch
