import BlockSearch.Proofs.Library.Cache

/-!
# Histories of a cache

A cache answers inquiries one after the other. What loading gives may change between two of
them, but an identifier can be loaded either always or never. The cache then keeps the first
different identifiers that can be loaded, each with the document that was loaded for it first.
-/

namespace BlockSearch
namespace TreeCache

/-- A request to a cache, with what loading gives at the time. -/
structure Inquiry where
  /-- The documents that would be loaded. -/
  load : String → Except TreeError Tree
  /-- The identifier that is asked for. -/
  id : String

/-- The identifiers kept, in the order in which they were admitted. -/
def ids (cache : TreeCache) : List String := (cache.trees.map (·.1)).reverse

/-- The answer to an inquiry. -/
def answer (cache : TreeCache) (inquiry : Inquiry) : Option Tree :=
  (cache.get inquiry.load inquiry.id).1

/-- The cache behind an inquiry. -/
def next (cache : TreeCache) (inquiry : Inquiry) : TreeCache :=
  (cache.get inquiry.load inquiry.id).2

/-- The cache behind some inquiries. -/
def after (cache : TreeCache) (inquiries : List Inquiry) : TreeCache := inquiries.foldl next cache

/-- The identifiers whose documents are loaded while inquiries are answered. -/
def loaded (cache : TreeCache) : List Inquiry → List String
  | [] => []
  | inquiry :: inquiries =>
      if cache.wouldLoad inquiry.id then inquiry.id :: (cache.next inquiry).loaded inquiries
      else (cache.next inquiry).loaded inquiries

/-- Whether loading an identifier succeeds is the same in all inquiries for it. -/
def Steady (loads : String → Bool) (inquiries : List Inquiry) : Prop :=
  ∀ inquiry ∈ inquiries, (inquiry.load inquiry.id).isOk = loads inquiry.id

variable
  {cache : TreeCache}
  {inquiry : Inquiry}
  {inquiries : List Inquiry}
  {loads : String → Bool}
  {id : String}
  {tree : Tree}

/-! ## One inquiry -/

theorem mem_ids_iff : id ∈ cache.ids ↔ (cache.kept? id).isSome = true := by
  rw [ids, List.mem_reverse]
  cases kept : cache.kept? id with
  | some tree => exact iff_of_true (List.mem_map_of_mem (mem_of_kept? kept)) rfl
  | none => exact iff_of_false (not_mem_of_kept? kept) Bool.false_ne_true

theorem wouldLoad_eq_true_iff :
    cache.wouldLoad id = true ↔ cache.kept? id = none ∧ cache.trees.length < cache.capacity := by
  simp [wouldLoad]

/-- Where nothing is loaded, the answer and the cache do not depend on what loading would give. -/
theorem get_of_not_wouldLoad
    (idle : cache.wouldLoad id = false)
    (load other : String → Except TreeError Tree) :
    cache.get load id = cache.get other id := by
  unfold get
  cases kept : cache.kept? id with
  | some tree => rfl
  | none =>
      have full : ¬cache.trees.length < cache.capacity := fun room => by
        rw [wouldLoad_eq_true_iff.2 ⟨kept, room⟩] at idle
        contradiction
      rw [if_neg full, if_neg full]

/-- An inquiry is answered exactly when the identifier is kept afterwards. -/
theorem isSome_answer_iff :
    (cache.answer inquiry).isSome = true ↔ inquiry.id ∈ (cache.next inquiry).ids := by
  rw [mem_ids_iff, answer, answer_get, next]

/-- No document is given up or changed. -/
theorem kept?_next
    (kept : cache.kept? id = some tree)
    (inquiry : Inquiry) :
    (cache.next inquiry).kept? id = some tree := by
  rw [next]
  rcases get_cases cache inquiry.load inquiry.id with
    ⟨_, -, same⟩ | ⟨first, new, -, -, same⟩ | ⟨-, -, same⟩
  · rwa [same]
  · have different : inquiry.id ≠ id := by
      rintro rfl
      rw [kept] at new
      contradiction
    rw [same, kept?, List.find?_cons_of_neg (by simpa using different)]
    exact kept
  · rwa [same]

/-- What is loaded is kept. -/
theorem exists_kept?_next
    (loading : cache.wouldLoad inquiry.id = true)
    (succeeds : (inquiry.load inquiry.id).isOk = true) :
    ∃ tree, (cache.next inquiry).kept? inquiry.id = some tree := by
  obtain ⟨new, room⟩ := wouldLoad_eq_true_iff.1 loading
  rw [next]
  rcases get_cases cache inquiry.load inquiry.id with
    ⟨_, kept, -⟩ | ⟨tree, -, -, -, same⟩ | ⟨-, fails | full, -⟩
  · rw [new] at kept
    contradiction
  · refine ⟨tree, ?_⟩
    rw [same, kept?, List.find?_cons_of_pos (by simp)]
    rfl
  · cases found : inquiry.load inquiry.id with
    | ok tree => exact absurd found (fails tree)
    | error error =>
        rw [found] at succeeds
        contradiction
  · omega

/-- A full cache stays as it is. -/
theorem next_of_full
    (full : cache.capacity ≤ cache.trees.length)
    (inquiry : Inquiry) :
    cache.next inquiry = cache := by
  rw [next]
  rcases get_cases cache inquiry.load inquiry.id with
    ⟨_, -, same⟩ | ⟨_, -, room, -, -⟩ | ⟨-, -, same⟩
  · rw [same]
  · omega
  · rw [same]

/-! ## Many inquiries -/

theorem capacity_after
    (cache : TreeCache)
    (inquiries : List Inquiry) :
    (cache.after inquiries).capacity = cache.capacity := by
  induction inquiries generalizing cache with
  | nil => rfl
  | cons inquiry inquiries inductionHypothesis =>
      exact (inductionHypothesis (cache.next inquiry)).trans (capacity_get _ _ _)

/-- Whatever follows, a document stays in the cache. -/
theorem kept?_after
    (kept : cache.kept? id = some tree)
    (inquiries : List Inquiry) :
    (cache.after inquiries).kept? id = some tree := by
  induction inquiries generalizing cache with
  | nil => exact kept
  | cons inquiry inquiries inductionHypothesis =>
      exact inductionHypothesis (kept?_next kept inquiry)

/-- A document that is kept answers every inquiry for its identifier. -/
theorem answer_of_kept? (kept : cache.kept? inquiry.id = some tree) :
    cache.answer inquiry = some tree := by
  rw [answer, answer_get]
  exact kept?_next kept inquiry

/-- What is kept is not loaded again. -/
theorem not_mem_loaded_of_kept?
    (kept : cache.kept? id = some tree)
    (inquiries : List Inquiry) :
    id ∉ cache.loaded inquiries := by
  induction inquiries generalizing cache with
  | nil => exact List.not_mem_nil
  | cons inquiry inquiries inductionHypothesis =>
      have behind := inductionHypothesis (kept?_next kept inquiry)
      rw [loaded]
      split_ifs with loading
      · rw [List.mem_cons, not_or]
        refine ⟨?_, behind⟩
        rintro rfl
        rw [(wouldLoad_eq_true_iff.1 loading).1] at kept
        contradiction
      · exact behind

/-- What can be loaded is loaded once. -/
theorem count_loaded_le_one
    (steady : Steady loads inquiries)
    (succeeds : loads id = true)
    (cache : TreeCache) :
    (cache.loaded inquiries).count id ≤ 1 := by
  induction inquiries generalizing cache with
  | nil => exact Nat.zero_le 1
  | cons inquiry inquiries inductionHypothesis =>
      obtain ⟨now, later⟩ := List.forall_mem_cons.1 steady
      have behind := inductionHypothesis later (cache.next inquiry)
      rw [loaded]
      split_ifs with loading
      · rcases eq_or_ne inquiry.id id with rfl | different
        · obtain ⟨tree, kept⟩ := exists_kept?_next loading (now.trans succeeds)
          rw [List.count_cons_self,
            List.count_eq_zero.2 (not_mem_loaded_of_kept? kept inquiries)]
        · rwa [List.count_cons_of_ne different]
      · exact behind

/-- A full cache loads nothing any more. -/
theorem loaded_of_full
    (full : cache.capacity ≤ cache.trees.length)
    (inquiries : List Inquiry) :
    cache.loaded inquiries = [] := by
  induction inquiries with
  | nil => rfl
  | cons inquiry inquiries inductionHypothesis =>
      have idle : ¬cache.wouldLoad inquiry.id = true := fun loading => by
        have room := (wouldLoad_eq_true_iff.1 loading).2
        omega
      rw [loaded, if_neg idle, next_of_full full, inductionHypothesis]

/-- A store in which the documents with some identifiers, and no others, can be loaded. -/
def sample (loads : String → Bool) (id : String) : Except TreeError Tree :=
  if loads id then .ok default else .error (.notFound id)

theorem isOk_sample
    (loads : String → Bool)
    (id : String) :
    (sample loads id).isOk = loads id := by
  unfold sample
  cases loads id <;> rfl

theorem admitted_sample
    (loads : String → Bool)
    (capacity : Nat)
    (asked : List String) :
    admitted (sample loads) capacity asked = (distinct (asked.filter loads)).take capacity := by
  simp only [admitted, loadable, isOk_sample]

/-- Inquiries admit what can be loaded, as long as there is room. -/
theorem names_after
    {asked : List String}
    (steady : Steady loads inquiries)
    (names : cache.trees.map (·.1) =
      (admitted (sample loads) cache.capacity asked).reverse) :
    (cache.after inquiries).trees.map (·.1) =
      (admitted (sample loads) cache.capacity (asked ++ inquiries.map Inquiry.id)).reverse := by
  induction inquiries generalizing cache asked with
  | nil =>
      rw [List.map_nil, List.append_nil]
      exact names
  | cons inquiry inquiries inductionHypothesis =>
      obtain ⟨now, later⟩ := List.forall_mem_cons.1 steady
      have step := names_get names (now.trans (isOk_sample loads inquiry.id).symm)
      have capacity : (cache.next inquiry).capacity = cache.capacity := capacity_get _ _ _
      have kept : (cache.next inquiry).trees.map (·.1) =
          (admitted (sample loads) (cache.next inquiry).capacity (asked ++ [inquiry.id])).reverse :=
        capacity.symm ▸ step
      have behind := inductionHypothesis later kept
      rw [capacity, List.append_assoc, List.singleton_append] at behind
      exact behind

/-- From an empty cache on, the first different identifiers that can be loaded are kept. -/
theorem ids_after
    (capacity : Nat)
    (steady : Steady loads inquiries) :
    (after ⟨capacity, []⟩ inquiries).ids =
      (distinct ((inquiries.map Inquiry.id).filter loads)).take capacity := by
  let start : TreeCache := ⟨capacity, []⟩
  have empty : start.trees.map (·.1) = (admitted (sample loads) start.capacity []).reverse := by
    rw [show admitted (sample loads) start.capacity [] = [] from List.take_nil]
    rfl
  have names := names_after steady empty
  rw [ids, names, List.reverse_reverse, admitted_sample, List.nil_append]

/--
A cache that is empty at first keeps the first different identifiers that can be loaded, as many
as there is room for. Each of them is loaded once, and nothing is loaded when the cache is full;
where nothing is loaded, the store has no influence. An inquiry is answered with a document
exactly when its identifier is kept afterwards, and later inquiries for it have the same answer.
-/
theorem admits_first_loadable
    (capacity : Nat)
    (steady : Steady loads inquiries) :
    let start : TreeCache := ⟨capacity, []⟩
    (start.after inquiries).ids =
        (distinct ((inquiries.map Inquiry.id).filter loads)).take capacity ∧
      (start.after inquiries).trees.length ≤ capacity ∧
      (∀ id, loads id = true → (start.loaded inquiries).count id ≤ 1) ∧
      (∀ before later, inquiries = before ++ later →
        capacity ≤ (start.after before).trees.length →
          (start.after before).loaded later = []) ∧
      ∀ before inquiry later, inquiries = before ++ inquiry :: later →
        let cache := start.after before
        (cache.wouldLoad inquiry.id = false → ∀ load,
          cache.get load inquiry.id = cache.get inquiry.load inquiry.id) ∧
        ((cache.answer inquiry).isSome = true ↔
          inquiry.id ∈ (start.after (before ++ [inquiry])).ids) ∧
        ∀ tree, cache.answer inquiry = some tree →
          ∀ between again rest, later = between ++ again :: rest → again.id = inquiry.id →
            (start.after (before ++ inquiry :: between)).answer again = some tree := by
  intro start
  have held := ids_after capacity steady
  refine ⟨held, ?_, fun id succeeds => count_loaded_le_one steady succeeds start, ?_, ?_⟩
  · have length := congrArg List.length held
    rw [ids, List.length_reverse, List.length_map] at length
    rw [length]
    exact List.length_take_le _ _
  · intro before later _ full
    exact loaded_of_full ((capacity_after start before).trans_le full) later
  · intro before inquiry later _ cache
    have behind (between : List Inquiry) :
        start.after (before ++ inquiry :: between) = (cache.next inquiry).after between :=
      List.foldl_append
    refine ⟨fun idle load => get_of_not_wouldLoad idle load _, ?_, ?_⟩
    · rw [behind]
      exact isSome_answer_iff
    · intro tree answered between again rest _ same
      rw [answer, answer_get] at answered
      rw [behind]
      exact answer_of_kept? (kept?_after (same ▸ answered) between)

/-- A cache with one place, between two of whose inquiries the only document that fits changes. -/
theorem admits_first_loadable_with_changed_document :
    let old := Tree.new "a" "box" "/a.sy" "/Old"
    let new := Tree.new "a" "box" "/a.sy" "/New"
    let store (document : Tree) : String → Except TreeError Tree := fun id =>
      if id = "x" then .error (.notFound id) else .ok document
    let missing : Inquiry := ⟨store old, "x"⟩
    let first : Inquiry := ⟨store old, "a"⟩
    let again : Inquiry := ⟨store new, "a"⟩
    let late : Inquiry := ⟨store new, "b"⟩
    let start : TreeCache := ⟨1, []⟩
    old ≠ new ∧ Steady (· != "x") [missing, first, late, again] ∧
      (start.after [missing, first, late, again]).ids = ["a"] ∧
      (start.after [missing]).answer first = some old ∧
      (start.after [missing, first, late]).answer again = some old ∧
      (start.after [missing, first]).loaded [late, again] = [] := by
  intro old new store missing first again late start
  have steady : Steady (· != "x") [missing, first, late, again] := by
    intro inquiry member
    simp only [List.mem_cons, List.not_mem_nil, or_false] at member
    rcases member with rfl | rfl | rfl | rfl <;> decide +kernel
  obtain ⟨ids, -, -, full, each⟩ := admits_first_loadable 1 steady
  have answered : (start.after [missing]).answer first = some old := by decide +kernel
  obtain ⟨-, -, stays⟩ := each [missing] first [late, again] rfl
  refine ⟨by decide +kernel, steady, ?_, answered, ?_, ?_⟩
  · rw [ids]
    decide +kernel
  · exact stays old answered [late] again [] rfl rfl
  · exact full [missing, first] [late, again] rfl (by decide +kernel)

end TreeCache
end BlockSearch
