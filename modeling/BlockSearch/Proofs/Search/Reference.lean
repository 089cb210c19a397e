import BlockSearch.Engine.Search
import BlockSearch.Proofs.Library.Cache
import BlockSearch.Proofs.Library.Update
import BlockSearch.Proofs.Search.Ranking

/-!
# References that lead back

A reference leads back if its target is the block it is written in, the document of that block,
or a container that begins with the block. Such targets are left out of an offer for a text, as
far as the documents of containers are loaded; the latest targets are offered without a look at
where the reference is written.
-/

namespace BlockSearch

theorem map_eq_ok_iff
    {ε α β : Type}
    {change : α → β}
    {outcome : Except ε α}
    {result : β} :
    outcome.map change = .ok result ↔ ∃ value, outcome = .ok value ∧ change value = result := by
  cases outcome <;> simp [Except.map]

/-! ## Blocks that are left out -/

namespace Target

/-- Whether a container begins with a block, in its document as it would be loaded. -/
def beginsWith
    (load : String → Except TreeError Tree)
    (id : String)
    (block : Block) : Bool :=
  match load block.rootId with
  | .ok tree => leadsTo tree block.id id
  | .error _ => false

/-- Whether a block is the one that a reference is written in, or its document. -/
def isHere (id rootId : String) (block : Block) : Bool := block.id == id || block.id == rootId

/-- Whether a reference written in a block leads back when it has this target. -/
def leadsBack
    (load : String → Except TreeError Tree)
    (id rootId : String)
    (block : Block) : Bool :=
  isHere id rootId block || (block.isContainer && beginsWith load id block)

/-- The documents that are asked for to see how containers begin. -/
def consulted (id rootId : String) (blocks : List Block) : List String :=
  (blocks.filter fun block => !isHere id rootId block && block.isContainer).map Block.rootId

/-- Whether a target that leads back can be seen to do so, with some documents only. -/
def seen (documents : List String) (id rootId : String) (block : Block) : Bool :=
  isHere id rootId block || documents.contains block.rootId

variable
  {load : String → Except TreeError Tree}
  {cache : TreeCache}
  {asked : List String}
  {id rootId : String}

theorem consulted_cons
    (id rootId : String)
    (block : Block)
    (blocks : List Block) :
    consulted id rootId (block :: blocks) =
      consulted id rootId [block] ++ consulted id rootId blocks := by
  rw [consulted, ← List.singleton_append, List.filter_append, List.map_append]
  rfl

theorem consulted_singleton
    (id rootId : String)
    (block : Block) :
    consulted id rootId [block] =
      if isHere id rootId block = false ∧ block.isContainer = true then [block.rootId] else [] := by
  rw [consulted, List.filter_singleton]
  cases isHere id rootId block <;> cases block.isContainer <;> rfl

/-- What is decided about a block, and the cache behind it. -/
theorem isExcluded_eq
    (serves : cache.Serves load asked)
    (id rootId : String)
    (block : Block) :
    (isExcluded load cache id rootId block).2.Serves load (asked ++ consulted id rootId [block]) ∧
      (isExcluded load cache id rootId block).2.capacity = cache.capacity ∧
      (isExcluded load cache id rootId block).1 =
        (leadsBack load id rootId block &&
          seen (TreeCache.admitted load cache.capacity (asked ++ consulted id rootId [block])) id
            rootId block) := by
  rw [consulted_singleton]
  unfold isExcluded
  rw [← isHere]
  cases here : isHere id rootId block with
  | true =>
      simp only [Bool.true_eq_false, false_and, if_false, List.append_nil, if_true]
      exact ⟨serves, trivial, by simp [leadsBack, seen, here]⟩
  | false =>
      cases container : block.isContainer with
      | true =>
          obtain ⟨servesNext, capacity, answer⟩ := serves.get block.rootId
          simp only [Bool.false_eq_true, if_false, if_true, and_self]
          refine ⟨servesNext, capacity, ?_⟩
          rw [answer, leadsBack, seen, here, container, beginsWith]
          split_ifs with admitted
          · cases load block.rootId <;> simp [admitted, Except.toOption]
          · simp [admitted]
      | false =>
          simp only [Bool.false_eq_true, and_false, if_false, List.append_nil]
          exact ⟨serves, trivial, by simp [leadsBack, here, container]⟩

/-- Requests for later blocks do not change what can be seen of a block that leads back. -/
theorem seen_append
    {capacity : Nat}
    {block : Block}
    (back : leadsBack load id rootId block = true)
    (later : List String) :
    seen (TreeCache.admitted load capacity (asked ++ consulted id rootId [block] ++ later)) id
        rootId block =
      seen (TreeCache.admitted load capacity (asked ++ consulted id rootId [block])) id rootId
        block := by
  cases here : isHere id rootId block with
  | true => simp only [seen, here, Bool.true_or]
  | false =>
      have container : block.isContainer = true := by
        rw [leadsBack, here, Bool.false_or, Bool.and_eq_true] at back
        exact back.1
      have requested : block.rootId ∈ asked ++ consulted id rootId [block] := by
        rw [consulted_singleton, if_pos ⟨here, container⟩]
        exact List.mem_append_right _ List.mem_cons_self
      simp only [seen, List.contains_eq_mem, TreeCache.mem_admitted_append requested]

/-- A block is left out if it leads back and the cache admits what is needed to see that. -/
theorem permitted_eq
    (serves : cache.Serves load asked)
    (blocks : List Block) :
    permitted load cache id rootId blocks =
      blocks.filter fun block =>
        !(leadsBack load id rootId block &&
          seen (TreeCache.admitted load cache.capacity (asked ++ consulted id rootId blocks)) id
            rootId block) := by
  induction blocks generalizing cache asked with
  | nil => rfl
  | cons block blocks inductionHypothesis =>
      obtain ⟨servesNext, capacity, decided⟩ := isExcluded_eq serves id rootId block
      have others := inductionHypothesis servesNext
      rw [capacity, List.append_assoc, ← consulted_cons] at others
      have first : (isExcluded load cache id rootId block).1 =
          (leadsBack load id rootId block &&
            seen (TreeCache.admitted load cache.capacity
              (asked ++ consulted id rootId (block :: blocks))) id rootId block) := by
        rw [decided, consulted_cons id rootId block blocks, ← List.append_assoc]
        cases back : leadsBack load id rootId block with
        | true => rw [seen_append back]
        | false => rfl
      rw [permitted, List.filter_cons, ← first, ← others]
      obtain ⟨excluded, next⟩ := isExcluded load cache id rootId block
      cases excluded <;> rfl

/-- With room for all documents, every block that leads back is seen to do so. -/
theorem seen_of_leadsBack
    {capacity : Nat}
    {blocks : List Block}
    (enough : (distinct (consulted id rootId blocks)).length ≤ capacity)
    {block : Block}
    (member : block ∈ blocks)
    (back : leadsBack load id rootId block = true) :
    seen (TreeCache.admitted load capacity (consulted id rootId blocks)) id rootId block = true := by
  cases here : isHere id rootId block with
  | true => rw [seen, here, Bool.true_or]
  | false =>
      rw [leadsBack, here, Bool.false_or, Bool.and_eq_true] at back
      have requested : block.rootId ∈ consulted id rootId blocks :=
        List.mem_map_of_mem (List.mem_filter.2 ⟨member, by rw [here, back.1]; rfl⟩)
      have loads : ∃ tree, load block.rootId = .ok tree := by
        have begins := back.2
        rw [beginsWith] at begins
        cases loaded : load block.rootId with
        | error error => simp [loaded] at begins
        | ok tree => exact ⟨tree, rfl⟩
      have admitted := TreeCache.mem_admitted_of_length_le enough
        (TreeCache.mem_loadable.2 ⟨requested, loads⟩)
      rw [seen, List.contains_iff_mem.2 admitted, Bool.or_true]

/-- There are no more records for a text than a search may have results. -/
theorem length_records_le
    {store : Store}
    {settings : SearchSettings}
    {keyword : String}
    {found : List Record}
    (allowed : settings.limit ≤ greatestLimit)
    (answered : records store settings keyword = .ok found) :
    found.length ≤ settings.limit := by
  rcases records_eq store settings keyword with
    ⟨failed, -⟩ | ⟨ordered, size, -, -, whole, selected⟩
  · rw [failed] at answered
    cases answered
  · rw [selected, Except.ok.injEq] at answered
    rw [← answered, List.length_map, ← (whole allowed).1]
    exact List.length_take_le _ _

theorem length_distinct_consulted_le
    (id rootId : String)
    (blocks : List Block) :
    (distinct (consulted id rootId blocks)).length ≤ blocks.length := by
  have fewer := ((nodup_distinct (consulted id rootId blocks)).subperm
    fun other member => mem_distinct.1 member).length_le
  rw [consulted, List.length_map] at fewer
  exact Nat.le_trans fewer (List.length_filter_le _ _)

end Target

/-! ## Offers -/

namespace Engine

/-- The text that an offer goes by. -/
def visibleKeyword (keyword : String) : String :=
  String.ofList (Query.removeInvisible keyword.toList)

/-- The blocks that an offer chooses from. -/
def candidates (engine : Engine) (keyword : String) : Except SearchError (List Block) :=
  if (visibleKeyword keyword).isEmpty then
    .ok ((engine.store.recentTargets.filterMap engine.store.find?).map
      (Block.ofRecord engine.mode []))
  else
    (engine.targetRecords (visibleKeyword keyword)).map fun records =>
      records.map (Block.ofRecord engine.mode [])

/-- An offer shows the candidates, of which some are left out if it goes by a text. -/
theorem offer_eq
    (engine : Engine)
    (id rootId keyword : String) :
    engine.offer id rootId keyword =
      (engine.candidates keyword).map fun blocks =>
        if (visibleKeyword keyword).isEmpty then ⟨blocks.map engine.withReferenceText, false⟩
        else
          ⟨(Target.permitted engine.library.load .forRequest id rootId blocks).map
            engine.withReferenceText, engine.offersDocument id (visibleKeyword keyword)⟩ := by
  rw [offer, candidates, ← visibleKeyword]
  split_ifs
  · simp only [Except.map, recentBlocks, List.map_map, Function.comp_def]
  · cases engine.targetRecords (visibleKeyword keyword) <;> rfl

/-- Whether an offer sees that a candidate leads back; without a text it does not look. -/
def sees
    (engine : Engine)
    (id rootId keyword : String)
    (candidates : List Block)
    (block : Block) : Bool :=
  !(visibleKeyword keyword).isEmpty &&
    Target.seen
      (TreeCache.admitted engine.library.load TreeCache.requestCapacity
        (Target.consulted id rootId candidates)) id rootId block

theorem offer_eq_ok
    {engine : Engine}
    {id rootId keyword : String}
    {offer : Offer}
    (answered : engine.offer id rootId keyword = .ok offer) :
    ∃ candidates, engine.candidates keyword = .ok candidates ∧
      offer.blocks =
        (candidates.filter fun block =>
          !(Target.leadsBack engine.library.load id rootId block &&
            engine.sees id rootId keyword candidates block)).map engine.withReferenceText := by
  rw [offer_eq, map_eq_ok_iff] at answered
  obtain ⟨candidates, found, rfl⟩ := answered
  refine ⟨candidates, found, ?_⟩
  cases empty : (visibleKeyword keyword).isEmpty with
  | true =>
      rw [if_pos rfl]
      simp only [sees, empty, Bool.not_true, Bool.false_and, Bool.and_false, Bool.not_false,
        List.filter_true]
  | false =>
      rw [if_neg Bool.false_ne_true, Target.permitted_eq (.forRequest _)]
      simp only [sees, empty, Bool.not_false, Bool.true_and, List.nil_append]
      rfl

/-- A text has as many candidates as a search has results, or one. -/
theorem length_candidates_le
    {engine : Engine}
    {keyword : String}
    {candidates : List Block}
    (allowed : engine.settings.limit ≤ greatestLimit)
    (visible : (visibleKeyword keyword).isEmpty = false)
    (found : engine.candidates keyword = .ok candidates) :
    candidates.length ≤ max 1 engine.settings.limit := by
  rw [Engine.candidates, visible, if_neg Bool.false_ne_true, map_eq_ok_iff] at found
  obtain ⟨records, answered, rfl⟩ := found
  rw [List.length_map]
  rw [targetRecords] at answered
  split_ifs at answered
  · rw [← Except.ok.inj answered]
    exact Nat.le_trans Option.length_toList_le (Nat.le_max_left _ _)
  · exact Nat.le_trans (Target.length_records_le allowed answered) (Nat.le_max_right _ _)

/--
No target that is offered leads back if and only if the offer sees every candidate that does. It
does not without a text; it does for every text if no search has more results than documents are
kept.
-/
theorem offer_leadsBack_iff
    {engine : Engine}
    {id rootId keyword : String}
    {offer : Offer}
    (answered : engine.offer id rootId keyword = .ok offer) :
    ∃ candidates, engine.candidates keyword = .ok candidates ∧
      offer.blocks =
        (candidates.filter fun block =>
          !(Target.leadsBack engine.library.load id rootId block &&
            engine.sees id rootId keyword candidates block)).map engine.withReferenceText ∧
      ((∀ block ∈ offer.blocks, Target.leadsBack engine.library.load id rootId block = false) ↔
        ∀ block ∈ candidates, Target.leadsBack engine.library.load id rootId block = true →
          engine.sees id rootId keyword candidates block = true) ∧
      (visibleKeyword keyword ≠ "" → engine.settings.limit ≤ TreeCache.requestCapacity →
        ∀ block ∈ offer.blocks, Target.leadsBack engine.library.load id rootId block = false) := by
  obtain ⟨candidates, found, blocks⟩ := offer_eq_ok answered
  have exactly : (∀ block ∈ offer.blocks,
        Target.leadsBack engine.library.load id rootId block = false) ↔
      ∀ block ∈ candidates, Target.leadsBack engine.library.load id rootId block = true →
        engine.sees id rootId keyword candidates block = true := by
    rw [blocks, List.forall_mem_map]
    -- The text of a reference has no influence on where its target leads.
    change (∀ block ∈ _, Target.leadsBack engine.library.load id rootId block = false) ↔ _
    simp only [List.mem_filter, Bool.not_eq_true', Bool.and_eq_false_iff, and_imp]
    refine forall_congr' fun block => forall_congr' fun _ => ?_
    cases Target.leadsBack engine.library.load id rootId block <;> simp
  refine ⟨candidates, found, blocks, exactly, fun visible limit => exactly.2 ?_⟩
  intro block member back
  have visible : (visibleKeyword keyword).isEmpty = false := by simpa using visible
  have enough : (distinct (Target.consulted id rootId candidates)).length ≤
      TreeCache.requestCapacity := by
    refine Nat.le_trans (Target.length_distinct_consulted_le id rootId candidates) ?_
    have allowed := limit.trans (show TreeCache.requestCapacity ≤ greatestLimit by decide)
    refine Nat.le_trans (length_candidates_le allowed visible found) ?_
    exact Nat.max_le.2 ⟨by decide, limit⟩
  rw [sees, visible, Target.seen_of_leadsBack enough member back]
  rfl

/--
A list that begins with the block is offered there without a text, as the target of a reference,
and it is not offered for its own identifier.
-/
theorem offer_leadsBack_of_list :
    let paragraph := "20230101120501-blk0001"
    let list := "20230101120502-lst0001"
    let tree :=
      (((Tree.new "d" "b" "/d.sy" "/D").appendNew 0 .list (some list)).appendNew 1 .listItem
        (some "i")).appendNew 2 .paragraph (some paragraph)
    let record : Record := { id := list, rootId := "d", type := "l" }
    let engine : Engine :=
      { store := ⟨[record], [{ defBlockId := list }]⟩
        library := .memory { trees := [tree] } }
    (∃ offer, engine.offer paragraph "d" "" = .ok offer ∧
      ∃ block ∈ offer.blocks, Target.leadsBack engine.library.load paragraph "d" block = true) ∧
    ∃ offer, engine.offer paragraph "d" list = .ok offer ∧
      visibleKeyword list ≠ "" ∧ engine.settings.limit ≤ TreeCache.requestCapacity ∧
      ∀ block ∈ offer.blocks, Target.leadsBack engine.library.load paragraph "d" block = false := by
  intro paragraph list tree record engine
  have leads : Target.leadsTo tree list paragraph = true := by decide +kernel
  have loaded : engine.library.load "d" = .ok tree := by
    have document : (tree.id == "d") = true := by decide +kernel
    exact Library.load_memory_eq_ok_iff.2 (List.find?_cons_of_pos document)
  have targets : engine.store.recentTargets.filterMap engine.store.find? = [record] := by
    decide +kernel
  have stored : engine.store.find? list = some record := by decide +kernel
  have limit : engine.settings.limit ≤ TreeCache.requestCapacity := by decide
  -- What follows does not depend on how the document is made.
  clear_value tree
  have back : Target.leadsBack engine.library.load paragraph "d"
      (Block.ofRecord engine.mode [] record) = true := by
    have begins : Target.beginsWith engine.library.load paragraph
        (Block.ofRecord engine.mode [] record) = true := by
      change (match engine.library.load "d" with
        | .ok tree => Target.leadsTo tree list paragraph
        | .error _ => false) = true
      rw [loaded]
      exact leads
    have container : (Block.ofRecord engine.mode [] record).isContainer = true := by
      change Block.containerTypes.contains "l" = true
      decide
    rw [Target.leadsBack, container, begins]
    exact Bool.or_true _
  have recent : engine.candidates "" = .ok [Block.ofRecord engine.mode [] record] := by
    rw [candidates, targets, if_pos (by decide)]
    rfl
  have named : engine.candidates list = .ok [Block.ofRecord engine.mode [] record] := by
    have visible : visibleKeyword list = list := by decide +kernel
    have records : engine.targetRecords list = .ok [record] := by
      rw [targetRecords, if_pos (by decide +kernel), stored]
      rfl
    rw [candidates, visible, records, if_neg (by decide)]
    rfl
  constructor
  · obtain ⟨offer, answered⟩ : ∃ offer, engine.offer paragraph "d" "" = .ok offer := by
      rw [offer_eq, recent]
      exact ⟨_, rfl⟩
    obtain ⟨candidates, chosen, _, exactly, _⟩ := offer_leadsBack_iff answered
    rw [recent] at chosen
    rw [← Except.ok.inj chosen] at exactly
    refine ⟨offer, answered, ?_⟩
    by_contra none
    have all : ∀ block ∈ offer.blocks,
        Target.leadsBack engine.library.load paragraph "d" block = false := by
      simpa using none
    exact Bool.false_ne_true (exactly.1 all _ List.mem_cons_self back)
  · obtain ⟨offer, answered⟩ : ∃ offer, engine.offer paragraph "d" list = .ok offer := by
      rw [offer_eq, named]
      exact ⟨_, rfl⟩
    obtain ⟨_, _, _, _, clear⟩ := offer_leadsBack_iff answered
    have visible : visibleKeyword list ≠ "" := by decide +kernel
    exact ⟨offer, answered, visible, limit, clear visible limit⟩

end Engine
end BlockSearch
