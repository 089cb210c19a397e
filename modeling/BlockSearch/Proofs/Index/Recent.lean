import BlockSearch.Proofs.Index.History

/-!
# Recent targets

References are numbered as they come in, and the targets are ordered by the greatest numbers of
their references. Read backwards, the references therefore name the recent targets in their
order, each where it is first named, whatever records come in or go between the references.
-/

namespace BlockSearch
namespace Store

/-! ## Numbers and places -/

/-- The targets of the references, the last one first. -/
def targetsBackwards (store : Store) : List String :=
  (store.references.map Reference.defBlockId).reverse

/--
The number of a target and its place backwards make up the number of references. A target
without references has number zero and its place behind all others.
-/
theorem latestNumber_add_idxOf
    (store : Store)
    (target : String) :
    store.latestNumber target + store.targetsBackwards.idxOf target = store.references.length := by
  rw [latestNumber, numberedReferences, targetsBackwards]
  generalize store.references = references
  -- From the back: the last reference has the greatest number and the first place.
  induction references using List.reverseRecOn with
  | nil => rfl
  | append_singleton references reference inductionHypothesis =>
      have numbered : [reference].zipIdx (1 + references.length) =
          [(reference, references.length + 1)] := by
        rw [Nat.add_comm]
        rfl
      rw [List.zipIdx_append, numbered, List.filter_append, List.map_append, List.foldl_append,
        List.map_append, List.reverse_append, List.length_append]
      by_cases same : reference.defBlockId = target
      · simp [same]
        omega
      · simp [same]
        omega

/-- A target comes before another one backwards when its number is greater. -/
theorem latestNumber_lt_iff
    (store : Store)
    (first second : String) :
    store.latestNumber second < store.latestNumber first ↔
      store.targetsBackwards.idxOf first < store.targetsBackwards.idxOf second := by
  have firstPlace := store.latestNumber_add_idxOf first
  have secondPlace := store.latestNumber_add_idxOf second
  omega

/-- The groups in the order of their numbers are the targets in the order of their places. -/
theorem mergeSort_targetGroups (store : Store) :
    (store.targetGroups.mergeSort fun first second => second.2 ≤ first.2) =
      (distinct store.targetsBackwards).map fun target => (target, store.latestNumber target) := by
  have sameTargets : (distinct (store.references.map Reference.defBlockId)).Perm
      (distinct store.targetsBackwards) := distinct_perm (List.reverse_perm _).symm
  have sorted : (store.targetGroups.mergeSort fun first second => second.2 ≤ first.2).Pairwise
      fun first second => decide (second.2 ≤ first.2) = true := by
    apply List.pairwise_mergeSort
    · simp
      omega
    · simp
      omega
  have falling : (distinct store.targetsBackwards).Pairwise fun first second =>
      store.latestNumber second < store.latestNumber first :=
    (pairwise_idxOf_distinct store.targetsBackwards).imp fun {first second} earlier =>
      (store.latestNumber_lt_iff first second).2 earlier
  -- Both orders are falling, and no two groups have the same number.
  refine List.Perm.eq_of_pairwise (fun first second here there notLess notGreater => ?_)
    (sorted.imp of_decide_eq_true)
    (List.pairwise_map.2 (falling.imp Nat.le_of_lt))
    ((List.mergeSort_perm _ _).trans (sameTargets.map _))
  obtain ⟨target, listed, rfl⟩ := List.mem_map.1 (List.mem_mergeSort.1 here)
  obtain ⟨other, _, rfl⟩ := List.mem_map.1 there
  have samePlace : store.targetsBackwards.idxOf target = store.targetsBackwards.idxOf other := by
    have targetPlace := store.latestNumber_add_idxOf target
    have otherPlace := store.latestNumber_add_idxOf other
    omega
  have named := mem_distinct.1 (sameTargets.mem_iff.1 listed)
  rw [(List.idxOf_inj named).1 samePlace]

/-- The recent targets are the first that are named backwards. -/
theorem recentTargets_eq (store : Store) :
    store.recentTargets = (distinct store.targetsBackwards).take recentLimit := by
  rw [recentTargets, mergeSort_targetGroups, ← List.map_take, List.map_map]
  exact List.map_id _

/-! ## Steps -/

/-- A step in the life of a store. -/
inductive Step
  /-- A reference comes in. -/
  | refer (reference : Reference)
  /-- The records change. -/
  | alter (change : Change)

namespace Step

/-- The store behind a step. A change that fails leaves the store as it was. -/
def run (store : Store) : Step → Store
  | refer reference => store.insertReference reference
  | alter change => (change.run? store).getD store

/-- The reference that comes in. -/
def reference? : Step → Option Reference
  | refer reference => some reference
  | alter _ => none

end Step

theorem references_foldl_insert
    (records : List Record)
    (store : Store) :
    (records.foldl insert store).references = store.references := by
  induction records generalizing store with
  | nil => rfl
  | cons record records inductionHypothesis => exact inductionHypothesis (store.insert record)

/-- A change of the records keeps the references. -/
theorem references_getD_run?
    (change : Change)
    (store : Store) :
    ((change.run? store).getD store).references = store.references := by
  cases change with
  | insert record => rfl
  | index tree =>
      rw [Change.run?, index?]
      cases tree.records? with
      | none => rfl
      | some records => exact references_foldl_insert records (store.removeDocument tree.id)

/-- One step adds the reference that comes in. -/
theorem references_run
    (store : Store)
    (step : Step) :
    (step.run store).references = store.references ++ step.reference?.toList := by
  cases step with
  | refer reference => rfl
  | alter change => exact (references_getD_run? change store).trans (List.append_nil _).symm

/-- Some steps add the references that come in, in their order. -/
theorem references_foldl_run
    (store : Store)
    (steps : List Step) :
    (steps.foldl Step.run store).references =
      store.references ++ steps.filterMap Step.reference? := by
  induction steps generalizing store with
  | nil => exact (List.append_nil _).symm
  | cons step steps inductionHypothesis =>
      rw [List.foldl_cons, inductionHypothesis, references_run, List.append_assoc]
      congr 1
      cases step <;> rfl

theorem references_foldl_insertReference
    (references : List Reference)
    (store : Store) :
    (references.foldl insertReference store).references = store.references ++ references := by
  induction references generalizing store with
  | nil => exact (List.append_nil _).symm
  | cons reference references inductionHypothesis =>
      rw [List.foldl_cons, inductionHypothesis, insertReference, List.append_assoc]
      rfl

/-- The recent targets depend on the references alone. -/
theorem recentTargets_congr
    {store other : Store}
    (same : store.references = other.references) :
    store.recentTargets = other.recentTargets := by
  rw [recentTargets_eq, recentTargets_eq, targetsBackwards, targetsBackwards, same]

/--
Whatever comes in, and in whichever order, the recent targets are the first thirty-two different
ones that the references name when they are read backwards. None comes twice, none comes before
one that was named more recently, and one is missing only if thirty-two are listed that were all
named more recently. The records that come in or are replaced between the references make no
difference.
-/
theorem recentTargets_foldl_run
    (store : Store)
    (steps : List Step) :
    let backwards := ((store.references ++ steps.filterMap Step.reference?).map
      Reference.defBlockId).reverse
    let recent := (steps.foldl Step.run store).recentTargets
    recent = (distinct backwards).take 32 ∧
      recent.Nodup ∧
      (∀ target ∈ recent, target ∈ backwards) ∧
      (recent.Pairwise fun first second => backwards.idxOf first < backwards.idxOf second) ∧
      (∀ target ∈ backwards, target ∉ recent →
        recent.length = 32 ∧
          ∀ other ∈ recent, backwards.idxOf other < backwards.idxOf target) ∧
      recent = ((steps.filterMap Step.reference?).foldl insertReference store).recentTargets := by
  intro backwards recent
  have listed : recent = (distinct backwards).take 32 := by
    change (steps.foldl Step.run store).recentTargets = _
    rw [recentTargets_eq, targetsBackwards, references_foldl_run]
    rfl
  have ordered := pairwise_idxOf_distinct backwards
  have parted := List.take_append_drop 32 (distinct backwards)
  refine ⟨listed, ?_, fun target member => ?_, ?_, fun target named missing => ?_, ?_⟩
  · rw [listed]
    exact (List.take_sublist _ _).nodup (nodup_distinct backwards)
  · rw [listed] at member
    exact mem_distinct.1 (List.mem_of_mem_take member)
  · rw [listed]
    exact ordered.sublist (List.take_sublist _ _)
  · have behind : target ∈ (distinct backwards).drop 32 := by
      have member := mem_distinct.2 named
      rw [← parted, List.mem_append, ← listed] at member
      exact member.resolve_left missing
    constructor
    · have enough := List.length_pos_of_mem behind
      rw [List.length_drop] at enough
      rw [listed, List.length_take]
      omega
    · intro other here
      rw [listed] at here
      rw [← parted] at ordered
      exact (List.pairwise_append.1 ordered).2.2 other here target behind
  · apply recentTargets_congr
    rw [references_foldl_run, references_foldl_insertReference]

/-- A target that is named again moves to the front. -/
example :
    ([.refer { defBlockId := "a" }, .refer { defBlockId := "b" }, .alter (.insert { id := "b" }),
        .refer { defBlockId := "a" }].foldl Step.run {}).recentTargets = ["a", "b"] := by
  rw [recentTargets_eq]
  decide +kernel

end Store
end BlockSearch
