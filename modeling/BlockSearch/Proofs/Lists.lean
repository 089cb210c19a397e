import BlockSearch.Distinct
import Mathlib.Data.List.Forall2
import Mathlib.Data.List.Induction
import Mathlib.Data.List.Nodup
import Mathlib.Data.List.TakeWhile
import Mathlib.Tactic.SplitIfs

/-!
# Lists of results and first occurrences

What a list of steps that may fail yields when none of them fails, and what is left of a
list when every text but its first occurrence is dropped.
-/

namespace BlockSearch
namespace Lists

/-! ## Results -/

variable {α β : Type}

theorem mapM_eq_some_iff
    {step : α → Option β}
    {items : List α}
    {results : List β} :
    items.mapM step = some results ↔
      List.Forall₂ (fun item result => step item = some result) items results := by
  induction items generalizing results with
  | nil => simp [eq_comm]
  | cons item items inductionHypothesis =>
      rw [List.forall₂_cons_left_iff, List.mapM_cons]
      simp only [Option.bind_eq_bind, Option.bind_eq_some_iff, inductionHypothesis,
        Option.pure_def, Option.some.injEq]
      constructor
      · rintro ⟨result, first, others, behind, rfl⟩
        exact ⟨result, others, first, behind, rfl⟩
      · rintro ⟨result, others, first, behind, rfl⟩
        exact ⟨result, first, others, behind, rfl⟩

/-- The results of some steps belong, one by one, to the items whose step yields one. -/
theorem forall₂_filterMap
    (step : α → Option β)
    (items : List α) :
    List.Forall₂ (fun item result => step item = some result)
      (items.filter fun item => (step item).isSome) (items.filterMap step) := by
  induction items with
  | nil => exact .nil
  | cons item items inductionHypothesis =>
      rw [List.filter_cons, List.filterMap_cons]
      cases found : step item with
      | none => simpa using inductionHypothesis
      | some result => simpa using ⟨found, inductionHypothesis⟩

/-- Related items have the same values, one by one. -/
theorem map_eq_of_forall₂
    {γ : Type}
    {relation : α → β → Prop}
    {value : α → γ}
    {otherValue : β → γ}
    {items : List α}
    {others : List β}
    (related : List.Forall₂ relation items others)
    (same : ∀ item other, relation item other → value item = otherValue other) :
    items.map value = others.map otherValue := by
  rw [← List.forall₂_eq_eq_eq, List.forall₂_map_left_iff, List.forall₂_map_right_iff]
  exact related.imp same

/-- Where one of two related lists is split at an item, the other one is, too. -/
theorem exists_of_forall₂_append_cons
    {relation : α → β → Prop}
    {items : List α}
    {before after : List β}
    {other : β}
    (related : List.Forall₂ relation items (before ++ other :: after)) :
    ∃ front item back, items = front ++ item :: back ∧ List.Forall₂ relation front before ∧
      relation item other := by
  have front := List.forall₂_take_append items before _ related
  have rest := List.forall₂_drop_append items before _ related
  obtain ⟨item, back, first, _, split⟩ := List.forall₂_cons_right_iff.1 rest
  exact ⟨items.take before.length, item, back, by rw [← split, List.take_append_drop], front, first⟩

/-- Steps that all yield a result yield a list of results. -/
theorem exists_mapM
    {step : α → Option β}
    {items : List α}
    (each : ∀ item ∈ items, step item ≠ none) :
    ∃ results, items.mapM step = some results := by
  induction items with
  | nil => exact ⟨[], rfl⟩
  | cons item items inductionHypothesis =>
      rw [List.forall_mem_cons] at each
      obtain ⟨result, first⟩ := Option.ne_none_iff_exists'.1 each.1
      obtain ⟨results, others⟩ := inductionHypothesis each.2
      refine ⟨result :: results, ?_⟩
      rw [List.mapM_cons, first, others]
      rfl

/-- Steps that always yield a result yield the list of these. -/
theorem mapM_eq_map
    {step : α → Option β}
    {value : α → β}
    {items : List α}
    (each : ∀ item ∈ items, step item = some (value item)) :
    items.mapM step = some (items.map value) := by
  rw [mapM_eq_some_iff, List.forall₂_map_right_iff, List.forall₂_same]
  exact each

theorem exists_result_of_mem_mapM
    {step : α → Option β}
    {items : List α}
    {results : List β}
    (all : items.mapM step = some results)
    {item : α}
    (member : item ∈ items) :
    ∃ result ∈ results, step item = some result := by
  rw [mapM_eq_some_iff] at all
  induction all with
  | nil => contradiction
  | cons first _ inductionHypothesis =>
      rcases List.mem_cons.1 member with rfl | member
      · exact ⟨_, List.mem_cons_self, first⟩
      · obtain ⟨result, here, same⟩ := inductionHypothesis member
        exact ⟨result, List.mem_cons_of_mem _ here, same⟩

theorem exists_of_mem_mapM
    {step : α → Option β}
    {items : List α}
    {results : List β}
    (all : items.mapM step = some results)
    {result : β}
    (member : result ∈ results) :
    ∃ item ∈ items, step item = some result := by
  rw [mapM_eq_some_iff] at all
  induction all with
  | nil => contradiction
  | cons first _ inductionHypothesis =>
      rcases List.mem_cons.1 member with rfl | member
      · exact ⟨_, List.mem_cons_self, first⟩
      · obtain ⟨item, found, same⟩ := inductionHypothesis member
        exact ⟨item, List.mem_cons_of_mem _ found, same⟩

/-- When not all items have a property, there is a first one that does not. -/
theorem exists_first
    {property : α → Prop}
    {items : List α}
    (fails : ¬ ∀ item ∈ items, property item) :
    ∃ front item back, items = front ++ item :: back ∧ (∀ other ∈ front, property other) ∧
      ¬ property item := by
  induction items with
  | nil => simp at fails
  | cons item items inductionHypothesis =>
      by_cases holds : property item
      · have later : ¬ ∀ other ∈ items, property other := fun all =>
          fails (List.forall_mem_cons.2 ⟨holds, all⟩)
        obtain ⟨front, other, back, split, before, fails⟩ := inductionHypothesis later
        refine ⟨item :: front, other, back, ?_, List.forall_mem_cons.2 ⟨holds, before⟩, fails⟩
        rw [split, List.cons_append]
      · exact ⟨[], item, items, rfl, by simp, holds⟩

theorem mem_of_mem_filterAuxM
    {step : α → Option Bool}
    {items kept all : List α}
    (filtered : items.filterAuxM step kept = some all)
    {item : α}
    (member : item ∈ all) :
    item ∈ items ∨ item ∈ kept := by
  induction items generalizing kept with
  | nil =>
      rw [List.filterAuxM] at filtered
      cases filtered
      exact .inr member
  | cons first items inductionHypothesis =>
      rw [List.filterAuxM, Option.bind_eq_bind, Option.bind_eq_some_iff] at filtered
      obtain ⟨wanted, _, filtered⟩ := filtered
      rcases inductionHypothesis filtered with later | before
      · exact .inl (List.mem_cons_of_mem _ later)
      · cases wanted with
        | false => exact .inr before
        | true =>
            rcases List.mem_cons.1 before with rfl | old
            · exact .inl List.mem_cons_self
            · exact .inr old

/-- A filter that may fail keeps items of the list. -/
theorem mem_of_mem_filterM
    {step : α → Option Bool}
    {items kept : List α}
    (filtered : items.filterM step = some kept)
    {item : α}
    (member : item ∈ kept) :
    item ∈ items := by
  rw [List.filterM, Option.bind_eq_bind, Option.bind_eq_some_iff] at filtered
  obtain ⟨reversed, all, same⟩ := filtered
  cases same
  simpa using mem_of_mem_filterAuxM all (List.mem_reverse.1 member)

theorem exists_of_filterAuxM
    {step : α → Option Bool}
    {items kept all : List α}
    (filtered : items.filterAuxM step kept = some all)
    {item : α}
    (member : item ∈ items) :
    ∃ wanted, step item = some wanted := by
  induction items generalizing kept with
  | nil => cases member
  | cons first items inductionHypothesis =>
      rw [List.filterAuxM, Option.bind_eq_bind, Option.bind_eq_some_iff] at filtered
      obtain ⟨wanted, tested, later⟩ := filtered
      rcases List.mem_cons.1 member with rfl | inside
      · exact ⟨wanted, tested⟩
      · exact inductionHypothesis later inside

/-- A filter that may fail tests every item if it does not. -/
theorem exists_of_filterM
    {step : α → Option Bool}
    {items kept : List α}
    (filtered : items.filterM step = some kept)
    {item : α}
    (member : item ∈ items) :
    ∃ wanted, step item = some wanted := by
  rw [List.filterM, Option.bind_eq_bind, Option.bind_eq_some_iff] at filtered
  obtain ⟨reversed, all, -⟩ := filtered
  exact exists_of_filterAuxM all member

theorem filterAuxM_eq_filter
    {step : α → Option Bool}
    {wanted : α → Bool}
    {items : List α}
    (each : ∀ item ∈ items, step item = some (wanted item))
    (kept : List α) :
    items.filterAuxM step kept = some ((items.filter wanted).reverse ++ kept) := by
  induction items generalizing kept with
  | nil => rfl
  | cons item items inductionHypothesis =>
      rw [List.forall_mem_cons] at each
      rw [List.filterAuxM, each.1, Option.bind_eq_bind, Option.bind_some,
        inductionHypothesis each.2]
      cases holds : wanted item with
      | false => rw [List.filter_cons_of_neg (by simp [holds]), cond_false]
      | true =>
          rw [List.filter_cons_of_pos holds, cond_true, List.reverse_cons, List.append_assoc,
            List.singleton_append]

/-- A filter whose test never fails is a plain filter. -/
theorem filterM_eq_filter
    {step : α → Option Bool}
    {wanted : α → Bool}
    {items : List α}
    (each : ∀ item ∈ items, step item = some (wanted item)) :
    items.filterM step = some (items.filter wanted) := by
  rw [List.filterM, filterAuxM_eq_filter each, List.append_nil, Option.bind_eq_bind,
    Option.bind_some, List.reverse_reverse]
  rfl

/-- What is the only item with a property is found. -/
theorem find?_eq_some_of_unique
    {property : α → Bool}
    {items : List α}
    {item : α}
    (member : item ∈ items)
    (holds : property item = true)
    (unique : ∀ other ∈ items, property other = true → other = item) :
    items.find? property = some item := by
  cases found : items.find? property with
  | none => exact absurd holds (List.find?_eq_none.1 found item member)
  | some other =>
      rw [unique other (List.mem_of_find?_eq_some found) (List.find?_some found)]

/-- An item that takes the place of those with its key is found, and all others as before. -/
theorem find?_replaced
    {κ : Type}
    [BEq κ]
    [LawfulBEq κ]
    [DecidableEq κ]
    (key : α → κ)
    (items : List α)
    (new : α)
    (name : κ) :
    (items.filter (fun item => key item != key new) ++ [new]).find? (fun item => key item == name) =
      if name = key new then some new else items.find? fun item => key item == name := by
  rw [List.find?_append]
  split_ifs with same
  · have absent : ∀ item ∈ items.filter (fun item => key item != key new),
        ¬ (key item == name) = true := by
      intro item member
      simpa [same] using (List.mem_filter.1 member).2
    rw [List.find?_eq_none.2 absent]
    simp [same]
  · have unchanged : (fun item =>
        decide ((key item != key new) = true ∧ (key item == name) = true)) =
          fun item => key item == name := by
      funext item
      by_cases found : key item = name
      · simp [found, same]
      · simp [found]
    rw [List.find?_filter, unchanged]
    simp [Ne.symm same]

/-- Of items with different keys the one with a key is found. -/
theorem find?_eq_some_iff_of_nodup
    {κ : Type}
    [BEq κ]
    [LawfulBEq κ]
    {key : α → κ}
    {items : List α}
    (nodup : (items.map key).Nodup)
    {name : κ}
    {item : α} :
    items.find? (fun item => key item == name) = some item ↔ item ∈ items ∧ key item = name := by
  constructor
  · intro found
    exact ⟨List.mem_of_find?_eq_some found, by simpa using List.find?_some found⟩
  · rintro ⟨member, rfl⟩
    cases found : items.find? fun other => key other == key item with
    | none => simpa using List.find?_eq_none.1 found item member
    | some other =>
        have same : key other = key item := by simpa using List.find?_some found
        rw [List.inj_on_of_nodup_map nodup (List.mem_of_find?_eq_some found) member same]

/-- Of items with different keys one at most is erased with a key. -/
theorem eraseP_eq_filter_of_nodup
    {κ : Type}
    [BEq κ]
    [LawfulBEq κ]
    {key : α → κ}
    {items : List α}
    (nodup : (items.map key).Nodup)
    (name : κ) :
    items.eraseP (fun item => key item == name) = items.filter fun item => key item != name := by
  induction items with
  | nil => rfl
  | cons item items inductionHypothesis =>
      rw [List.map_cons, List.nodup_cons] at nodup
      rw [List.eraseP_cons, List.filter_cons, inductionHypothesis nodup.2]
      by_cases here : key item = name
      · have absent : ∀ other ∈ items, (key other != name) = true := by
          intro other member
          have different : key other ≠ name := fun same =>
            nodup.1 (here.trans same.symm ▸ List.mem_map_of_mem member)
          simpa using different
        simp [here, List.filter_eq_self.2 absent]
      · have differs : (key item == name) = false := by simpa using here
        simp [differs, bne]

/-- An item is counted once for every list without repetitions that it lies in. -/
theorem count_flatMap
    [DecidableEq β]
    {lists : α → List β}
    {items : List α}
    (nodup : ∀ item ∈ items, (lists item).Nodup)
    (result : β) :
    (items.flatMap lists).count result = items.countP fun item => decide (result ∈ lists item) := by
  induction items with
  | nil => rfl
  | cons item items inductionHypothesis =>
      rw [List.forall_mem_cons] at nodup
      rw [List.flatMap_cons, List.count_append, inductionHypothesis nodup.2, List.countP_cons,
        Nat.add_comm]
      congr 1
      by_cases member : result ∈ lists item
      · simp [member, List.count_eq_one_of_mem nodup.1 member]
      · simp [member, List.count_eq_zero_of_not_mem member]

/-- What holds nothing wanted can be left out of a concatenation. -/
theorem filter_flatMap_filter
    {wanted : α → Bool}
    {lists : α → List α}
    {items : List α}
    (empty : ∀ item ∈ items, wanted item = false → (lists item).filter wanted = []) :
    (items.flatMap lists).filter wanted =
      (items.filter wanted).flatMap fun item => (lists item).filter wanted := by
  induction items with
  | nil => rfl
  | cons item items inductionHypothesis =>
      rw [List.forall_mem_cons] at empty
      rw [List.flatMap_cons, List.filter_append, inductionHypothesis empty.2, List.filter_cons]
      split_ifs with kept
      · rw [List.flatMap_cons]
      · rw [empty.1 (by simpa using kept), List.nil_append]

/-- Two of different items have a property that is counted more than once. -/
theorem exists_two_of_one_lt_countP
    {property : α → Bool}
    {items : List α}
    (nodup : items.Nodup)
    (several : 1 < items.countP property) :
    ∃ left ∈ items, ∃ right ∈ items, left ≠ right ∧ property left = true ∧
      property right = true := by
  rw [List.countP_eq_length_filter] at several
  have filtered := nodup.filter property
  have member : ∀ item ∈ items.filter property, item ∈ items ∧ property item = true :=
    fun item => List.mem_filter.1
  generalize items.filter property = list at several filtered member
  match list with
  | [] => simp at several
  | [_] => simp at several
  | left :: right :: _ =>
      have different : left ≠ right := by
        rintro rfl
        exact (List.nodup_cons.1 filtered).1 List.mem_cons_self
      obtain ⟨leftMember, leftHolds⟩ := member left (by simp)
      obtain ⟨rightMember, rightHolds⟩ := member right (by simp)
      exact ⟨left, leftMember, right, rightMember, different, leftHolds, rightHolds⟩

/-! ## Fronts -/

theorem takeWhile_append_of_head
    {p : α → Bool}
    {front rest : List α}
    (inside : ∀ item ∈ front, p item = true)
    (stop : ∀ item ∈ rest.head?, p item = false) :
    (front ++ rest).takeWhile p = front := by
  rw [List.takeWhile_append_of_pos inside]
  cases rest with
  | nil => simp
  | cons item rest => simp [stop item rfl]

theorem dropWhile_append_of_head
    {p : α → Bool}
    {front rest : List α}
    (inside : ∀ item ∈ front, p item = true)
    (stop : ∀ item ∈ rest.head?, p item = false) :
    (front ++ rest).dropWhile p = rest := by
  rw [List.dropWhile_append_of_pos inside]
  cases rest with
  | nil => rfl
  | cons item rest => simp [stop item rfl]

/-! ## Parts with something between them -/

theorem mem_of_mem_intercalate
    {item : α}
    {separator : List α}
    {parts : List (List α)}
    (member : item ∈ separator.intercalate parts) :
    item ∈ separator ∨ ∃ part ∈ parts, item ∈ part := by
  induction parts with
  | nil => simp at member
  | cons part parts inductionHypothesis =>
      cases parts with
      | nil => exact .inr ⟨part, List.mem_cons_self, by simpa using member⟩
      | cons other parts =>
          rw [List.intercalate_cons_cons, List.mem_append, List.mem_append] at member
          rcases member with (here | between) | later
          · exact .inr ⟨part, List.mem_cons_self, here⟩
          · exact .inl between
          · exact (inductionHypothesis later).imp_right fun ⟨one, inside, here⟩ =>
              ⟨one, List.mem_cons_of_mem _ inside, here⟩

theorem flatMap_intercalate
    (f : α → List β)
    (separator : List α)
    (parts : List (List α)) :
    (separator.intercalate parts).flatMap f =
      (separator.flatMap f).intercalate (parts.map (List.flatMap f)) := by
  induction parts with
  | nil => rfl
  | cons part parts inductionHypothesis =>
      cases parts with
      | nil => simp only [List.map_cons, List.map_nil, List.intercalate_singleton]
      | cons other parts =>
          rw [List.map_cons] at inductionHypothesis
          simp only [List.map_cons, List.intercalate_cons_cons, List.flatMap_append,
            inductionHypothesis]

theorem nil_intercalate (parts : List (List α)) : List.intercalate [] parts = parts.flatten := by
  induction parts with
  | nil => rfl
  | cons part parts inductionHypothesis =>
      cases parts with
      | nil => simp
      | cons other parts =>
          rw [List.intercalate_cons_cons, inductionHypothesis, List.append_nil]
          rfl

theorem length_intercalate
    (separator part : List α)
    (parts : List (List α)) :
    (separator.intercalate (part :: parts)).length =
      part.length + parts.flatten.length + parts.length * separator.length := by
  induction parts generalizing part with
  | nil => simp
  | cons other parts inductionHypothesis =>
      rw [List.intercalate_cons_cons, List.length_append, List.length_append, inductionHypothesis,
        List.flatten_cons, List.length_append, List.length_cons, Nat.succ_mul]
      omega

/-- The first parts stand in front. -/
theorem intercalate_prefix_append
    (separator : List α)
    (front back : List (List α)) :
    separator.intercalate front <+: separator.intercalate (front ++ back) := by
  induction front with
  | nil => simp
  | cons part front inductionHypothesis =>
      cases front with
      | nil =>
          cases back with
          | nil => exact List.prefix_refl _
          | cons other back => simp
      | cons next front =>
          rw [List.cons_append, List.cons_append, List.intercalate_cons_cons,
            List.intercalate_cons_cons]
          exact (List.prefix_append_right_inj _).2 inductionHypothesis

/-- The last parts stand at the end. -/
theorem intercalate_suffix_append
    (separator : List α)
    (front back : List (List α)) :
    separator.intercalate back <:+ separator.intercalate (front ++ back) := by
  induction front with
  | nil => exact List.suffix_refl _
  | cons part front inductionHypothesis =>
      apply inductionHypothesis.trans
      rw [List.cons_append]
      cases front ++ back with
      | nil => simp
      | cons next rest =>
          rw [List.intercalate_cons_cons]
          exact List.suffix_append _ _

/-- Parts that stand together stand together in the whole. -/
theorem intercalate_infix
    (separator : List α)
    {some parts : List (List α)}
    (within : some <:+: parts) :
    separator.intercalate some <:+: separator.intercalate parts := by
  obtain ⟨front, back, rfl⟩ := within
  have early := intercalate_suffix_append separator front some
  exact early.isInfix.trans (intercalate_prefix_append separator _ back).isInfix

/-- What stands between two parts or more is seen in the whole. -/
theorem eq_of_intercalate_eq
    {left right part other : List α}
    {parts : List (List α)}
    (same : left.intercalate (part :: other :: parts) =
      right.intercalate (part :: other :: parts)) :
    left = right := by
  have length : left.length = right.length := by
    have lengths := congrArg List.length same
    rw [length_intercalate, length_intercalate, List.length_cons] at lengths
    exact Nat.eq_of_mul_eq_mul_left (Nat.succ_pos _) (Nat.add_left_cancel lengths)
  rw [List.intercalate_cons_cons, List.intercalate_cons_cons, List.append_assoc, List.append_assoc,
    List.append_cancel_left_eq] at same
  exact (List.append_inj same length).1

/-! ## Values by keys -/

/-- The value of a key in lists behind each other is that of the first list to have one. -/
theorem lookup_flatMap
    {γ : Type}
    [BEq α]
    (entries : γ → List (α × β))
    (items : List γ)
    (key : α) :
    (items.flatMap entries).lookup key = items.findSome? fun item => (entries item).lookup key := by
  induction items with
  | nil => rfl
  | cons item items inductionHypothesis =>
      rw [List.flatMap_cons, List.lookup_append, inductionHypothesis, List.findSome?_cons]
      cases (entries item).lookup key <;> rfl

/-- With different keys, a key has each value that stands with it. -/
theorem lookup_eq_some_iff_of_nodup
    [BEq α]
    [LawfulBEq α]
    {entries : List (α × β)}
    (once : (entries.map Prod.fst).Nodup)
    {key : α}
    {value : β} :
    entries.lookup key = some value ↔ (key, value) ∈ entries := by
  rw [List.lookup_eq_some_iff]
  constructor
  · rintro ⟨before, after, rfl, -⟩
    simp
  · intro member
    obtain ⟨before, after, rfl⟩ := List.append_of_mem member
    refine ⟨before, after, rfl, fun earlier inFront => ?_⟩
    rw [List.map_append, List.nodup_append] at once
    rw [bne_iff_ne]
    exact (once.2.2 _ (List.mem_map_of_mem inFront) _ List.mem_cons_self).symm

/-- With different keys, the order of the entries does not matter. -/
theorem lookup_eq_of_perm
    [BEq α]
    [LawfulBEq α]
    {left right : List (α × β)}
    (same : left.Perm right)
    (once : (left.map Prod.fst).Nodup)
    (key : α) :
    left.lookup key = right.lookup key := by
  apply Option.ext
  intro value
  rw [lookup_eq_some_iff_of_nodup once,
    lookup_eq_some_iff_of_nodup ((same.map Prod.fst).nodup_iff.1 once), same.mem_iff]

end Lists

/-! ## First occurrences -/

theorem distinctFrom_cons
    (seen : List String)
    (text : String)
    (texts : List String) :
    distinctFrom id seen (text :: texts) =
      if text ∈ seen then distinctFrom id seen texts
      else text :: distinctFrom id (text :: seen) texts := by
  simp [distinctFrom]

theorem mem_distinctFrom
    {seen texts : List String}
    {text : String} :
    text ∈ distinctFrom id seen texts ↔ text ∈ texts ∧ text ∉ seen := by
  induction texts generalizing seen with
  | nil => simp [distinctFrom]
  | cons first texts inductionHypothesis =>
      rw [distinctFrom_cons]
      split_ifs with known
      · rw [inductionHypothesis, List.mem_cons]
        constructor
        · exact fun ⟨member, new⟩ => ⟨.inr member, new⟩
        · rintro ⟨rfl | member, new⟩
          · exact absurd known new
          · exact ⟨member, new⟩
      · rw [List.mem_cons, inductionHypothesis, List.mem_cons, List.mem_cons]
        by_cases same : text = first
        · simp [same, known]
        · simp [same]

/-- The keys that are left are those that have not come before. -/
theorem map_distinctFrom
    {α : Type}
    (key : α → String)
    (seen : List String)
    (items : List α) :
    (distinctFrom key seen items).map key = distinctFrom id seen (items.map key) := by
  induction items generalizing seen with
  | nil => rfl
  | cons item items inductionHypothesis =>
      rw [distinctFrom, List.map_cons, distinctFrom_cons, ← inductionHypothesis,
        ← inductionHypothesis]
      simp only [List.contains_iff_mem]
      split_ifs
      · rfl
      · rw [List.map_cons]

theorem distinctFrom_sublist
    {α : Type}
    (key : α → String)
    (seen : List String)
    (items : List α) :
    (distinctFrom key seen items).Sublist items := by
  induction items generalizing seen with
  | nil => exact .refl _
  | cons item items inductionHypothesis =>
      rw [distinctFrom]
      split_ifs
      · exact (inductionHypothesis seen).cons item
      · exact (inductionHypothesis _).cons_cons item

/-- Dropping repetitions loses no text. -/
@[simp] theorem mem_distinct
    {texts : List String}
    {text : String} :
    text ∈ distinct texts ↔ text ∈ texts := by
  rw [distinct, distinctBy, mem_distinctFrom]
  simp

theorem nodup_distinctFrom (seen texts : List String) : (distinctFrom id seen texts).Nodup := by
  induction texts generalizing seen with
  | nil => exact List.nodup_nil
  | cons first texts inductionHypothesis =>
      rw [distinctFrom_cons]
      split_ifs
      · exact inductionHypothesis seen
      · refine List.nodup_cons.2 ⟨fun member => ?_, inductionHypothesis _⟩
        exact (mem_distinctFrom.1 member).2 List.mem_cons_self

/-- No text is left twice. -/
theorem nodup_distinct (texts : List String) : (distinct texts).Nodup := nodup_distinctFrom [] texts

/-- Different texts that are those of a list are as many as the list has. -/
theorem length_distinct_of_nodup
    {found texts : List String}
    (once : found.Nodup)
    (members : ∀ text, text ∈ found ↔ text ∈ texts) :
    (distinct texts).length = found.length := by
  refine ((List.perm_ext_iff_of_nodup (nodup_distinct texts) once).2 ?_).length_eq
  intro text
  rw [mem_distinct, members]

/-- The different texts do not depend on the order. -/
theorem distinct_perm
    {left right : List String}
    (same : left.Perm right) :
    (distinct left).Perm (distinct right) := by
  refine (List.perm_ext_iff_of_nodup (nodup_distinct left) (nodup_distinct right)).2 fun text => ?_
  rw [mem_distinct, mem_distinct, same.mem_iff]

theorem length_distinct_of_perm
    {left right : List String}
    (same : left.Perm right) :
    (distinct left).length = (distinct right).length := (distinct_perm same).length_eq

/-- No two items that are left have the same key. -/
theorem nodup_map_distinctBy
    {α : Type}
    (key : α → String)
    (items : List α) :
    ((distinctBy key items).map key).Nodup := by
  rw [distinctBy, map_distinctFrom]
  exact nodup_distinctFrom [] _

/-- Of related items with the same keys the same ones are left. -/
theorem forall₂_distinctFrom
    {α β : Type}
    {relation : α → β → Prop}
    {key : α → String}
    {otherKey : β → String}
    (sameKey : ∀ item other, relation item other → key item = otherKey other)
    {items : List α}
    {others : List β}
    (related : List.Forall₂ relation items others)
    (seen : List String) :
    List.Forall₂ relation (distinctFrom key seen items) (distinctFrom otherKey seen others) := by
  induction related generalizing seen with
  | nil => exact .nil
  | cons first _ inductionHypothesis =>
      rw [distinctFrom, distinctFrom, sameKey _ _ first]
      split_ifs
      · exact inductionHypothesis seen
      · exact .cons first (inductionHypothesis _)

/-- What is left before an item is what is left of the items before it. -/
theorem exists_of_distinctFrom_eq_append
    {α : Type}
    {key : α → String}
    {seen : List String}
    {items front back : List α}
    {item : α}
    (split : distinctFrom key seen items = front ++ item :: back) :
    ∃ before after, items = before ++ item :: after ∧ distinctFrom key seen before = front := by
  induction items generalizing seen front with
  | nil => simp [distinctFrom] at split
  | cons first items inductionHypothesis =>
      rw [distinctFrom] at split
      split_ifs at split with known
      · obtain ⟨before, after, rfl, left⟩ := inductionHypothesis split
        exact ⟨first :: before, after, rfl, by rw [distinctFrom, if_pos known, left]⟩
      · cases front with
        | nil =>
            obtain ⟨rfl, rfl⟩ := List.cons.inj split
            exact ⟨[], items, rfl, rfl⟩
        | cons kept front =>
            obtain ⟨rfl, later⟩ := List.cons.inj split
            obtain ⟨before, after, rfl, left⟩ := inductionHypothesis later
            exact ⟨first :: before, after, rfl, by rw [distinctFrom, if_neg known, left]⟩

/-- The items that are left are those whose key no earlier item has. -/
theorem mem_distinctBy_iff
    {α : Type}
    {key : α → String}
    {items : List α}
    {item : α} :
    item ∈ distinctBy key items ↔
      ∃ before after, items = before ++ item :: after ∧
        ∀ other ∈ before, key other ≠ key item := by
  constructor
  · intro member
    obtain ⟨front, back, split⟩ := List.append_of_mem member
    have once := nodup_map_distinctBy key items
    rw [split, List.map_append, List.map_cons, List.nodup_append] at once
    obtain ⟨before, after, itemsSplit, left⟩ := exists_of_distinctFrom_eq_append split
    refine ⟨before, after, itemsSplit, fun other earlier same => ?_⟩
    have listed : key other ∈ front.map key := by
      rw [← left, map_distinctFrom, mem_distinctFrom]
      exact ⟨List.mem_map_of_mem earlier, List.not_mem_nil⟩
    exact once.2.2 _ listed _ List.mem_cons_self same
  · rintro ⟨before, after, rfl, new⟩
    have kept : ∀ seen : List String, key item ∉ seen →
        item ∈ distinctFrom key seen (before ++ item :: after) := by
      induction before with
      | nil =>
          intro seen unseen
          rw [List.nil_append, distinctFrom, if_neg (by simpa using unseen)]
          exact List.mem_cons_self
      | cons first before inductionHypothesis =>
          intro seen unseen
          rw [List.forall_mem_cons] at new
          rw [List.cons_append, distinctFrom]
          split_ifs
          · exact inductionHypothesis new.2 seen unseen
          · refine List.mem_cons_of_mem _ (inductionHypothesis new.2 _ ?_)
            rw [List.mem_cons, not_or]
            exact ⟨new.1.symm, unseen⟩
    exact kept [] List.not_mem_nil

/-- Of the items with a property, those are left whose key no earlier such item has. -/
theorem mem_distinctBy_filter_iff
    {α : Type}
    {key : α → String}
    {property : α → Bool}
    {items : List α}
    {item : α} :
    item ∈ distinctBy key (items.filter property) ↔
      property item = true ∧ ∃ before after, items = before ++ item :: after ∧
        ∀ other ∈ before, property other = true → key other ≠ key item := by
  rw [mem_distinctBy_iff]
  constructor
  · rintro ⟨front, back, split, new⟩
    obtain ⟨before, rest, rfl, rfl, restSplit⟩ := List.filter_eq_append_iff.1 split
    obtain ⟨skipped, after, rfl, fails, holds, rfl⟩ := List.filter_eq_cons_iff.1 restSplit
    refine ⟨holds, before ++ skipped, after, by simp, fun other member otherHolds => ?_⟩
    rcases List.mem_append.1 member with early | late
    · exact new other (List.mem_filter.2 ⟨early, otherHolds⟩)
    · exact absurd otherHolds (fails other late)
  · rintro ⟨holds, before, after, rfl, new⟩
    refine ⟨before.filter property, after.filter property, ?_, fun other member => ?_⟩
    · rw [List.filter_append, List.filter_cons_of_pos holds]
    · obtain ⟨early, otherHolds⟩ := List.mem_filter.1 member
      exact new other early otherHolds

theorem distinctFrom_eq_self
    {α : Type}
    {key : α → String}
    {seen : List String}
    {items : List α}
    (once : (items.map key).Nodup)
    (new : ∀ item ∈ items, key item ∉ seen) :
    distinctFrom key seen items = items := by
  induction items generalizing seen with
  | nil => rfl
  | cons item items inductionHypothesis =>
      rw [List.map_cons, List.nodup_cons] at once
      have notKnown : ¬seen.contains (key item) = true := by
        simpa using new item List.mem_cons_self
      rw [distinctFrom, if_neg notKnown, inductionHypothesis once.2]
      intro other member known
      rcases List.mem_cons.1 known with same | known
      · exact once.1 (same ▸ List.mem_map_of_mem member)
      · exact new other (List.mem_cons_of_mem _ member) known

/-- Items with different keys are all left. -/
theorem distinctBy_eq_self
    {α : Type}
    {key : α → String}
    {items : List α}
    (once : (items.map key).Nodup) :
    distinctBy key items = items :=
  distinctFrom_eq_self once fun _ _ => List.not_mem_nil

/-- The first value of a key is left with it. -/
theorem lookup_distinctFrom
    {α : Type}
    {seen : List String}
    {key : String}
    (new : key ∉ seen)
    (entries : List (String × α)) :
    (distinctFrom Prod.fst seen entries).lookup key = entries.lookup key := by
  induction entries generalizing seen with
  | nil => rfl
  | cons entry entries inductionHypothesis =>
      rw [distinctFrom, List.lookup_cons]
      simp only [List.contains_iff_mem]
      split_ifs with known
      · have other : (key == entry.1) = false := beq_false_of_ne fun same => new (same ▸ known)
        rw [other, inductionHypothesis new]
      · rw [List.lookup_cons]
        by_cases same : key = entry.1
        · rw [beq_iff_eq.2 same]
        · rw [beq_false_of_ne same]
          exact inductionHypothesis (by simp [same, new])

theorem distinctFrom_append_singleton
    (seen texts : List String)
    (text : String) :
    distinctFrom id seen (texts ++ [text]) =
      distinctFrom id seen texts ++ if text ∈ seen ∨ text ∈ texts then [] else [text] := by
  induction texts generalizing seen with
  | nil =>
      rw [List.nil_append, distinctFrom_cons]
      simp [distinctFrom]
  | cons first texts inductionHypothesis =>
      rw [List.cons_append, distinctFrom_cons, distinctFrom_cons]
      by_cases known : first ∈ seen
      · have same : (text ∈ seen ∨ text ∈ first :: texts) ↔ (text ∈ seen ∨ text ∈ texts) := by
          rw [List.mem_cons]
          constructor
          · rintro (old | rfl | member)
            · exact .inl old
            · exact .inl known
            · exact .inr member
          · exact Or.imp_right .inr
        rw [if_pos known, if_pos known, inductionHypothesis]
        simp only [same]
      · have same : (text ∈ first :: seen ∨ text ∈ texts) ↔
            (text ∈ seen ∨ text ∈ first :: texts) := by
          rw [List.mem_cons, List.mem_cons]
          exact or_assoc.trans or_left_comm
        rw [if_neg known, if_neg known, inductionHypothesis, List.cons_append]
        simp only [same]

/-- A text behind others is left when it is none of them. -/
theorem distinct_append_singleton
    (texts : List String)
    (text : String) :
    distinct (texts ++ [text]) =
      if text ∈ texts then distinct texts else distinct texts ++ [text] := by
  rw [distinct, distinctBy, distinctFrom_append_singleton]
  split_ifs <;> simp_all [distinct, distinctBy]

/-- First occurrences come in the order of their places. -/
theorem pairwise_idxOf_distinct (texts : List String) :
    (distinct texts).Pairwise fun first second => texts.idxOf first < texts.idxOf second := by
  induction texts using List.reverseRecOn with
  | nil => exact .nil
  | append_singleton texts text inductionHypothesis =>
      have before : (distinct texts).Pairwise fun first second =>
          (texts ++ [text]).idxOf first < (texts ++ [text]).idxOf second := by
        refine inductionHypothesis.imp_of_mem fun {first second} here there earlier => ?_
        rwa [List.idxOf_append_of_mem (mem_distinct.1 here),
          List.idxOf_append_of_mem (mem_distinct.1 there)]
      rw [distinct_append_singleton]
      split_ifs with old
      · exact before
      · refine List.pairwise_append.2 ⟨before, List.pairwise_singleton _ _, ?_⟩
        intro first here second last
        rw [List.mem_singleton.1 last, List.idxOf_append_of_mem (mem_distinct.1 here),
          List.idxOf_append_of_notMem old]
        exact Nat.lt_add_right _ (List.idxOf_lt_length_iff.2 (mem_distinct.1 here))

theorem distinctFrom_filterMap_distinctFrom
    (change : String → Option String)
    {seen known : List String}
    (changed : ∀ text ∈ known, ∀ result, change text = some result → result ∈ seen)
    (texts : List String) :
    distinctFrom id seen ((distinctFrom id known texts).filterMap change) =
      distinctFrom id seen (texts.filterMap change) := by
  induction texts generalizing seen known with
  | nil => rfl
  | cons text texts inductionHypothesis =>
      rw [distinctFrom_cons]
      by_cases old : text ∈ known
      · rw [if_pos old, inductionHypothesis changed]
        cases result : change text with
        | none => rw [List.filterMap_cons_none result]
        | some other =>
            rw [List.filterMap_cons_some result, distinctFrom_cons,
              if_pos (changed text old other result)]
      · rw [if_neg old]
        cases result : change text with
        | none =>
            rw [List.filterMap_cons_none result, List.filterMap_cons_none result]
            apply inductionHypothesis
            rintro other member
            rcases List.mem_cons.1 member with rfl | member
            · simp [result]
            · exact changed other member
        | some other =>
            rw [List.filterMap_cons_some result, List.filterMap_cons_some result,
              distinctFrom_cons, distinctFrom_cons]
            split_ifs with repeated
            · apply inductionHypothesis
              intro older member third same
              rcases List.mem_cons.1 member with rfl | member
              · rwa [← Option.some.inj (result.symm.trans same)]
              · exact changed older member third same
            · congr 1
              apply inductionHypothesis
              intro older member third same
              rcases List.mem_cons.1 member with rfl | member
              · exact List.mem_cons.2 (.inl (Option.some.inj (same.symm.trans result)))
              · exact List.mem_cons_of_mem _ (changed older member third same)

/-- Repetitions can be dropped before texts are replaced by others. -/
theorem distinct_filterMap_distinct
    (change : String → Option String)
    (texts : List String) :
    distinct ((distinct texts).filterMap change) = distinct (texts.filterMap change) :=
  distinctFrom_filterMap_distinctFrom change (by simp) texts

/-- More than one text is left exactly when two of the texts are different. -/
theorem one_lt_length_distinct_iff
    {texts : List String} :
    1 < (distinct texts).length ↔ ∃ left ∈ texts, ∃ right ∈ texts, left ≠ right := by
  have nodup := nodup_distinct texts
  simp only [← @mem_distinct texts]
  generalize distinct texts = left at nodup ⊢
  cases left with
  | nil => simp
  | cons first rest =>
      cases rest with
      | nil => simp
      | cons second rest =>
          have different : first ≠ second := by
            rintro rfl
            exact (List.nodup_cons.1 nodup).1 List.mem_cons_self
          refine ⟨fun _ => ⟨first, by simp, second, by simp, different⟩, fun _ => ?_⟩
          rw [List.length_cons, List.length_cons]
          omega

end BlockSearch
