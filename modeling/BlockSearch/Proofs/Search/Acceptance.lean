import BlockSearch.Proofs.Search.Literal

/-!
# What a filter leaves

The conditions that a filter writes behind another condition leave the records that it accepts. With
too many notebooks or paths the condition becomes too high.
-/

namespace BlockSearch
namespace Found

/--
Behind a condition on the stored records that is low enough, a filter whose patterns are not too long
leaves those of its types and notebooks whose paths begin as one of its paths asks for. With too many
notebooks or paths the condition cannot be searched.
-/
theorem mem_byBody_write_iff
    {fragment : Sql.Fragment}
    {zero : Bool}
    {height : Nat}
    {holds : Record → Bool}
    (restricts : Filter.Restricts .blocks fragment zero (some height) fun record =>
      some (holds record))
    (low : height ≤ 997)
    (bound : fragment.values ≠ [])
    (filter : Filter)
    (store : Store)
    (order : Order)
    {limit : Nat}
    (allowed : limit ≤ greatestLimit)
    (enough : store.blocks.length ≤ limit) :
    let outcome := byBody store "*" (filter.write fragment) (order.clause false) limit
    (filter.IsNarrow → filter.IsShort →
      ∃ found, outcome = .ok found ∧
        ∀ record, record ∈ found.records ↔
          record ∈ store.blocks ∧ holds record = true ∧
            record.type ∈ filter.codes ∧
            (filter.boxes = [] ∨ record.box ∈ filter.boxes) ∧
            (filter.paths = [] ∨
              ∃ path ∈ filter.paths, Sql.Like.Begins path.toList record.path.toList)) ∧
      (zero = false → filter.IsWide → outcome = .error .statement) := by
  intro outcome
  obtain ⟨clause, text, clauseRestricts, -, written, verdict⟩ :=
    Filter.restricts_write (by decide) (fun _ => rfl) restricts filter
  have boundBehind : (filter.write fragment).values ≠ [] := by
    rw [Filter.write_values]
    simp [bound]
  constructor
  · intro narrow short
    have lowClause : clause.body.height?.isSome = true :=
      written ▸ Filter.isSome_height?_of_isNarrow narrow zero low
    have tested (record : Record) : clause.verdict record =
        some (holds record && filter.accepts record) := by
      rw [verdict]
      beta_reduce
      rw [Filter.verdict_of_isShort short, Sql.bothOf_some]
    obtain ⟨sorted, perm, answer⟩ := byBody_all boundBehind text clauseRestricts lowClause
      (fun record _ _ => by rw [tested]; rfl) order allowed
    refine ⟨_, answer, fun record => ?_⟩
    have few : sorted.length ≤ limit := by
      rw [perm.length_eq]
      exact (List.length_filter_le _ _).trans enough
    rw [List.take_of_length_le (by rwa [List.length_mergeSort]), List.mem_mergeSort, perm.mem_iff,
      List.mem_filter, Sql.Clause.holds_of_verdict (tested record), Bool.and_eq_true,
      Filter.accepts_iff]
  · rintro rfl wide
    exact byBody_of_high text clauseRestricts (written.trans (Filter.height?_of_isWide wide _))
      Sql.Listing.stands_all store order false limit

/-- A path ends at its null character and accepts no longer one; a percent sign is literal. -/
theorem mem_byBody_write_iff_of_null :
    let fragment : Sql.Fragment :=
      ⟨"FROM blocks WHERE " ++ (patternClause .content [] "l").text, ["l"]⟩
    let filter : Filter := { types := [.paragraph], boxes := ["b"], paths := ["a\x00b", "%x"] }
    let cut : Record := { id := "1", box := "b", path := "a", type := "p", content := "hello" }
    let percent : Record := { cut with id := "2", path := "%X/y" }
    let longer : Record := { cut with id := "3", path := "ab" }
    let store : Store := { blocks := [cut, percent, longer] }
    fragment.values ≠ [] ∧ 64 ≤ greatestLimit ∧ store.blocks.length ≤ 64 ∧
      ∃ found, byBody store "*" (filter.write fragment) (Order.type.clause false) 64 = .ok found ∧
        cut ∈ found.records ∧ percent ∈ found.records ∧ longer ∉ found.records := by
  intro fragment filter cut percent longer store
  have restricts : Filter.Restricts .blocks fragment false (some 2) fun record =>
      some ([Field.content].any fun field =>
        Pattern.occursIn "l".toList (record.text field).toList) :=
    ⟨_, rfl, restricts_patternClause .content [] "l", fun _ => Sql.Clause.isZero_any rfl,
      height?_patternClause .content [] "l", verdict_patternClause .content [] "l"⟩
  have bound : fragment.values ≠ [] := by simp [fragment]
  have allowed : 64 ≤ greatestLimit := by decide
  have enough : store.blocks.length ≤ 64 := by decide
  have narrow : filter.IsNarrow := ⟨by decide, by decide⟩
  have short : filter.IsShort := by decide +kernel
  obtain ⟨found, answer, members⟩ :=
    (mem_byBody_write_iff restricts (by decide) bound filter store .type allowed enough).1 narrow
      short
  refine ⟨bound, allowed, enough, found, answer, ?_, ?_, ?_⟩
  · rw [members]
    decide +kernel
  · rw [members]
    decide +kernel
  · rw [members]
    decide +kernel

end Found
end BlockSearch
