import BlockSearch.Document.Format
import BlockSearch.Proofs.Forest.Descent
import BlockSearch.Proofs.Json.RoundTrip
import BlockSearch.Proofs.Lists

/-!
# Stored kinds and outlines

Every kind is read back from the value that it is stored as, and so is every outline that
is not nested too deep. What is read never nests deeper than the limit that reading has.
-/

namespace BlockSearch

/-! ## Kinds -/

namespace Kind

/-- A kind is read back from the value that it is stored as. -/
theorem ofJson?_toJson (kind : Kind) : ofJson? kind.toJson = some kind := by
  cases kind with
  | heading level =>
      have read : ofJson? (toJson (.heading level)) =
          (Json.ofNat level.toNat).nat?.bind fun n =>
            if n < 256 then some (.heading n.toUInt8) else none := rfl
      have small : level.toNat < 256 := level.toNat_lt
      rw [read, Json.nat?_ofNat, Option.bind_some, if_pos small, Nat.toUInt8_eq,
        UInt8.ofNat_toNat]
  | _ => rfl

theorem plain_toJson (kind : Kind) : kind.toJson.Plain := by
  cases kind <;> apply Json.Plain.object <;>
    simp [TextMark.members, Json.Plain.string, Json.Plain.ofNat]

/-- The value of a kind is an object of texts and numbers. -/
theorem depth_toJson (kind : Kind) : kind.toJson.depth = 1 := by
  cases kind <;> rfl

/-- What is read as a kind is a list or an object. -/
theorem one_le_depth_of_ofJson?
    {json : Json}
    {kind : Kind}
    (read : ofJson? json = some kind) :
    1 ≤ json.depth := by
  cases json with
  | array items => rw [Json.depth]; omega
  | object members => rw [Json.depth]; omega
  | _ => contradiction

end Kind

/-! ## Attributes -/

theorem Attribute.pairOfJson?_pairToJson (pair : String × String) :
    pairOfJson? (pairToJson pair) = some pair := rfl

theorem Attribute.plain_pairToJson (pair : String × String) : (pairToJson pair).Plain := by
  apply Json.Plain.array
  simp [Json.Plain.string]

theorem Attribute.mapM_pairOfJson?_map (attributes : List (String × String)) :
    (attributes.map pairToJson).mapM pairOfJson? = some attributes := by
  rw [Lists.mapM_eq_some_iff, List.forall₂_map_left_iff, List.forall₂_same]
  exact fun pair _ => pairOfJson?_pairToJson pair

theorem Attribute.pairToJson_of_pairOfJson?
    {json : Json}
    {pair : String × String}
    (read : pairOfJson? json = some pair) :
    pairToJson pair = json := by
  unfold pairOfJson? at read
  split at read
  · cases read
    rfl
  · contradiction

namespace Outline

/-! ## Outlines -/

theorem allToJson_eq_map (outlines : List Outline) : allToJson outlines = outlines.map toJson := by
  induction outlines with
  | nil => rfl
  | cons outline outlines inductionHypothesis =>
      rw [allToJson, inductionHypothesis, List.map_cons]

/-- The fields of a stored node: what is empty is missing. -/
theorem fields?_toJson
    (kind : Kind)
    (id : Option String)
    (attributes : List (String × String))
    (children : List Outline) :
    (toJson (.node kind id attributes children)).fields? ["kind", "id", "ial", "children"] =
      some [some kind.toJson, id.map .string,
        if attributes = [] then none else some (.array (attributes.map Attribute.pairToJson)),
        if children = [] then none else some (.array (children.map toJson))] := by
  rw [toJson, allToJson_eq_map]
  cases id <;> cases attributes <;> cases children <;> rfl

/-- The parts that a stored node is not nested deeper than. -/
theorem depth_toJson_le_iff
    {kind : Kind}
    {id : Option String}
    {attributes : List (String × String)}
    {children : List Outline}
    {bound : Nat} :
    (toJson (.node kind id attributes children)).depth ≤ bound + 1 ↔
      1 ≤ bound ∧
        (attributes ≠ [] → (Json.array (attributes.map Attribute.pairToJson)).depth ≤ bound) ∧
        (children ≠ [] → (Json.array (children.map toJson)).depth ≤ bound) := by
  rw [toJson, allToJson_eq_map, Json.depth_object_le_iff, List.forall_mem_cons,
    List.forall_mem_append, List.forall_mem_append, Kind.depth_toJson]
  cases id <;> cases attributes <;> cases children <;> simp [Json.depth]

theorem attributesOfJson?_map
    {attributes : List (String × String)}
    {depth : Nat}
    (shallow : attributes ≠ [] →
      (Json.array (attributes.map Attribute.pairToJson)).depth ≤ depth) :
    attributesOfJson? depth
      (if attributes = [] then none else some (.array (attributes.map Attribute.pairToJson))) =
        some attributes := by
  by_cases empty : attributes = []
  · rw [if_pos empty, empty]
    rfl
  · rw [if_neg empty, attributesOfJson?, if_pos (shallow empty), Attribute.mapM_pairOfJson?_map]

/-- An outline that is not nested too deep is read back from the value it is stored as. -/
theorem ofJson?_toJson
    (outline : Outline)
    {depth : Nat}
    (shallow : outline.toJson.depth ≤ depth) :
    ofJson? depth outline.toJson = some outline := by
  induction outline using Outline.induction generalizing depth with
  | step kind id attributes children inductionHypothesis =>
      cases depth with
      | zero =>
          rw [toJson, Json.depth] at shallow
          omega
      | succ depth =>
          rw [depth_toJson_le_iff] at shallow
          obtain ⟨positive, attributesShallow, childrenShallow⟩ := shallow
          have kindShallow : ¬ depth < kind.toJson.depth := by
            rw [Kind.depth_toJson]
            omega
          have readId : idOfJson? (id.map .string) = some id := by cases id <;> rfl
          have readChildren : childrenOfJson? depth
              (if children = [] then none else some (.array (children.map toJson))) =
                some children := by
            by_cases empty : children = []
            · rw [if_pos empty, empty, childrenOfJson?]
            · have deep := childrenShallow empty
              obtain ⟨inner, rfl⟩ := Nat.exists_eq_add_one_of_ne_zero (Nat.ne_of_gt positive)
              rw [Json.depth_array_le_iff, List.forall_mem_map] at deep
              rw [if_neg empty, childrenOfJson?]
              rw [Lists.mapM_eq_some_iff, List.forall₂_map_left_iff, List.forall₂_same]
              exact fun child member => inductionHypothesis child member (deep child member)
          rw [ofJson?, fields?_toJson]
          simp only [Option.bind_eq_bind, Option.bind_some, if_neg kindShallow,
            Kind.ofJson?_toJson, readId, attributesOfJson?_map attributesShallow, readChildren]

theorem plain_toJson (outline : Outline) : outline.toJson.Plain := by
  induction outline using Outline.induction with
  | step kind id attributes children inductionHypothesis =>
      rw [toJson, allToJson_eq_map]
      apply Json.Plain.object
      rw [List.forall_mem_cons, List.forall_mem_append, List.forall_mem_append]
      refine ⟨kind.plain_toJson, ⟨?_, ?_⟩, ?_⟩
      · cases id <;> simp [Json.Plain.string]
      · split_ifs with empty
        · simp
        · rw [List.forall_mem_singleton]
          apply Json.Plain.array
          rw [List.forall_mem_map]
          exact fun pair _ => Attribute.plain_pairToJson pair
      · split_ifs with empty
        · simp
        · rw [List.forall_mem_singleton]
          apply Json.Plain.array
          rw [List.forall_mem_map]
          exact inductionHypothesis

theorem map_pairToJson_of_attributesOfJson?
    {depth : Nat}
    {json : Option Json}
    {attributes : List (String × String)}
    (read : attributesOfJson? depth json = some attributes)
    (given : attributes ≠ []) :
    (Json.array (attributes.map Attribute.pairToJson)).depth ≤ depth := by
  unfold attributesOfJson? at read
  split at read
  · cases read
    contradiction
  · rename_i items
    split_ifs at read with shallow
    rw [Lists.mapM_eq_some_iff] at read
    have same : attributes.map Attribute.pairToJson = items := by
      rw [← List.forall₂_eq_eq_eq, List.forall₂_map_left_iff]
      exact read.flip.imp fun pair json => Attribute.pairToJson_of_pairOfJson?
    rwa [same]
  · contradiction

/-- What is read within a depth is not nested deeper. -/
theorem depth_toJson_le_of_ofJson?
    {outline : Outline}
    {depth : Nat}
    {json : Json}
    (read : ofJson? depth json = some outline) :
    outline.toJson.depth ≤ depth := by
  induction outline using Outline.induction generalizing depth json with
  | step kind id attributes children inductionHypothesis =>
      cases depth with
      | zero =>
          rw [ofJson?] at read
          contradiction
      | succ depth =>
          rw [ofJson?, Option.bind_eq_bind, Option.bind_eq_some_iff] at read
          obtain ⟨fields, _, read⟩ := read
          split at read
          · rename_i kindJson idJson attributesJson childrenJson
            split_ifs at read with kindDeep
            simp only [Option.bind_eq_bind, Option.bind_eq_some_iff, Option.some.injEq,
              node.injEq] at read
            obtain ⟨_, readKind, _, _, _, readAttributes, _, readChildren, rfl, rfl, rfl, rfl⟩ :=
              read
            have positive := Kind.one_le_depth_of_ofJson? readKind
            rw [depth_toJson_le_iff]
            refine ⟨by omega, map_pairToJson_of_attributesOfJson? readAttributes, fun given => ?_⟩
            unfold childrenOfJson? at readChildren
            split at readChildren
            · cases readChildren
              contradiction
            · rename_i inner items
              rw [Json.depth_array_le_iff, List.forall_mem_map]
              intro child member
              obtain ⟨item, _, readChild⟩ := Lists.exists_of_mem_mapM readChildren member
              exact inductionHypothesis child member readChild
            · contradiction
          · contradiction

end Outline
end BlockSearch
