import BlockSearch.Proofs.Forest.Splicing
import BlockSearch.Proofs.Highlight.Progress
import BlockSearch.Proofs.Highlight.Stretches

/-!
# Splitting one node at keywords

The stretches of a text or a mark become new nodes right before it, in order, and nothing else
changes. When the old node is taken out, with the attributes behind a mark, the new nodes stand
in its place: one for every segment of a text without tags.
-/

namespace BlockSearch

/-! ## The nodes that a node is split into -/

/-- The text of a node in which keywords are highlighted. -/
def Kind.markable? : Kind → Option (List Char)
  | .text value => some value.toList
  | .textMark mark =>
      if Highlight.exemptTypes.any mark.hasType then none else some mark.text.toList
  | _ => none

/-- The text of a plain text or a mark. -/
def Kind.markText : Kind → List Char
  | .text value => value.toList
  | .textMark mark => mark.text.toList
  | _ => []

namespace TextMark

variable {mark source target : TextMark}

@[simp] theorem types_copyTarget : (source.copyTarget target).types = target.types := by
  unfold copyTarget
  split_ifs <;> rfl

@[simp] theorem text_copyTarget : (source.copyTarget target).text = target.text := by
  unfold copyTarget
  split_ifs <;> rfl

/-- A piece has the targets of a mark: for each of its types the fields of that type. -/
structure Keeps (mark piece : TextMark) : Prop where
  /-- A piece of a link leads where the link leads. -/
  link : mark.hasType "a" = true → piece.href = mark.href ∧ piece.title = mark.title
  /-- A piece of a reference points to the same block. -/
  reference : mark.hasType "block-ref" = true →
    piece.refId = mark.refId ∧ piece.refSubtype = mark.refSubtype
  /-- A piece of a reference into a file points to the same annotation. -/
  annotation : mark.hasType "file-annotation-ref" = true → piece.fileRefId = mark.fileRefId

/-- A mark has no target but that of the first of its types. -/
structure HasOneTarget (mark : TextMark) : Prop where
  /-- A link points to no block. -/
  reference : mark.hasType "a" = true → mark.hasType "block-ref" = true →
    mark.refId = "" ∧ mark.refSubtype = ""
  /-- A link or a reference to a block points to no annotation. -/
  annotation : mark.hasType "a" = true ∨ mark.hasType "block-ref" = true →
    mark.hasType "file-annotation-ref" = true → mark.fileRefId = ""

/-- A piece gets the target of the first type only, so it keeps all if there are no others. -/
theorem keeps_copyTarget_iff (types text : String) :
    mark.Keeps (mark.copyTarget { types, text }) ↔ mark.HasOneTarget := by
  unfold copyTarget
  split_ifs with link reference annotation
  · constructor
    · intro keeps
      exact ⟨fun _ here => (keeps.reference here).imp Eq.symm Eq.symm,
        fun _ here => (keeps.annotation here).symm⟩
    · intro one
      exact ⟨fun _ => ⟨rfl, rfl⟩, fun here => (one.reference link here).imp Eq.symm Eq.symm,
        fun here => (one.annotation (.inl link) here).symm⟩
  · constructor
    · intro keeps
      exact ⟨fun here => absurd here link, fun _ here => (keeps.annotation here).symm⟩
    · intro one
      exact ⟨fun here => absurd here link, fun _ => ⟨rfl, rfl⟩,
        fun here => (one.annotation (.inr reference) here).symm⟩
  · exact iff_of_true
      ⟨fun here => absurd here link, fun here => absurd here reference, fun _ => rfl⟩
      ⟨fun here => absurd here link, fun here => absurd here (not_or.2 ⟨link, reference⟩)⟩
  · exact iff_of_true
      ⟨fun here => absurd here link, fun here => absurd here reference,
        fun here => absurd here annotation⟩
      ⟨fun here => absurd here link, fun _ here => absurd here annotation⟩

end TextMark

/-- The types of the spans around the keywords in a node: those of a mark, and the new one. -/
def Highlight.typesIn (highlight : Highlight) : Kind → List Char
  | .textMark mark => mark.types.toList ++ ' ' :: highlight.spanType.toList
  | _ => highlight.spanType.toList

/-- The types of the marks around keywords name the type, and the tag ends behind them. -/
theorem Highlight.typesIn_searchType
    {highlight : Highlight}
    {kind : Kind}
    (spanType : highlight.spanType = Highlight.searchType)
    (single : ∀ mark, kind = .textMark mark → ¬ Inline.typesEnd <:+: mark.types.toList) :
    Inline.typesHold (highlight.typesIn kind) Highlight.searchType.toList = true ∧
      ¬ Inline.typesEnd <:+: highlight.typesIn kind := by
  unfold Highlight.typesIn
  rw [spanType]
  split
  · rename_i mark
    refine ⟨?_, fun inside => ?_⟩
    · rw [Inline.typesHold, Text.words_append_blank_cons (by decide), List.contains_iff_mem,
        List.mem_append]
      exact .inr (by decide)
    · rcases Text.infix_or_infix_of_not_mem (by decide) inside with front | back
      · exact single mark rfl front
      · exact absurd back (by decide)
  · exact ⟨by decide, by decide⟩

namespace Tree

variable {tree next : Tree} {highlight : Highlight} {i parent : NodeId} {text : List Char}

/-- The attributes behind a mark are taken out with it. -/
def trailing (tree : Tree) (i : NodeId) : List NodeId :=
  match tree.kind i with
  | .textMark _ => (tree.spanAttributes? i).toList
  | _ => []

/-- What is taken out with a mark is neither text nor a mark. -/
theorem isInlineText_of_mem_trailing
    {j : NodeId}
    (member : j ∈ tree.trailing i) :
    j < tree.size ∧ tree.isInlineText j = false := by
  unfold trailing at member
  split at member
  · obtain ⟨inside, _, noText⟩ := spanAttributes?_eq_some (Option.mem_toList.1 member)
    exact ⟨inside, noText⟩
  · contradiction

theorem markText_of_isInlineText_eq_false
    (noText : tree.isInlineText i = false) :
    (tree.kind i).markText = [] := by
  unfold isInlineText at noText
  generalize tree.kind i = kind at noText ⊢
  cases kind with
  | text | textMark => contradiction
  | _ => rfl

/-- A copy of a node. -/
def copy (tree : Tree) (i : NodeId) : Entry := (tree.kind i, (tree.node i).attributes)

/-- The new nodes for a stretch of a node. -/
def entries (tree : Tree) (i : NodeId) (stretch : Inline) : List Entry :=
  match tree.kind i with
  | .textMark mark =>
      (.textMark (piece mark stretch), (tree.node i).attributes) ::
        (tree.trailing i).map tree.copy
  | _ => [(stretch.kind, [])]

/-- The stretches of a mark are put before it with copies of the attributes behind it. -/
theorem foldl_insertPiece
    (i : NodeId)
    (mark : TextMark)
    (attributes : List (String × String))
    (trailing : Option NodeId)
    (source tree : Tree)
    (stretches : List Inline) :
    stretches.foldl (insertPiece i mark attributes (trailing.map source.node)) tree =
      tree.insertAll i (stretches.flatMap fun stretch =>
        (.textMark (piece mark stretch), attributes) :: trailing.toList.map source.copy) := by
  rw [insertAll, List.foldl_flatMap]
  congr 1
  funext tree stretch
  unfold insertPiece
  cases trailing with
  | none => rw [Option.map_none, Option.toList_none, List.map_nil, List.foldl_cons, List.foldl_nil]
  | some j =>
      rw [Option.map_some, Option.toList_some, List.map_singleton, List.foldl_cons, List.foldl_cons,
        List.foldl_nil, copy, kind]

/-- A node whose marked text differs from its text is split, and any other is not. -/
theorem splitAtKeywords?_eq
    (markable : (tree.kind i).markable? = some text)
    (highlight : Highlight) :
    tree.splitAtKeywords? highlight i =
      let marked := highlight.enclose (highlight.typesIn (tree.kind i)) text
      if marked = text then none
      else
        some (tree.insertAll i ((highlight.stretches marked).flatMap (tree.entries i)),
          i :: tree.trailing i) := by
  unfold splitAtKeywords? entries trailing
  cases kindOf : tree.kind i with
  | text value =>
      rw [kindOf] at markable
      cases markable
      dsimp only [Highlight.typesIn]
      rw [insertAll, ← List.map_eq_flatMap, List.foldl_map]
  | textMark mark =>
      rw [kindOf, Kind.markable?] at markable
      split_ifs at markable with exempt
      cases markable
      dsimp only [Highlight.typesIn]
      rw [if_neg exempt, foldl_insertPiece]
  | _ =>
      rw [kindOf] at markable
      contradiction

/-- A node is split exactly when a keyword occurs in its text. -/
theorem splitAtKeywords?_of_occurs
    (markable : (tree.kind i).markable? = some text)
    (highlight : Highlight) :
    (¬ Mark.Occurs highlight.mode (highlight.keywords.map String.toList) text →
      tree.splitAtKeywords? highlight i = none) ∧
    (Mark.Occurs highlight.mode (highlight.keywords.map String.toList) text →
      tree.splitAtKeywords? highlight i =
        some
          (tree.insertAll i ((highlight.stretches
            (highlight.enclose (highlight.typesIn (tree.kind i)) text)).flatMap (tree.entries i)),
          i :: tree.trailing i)) := by
  have same : highlight.enclose (highlight.typesIn (tree.kind i)) text = text ↔
      ¬ Mark.Occurs highlight.mode (highlight.keywords.map String.toList) text :=
    Mark.enclose_eq_self_iff (Inline.spanStart_ne_nil _)
  rw [splitAtKeywords?_eq markable]
  constructor
  · exact fun absent => if_pos (same.2 absent)
  · exact fun occurs => if_neg fun unchanged => same.1 unchanged occurs

/-! ## Texts without tags -/

/-- What is taken out with a mark stands right behind it. -/
theorem IsForest.exists_eq_trailing_append
    {front behind : List NodeId}
    (forest : tree.IsForest)
    (split : tree.children parent = front ++ i :: behind) :
    ∃ back, behind = tree.trailing i ++ back := by
  have next := (forest.around split).next
  unfold trailing spanAttributes?
  split
  · rw [next]
    cases behind with
    | nil => exact ⟨[], rfl⟩
    | cons first behind =>
        dsimp only [List.head?_cons]
        split
        · exact ⟨behind, rfl⟩
        · exact ⟨first :: behind, rfl⟩
  · exact ⟨behind, rfl⟩

/-- The node that takes the place of a node for one segment of its text, and what is behind it. -/
def replacement (tree : Tree) (i : NodeId) (segment : Mark.Segment) : List Entry :=
  match tree.kind i with
  | .textMark mark =>
      let types := if segment.isHit then mark.types ++ " " ++ Highlight.searchType else mark.types
      (.textMark (mark.copyTarget { types, text := String.ofList segment.text }),
        (tree.node i).attributes) :: (tree.trailing i).map tree.copy
  | _ =>
      if segment.isHit then
        [(.textMark { types := Highlight.searchType, text := String.ofList segment.text }, [])]
      else [(.text (String.ofList segment.text), [])]

theorem entries_stretch
    (spanType : highlight.spanType = Highlight.searchType)
    (segment : Mark.Segment) :
    tree.entries i (segment.stretch (highlight.typesIn (tree.kind i))) =
      tree.replacement i segment := by
  unfold entries replacement
  cases tree.kind i with
  | textMark mark =>
      cases segment with
      | plain text => rfl
      | hit text =>
          have types : String.ofList (highlight.typesIn (.textMark mark)) =
              mark.types ++ " " ++ Highlight.searchType := by
            rw [Highlight.typesIn, spanType, String.ofList_append, String.ofList_toList,
              String.append_assoc]
            rfl
          dsimp only [Mark.Segment.stretch, piece]
          rw [types]
          rfl
  | _ =>
      cases segment with
      | plain text => rfl
      | hit text =>
          dsimp only [Mark.Segment.stretch, Inline.kind, Highlight.typesIn]
          rw [spanType]
          rfl

/-- What takes the place of a node for a segment has the text of the segment. -/
theorem flatMap_markText_replacement (segment : Mark.Segment) :
    (tree.replacement i segment).flatMap (·.1.markText) = segment.text := by
  have behind : ((tree.trailing i).map tree.copy).flatMap (·.1.markText) = [] := by
    rw [List.flatMap_map, List.flatMap_eq_nil_iff]
    exact fun j member =>
      markText_of_isInlineText_eq_false (isInlineText_of_mem_trailing member).2
  unfold replacement
  split
  · rw [List.flatMap_cons, behind, List.append_nil, Kind.markText, TextMark.text_copyTarget,
      String.toList_ofList]
  · split_ifs
    · rw [List.flatMap_singleton, Kind.markText, String.toList_ofList]
    · rw [List.flatMap_singleton, Kind.markText, String.toList_ofList]

/--
A node without tags in its text is left alone if no keyword occurs in the text. Otherwise it is
replaced, together with the attributes behind a mark, by one node for every segment, each with a
copy of these attributes behind it; the new nodes spell the text, and nothing else changes.
-/
theorem IsForest.splitAtKeywords?_segments
    (forest : tree.IsForest)
    (parentOf : (tree.node i).parent = some parent)
    (markable : (tree.kind i).markable? = some text)
    (noOpen : ¬ Inline.spanOpen <:+: text)
    (noClose : ¬ Inline.spanClose <:+: text)
    (single : ∀ mark, tree.kind i = .textMark mark → ¬ Inline.typesEnd <:+: mark.types.toList)
    (keywords : List String)
    (mode : CaseMode) :
    let highlight : Highlight := ⟨keywords, mode, Highlight.searchType⟩
    (¬ Mark.Occurs mode (keywords.map String.toList) text →
      tree.splitAtKeywords? highlight i = none) ∧
    (Mark.Occurs mode (keywords.map String.toList) text →
      ∃ segments next front back,
        Mark.Segmented mode (keywords.map String.toList) text segments ∧
        tree.splitAtKeywords? highlight i = some (next, i :: tree.trailing i) ∧
        Spliced tree ((i :: tree.trailing i).foldl Tree.unlink next) parent front
          (i :: tree.trailing i) back (segments.flatMap (tree.replacement i)) ∧
        (segments.flatMap (tree.replacement i)).flatMap (·.1.markText) = text) := by
  intro highlight
  obtain ⟨unchanged, split⟩ := splitAtKeywords?_of_occurs markable highlight
  refine ⟨unchanged, fun occurs => ?_⟩
  let segments := Mark.segments mode (keywords.map String.toList) text
  have segmented := Mark.segmented_segments mode (keywords.map String.toList) text
  have spanType : highlight.spanType = Highlight.searchType := rfl
  obtain ⟨holds, typesSingle⟩ := Highlight.typesIn_searchType spanType single
  have stretches : highlight.stretches (highlight.enclose (highlight.typesIn (tree.kind i)) text) =
      segments.map (·.stretch (highlight.typesIn (tree.kind i))) :=
    (Highlight.stretches_enclose_eq_iff segmented).2
      (Highlight.reading_stretch_of_no_tag segmented holds typesSingle noOpen noClose)
  have entries : (segments.map (·.stretch (highlight.typesIn (tree.kind i)))).flatMap
      (tree.entries i) = segments.flatMap (tree.replacement i) := by
    rw [List.flatMap_map]
    exact List.flatMap_congr fun segment _ => entries_stretch spanType segment
  rw [stretches, entries] at split
  obtain ⟨front, behind, around⟩ := forest.exists_around parentOf
  obtain ⟨back, rfl⟩ := forest.exists_eq_trailing_append around.split
  have lies : (tree.node i).parent ≠ none := parentOf ▸ Option.some_ne_none parent
  refine ⟨segments, _, front, back, segmented, split occurs,
    (forest.preceded_insertAll lies _).spliced forest around.split, ?_⟩
  rw [List.flatMap_assoc, List.flatMap_congr fun segment _ => flatMap_markText_replacement segment]
  exact segmented.flatMap_text

/-- A mark with attributes behind it becomes two, for the longer one of two keywords. -/
theorem IsForest.splitAtKeywords?_segments_of_mark :
    let mark : TextMark := { types := "strong", text := "an abc" }
    let tree := (((Tree.new "d" "b" "/d.sy" "/D").appendNew 0 .paragraph (some "p")).appendNew 1
      (.textMark mark) none).appendNew 1 (.spanAttributes "red") none
    let highlight : Highlight := ⟨["ab", "abc"], .sensitive, Highlight.searchType⟩
    tree.IsForest ∧ (tree.node 2).parent = some 1 ∧
      (tree.kind 2).markable? = some mark.text.toList ∧
      ¬ Inline.spanOpen <:+: mark.text.toList ∧ ¬ Inline.spanClose <:+: mark.text.toList ∧
      (∀ other, tree.kind 2 = .textMark other → ¬ Inline.typesEnd <:+: other.types.toList) ∧
      ∃ next, tree.splitAtKeywords? highlight 2 = some (next, [2, 3]) ∧
        ([2, 3].foldl Tree.unlink next).children 1 = [4, 5, 6, 7] ∧
        [4, 5, 6, 7].map ([2, 3].foldl Tree.unlink next).kind =
          [.textMark { types := "strong", text := "an " }, .spanAttributes "red",
            .textMark { types := "strong search-mark", text := "abc" }, .spanAttributes "red"] := by
  intro mark tree highlight
  have forest : tree.IsForest :=
    ((((Built.new "d" "b" "/d.sy" "/D").appendNew (by decide) .paragraph (some "p")).appendNew
      (by decide) (.textMark mark) none).appendNew (by decide) (.spanAttributes "red")
        none).isForest
  have parentOf : (tree.node 2).parent = some 1 := by decide +kernel
  have kindOf : tree.kind 2 = .textMark mark := by decide +kernel
  have trailing : tree.trailing 2 = [3] := by decide +kernel
  have markable : (tree.kind 2).markable? = some mark.text.toList := by decide +kernel
  have noOpen : ¬ Inline.spanOpen <:+: mark.text.toList := by decide
  have noClose : ¬ Inline.spanClose <:+: mark.text.toList := by decide
  have single : ∀ other, tree.kind 2 = .textMark other →
      ¬ Inline.typesEnd <:+: other.types.toList := by
    intro other otherKind
    obtain rfl := Kind.textMark.inj (kindOf.symm.trans otherKind)
    decide
  have occurs : Mark.Occurs .sensitive (["ab", "abc"].map String.toList) mark.text.toList :=
    ⟨"abc".toList, by decide, "ab".toList, by decide, by decide, by decide⟩
  obtain ⟨segments, next, front, back, segmented, split, spliced, _⟩ :=
    (forest.splitAtKeywords?_segments parentOf markable noOpen noClose single ["ab", "abc"]
      .sensitive).2 occurs
  have segmentsEq : segments = [.plain "an ".toList, .hit "abc".toList] := by
    rw [← Mark.segments_eq_iff.2 segmented]
    decide +kernel
  have entries : segments.flatMap (tree.replacement 2) =
      [(.textMark { types := "strong", text := "an " }, []), (.spanAttributes "red", []),
        (.textMark { types := "strong search-mark", text := "abc" }, []),
        (.spanAttributes "red", [])] := by
    rw [segmentsEq]
    decide +kernel
  have children : tree.children 1 = [2, 3] := by decide +kernel
  have size : tree.size = 4 := by decide +kernel
  rw [trailing] at split
  rw [trailing, entries] at spliced
  have before := children.symm.trans spliced.before
  have lengths := congrArg List.length before
  simp only [List.length_append, List.length_cons, List.length_nil] at lengths
  obtain rfl := List.length_eq_zero_iff.1 (by omega : front.length = 0)
  obtain rfl := List.length_eq_zero_iff.1 (by omega : back.length = 0)
  refine ⟨forest, parentOf, markable, noOpen, noClose, single, next, split, ?_, ?_⟩
  · rw [spliced.after, size]
    rfl
  · have added := congrArg (List.map (·.1)) spliced.added
    rw [List.map_map, size] at added
    refine Eq.trans ?_ (added.trans ?_)
    · rfl
    · rfl

/-! ## Pieces of a mark -/

theorem entries_of_text
    {value : String}
    (kindOf : tree.kind i = .text value)
    (stretches : List Inline) :
    stretches.flatMap (tree.entries i) = stretches.map fun stretch => (stretch.kind, []) := by
  rw [List.map_eq_flatMap]
  refine List.flatMap_congr fun stretch _ => ?_
  unfold entries
  rw [kindOf]

theorem entries_of_textMark
    {mark : TextMark}
    (kindOf : tree.kind i = .textMark mark)
    (stretches : List Inline) :
    stretches.flatMap (tree.entries i) =
      (stretches.map (piece mark)).flatMap fun piece =>
        (.textMark piece, (tree.node i).attributes) :: (tree.trailing i).map tree.copy := by
  rw [List.flatMap_map]
  refine List.flatMap_congr fun stretch _ => ?_
  unfold entries
  rw [kindOf]

/-- A stretch of a mark has types and a text of its own, and the target of the mark. -/
theorem piece_eq (mark : TextMark) (stretch : Inline) :
    piece mark stretch = mark.copyTarget
      { types := (piece mark stretch).types, text := (piece mark stretch).text } := by
  cases stretch <;> simp [piece]

/--
A mark in which a keyword occurs is split into pieces that have the attributes of the mark and,
behind each of them, a copy of those behind the mark. They have the target of the first type that
the mark has, so all targets are kept exactly if there are no others.
-/
theorem IsForest.splitAtKeywords?_pieces
    {mark : TextMark}
    (forest : tree.IsForest)
    (parentOf : (tree.node i).parent = some parent)
    (kindOf : tree.kind i = .textMark mark)
    (readable : Highlight.exemptTypes.any mark.hasType = false)
    (occurs : Mark.Occurs highlight.mode (highlight.keywords.map String.toList)
      mark.text.toList) :
    ∃ next pieces,
      tree.splitAtKeywords? highlight i = some (next, i :: tree.trailing i) ∧
      Preceded tree next i (pieces.flatMap fun piece =>
        (.textMark piece, (tree.node i).attributes) :: (tree.trailing i).map tree.copy) ∧
      pieces ≠ [] ∧
      (∀ piece ∈ pieces, piece = mark.copyTarget { types := piece.types, text := piece.text }) ∧
      ((∀ piece ∈ pieces, mark.Keeps piece) ↔ mark.HasOneTarget) := by
  have markable : (tree.kind i).markable? = some mark.text.toList := by
    rw [kindOf, Kind.markable?, readable, if_neg Bool.false_ne_true]
  have split := (splitAtKeywords?_of_occurs markable highlight).2 occurs
  have some := Highlight.stretches_enclose_ne_nil occurs (highlight.typesIn (tree.kind i))
  have lies : (tree.node i).parent ≠ none := parentOf ▸ Option.some_ne_none parent
  rw [entries_of_textMark kindOf] at split
  generalize highlight.stretches _ = stretches at split some
  refine ⟨_, stretches.map (piece mark), split, forest.preceded_insertAll lies _, ?_, ?_, ?_⟩
  · rwa [ne_eq, List.map_eq_nil_iff]
  · rw [List.forall_mem_map]
    exact fun stretch _ => piece_eq mark stretch
  · rw [List.forall_mem_map]
    have each : ∀ stretch, mark.Keeps (piece mark stretch) ↔ mark.HasOneTarget := fun stretch => by
      rw [piece_eq mark stretch]
      exact TextMark.keeps_copyTarget_iff _ _
    obtain ⟨stretch, member⟩ := List.exists_mem_of_ne_nil stretches some
    exact ⟨fun all => (each stretch).1 (all stretch member), fun one other _ => (each other).2 one⟩

/-- A link that is a reference as well loses the block that it points to. -/
theorem IsForest.splitAtKeywords?_pieces_of_link_and_reference :
    let mark : TextMark :=
      { types := "a block-ref", text := "see it", href := "h", refId := "i", refSubtype := "s" }
    let tree := ((Tree.new "d" "b" "/d.sy" "/D").appendNew 0 .paragraph (some "p")).appendNew 1
      (.textMark mark) none
    let highlight : Highlight := ⟨["it"], .sensitive, Highlight.searchType⟩
    tree.IsForest ∧ (tree.node 2).parent = some 1 ∧ tree.kind 2 = .textMark mark ∧
      Highlight.exemptTypes.any mark.hasType = false ∧
      Mark.Occurs highlight.mode (highlight.keywords.map String.toList) mark.text.toList ∧
      ∃ next, ∃ pieces : List TextMark, tree.splitAtKeywords? highlight 2 = some (next, [2]) ∧
        Preceded tree next 2 (pieces.flatMap fun piece => [(.textMark piece, [])]) ∧
        ∃ piece ∈ pieces, ¬ mark.Keeps piece := by
  intro mark tree highlight
  have forest : tree.IsForest :=
    (((Built.new "d" "b" "/d.sy" "/D").appendNew (by decide) .paragraph (some "p")).appendNew
      (by decide) (.textMark mark) none).isForest
  have occurs : Mark.Occurs highlight.mode (highlight.keywords.map String.toList)
      mark.text.toList := ⟨"it".toList, by decide, "it".toList, by decide, by decide, by decide⟩
  have readable : Highlight.exemptTypes.any mark.hasType = false := by decide +kernel
  have parentOf : (tree.node 2).parent = some 1 := by decide +kernel
  have kindOf : tree.kind 2 = .textMark mark := by decide +kernel
  have trailing : tree.trailing 2 = [] := by decide +kernel
  have attributes : (tree.node 2).attributes = [] := by decide +kernel
  obtain ⟨next, pieces, split, preceded, _, _, keeps⟩ :=
    forest.splitAtKeywords?_pieces parentOf kindOf readable occurs
  rw [trailing] at split
  rw [trailing, attributes] at preceded
  refine ⟨forest, parentOf, kindOf, readable, occurs, next, pieces, split, preceded, ?_⟩
  by_contra all
  push Not at all
  have lost := (keeps.1 all).reference (by decide +kernel) (by decide +kernel)
  exact absurd lost.1 (by decide)

end Tree
end BlockSearch
