import BlockSearch.Proofs.Pattern.Parts
import BlockSearch.Proofs.Replace.Frame
import BlockSearch.Proofs.Text.Occurrence

/-!
# Texts that take the place of themselves

A replacement that is the keyword is not carried out. For a keyword nothing is lost by that,
since every occurrence would be replaced by itself. A pattern is not what it matches, so for a
pattern nothing is lost where each match is what would take its place. The same condition says
when the text of inline code, which is searched twice, is changed once only.
-/

namespace BlockSearch

/-! ## Texts -/

namespace Replacer

/-- Everything that a replacer finds in a text is what it puts in its place. -/
def Repeats : Replacer → List Char → Prop
  | .literal keyword replacement, text => keyword = replacement ∨ ¬ keyword <:+: text
  | .pattern plain _ replacement, text =>
      ∀ compiled ∈ plain, Pattern.Repeats compiled replacement text

instance : (replacer : Replacer) → (text : List Char) → Decidable (replacer.Repeats text)
  | .literal keyword replacement, text =>
      inferInstanceAs (Decidable (keyword = replacement ∨ ¬ keyword <:+: text))
  | .pattern plain _ replacement, text =>
      inferInstanceAs (Decidable (∀ compiled ∈ plain, Pattern.Repeats compiled replacement text))

theorem applyChars_of_repeats
    {replacer : Replacer}
    {text : List Char}
    (repeats : replacer.Repeats text) :
    replacer.applyChars text = text := by
  cases replacer with
  | literal keyword replacement => exact Text.replace_eq_self_iff.2 repeats
  | pattern plain code replacement =>
      cases plain with
      | none => rfl
      | some compiled => exact Pattern.replaceAll_of_repeats (repeats compiled rfl)

theorem apply_of_repeats
    {replacer : Replacer}
    {text : String}
    (repeats : replacer.Repeats text.toList) :
    replacer.apply text = text := by
  rw [apply, applyChars_of_repeats repeats, String.ofList_toList]

/--
Patterns are compiled so that a character without a meaning stands for itself: a text of such
characters is refused, or it is the pattern of itself.
-/
def TakesPlain (compile : List Char → Option Pattern.Compiled) : Prop :=
  ∀ text, (∀ c ∈ text, c ∉ Pattern.metaChars) →
    ∀ compiled ∈ compile text, compiled = ⟨Pattern.literal text, []⟩

/-- Patterns are read so. -/
theorem takesPlain_read? : TakesPlain Pattern.read? := by
  intro text plain compiled reads
  rw [Pattern.read?_of_plain plain] at reads
  exact (Option.mem_some_iff.1 reads).symm

/-- Whether a method is supported does not depend on how patterns are compiled. -/
theorem exists_ofMethod?
    {compile : List Char → Option Pattern.Compiled}
    {keyword replacement : String}
    {method : Method}
    {replacer : Replacer}
    (supported : compiledBy? compile keyword replacement method = some replacer) :
    ∃ other, ofMethod? keyword replacement method = some other := by
  cases method with
  | keyword | regex => exact ⟨_, rfl⟩
  | querySyntax | passthrough => contradiction

/--
A keyword repeats itself in every text. A pattern does when it cannot be compiled, or when none of
its characters has a meaning in patterns.
-/
theorem repeats_of_itself
    {compile : List Char → Option Pattern.Compiled}
    (takesPlain : TakesPlain compile)
    {keyword : String}
    {method : Method}
    {replacer : Replacer}
    (supported : compiledBy? compile keyword keyword method = some replacer)
    (literal : method = .keyword ∨ compile keyword.toList = none ∨
      ∀ c ∈ keyword.toList, c ∉ Pattern.metaChars)
    (text : List Char) :
    replacer.Repeats text := by
  cases method with
  | keyword =>
      cases supported
      exact .inl rfl
  | regex =>
      cases supported
      intro compiled reads
      rcases literal with keyword | refused | plain
      · contradiction
      · rw [refused] at reads
        contradiction
      · obtain rfl := takesPlain _ plain compiled reads
        exact Pattern.repeats_literal (fun dollar => plain '$' dollar (by decide)) text
  | querySyntax => contradiction
  | passthrough => contradiction

end Replacer

/-! ## Documents -/

/-- A kind stays when its texts stay and it is no inline code. -/
theorem Kind.rewrite_of_texts
    {replacer : Replacer}
    {kind : Kind}
    (fixed : ∀ text ∈ kind.texts, replacer.apply text = text)
    (ordinary : kind.inlineCode? = none) :
    replacer.rewrite kind = kind := by
  apply eq_of_frame (frame_rewrite replacer kind)
  · rw [texts_rewrite, List.map_congr_left fixed, List.map_id']
  · rw [inlineCode?_rewrite, ordinary, Option.map_none]

namespace Tree

/-- Everything that is found in some nodes, and in the title of a document, repeats itself. -/
def RepeatsIn (tree : Tree) (replacer : Replacer) (nodes : List NodeId) : Prop :=
  ∀ j ∈ nodes, (∀ text ∈ (tree.kind j).texts, replacer.Repeats text.toList) ∧
    (tree.kind j = .document → replacer.Repeats tree.title.toList)

instance (tree : Tree) (replacer : Replacer) (nodes : List NodeId) :
    Decidable (tree.RepeatsIn replacer nodes) :=
  inferInstanceAs (Decidable (∀ j ∈ nodes,
    (∀ text ∈ (tree.kind j).texts, replacer.Repeats text.toList) ∧
      (tree.kind j = .document → replacer.Repeats tree.title.toList)))

/-- A document with the same texts, in which only inline code can have changed. -/
structure SameTexts (tree other : Tree) : Prop where
  /-- The texts outside of inline code stay. -/
  texts : ∀ i, (other.kind i).texts = (tree.kind i).texts
  /-- Nodes without inline code stay. -/
  nodes : ∀ i, (tree.kind i).inlineCode? = none → other.node i = tree.node i

theorem repeatsIn_of_repeats
    {replacer : Replacer}
    (repeats : ∀ text, replacer.Repeats text)
    (tree : Tree)
    (nodes : List NodeId) :
    tree.RepeatsIn replacer nodes := fun _ _ => ⟨fun _ _ => repeats _, fun _ => repeats _⟩

namespace RepeatsIn

variable {tree : Tree} {replacer : Replacer} {nodes : List NodeId}

theorem apply_eq
    (repeats : tree.RepeatsIn replacer nodes)
    {j : NodeId}
    (listed : j ∈ nodes)
    {text : String}
    (member : text ∈ (tree.kind j).texts) :
    replacer.apply text = text := Replacer.apply_of_repeats ((repeats j listed).1 text member)

/-- The texts stay, however often their nodes are rewritten. -/
theorem sameTexts
    (repeats : tree.RepeatsIn replacer nodes) :
    tree.SameTexts (nodes.foldl (rewriteNode replacer) tree) where
  texts i := by
    rw [kind_foldl_rewriteNode, Kind.texts_iterate_rewrite]
    by_cases listed : i ∈ nodes
    · calc (tree.kind i).texts.map replacer.apply^[nodes.count i]
        _ = (tree.kind i).texts.map fun text => text :=
            List.map_congr_left fun text member =>
              Function.iterate_fixed (repeats.apply_eq listed member) _
        _ = (tree.kind i).texts := List.map_id' _
    · rw [List.count_eq_zero_of_not_mem listed, Function.iterate_zero, List.map_id]
  nodes i ordinary := by
    apply (reworded_foldl_rewriteNode replacer tree nodes).node_eq_of_kind
    rw [kind_foldl_rewriteNode]
    by_cases listed : i ∈ nodes
    · exact Function.iterate_fixed
        (Kind.rewrite_of_texts (fun _ member => repeats.apply_eq listed member) ordinary) _
    · rw [List.count_eq_zero_of_not_mem listed, Function.iterate_zero_apply]

/-- No title is reported below a node. -/
theorem newTitle?_eq_none
    (repeats : tree.RepeatsIn replacer nodes)
    {i : NodeId}
    (below : tree.descendants i ⊆ nodes) :
    tree.newTitle? replacer i = none := by
  rw [Option.eq_none_iff_forall_ne_some]
  intro title reported
  obtain ⟨⟨j, member, document⟩, rfl, changes⟩ := newTitle?_eq_some_iff.1 reported
  exact changes (Replacer.apply_of_repeats ((repeats j (below member)).2 document))

/-- No title is found when text is replaced in some blocks. -/
theorem titles_rewriteBlocks
    {ids : List String}
    (repeats : tree.RepeatsIn replacer (tree.walked ids)) :
    (tree.rewriteBlocks replacer ids).titles = [] := by
  rw [← List.reverse_eq_nil_iff, reverse_titles_rewriteBlocks, titlesIn,
    List.filterMap_eq_nil_iff]
  intro id member
  cases found : tree.findBlock? id with
  | none => rfl
  | some i =>
      refine repeats.newTitle?_eq_none fun j below => ?_
      exact List.mem_flatMap.2 ⟨i, List.mem_filterMap.2 ⟨id, member, found⟩, below⟩

end RepeatsIn

/-! ## Inline code -/

namespace IsForest

variable {tree : Tree}

/--
The text of inline code is rewritten twice: what has been put in the place of the HTML form
of the keyword is searched again, for the keyword as it is. So one pass is all that happens
when everything that is found by then repeats itself. For a keyword that is exact: the second
pass changes the text when the keyword is not its own replacement and occurs in what the
first pass has made.
-/
theorem text_replaceBelow_of_code
    (forest : tree.IsForest)
    {i : NodeId}
    (inside : i < tree.size)
    {keyword replacement : String}
    {method : Method}
    {replacer : Replacer}
    (supported : Replacer.ofMethod? keyword replacement method = some replacer)
    {j : NodeId}
    (below : tree.Holds i j)
    {mark : TextMark}
    (kind : tree.kind j = .textMark mark)
    (code : mark.hasType "code" = true) :
    ∃ after, (tree.replaceBelow replacer i).kind j = .textMark after ∧
      after.text = replacer.apply (replacer.applyCode mark.text) ∧
      (replacer.Repeats (replacer.applyCode mark.text).toList →
        after.text = replacer.applyCode mark.text) ∧
      (method = .keyword → (after.text = replacer.applyCode mark.text ↔
        keyword = replacement ∨ ¬ keyword.toList <:+: (replacer.applyCode mark.text).toList)) := by
  have twice : (replacer.rewriteMark mark).text =
      replacer.apply (replacer.applyCode mark.text) := by
    simp only [Replacer.rewriteMark, if_pos code]
  refine ⟨replacer.rewriteMark mark, ?_, twice, fun repeats => ?_, fun isKeyword => ?_⟩
  · rw [(forest.kind_replaceBelow inside replacer j).1 below, kind]
    rfl
  · rw [twice, Replacer.apply_of_repeats repeats]
  · subst isKeyword
    cases supported
    rw [twice, ← String.toList_inj, Replacer.apply, String.toList_ofList, Replacer.applyChars,
      Text.replace_eq_self_iff, String.toList_inj]

/-- The letter that is put in twice is found again, and doubled again. -/
theorem text_replaceBelow_of_code_doubled :
    let mark : TextMark := { types := "code", text := "a" }
    let tree := ((Tree.new "d" "b" "/d.sy" "/D").appendNew 0 .paragraph (some "p")).appendNew 1
      (.textMark mark) none
    let replacer : Replacer := .literal "a".toList "aa".toList
    tree.IsForest ∧ 1 < tree.size ∧ Replacer.ofMethod? "a" "aa" .keyword = some replacer ∧
      tree.Holds 1 2 ∧ tree.kind 2 = .textMark mark ∧ mark.hasType "code" = true ∧
      replacer.applyCode mark.text = "aa" ∧
      ∃ after, (tree.replaceBelow replacer 1).kind 2 = .textMark after ∧ after.text = "aaaa" := by
  intro mark tree replacer
  have forest : tree.IsForest :=
    (((Tree.Built.new "d" "b" "/d.sy" "/D").appendNew (by decide) .paragraph
      (some "p")).appendNew (by decide) (.textMark mark) none).isForest
  have inside : 1 < tree.size := by decide
  have below : tree.Holds 1 2 := by
    rw [← forest.mem_descendants inside]
    decide
  have code : mark.hasType "code" = true := by decide +kernel
  have once : replacer.applyCode mark.text = "aa" := by decide +kernel
  have twice : replacer.apply "aa" = "aaaa" := by decide +kernel
  obtain ⟨after, kind, text, _⟩ :=
    forest.text_replaceBelow_of_code inside (rfl : Replacer.ofMethod? "a" "aa" .keyword = _) below
      (rfl : tree.kind 2 = .textMark mark) code
  refine ⟨forest, inside, rfl, below, rfl, code, once, after, kind, ?_⟩
  rw [text, once, twice]

end IsForest
end Tree

/-! ## Replacements -/

namespace Engine

/--
A replacement that is the keyword is skipped, whatever the blocks, and that agrees with
carrying it out wherever everything found repeats itself. So it does for a keyword, for a
pattern that cannot be compiled and for one without a character that has a meaning, in all
documents; and for any other pattern in those nodes where each match is what would take its
place. There carrying it out, below a node or in the blocks of a document, would change no
text outside of inline code and no node without inline code, and would find no new title.
All this holds of every way to compile patterns in which characters without a meaning stand for
themselves.
-/
theorem replace_by_itself
    {compile : List Char → Option Pattern.Compiled}
    (takesPlain : Replacer.TakesPlain compile)
    {keyword : String}
    {method : Method}
    {replacer : Replacer}
    (supported : Replacer.compiledBy? compile keyword keyword method = some replacer) :
    (∀ (engine : Engine) (ids : List String),
      engine.replace { keyword, replacement := keyword, ids, method } = (.ok {}, engine.wait)) ∧
    (method = .keyword ∨ compile keyword.toList = none ∨
        (∀ c ∈ keyword.toList, c ∉ Pattern.metaChars) →
      ∀ (tree : Tree) (nodes : List NodeId), tree.RepeatsIn replacer nodes) ∧
    (∀ (tree : Tree) (i : NodeId), tree.RepeatsIn replacer (tree.descendants i) →
      tree.SameTexts (tree.replaceBelow replacer i) ∧ tree.newTitle? replacer i = none) ∧
    ∀ (tree : Tree) (ids : List String), tree.RepeatsIn replacer (tree.walked ids) →
      tree.SameTexts (tree.rewriteBlocks replacer ids).tree ∧
        (tree.rewriteBlocks replacer ids).titles = [] := by
  obtain ⟨other, known⟩ := Replacer.exists_ofMethod? supported
  refine ⟨fun engine ids => replace_of_same known rfl, fun literal tree nodes => ?_,
    fun tree i repeats => ?_, fun tree ids repeats => ?_⟩
  · exact Tree.repeatsIn_of_repeats (Replacer.repeats_of_itself takesPlain supported literal) tree
      nodes
  · exact ⟨repeats.sameTexts, repeats.newTitle?_eq_none fun _ below => below⟩
  · rw [Tree.tree_rewriteBlocks]
    exact ⟨repeats.sameTexts, repeats.titles_rewriteBlocks⟩

/-- A pattern with a dot repeats itself in a text, and finds nothing in the others. -/
theorem replace_by_itself_of_dot :
    let tree := (((Tree.new "d" "b" "/d.sy" "/D").appendNew 0 .paragraph (some "p")).appendNew 1
      (.text "a. b") none).appendNew 0 (.codeBlock "" "b") (some "c")
    let replacer : Replacer :=
      .pattern (Pattern.read? "a.".toList) (Pattern.read? (Html.escape "a.".toList)) "a.".toList
    Replacer.TakesPlain Pattern.read? ∧
      Replacer.compiledBy? Pattern.read? "a." "a." .regex = some replacer ∧
      tree.RepeatsIn replacer (tree.descendants 0) ∧
      ((tree.replaceBelow replacer 0).kind 2).texts = ["a. b"] ∧
      (tree.replaceBelow replacer 0).node 3 = tree.node 3 ∧
      tree.newTitle? replacer 0 = none := by
  intro tree replacer
  have takesPlain := Replacer.takesPlain_read?
  have supported : Replacer.compiledBy? Pattern.read? "a." "a." .regex = some replacer := rfl
  have repeats : tree.RepeatsIn replacer (tree.descendants 0) := by decide +kernel
  obtain ⟨same, title⟩ := (replace_by_itself takesPlain supported).2.2.1 tree 0 repeats
  refine ⟨takesPlain, supported, repeats, ?_, same.nodes 3 rfl, title⟩
  rw [same.texts 2]
  rfl

/-- A dot stands for any character, so in other texts the pattern does not repeat itself. -/
theorem replace_by_itself_changes_text :
    let tree := (((Tree.new "d" "b" "/d.sy" "/D").setTitle "ab").appendNew 0 .paragraph
      (some "p")).appendNew 1 (.text "ab") none
    let replacer : Replacer :=
      .pattern (Pattern.read? "a.".toList) (Pattern.read? (Html.escape "a.".toList)) "a.".toList
    Replacer.ofMethod? "a." "a." .regex = some replacer ∧
      (tree.kind 2).texts = ["ab"] ∧
      ((tree.replaceBelow replacer 0).kind 2).texts = ["a."] ∧
      tree.newTitle? replacer 0 = some "a." := by
  intro tree replacer
  exact ⟨rfl, rfl, by decide +kernel, by decide +kernel⟩

end Engine
end BlockSearch
