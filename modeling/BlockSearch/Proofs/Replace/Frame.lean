import BlockSearch.Proofs.Replace.Nested

/-!
# What a replacement leaves alone

Replacing text below a node rewrites every node of its subtree once, and no other. What is not
text stays in all of them: the links, the identifiers, the attributes, and everything in a kind
but its texts. So the title stays too: it is only reported.
-/

namespace BlockSearch

/-! ## Kinds without their texts -/

namespace Kind

/-- What a node is, without the texts that can be replaced. -/
def frame : Kind → Kind
  | .text _ => .text ""
  | .linkText _ => .linkText ""
  | .linkDest _ => .linkDest ""
  | .linkTitle _ => .linkTitle ""
  | .codeBlock info _ => .codeBlock info ""
  | .mathBlock _ => .mathBlock ""
  | .textMark mark =>
      .textMark { mark with text := "", formula := "", memo := "", title := "", href := "" }
  | kind => kind

/-- The text of inline code, which is replaced in a way of its own. -/
def inlineCode? : Kind → Option String
  | .textMark mark => if mark.hasType "code" then some mark.text else none
  | _ => none

@[simp] theorem frame_rewrite
    (replacer : Replacer)
    (kind : Kind) :
    (replacer.rewrite kind).frame = kind.frame := by
  cases kind <;> rfl

theorem inlineCode?_rewrite
    (replacer : Replacer)
    (kind : Kind) :
    (replacer.rewrite kind).inlineCode? =
      kind.inlineCode?.map fun text => replacer.apply (replacer.applyCode text) := by
  cases kind with
  | textMark mark =>
      have sameType : (replacer.rewriteMark mark).hasType "code" = mark.hasType "code" := rfl
      rw [Replacer.rewrite, inlineCode?, inlineCode?, sameType]
      by_cases code : mark.hasType "code" <;> simp [Replacer.rewriteMark, code]
  | _ => rfl

/-- A kind is its frame, its texts and its inline code. -/
theorem eq_of_frame
    {left right : Kind}
    (frame : left.frame = right.frame)
    (texts : left.texts = right.texts)
    (inlineCode : left.inlineCode? = right.inlineCode?) :
    left = right := by
  cases left with
  | textMark mark =>
      cases right with
      | textMark other =>
          cases mark
          cases other
          simp only [Kind.frame, textMark.injEq, TextMark.mk.injEq, true_and] at frame
          obtain ⟨rfl, rfl, rfl, rfl⟩ := frame
          simp only [Kind.texts, Kind.inlineCode?, TextMark.hasType] at texts inlineCode
          split_ifs at texts inlineCode <;> simp_all
      | _ => cases frame
  | _ => cases right <;> simp_all [Kind.frame, Kind.texts]

end Kind

/-! ## Subtrees -/

namespace Tree
namespace IsForest

variable {tree : Tree}

/-- A node of the subtree is rewritten once, and no other node is. -/
theorem kind_replaceBelow
    (forest : tree.IsForest)
    {i : NodeId}
    (inside : i < tree.size)
    (replacer : Replacer)
    (j : NodeId) :
    (tree.Holds i j → (tree.replaceBelow replacer i).kind j = replacer.rewrite (tree.kind j)) ∧
      (¬ tree.Holds i j → (tree.replaceBelow replacer i).kind j = tree.kind j) := by
  rw [replaceBelow, kind_foldl_rewriteNode, ← forest.mem_descendants inside]
  constructor
  · intro below
    rw [List.count_eq_one_of_mem (forest.nodup_descendants inside) below, Function.iterate_one]
  · intro outside
    rw [List.count_eq_zero_of_not_mem outside, Function.iterate_zero_apply]

/--
Replacing text below a node of a forest changes the texts in its subtree and nothing else.
The document stays where it is stored, all links, identifiers and attributes stay, and so
does every kind but for its texts. In the subtree each text outside of inline code is
replaced once; a node outside of it is the same in every respect. The title stays as well,
since it is an attribute. A new one is reported exactly when the subtree holds a document
node and the replacement changes the title.
-/
theorem replaceBelow_changes_texts_only
    (forest : tree.IsForest)
    {i : NodeId}
    (inside : i < tree.size)
    (replacer : Replacer) :
    (tree.replaceBelow replacer i).header = tree.header ∧
      SameLinks tree (tree.replaceBelow replacer i) ∧
      (∀ j, ((tree.replaceBelow replacer i).node j).id = (tree.node j).id) ∧
      (∀ j, ((tree.replaceBelow replacer i).node j).attributes = (tree.node j).attributes) ∧
      (tree.replaceBelow replacer i).title = tree.title ∧
      (∀ j, ((tree.replaceBelow replacer i).kind j).frame = (tree.kind j).frame) ∧
      (∀ j, tree.Holds i j →
        ((tree.replaceBelow replacer i).kind j).texts =
          (tree.kind j).texts.map replacer.apply) ∧
      (∀ j, ¬ tree.Holds i j → (tree.replaceBelow replacer i).node j = tree.node j) ∧
      ∀ title, tree.newTitle? replacer i = some title ↔
        (∃ j, tree.Holds i j ∧ tree.kind j = .document) ∧
          title = replacer.apply tree.title ∧ title ≠ tree.title := by
  have reworded := tree.reworded_replaceBelow replacer i
  refine ⟨reworded.header, reworded.links, reworded.ids, reworded.attributes, reworded.title_eq,
    fun j => ?_, fun j below => ?_, fun j outside => ?_, fun title => ?_⟩
  · by_cases below : tree.Holds i j
    · rw [(forest.kind_replaceBelow inside replacer j).1 below, Kind.frame_rewrite]
    · rw [(forest.kind_replaceBelow inside replacer j).2 below]
  · rw [(forest.kind_replaceBelow inside replacer j).1 below, Kind.texts_rewrite]
  · exact reworded.node_eq_of_kind ((forest.kind_replaceBelow inside replacer j).2 outside)
  · simp only [newTitle?_eq_some_iff, forest.mem_descendants inside]

/-- The root has a paragraph and a block of code, whose language is the text that is replaced. -/
theorem replaceBelow_changes_texts_only_in_code_block :
    let bare := (((Tree.new "d" "b" "/d.sy" "/D").appendNew 0 .paragraph (some "p")).appendNew 1
      (.text "a") none).appendNew 0 (.codeBlock "a" "aa") (some "c")
    let tree := bare.setTitle "a"
    let replacer : Replacer := .literal "a".toList "b".toList
    let after := tree.replaceBelow replacer 0
    tree.IsForest ∧ 0 < tree.size ∧
      (after.kind 2).texts = ["b"] ∧
      (after.kind 3).frame = .codeBlock "a" "" ∧ (after.kind 3).texts = ["bb"] ∧
      after.title = "a" ∧ tree.newTitle? replacer 0 = some "b" ∧
      (tree.replaceBelow replacer 1).node 3 = tree.node 3 := by
  intro bare tree replacer after
  have bareForest : bare.IsForest :=
    ((((Tree.Built.new "d" "b" "/d.sy" "/D").appendNew (by decide) .paragraph
      (some "p")).appendNew (by decide) (.text "a") none).appendNew (by decide)
      (.codeBlock "a" "aa") (some "c")).isForest
  have forest : tree.IsForest :=
    (SameLinks.modify (by intro node; rfl) bare root).isForest bareForest
  have inside : 0 < tree.size := by decide
  have text : replacer.apply "a" = "b" := by decide +kernel
  have code : replacer.apply "aa" = "bb" := by decide +kernel
  obtain ⟨_, _, _, _, title, frames, texts, _, reports⟩ :=
    forest.replaceBelow_changes_texts_only inside replacer
  obtain ⟨_, _, _, _, _, _, _, others, _⟩ :=
    forest.replaceBelow_changes_texts_only (by decide : 1 < tree.size) replacer
  have below : ∀ j ∈ [0, 2, 3], tree.Holds 0 j := by
    simp only [← forest.mem_descendants inside]
    decide
  have outside : ¬ tree.Holds 1 3 := by
    rw [← forest.mem_descendants (by decide)]
    decide
  refine ⟨forest, inside, ?_, ?_, ?_, ?_, ?_, others 3 outside⟩
  · rw [texts 2 (below 2 (by decide)), show (tree.kind 2).texts = ["a"] from rfl,
      List.map_singleton, text]
  · rw [frames 3]
    rfl
  · rw [texts 3 (below 3 (by decide)), show (tree.kind 3).texts = ["aa"] from rfl,
      List.map_singleton, code]
  · rw [title]
    decide +kernel
  · exact (reports "b").2 ⟨⟨0, below 0 (by decide), rfl⟩, text.symm, by decide +kernel⟩

end IsForest
end Tree
end BlockSearch
