import BlockSearch.Document.Kind
import BlockSearch.Document.Walk
import BlockSearch.Pattern.Reader
import BlockSearch.Pattern.Replacement
import BlockSearch.Search.Request
import BlockSearch.Text.Html
import BlockSearch.Text.Occurrence

/-!
# Replacers

What a replacement does to a single text. The text of inline code is stored as HTML, so it
is searched for the HTML form of the keyword. A pattern that cannot be compiled changes nothing.
Every node of a subtree is rewritten once. The title of a document is not changed here:
it is reported, because a document is renamed together with its path.
-/

namespace BlockSearch

/-- A way to rewrite texts. -/
inductive Replacer
  /-- Put a replacement in the place of each occurrence of a keyword. -/
  | literal (keyword replacement : List Char)
  /-- Put a replacement in the place of each match of a pattern. -/
  | pattern (plain code : Option Pattern.Compiled) (replacement : List Char)

namespace Replacer

/--
The replacer of a method, where patterns are compiled in some way; statements and query expressions
cannot replace text.
-/
def compiledBy?
    (compile : List Char → Option Pattern.Compiled)
    (keyword replacement : String) : Method → Option Replacer
  | .keyword => some (.literal keyword.toList replacement.toList)
  | .regex =>
      some
        (.pattern
          (compile keyword.toList)
          (compile (Html.escape keyword.toList))
          replacement.toList)
  | .querySyntax | .passthrough => none

/-- The replacer of a method, with patterns as they are read here. -/
def ofMethod? (keyword replacement : String) (method : Method) : Option Replacer :=
  compiledBy? Pattern.read? keyword replacement method

/-- Replace the matches of a pattern that could be read. -/
def applyPattern (compiled : Option Pattern.Compiled) (replacement text : List Char) :
    List Char :=
  match compiled with
  | some compiled => compiled.pattern.replaceAll compiled.names replacement text
  | none => text

/-- Rewrite the characters of an ordinary text. -/
def applyChars (replacer : Replacer) (text : List Char) : List Char :=
  match replacer with
  | .literal keyword replacement => Text.replace keyword replacement text
  | .pattern plain _ replacement => applyPattern plain replacement text

/-- Rewrite the characters of inline code. -/
def applyCodeChars (replacer : Replacer) (text : List Char) : List Char :=
  match replacer with
  | .literal keyword replacement => Text.replace (Html.escape keyword) replacement text
  | .pattern _ code replacement => applyPattern code replacement text

/-- Rewrite an ordinary text. -/
def apply (replacer : Replacer) (text : String) : String :=
  String.ofList (replacer.applyChars text.toList)

/-- Rewrite the text of inline code. -/
def applyCode (replacer : Replacer) (text : String) : String :=
  String.ofList (replacer.applyCodeChars text.toList)

/-- Rewrite the texts of a mark; inline code is searched for both forms of the keyword. -/
def rewriteMark (replacer : Replacer) (mark : TextMark) : TextMark :=
  let text := if mark.hasType "code" then replacer.applyCode mark.text else mark.text
  { mark with
    text := replacer.apply text
    formula := replacer.apply mark.formula
    memo := replacer.apply mark.memo
    title := replacer.apply mark.title
    href := replacer.apply mark.href }

/-- Rewrite the texts that a node holds. -/
def rewrite (replacer : Replacer) : Kind → Kind
  | .text text => .text (replacer.apply text)
  | .linkText text => .linkText (replacer.apply text)
  | .linkDest dest => .linkDest (replacer.apply dest)
  | .linkTitle title => .linkTitle (replacer.apply title)
  | .codeBlock info code => .codeBlock info (replacer.apply code)
  | .mathBlock content => .mathBlock (replacer.apply content)
  | .textMark mark => .textMark (replacer.rewriteMark mark)
  | kind => kind

end Replacer

/-! ## Subtrees -/

namespace Tree

/-- Rewrite the texts of one node. -/
def rewriteNode (replacer : Replacer) (tree : Tree) (i : NodeId) : Tree :=
  tree.modify i fun node => { node with kind := replacer.rewrite node.kind }

/-- Rewrite the texts of a node and all below it. -/
def replaceBelow (tree : Tree) (replacer : Replacer) (i : NodeId) : Tree :=
  (tree.descendants i).foldl (rewriteNode replacer) tree

/-- The new title of the document, when its node lies below `i` and its title changes. -/
def newTitle? (tree : Tree) (replacer : Replacer) (i : NodeId) : Option String :=
  let renamed := replacer.apply tree.title
  if (tree.descendants i).any (fun j => tree.kind j == .document) && renamed != tree.title then
    some renamed
  else none

end Tree
end BlockSearch
