import BlockSearch.Document.Kind
import BlockSearch.Text.Occurrence

/-!
# Inline spans

Inline text with typed spans `<span data-type="types">text</span>` in it. Reading keeps
every span that does not carry the wanted type, and every span that is not closed, as
plain text.
-/

namespace BlockSearch

/-- A stretch of inline text. -/
inductive Inline
  /-- Plain text. -/
  | text (text : List Char)
  /-- The text of a span and its types. -/
  | mark (types text : List Char)
  deriving DecidableEq, Repr

namespace Inline

/-- The beginning of every span. -/
def spanOpen : List Char := "<span data-type=\"".toList

/-- What follows the types of a span. -/
def typesEnd : List Char := "\">".toList

/-- The end of every span. -/
def spanClose : List Char := "</span>".toList

/-- The opening tag of a span with the given types. -/
def spanStart (types : List Char) : List Char := spanOpen ++ types ++ typesEnd

/-- A stretch as it is written. -/
def print : Inline → List Char
  | .text content => content
  | .mark types content => spanStart types ++ content ++ spanClose

/-- A stretch as a node. -/
def kind : Inline → Kind
  | .text content => .text (String.ofList content)
  | .mark types content =>
      .textMark { types := String.ofList types, text := String.ofList content }

/-- Plain text as a list of stretches; empty text gives none. -/
def plain (content : List Char) : List Inline :=
  if content.isEmpty then [] else [.text content]

/-- Whether a list of types holds a type. -/
def typesHold (types type : List Char) : Bool := (Text.words types).contains type

/-- What follows the beginning of a span is shorter than the text. -/
theorem length_behindOpen_lt
    {text before behindOpen : List Char}
    (found : Text.cutAt? spanOpen text = some (before, behindOpen)) :
    behindOpen.length < text.length :=
  Text.length_lt_of_cutAt? (by decide) found

/-- What follows a closed span is shorter than what follows its beginning. -/
theorem length_behindClose_lt
    {text types body inner behind : List Char}
    (foundTypes : Text.cutAt? typesEnd text = some (types, body))
    (foundClose : Text.cutAt? spanClose body = some (inner, behind)) :
    behind.length < text.length :=
  Nat.lt_trans (Text.length_lt_of_cutAt? (by decide) foundClose)
    (Text.length_lt_of_cutAt? (by decide) foundTypes)

/-- The stretches of `rest` behind plain text that is still open. -/
def readFrom (type : List Char) (open_ rest : List Char) : List Inline :=
  match foundOpen : Text.cutAt? spanOpen rest with
  | none => plain (open_ ++ rest)
  | some (before, behindOpen) =>
      match foundTypes : Text.cutAt? typesEnd behindOpen with
      | none => plain (open_ ++ rest)
      | some (types, body) =>
          have shorter : behindOpen.length < rest.length := length_behindOpen_lt foundOpen
          if typesHold types type then
            match foundClose : Text.cutAt? spanClose body with
            | none => plain (open_ ++ rest)
            | some (inner, behind) =>
                have : behind.length < rest.length :=
                  Nat.lt_trans (length_behindClose_lt foundTypes foundClose) shorter
                plain (open_ ++ before) ++ .mark types inner :: readFrom type [] behind
          else readFrom type (open_ ++ before ++ spanOpen) behindOpen
termination_by rest.length

/-- The stretches of a text in which spans that carry `type` are marks. -/
def read (type source : List Char) : List Inline := readFrom type [] source

end Inline
end BlockSearch
