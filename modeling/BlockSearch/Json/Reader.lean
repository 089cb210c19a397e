import BlockSearch.Json.Token
import BlockSearch.Json.Value

/-!
# Reading JSON text

A value is built from its tokens by a machine with a stack of the lists and objects
that are still open.
-/

namespace BlockSearch
namespace Json

/-- A list or object that is not closed yet; what it holds so far is last first. -/
inductive Frame
  /-- A list. -/
  | array (items : List Json)
  /-- An object, and the name whose value comes next. -/
  | object (members : List (String × Json)) (name : String)

/-- What may come next. -/
inductive Expecting
  /-- A value. -/
  | value
  /-- A value, or the end of the list just opened. -/
  | firstItem
  /-- A name, or the end of the object just opened. -/
  | firstName (members : List (String × Json))
  /-- A name. -/
  | name (members : List (String × Json))
  /-- The colon behind a name. -/
  | colon (members : List (String × Json)) (name : String)
  /-- A comma or the end of the innermost list or object. -/
  | separator
  /-- The end of the text, behind the value read. -/
  | done (value : Json)

/-- The machine: the open lists and objects, innermost first, and what may come next. -/
structure Machine where
  /-- The open lists and objects. -/
  stack : List Frame
  /-- What may come next. -/
  expecting : Expecting

namespace Machine

/-- The machine before the first token. -/
def start : Machine := ⟨[], .value⟩

/-- Hand a complete value to the innermost open list or object. -/
def deliver (value : Json) : List Frame → Machine
  | [] => ⟨[], .done value⟩
  | .array items :: stack => ⟨.array (value :: items) :: stack, .separator⟩
  | .object members name :: stack => ⟨.object ((name, value) :: members) name :: stack, .separator⟩

/-- Take a token where a value begins. -/
def beginValue (stack : List Frame) : Token → Option Machine
  | .openArray => some ⟨.array [] :: stack, .firstItem⟩
  | .openObject => some ⟨stack, .firstName []⟩
  | .null => some (deliver .null stack)
  | .bool value => some (deliver (.bool value) stack)
  | .number literal => some (deliver (.number literal) stack)
  | .string value => some (deliver (.string value) stack)
  | _ => none

/-- Take the next token. -/
def step (machine : Machine) (token : Token) : Option Machine :=
  match machine.expecting, machine.stack, token with
  | .firstItem, .array _ :: stack, .closeArray => some (deliver (.array []) stack)
  | .firstItem, stack, token => beginValue stack token
  | .value, stack, token => beginValue stack token
  | .firstName members, stack, .closeObject => some (deliver (.object members.reverse) stack)
  | .firstName members, stack, .string name => some ⟨stack, .colon members name⟩
  | .name members, stack, .string name => some ⟨stack, .colon members name⟩
  | .colon members name, stack, .colon => some ⟨.object members name :: stack, .value⟩
  | .separator, .array items :: stack, .comma => some ⟨.array items :: stack, .value⟩
  | .separator, .array items :: stack, .closeArray => some (deliver (.array items.reverse) stack)
  | .separator, .object members _ :: stack, .comma => some ⟨stack, .name members⟩
  | .separator, .object members _ :: stack, .closeObject =>
      some (deliver (.object members.reverse) stack)
  | _, _, _ => none

/-- Take all tokens. -/
def run (machine : Machine) (tokens : List Token) : Option Machine :=
  tokens.foldlM step machine

end Machine

/-- The value that a list of tokens spells. -/
def ofTokens? (tokens : List Token) : Option Json :=
  match Machine.start.run tokens with
  | some ⟨_, .done value⟩ => some value
  | _ => none

/-- The value that a text spells. -/
def read? (text : String) : Option Json :=
  (Token.ofText? text.toList).bind ofTokens?

end Json
end BlockSearch
