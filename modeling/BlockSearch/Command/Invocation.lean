import BlockSearch.Command.Argument
import BlockSearch.Engine.Replace
import BlockSearch.Engine.Search

/-!
# Invocations

What a user asks the program to do: one of its commands, and where the store is.
-/

namespace BlockSearch

/-- A command. -/
inductive Command
  /-- Search blocks. -/
  | search (request : Request) (limit : Option Nat) (caseSensitive json : Bool)
  /-- Resolve an embed. -/
  | embed (request : EmbedRequest) (json : Bool)
  /-- Offer targets for a reference. -/
  | references (id rootId keyword : String) (json : Bool)
  /-- Replace text, and index the documents again. -/
  | replace (replacement : Replacement) (json : Bool)
  /-- Show a document with keywords highlighted, or the blocks that mention them. -/
  | highlight (rootId : String) (keywords : List String) (preview json : Bool)
  /-- Index all documents. -/
  | index
  /-- Show the configuration. -/
  | config
  deriving Repr

/-- A command and the places that it uses instead of those of the configuration. -/
structure Invocation where
  /-- The path of the database. -/
  database : Option String := none
  /-- The path of the directory of documents. -/
  trees : Option String := none
  /-- The command. -/
  command : Command
  deriving Repr

/-- The names of commands. -/
inductive CommandName
  /-- Search blocks. -/
  | search
  /-- Resolve an embed. -/
  | embed
  /-- Offer targets for a reference. -/
  | refs
  /-- Replace text. -/
  | replace
  /-- Highlight a document. -/
  | highlight
  /-- Index all documents. -/
  | index
  /-- Show the configuration. -/
  | config
  deriving DecidableEq, Repr

namespace CommandName

/-- The command that a word names. -/
def ofString? : String → Option CommandName
  | "search" => some .search
  | "embed" => some .embed
  | "refs" => some .refs
  | "replace" => some .replace
  | "highlight" => some .highlight
  | "index" => some .index
  | "config" => some .config
  | _ => none

/-- The options that every command knows. -/
def sharedOptions : List OptionRule :=
  [{ name := "database", value := some .path }, { name := "trees", value := some .path }, helpRule]

/-- The option that asks for an answer as JSON. -/
def jsonRule : OptionRule := { name := "json" }

/-- The names of methods. -/
def methods : List (String × Method) :=
  [("keyword", .keyword), ("query", .querySyntax), ("sql", .passthrough), ("regex", .regex)]

/-- The names of orders. -/
def orders : List (String × Order) :=
  [("type", .type), ("created", .createdAsc), ("created-desc", .createdDesc),
    ("updated", .updatedAsc), ("updated-desc", .updatedDesc), ("content", .contentOrder),
    ("relevance", .relevanceAsc), ("relevance-desc", .relevanceDesc)]

/-- The names of the parts of a heading that an embed shows. -/
def headingModes : List (String × HeadingMode) :=
  [("all", .withSection), ("heading", .headingOnly), ("section", .sectionOnly)]

/-- A value that is one of some names. -/
def oneOf {α : Type} (choices : List (String × α)) : Option ValueKind :=
  some (.choice (choices.map (·.1)))

/-- The options that only this command knows. -/
def ownOptions : CommandName → List OptionRule
  | .search =>
      [{ name := "method", letter := some 'm', value := oneOf methods },
        { name := "order", letter := some 'o', value := oneOf orders },
        { name := "group", letter := some 'g' },
        { name := "box", letter := some 'b', value := some .text, repeats := true },
        { name := "path", letter := some 'p', value := some .text, repeats := true },
        { name := "type", letter := some 't', value := some .text, repeats := true },
        { name := "limit", letter := some 'n', value := some .count },
        { name := "case-sensitive" }, jsonRule]
  | .embed =>
      [{ name := "exclude", letter := some 'x', value := some .text, repeats := true },
        { name := "heading-mode", value := oneOf headingModes }, { name := "breadcrumb" },
        jsonRule]
  | .refs => [jsonRule]
  | .replace =>
      [{ name := "id", value := some .text, repeats := true }, { name := "regex" }, jsonRule]
  | .highlight => [{ name := "preview" }, jsonRule]
  | .index | .config => []

/-- The greatest number of operands, if there is one. -/
def mostOperands : CommandName → Option Nat
  | .search => some 1
  | .embed | .replace => some 2
  | .refs => some 3
  | .highlight => none
  | .index | .config => some 0

/-- What a command knows. -/
def grammar (name : CommandName) : Grammar := ⟨name.ownOptions ++ sharedOptions, name.mostOperands⟩

/-- The choice that an option names, or else the first one. -/
def chosen
    {α : Type}
    (arguments : Arguments)
    (option : String)
    (choices : List (String × α))
    (default : α) : α :=
  (((arguments.value? option).bind fun name => choices.find? (·.1 == name)).map (·.2)).getD default

/-- The search that arguments ask for. -/
def searchCommand (arguments : Arguments) (query : String) : Command :=
  let types := arguments.values "type"
  .search
    { query
      method := chosen arguments "method" methods .keyword
      boxes := arguments.values "box"
      paths := arguments.values "path"
      types := if types.isEmpty then none else some (types.map fun type => (type, true))
      order := chosen arguments "order" orders .type
      grouping := if arguments.has "group" then .document else .none }
    ((arguments.value? "limit").bind count?)
    (arguments.has "case-sensitive")
    (arguments.has "json")

/-- The embed that arguments ask for. -/
def embedCommand (arguments : Arguments) (id statement : String) : Command :=
  .embed
    { id
      statement
      excluded := arguments.values "exclude"
      heading := chosen arguments "heading-mode" headingModes .withSection
      breadcrumb := arguments.has "breadcrumb" }
    (arguments.has "json")

/-- The replacement that arguments ask for. -/
def replaceCommand (arguments : Arguments) (keyword replacement : String) : Command :=
  .replace
    { keyword
      replacement
      ids := arguments.values "id"
      method := if arguments.has "regex" then .regex else .keyword }
    (arguments.has "json")

/-- The command that arguments ask for, if nothing is missing. -/
def command? (name : CommandName) (arguments : Arguments) : Option Command :=
  let json := arguments.has "json"
  match name, arguments.operands with
  | .search, [query] => some (searchCommand arguments query)
  | .embed, [id, statement] => some (embedCommand arguments id statement)
  | .refs, [id, rootId] => some (.references id rootId "" json)
  | .refs, [id, rootId, keyword] => some (.references id rootId keyword json)
  | .replace, [keyword, replacement] =>
      if arguments.has "id" then some (replaceCommand arguments keyword replacement) else none
  | .highlight, rootId :: keyword :: keywords =>
      some (.highlight rootId (keyword :: keywords) (arguments.has "preview") json)
  | .index, [] => some .index
  | .config, [] => some .config
  | _, _ => none

/-- The invocation of a command with the arguments behind its name. -/
def invocation (name : CommandName) (texts : List String) : Except Refusal Invocation := do
  let arguments ← Arguments.read name.grammar texts
  match name.command? arguments with
  | some command => .ok ⟨arguments.value? "database", arguments.value? "trees", command⟩
  | none => .error .missing

end CommandName

namespace Invocation

/-- What is known before the name of a command. -/
def grammar : Grammar := { options := CommandName.sharedOptions }

/-- The word that asks for help as a command. -/
def helpName : String := "help"

/-- Whether a word names a command, or asks for help. -/
def isCommandName (text : String) : Bool :=
  text == helpName || (CommandName.ofString? text).isSome

/-- How a question for help with some words is refused. -/
def helpRefusal : List String → Refusal
  | [] => .help
  | [name] => if isCommandName name then .help else .unknownCommand
  | _ => .unknownCommand

/-- Why an argument that is neither option nor command is refused. -/
def operandRefusal (arguments : Arguments) (text : String) : Refusal :=
  if arguments.onlyOperands && isCommandName text then .unknown else .unknownCommand

/-- Whether an argument may be the name of a command. -/
def expectsCommand (arguments : Arguments) : Bool :=
  !arguments.onlyOperands &&
    match arguments.waiting with
    | some (_, none) => false
    | _ => true

/-- Whether an argument is taken for an operand. -/
def isOperand (arguments : Arguments) (text : String) : Bool :=
  arguments.onlyOperands ||
    match text.toList with
    | '-' :: _ :: _ => false
    | _ => expectsCommand arguments

/-- An invocation with the places that are given before its command, if none are given behind. -/
def withPlaces (invocation : Invocation) (arguments : Arguments) : Invocation :=
  { invocation with
    database := invocation.database <|> arguments.value? "database"
    trees := invocation.trees <|> arguments.value? "trees" }

/-- The end of the arguments without a command. -/
def withoutCommand (arguments : Arguments) : Except Refusal Invocation := do
  let arguments ← arguments.settle
  .error (if arguments.options.isEmpty then .nothing else .noCommand)

/-- The invocation that arguments make, behind those read so far. -/
def readFrom (arguments : Arguments) : List String → Except Refusal Invocation
  | [] => withoutCommand arguments
  | text :: texts =>
      if expectsCommand arguments && text == helpName then .error (helpRefusal texts)
      else
        match expectsCommand arguments, CommandName.ofString? text with
        | true, some name => do
            let invocation ← name.invocation texts
            .ok (invocation.withPlaces (← arguments.settle))
        | _, _ =>
            if isOperand arguments text then .error (operandRefusal arguments text)
            else do readFrom (← Arguments.step grammar arguments text) texts

/-- The invocation that arguments make. -/
def ofArguments (texts : List String) : Except Refusal Invocation := readFrom {} texts

end Invocation
end BlockSearch
