/-!
# Arguments of a command

Arguments are options and operands. An option begins with two hyphens and its name, or with a
hyphen and its letter; letters can be put together. Its value follows at once or as the next
argument. Two hyphens alone make all arguments behind them operands.
-/

namespace BlockSearch

/-- Why arguments are not run. -/
inductive Refusal
  /-- The user asks for help. -/
  | help
  /-- There are no arguments. -/
  | nothing
  /-- There is no command. -/
  | noCommand
  /-- There is no such command. -/
  | unknownCommand
  /-- An operand or option that a command needs is missing. -/
  | missing
  /-- There is no such option, or there are too many operands. -/
  | unknown
  /-- An option has none of its values. -/
  | invalidValue
  /-- The value of an option is no number. -/
  | noNumber
  /-- An option that takes no value has one. -/
  | surplusValue
  /-- An option is given twice. -/
  | repeated
  deriving DecidableEq, Repr

/-- The exit status of a refusal. -/
def Refusal.status : Refusal → Nat
  | .help => 0
  | _ => 2

/-- The message that tells a user about a refusal. -/
def Refusal.message : Refusal → String
  | .help => "usage: search, embed, refs, replace, highlight, index or config, with options"
  | .nothing | .noCommand => "error: a command is needed"
  | .unknownCommand => "error: unrecognized command"
  | .missing => "error: a required argument was not provided"
  | .unknown => "error: unexpected argument found"
  | .invalidValue => "error: invalid value for an option"
  | .noNumber => "error: the value of an option is not a number"
  | .surplusValue => "error: unexpected value for an option"
  | .repeated => "error: an option cannot be used multiple times"

/-- What the value of an option may be. -/
inductive ValueKind
  /-- Any text. -/
  | text
  /-- A text that is not empty. -/
  | path
  /-- A natural number that takes no more than 64 bits. -/
  | count
  /-- One of some names. -/
  | choice (names : List String)
  deriving DecidableEq, Repr

/-- The number that a value spells. -/
def count? (value : String) : Option Nat :=
  let digits := match value.toList with
    | '+' :: rest => rest
    | text => text
  if digits.isEmpty || !digits.all Char.isDigit then none
  else
    match (String.ofList digits).toNat? with
    | some n => if n < UInt64.size then some n else none
    | none => none

/-- Refuse a value that is not of a kind. -/
def ValueKind.check (kind : ValueKind) (value : String) : Except Refusal Unit :=
  match kind with
  | .text => .ok ()
  | .path => if value.isEmpty then .error .invalidValue else .ok ()
  | .count => if (count? value).isSome then .ok () else .error .noNumber
  | .choice names => if names.contains value then .ok () else .error .invalidValue

/-- An option that a command knows. -/
structure OptionRule where
  /-- The name. -/
  name : String
  /-- The letter. -/
  letter : Option Char := none
  /-- What its value may be, if it takes one. -/
  value : Option ValueKind := none
  /-- Whether it may be given more than once. -/
  repeats : Bool := false
  deriving DecidableEq, Repr

/-- What a command knows. -/
structure Grammar where
  /-- The options. -/
  options : List OptionRule
  /-- The greatest number of operands, if there is one. -/
  mostOperands : Option Nat := some 0
  deriving DecidableEq, Repr

/-- The option that asks for help. -/
def helpRule : OptionRule := { name := "help", letter := some 'h' }

/-- Arguments read so far. -/
structure Arguments where
  /-- The options with their values, in order; an option without value has an empty one. -/
  options : List (String × String) := []
  /-- The operands, in order. -/
  operands : List String := []
  /-- The option whose value comes next or was the last argument. -/
  waiting : Option (OptionRule × Option String) := none
  /-- Whether all that follow are operands. -/
  onlyOperands : Bool := false
  deriving DecidableEq, Repr, Inhabited

namespace Arguments

/-- Whether an option is given. -/
def has (arguments : Arguments) (name : String) : Bool := arguments.options.any (·.1 == name)

/-- The values of an option. -/
def values (arguments : Arguments) (name : String) : List String :=
  (arguments.options.filter (·.1 == name)).map (·.2)

/-- The value of an option. -/
def value? (arguments : Arguments) (name : String) : Option String :=
  (arguments.values name).getLast?

/-- Take an option with its value. -/
def give (arguments : Arguments) (rule : OptionRule) (value : String) : Except Refusal Arguments :=
  if rule == helpRule then .error .help
  else if arguments.has rule.name && !rule.repeats then .error .repeated
  else do
    (rule.value.getD .text).check value
    .ok { arguments with options := arguments.options ++ [(rule.name, value)] }

/-- Take the option that waits for its value; there must be one. -/
def settle (arguments : Arguments) : Except Refusal Arguments :=
  match arguments.waiting with
  | none => .ok arguments
  | some (_, none) => .error .invalidValue
  | some (rule, some value) => { arguments with waiting := none }.give rule value

/-- Take an option and the value that is attached to it. -/
def take
    (arguments : Arguments)
    (rule : OptionRule)
    (attached : Option String) : Except Refusal Arguments :=
  match rule.value, attached with
  | none, none => do (← arguments.settle).give rule ""
  | none, some _ => .error .surplusValue
  | some _, some value => do (← arguments.settle).give rule value
  | some _, none => do .ok { ← arguments.settle with waiting := some (rule, none) }

/-- Take an argument that begins with two hyphens, less these. -/
def takeLong
    (arguments : Arguments)
    (grammar : Grammar)
    (text : List Char) : Except Refusal Arguments :=
  let name := String.ofList (text.takeWhile (· != '='))
  let attached := match text.dropWhile (· != '=') with
    | [] => none
    | _ :: value => some (String.ofList value)
  match grammar.options.find? (·.name == name) with
  | some rule => arguments.take rule attached
  | none => .error .unknown

/-- A value that follows a letter at once; a sign of equality does not count. -/
def attachedValue (text : List Char) : String :=
  match text with
  | '=' :: value => String.ofList value
  | value => String.ofList value

/-- Take an argument that begins with one hyphen, less this. -/
def takeLetters
    (arguments : Arguments)
    (grammar : Grammar) : List Char → Except Refusal Arguments
  | [] => .ok arguments
  | letter :: rest =>
      match grammar.options.find? (·.letter == some letter) with
      | none => .error .unknown
      | some rule =>
          if rule.value.isSome then
            arguments.take rule (if rest.isEmpty then none else some (attachedValue rest))
          else do takeLetters (← arguments.take rule none) grammar rest

/-- Take an operand. -/
def takeOperand
    (arguments : Arguments)
    (grammar : Grammar)
    (text : String) : Except Refusal Arguments :=
  let surplus : Bool := match grammar.mostOperands with
    | some most => decide (most ≤ arguments.operands.length)
    | none => false
  if surplus then .error .unknown
  else do
    let arguments ← arguments.settle
    .ok { arguments with operands := arguments.operands ++ [text] }

/-- Take an argument. -/
def step (grammar : Grammar) (arguments : Arguments) (text : String) : Except Refusal Arguments :=
  if arguments.onlyOperands then arguments.takeOperand grammar text
  else
    match text.toList with
    | ['-', '-'] => .ok { arguments with onlyOperands := true }
    | '-' :: '-' :: rest => arguments.takeLong grammar rest
    | '-' :: c :: rest => arguments.takeLetters grammar (c :: rest)
    | _ =>
        match arguments.waiting with
        | some (rule, none) => .ok { arguments with waiting := some (rule, some text) }
        | _ => arguments.takeOperand grammar text

/-- Take all arguments. -/
def read (grammar : Grammar) (texts : List String) : Except Refusal Arguments := do
  (← texts.foldlM (step grammar) {}).settle

end Arguments
end BlockSearch
