import BlockSearch.Pattern.Basic
import BlockSearch.Text.Hexadecimal

/-!
# Reading patterns

The text of a pattern: literals, sets, groups, repetitions, alternatives, places, and
switches that hold up to the end of the group they stand in.

Of the properties of characters the general categories are known, white space, ASCII, and the property
of all characters. Scripts and other properties are refused, and a pattern may have any size; so
nothing should be concluded from the fact that a pattern with a property has no reading here.
-/

namespace BlockSearch
namespace Pattern

/-- A pattern that was read, with the names of its groups. -/
structure Compiled where
  /-- The pattern. -/
  pattern : Pattern
  /-- The groups that have a name. -/
  names : List (String × Nat)
  deriving Repr, DecidableEq

/-- The switches that change what follows them. -/
structure Switches where
  /-- Letters are matched up to case. -/
  ignoreCase : Bool := false
  /-- Lines have starts and ends of their own. -/
  lines : Bool := false
  /-- A dot also matches the end of a line. -/
  dotAll : Bool := false
  /-- Repetitions are lazy unless marked. -/
  swapGreed : Bool := false
  /-- A carriage return ends a line too. -/
  returns : Bool := false
  /-- Blanks and comments are left out. -/
  verbose : Bool := false
  deriving Repr, DecidableEq

/-- What the reader knows at a place of the text. -/
structure ReaderState where
  /-- The text still to be read. -/
  rest : List Char
  /-- The switches that hold. -/
  switches : Switches := {}
  /-- The number of the next group. -/
  nextGroup : Nat := 1
  /-- The names of groups so far. -/
  names : List (String × Nat) := []

/-- A step of the reader, which may find that the text is no pattern. -/
abbrev Reader := StateT ReaderState Option

namespace Reader

/-- Give up. -/
def fail {α : Type} : Reader α := fun _ => none

/-- The text without leading blanks and comments. -/
def skipVerbose : (fuel : Nat) → List Char → List Char
  | 0, text => text
  | _ + 1, [] => []
  | fuel + 1, c :: rest =>
      if Text.isBlank c then skipVerbose fuel rest
      else if c = '#' then skipVerbose fuel ((rest.dropWhile (· != '\n')).drop 1)
      else c :: rest

/-- Leave out blanks and comments, when a switch asks for it. -/
def space : Reader Unit := fun state =>
  if state.switches.verbose then
    some ((), { state with rest := skipVerbose (state.rest.length + 1) state.rest })
  else some ((), state)

/-- The next character, which is not taken. -/
def peek? : Reader (Option Char) := fun state => some (state.rest.head?, state)

/-- The next two characters, which are not taken. -/
def peekTwo : Reader (List Char) := fun state => some (state.rest.take 2, state)

/-- Take a character. -/
def next : Reader Char := fun state =>
  match state.rest with
  | c :: rest => some (c, { state with rest })
  | [] => none

/-- Take a text if it comes next. -/
def accept (text : String) : Reader Bool := fun state =>
  if text.toList.isPrefixOf state.rest then
    some (true, { state with rest := state.rest.drop text.length })
  else some (false, state)

/-- Take a text, which has to come next. -/
def expect (text : String) : Reader Unit := do
  if ← accept text then pure () else fail

/-- Take the characters up to one of a kind. -/
def takeUntil (stop : Char → Bool) : Reader (List Char) := fun state =>
  some (state.rest.takeWhile fun c => !stop c,
    { state with rest := state.rest.dropWhile fun c => !stop c })

/-- Take exactly `count` characters. -/
def takeExactly (count : Nat) : Reader (List Char) := fun state =>
  if count ≤ state.rest.length then
    some (state.rest.take count, { state with rest := state.rest.drop count })
  else none

/-- The switches that hold here. -/
def switches : Reader Switches := fun state => some (state.switches, state)

/-- A character by its code point, with `digits` digits or in braces. -/
def hexChar (digits : Nat) : Reader Char := do
  let text ←
    if ← accept "\x7b" then do
      let text ← takeUntil (· = '}')
      expect "\x7d"
      pure text
    else takeExactly digits
  match (Text.hexNumber? text).bind Text.scalar? with
  | some c => pure c
  | none => fail

/-- What a backslash and the characters behind it mean. -/
inductive Escaped
  /-- A character. -/
  | char (c : Char)
  /-- A set of characters. -/
  | set (set : CharSet)
  /-- A place. -/
  | place (place : Place)

/-- The set that a property names. -/
def property? (name : List Char) : Option CharSet :=
  let plain := (name.filter fun c => c != ' ' && c != '_' && c != '-').map Char.toLower
  let plain := String.ofList plain
  let plain :=
    if plain.startsWith "gc=" then (plain.drop 3).toString
    else if plain.startsWith "generalcategory=" then (plain.drop 16).toString
    else plain
  match Text.Category.ofName? plain with
  | some category => some (.category category)
  | none =>
      match plain with
      | "whitespace" | "space" => some .blank
      | "any" => some (.complement .none)
      | "ascii" => some (.range '\x00' '\x7f')
      | _ => none

/-- The set that stands behind `\p` or `\P`. -/
def propertySet (negated : Bool) : Reader CharSet := do
  let name ←
    if ← accept "\x7b" then do
      let name ← takeUntil (· = '}')
      expect "\x7d"
      pure name
    else do
      let c ← next
      pure [c]
  let (inverted, name) := match name with
    | '^' :: rest => (true, rest)
    | _ => (false, name)
  match property? name with
  | some set => pure (if negated != inverted then .complement set else set)
  | none => fail

/-- The place that a name in braces behind `\b` means; anything else is not taken. -/
def wordPlace : Reader Place := do
  if ← accept "\x7bstart\x7d" then pure .wordStart
  else if ← accept "\x7bend\x7d" then pure .wordEnd
  else if ← accept "\x7bstart-half\x7d" then pure .wordStartHalf
  else if ← accept "\x7bend-half\x7d" then pure .wordEndHalf
  else pure .wordEdge

/-- The meaning of what stands behind a backslash. -/
def escaped : Reader Escaped := do
  let c ← next
  match c with
  | 'd' => pure (.set .digit)
  | 'D' => pure (.set (.complement .digit))
  | 's' => pure (.set .blank)
  | 'S' => pure (.set (.complement .blank))
  | 'w' => pure (.set .word)
  | 'W' => pure (.set (.complement .word))
  | 'p' => (.set ·) <$> propertySet false
  | 'P' => (.set ·) <$> propertySet true
  | 'x' => (.char ·) <$> hexChar 2
  | 'u' => (.char ·) <$> hexChar 4
  | 'U' => (.char ·) <$> hexChar 8
  | 'a' => pure (.char '\x07')
  | 'f' => pure (.char '\x0c')
  | 't' => pure (.char '\t')
  | 'n' => pure (.char '\n')
  | 'r' => pure (.char '\r')
  | 'v' => pure (.char '\x0b')
  | 'A' => pure (.place .textStart)
  | 'z' => pure (.place .textEnd)
  | 'b' => (.place ·) <$> wordPlace
  | 'B' => pure (.place .noWordEdge)
  | '<' => pure (.place .wordStart)
  | '>' => pure (.place .wordEnd)
  | c => if c.toNat < 128 && !c.isAlphanum then pure (.char c) else fail

/-- The set of one character, with its case variants when a switch asks for them. -/
def literalSet (switches : Switches) (c : Char) : CharSet :=
  if switches.ignoreCase then .folded (.single c) else .single c

/-- A character or a set inside brackets. -/
def setItem : Reader Escaped := do
  let c ← next
  if c = '\\' then escaped else pure (.char c)

/-- A range of characters or one item inside brackets. -/
def setRange : Reader CharSet := do
  let first ← setItem
  space
  let ahead ← peekTwo
  match first, ahead with
  | _, [] => fail
  | .char c, '-' :: rest =>
      if rest = [']'] || rest = ['-'] then pure (.single c)
      else do
        let _ ← next
        space
        match ← setItem with
        | .char last => if c ≤ last then pure (.range c last) else fail
        | _ => fail
  | .char c, _ => pure (.single c)
  | .set set, '-' :: rest => if rest = [']'] || rest = ['-'] then pure set else fail
  | .set set, _ => pure set
  | .place _, _ => fail

/-- A set of ASCII characters named inside brackets; nothing is taken if there is none. -/
def asciiSet? : Reader (Option CharSet) := fun state =>
  match state.rest with
  | '[' :: ':' :: rest =>
      let (negated, rest) := match rest with
        | '^' :: rest => (true, rest)
        | _ => (false, rest)
      match rest.dropWhile (· != ':') with
      | ':' :: ']' :: behind =>
          match CharSet.ofAsciiName? (String.ofList (rest.takeWhile (· != ':'))) with
          | some set =>
              some (some (if negated then .complement set else set), { state with rest := behind })
          | none => some (none, state)
      | _ => some (none, state)
  | _ => some (none, state)

/-- An operation between two sets inside brackets. -/
inductive SetOperation
  /-- What both sets hold. -/
  | inter
  /-- What only the left set holds. -/
  | minus
  /-- What exactly one set holds. -/
  | exclusive

/-- The result of an operation. -/
def SetOperation.apply : SetOperation → CharSet → CharSet → CharSet
  | .inter, left, right => .inter left right
  | .minus, left, right => .minus left right
  | .exclusive, left, right => .exclusive left right

/-- Add the set on the right of the last operation, if there is one. -/
def closeOperation (switches : Switches) (left : Option (CharSet × SetOperation))
    (items : CharSet) : CharSet :=
  let fold (set : CharSet) : CharSet := if switches.ignoreCase then .folded set else set
  match left with
  | some (left, operation) => operation.apply (fold left) (fold items)
  | none => items

/-- Dashes at the start of a set stand for themselves. -/
def leadingDashes : (fuel : Nat) → CharSet → Reader CharSet
  | 0, items => pure items
  | fuel + 1, items => do
      if ← accept "-" then do
        space
        leadingDashes fuel (.union items (.single '-'))
      else pure items

mutual

/-- A set, behind its opening bracket. -/
def bracketSet : (fuel : Nat) → Reader CharSet
  | 0 => fail
  | fuel + 1 => do
      space
      let negated ← accept "^"
      space
      let items ← leadingDashes fuel .none
      let items ←
        if items = .none then do
          if ← accept "]" then do
            space
            pure (.single ']')
          else pure items
        else pure items
      let set ← bracketItems fuel none items
      let set := if (← switches).ignoreCase then .folded set else set
      pure (if negated then .complement set else set)

/-- The items of a set up to its closing bracket. -/
def bracketItems : (fuel : Nat) → Option (CharSet × SetOperation) → CharSet → Reader CharSet
  | 0, _, _ => fail
  | fuel + 1, left, items => do
      space
      match ← peekTwo with
      | [] => fail
      | '[' :: _ =>
          match ← asciiSet? with
          | some set => bracketItems fuel left (.union items set)
          | none => do
              let _ ← next
              let set ← bracketSet fuel
              bracketItems fuel left (.union items set)
      | ']' :: _ => do
          let _ ← next
          pure (closeOperation (← switches) left items)
      | ['&', '&'] => bracketOperation fuel .inter left items
      | ['-', '-'] => bracketOperation fuel .minus left items
      | ['~', '~'] => bracketOperation fuel .exclusive left items
      | _ => do
          let set ← setRange
          bracketItems fuel left (.union items set)

/-- An operation and the items on its right. -/
def bracketOperation : (fuel : Nat) → SetOperation → Option (CharSet × SetOperation) →
    CharSet → Reader CharSet
  | 0, _, _, _ => fail
  | fuel + 1, operation, left, items => do
      let _ ← next
      let _ ← next
      bracketItems fuel (some (closeOperation (← switches) left items, operation)) .none

end

/-- The decimal number at the front, with blanks around it. -/
def decimal : Reader Nat := do
  let _ ← takeUntil fun c => !Text.isBlank c
  let digits ← takeUntil fun c => !c.isDigit
  let _ ← takeUntil fun c => !Text.isBlank c
  match (String.ofList digits).toNat? with
  | some n => if n < 4294967296 then pure n else fail
  | none => fail

/-- The bounds of a repetition, behind the opening brace. -/
def bounds : Reader (Nat × Option Nat) := do
  space
  let least ← decimal
  let most ←
    if ← accept "," then do
      space
      if (← peek?) = some '}' then pure none else (some ·) <$> decimal
    else pure (some least)
  space
  expect "\x7d"
  match most with
  | some most => if least ≤ most then pure (least, some most) else fail
  | none => pure (least, none)

/-- Read one switch by its letter. -/
def Switches.set (switches : Switches) (value : Bool) (c : Char) : Option Switches :=
  match c with
  | 'i' => some { switches with ignoreCase := value }
  | 'm' => some { switches with lines := value }
  | 's' => some { switches with dotAll := value }
  | 'U' => some { switches with swapGreed := value }
  | 'R' => some { switches with returns := value }
  | 'x' => some { switches with verbose := value }
  | 'u' => if value then some switches else none
  | _ => none

/-- Set the switches that letters name; each letter occurs once. -/
def applySwitches (switches : Switches) (on off : List Char) : Option Switches := do
  if !(on ++ off).isEmpty && (on ++ off).eraseDups.length = (on ++ off).length then
    let switches ← on.foldlM (fun switches c => Switches.set switches true c) switches
    off.foldlM (fun switches c => Switches.set switches false c) switches
  else none

/-- The switches in front of a group or in a group of their own. -/
def readSwitches (switches : Switches) (text : List Char) : Option Switches :=
  let on := text.takeWhile (· != '-')
  match text.dropWhile (· != '-') with
  | [] => applySwitches switches on []
  | _ :: off => if off.isEmpty || off.contains '-' then none else applySwitches switches on off

/-- Whether a text can be the name of a group. -/
def isGroupName (name : List Char) : Bool :=
  match name with
  | [] => false
  | c :: rest =>
      (c = '_' || Text.isLetter c) &&
        rest.all fun c =>
          c = '_' || c = '.' || c = '[' || c = ']' || Text.isLetter c ||
            Text.inRanges Text.numberRanges c

/-- How a group begins. -/
inductive GroupStart
  /-- A group that remembers its match. -/
  | capture
  /-- A group that remembers its match under a name. -/
  | named (name : String)
  /-- A group that only holds a pattern together. -/
  | plain
  /-- A group with switches of its own. -/
  | switched (switches : Switches)
  /-- Switches for the rest of the group around them. -/
  | switches (switches : Switches)

/-- The name of a group up to its closing bracket. -/
def groupName : Reader GroupStart := do
  let name ← takeUntil (· = '>')
  expect ">"
  if isGroupName name then pure (.named (String.ofList name)) else fail

/-- What stands behind the opening parenthesis of a group. -/
def groupStart : Reader GroupStart := do
  space
  if ← accept "?=" then fail
  else if ← accept "?!" then fail
  else if ← accept "?<=" then fail
  else if ← accept "?<!" then fail
  else if ← accept "?P<" then groupName
  else if ← accept "?<" then groupName
  else if ← accept "?" then do
    space
    let letters ← takeUntil fun c => c = ':' || c = ')'
    match ← peek? with
    | some ':' => do
        let _ ← next
        if letters.isEmpty then pure .plain
        else
          match readSwitches (← switches) letters with
          | some switches => pure (.switched switches)
          | none => fail
    | some ')' => do
        let _ ← next
        match readSwitches (← switches) letters with
        | some switches => pure (.switches switches)
        | none => fail
    | _ => fail
  else pure .capture

/-- The number for a new group. -/
def newGroup : Reader Nat := fun state =>
  some (state.nextGroup, { state with nextGroup := state.nextGroup + 1 })

/-- The number for a new group with a name of its own. -/
def newNamedGroup (name : String) : Reader Nat := fun state =>
  if state.names.any (·.1 == name) then none
  else
    some (state.nextGroup,
      { state with
          nextGroup := state.nextGroup + 1
          names := (name, state.nextGroup) :: state.names })

/-- Let other switches hold. -/
def setSwitches (switches : Switches) : Reader Unit := fun state =>
  some ((), { state with switches })

/-- The pattern of a single character that has a meaning of its own. -/
def simple (switches : Switches) (c : Char) : Pattern :=
  match c with
  | '^' => .place (if switches.lines then .lineStart switches.returns else .textStart)
  | '$' => .place (if switches.lines then .lineEnd switches.returns else .textEnd)
  | '.' =>
      if switches.dotAll then .one (.complement .none)
      else if switches.returns then
        .one (.complement (CharSet.ofRanges [('\r', '\r'), ('\n', '\n')]))
      else .one (.complement (.single '\n'))
  | c => .one (literalSet switches c)

/-- The pattern that an escape means. -/
def ofEscaped (switches : Switches) : Escaped → Pattern
  | .char c => .one (literalSet switches c)
  | .set (.category category) =>
      .one (if switches.ignoreCase then .folded (.category category) else .category category)
  | .set set => .one set
  | .place condition => .place condition

/-- The items read so far, last first; a switch is an item that cannot be repeated. -/
abbrev Items := List (Option Pattern)

/-- The pattern of the items. -/
def close (items : Items) : Pattern := sequence (items.reverse.filterMap id)

/-- Repeat the last item. -/
def repeatLast (items : Items) (least : Nat) (most : Option Nat) : Reader Items := do
  let lazy_ ← accept "?"
  let switches ← switches
  match items with
  | some last :: before =>
      pure (some (repeated (lazy_ == switches.swapGreed) last least most) :: before)
  | _ => fail

mutual

/-- Alternatives, up to the end of the group around them. -/
def alternatives : (fuel : Nat) → Reader Pattern
  | 0 => fail
  | fuel + 1 => do
      let first ← branch fuel []
      if ← accept "|" then do
        let second ← alternatives fuel
        pure (.alt first second)
      else pure first

/-- The items of one alternative. -/
def branch : (fuel : Nat) → Items → Reader Pattern
  | 0, _ => fail
  | fuel + 1, items => do
      space
      match ← peek? with
      | none => pure (close items)
      | some '|' => pure (close items)
      | some ')' => pure (close items)
      | some c => do
          let _ ← next
          match c with
          | '(' => do
              let item ← group fuel
              branch fuel (item :: items)
          | '[' => do
              let set ← bracketSet fuel
              branch fuel (some (.one set) :: items)
          | '*' => do
              let items ← repeatLast items 0 none
              branch fuel items
          | '+' => do
              let items ← repeatLast items 1 none
              branch fuel items
          | '?' => do
              let items ← repeatLast items 0 (some 1)
              branch fuel items
          | '{' => do
              let (least, most) ← bounds
              let items ← repeatLast items least most
              branch fuel items
          | '\\' => do
              let item ← escaped
              branch fuel (some (ofEscaped (← switches) item) :: items)
          | c => branch fuel (some (simple (← switches) c) :: items)

/-- A group behind its opening parenthesis; switches alone give no pattern. -/
def group : (fuel : Nat) → Reader (Option Pattern)
  | 0 => fail
  | fuel + 1 => do
      let outer ← switches
      match ← groupStart with
      | .switches inner => do
          setSwitches inner
          pure none
      | .capture => do
          let index ← newGroup
          some <$> groupBody fuel outer (.group index ·)
      | .named name => do
          let index ← newNamedGroup name
          some <$> groupBody fuel outer (.group index ·)
      | .plain => some <$> groupBody fuel outer id
      | .switched inner => do
          setSwitches inner
          some <$> groupBody fuel outer id

/-- The pattern inside a group, up to its closing parenthesis. -/
def groupBody : (fuel : Nat) → (outer : Switches) → (Pattern → Pattern) → Reader Pattern
  | 0, _, _ => fail
  | fuel + 1, outer, wrap => do
      let body ← alternatives fuel
      expect ")"
      setSwitches outer
      pure (wrap body)

end

end Reader

/-- The pattern that a text spells, with switches that hold from its start. -/
def readWith? (switches : Switches) (text : List Char) : Option Compiled :=
  match Reader.alternatives (4 * text.length + 8) { rest := text, switches } with
  | some (pattern, state) =>
      if state.rest.isEmpty then some ⟨pattern, state.names⟩ else none
  | none => none

/-- The pattern that a text spells. -/
def read? (text : List Char) : Option Compiled := readWith? {} text

end Pattern
end BlockSearch
