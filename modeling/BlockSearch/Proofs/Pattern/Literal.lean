import BlockSearch.Pattern.Match
import BlockSearch.Proofs.Mark.Segmentation
import BlockSearch.Proofs.Text.Folding
import BlockSearch.Proofs.Text.Occurrence

/-!
# Patterns of words

An escaped word is read as the literal of that word, whatever characters it holds, and escaped
words with bars between them are read as alternatives. A literal goes over the characters of its
word, or over letters that are the same up to case when a switch asks for that, so it is found in
exactly those texts that have the word as an infix.
-/

namespace BlockSearch
namespace Pattern

/-- The pattern of exactly one text, with the switches that hold. -/
def literalWith (switches : Switches) (text : List Char) : Pattern :=
  sequence (text.map fun c => .one (Reader.literalSet switches c))

/-- The first of some patterns, or else the next one. -/
def anyOf : List Pattern → Pattern
  | [] => .empty
  | [pattern] => pattern
  | pattern :: next :: patterns => .alt pattern (anyOf (next :: patterns))

theorem length_le_length_escape (text : List Char) : text.length ≤ (escape text).length := by
  induction text with
  | nil => exact Nat.le_refl _
  | cons c text inductionHypothesis =>
      rw [escape, List.flatMap_cons, List.length_append, List.length_cons, ← escape]
      split <;> simp <;> omega

/-! ## Reading escaped words -/

namespace Reader

variable {state : ReaderState} {c : Char}

theorem bind_apply
    {α β : Type}
    (first : Reader α)
    (second : α → Reader β)
    (state : ReaderState) :
    (first >>= second) state =
      (first state).bind fun result => second result.1 result.2 := rfl

theorem metaChars_ascii (special : c ∈ metaChars) :
    (c.toNat < 128 && !c.isAlphanum) = true ∧ c ≠ '<' ∧ c ≠ '>' := by
  have all : (metaChars.all fun d => d.toNat < 128 && !d.isAlphanum && d != '<' && d != '>') =
      true := by decide
  simpa [and_assoc] using List.all_eq_true.1 all c special

/-- Unless a switch asks for it, no character is left out. -/
theorem space_eq
    (dense : state.switches.verbose = false)
    (rest : List Char) :
    space { state with rest } = some ((), { state with rest }) := by
  rw [space, dense]
  rfl

/-- Behind a backslash, a character with a meaning stands for itself. -/
theorem escaped_of_mem_metaChars
    (special : c ∈ metaChars)
    (state : ReaderState)
    (rest : List Char) :
    escaped { state with rest := c :: rest } = some (.char c, { state with rest }) := by
  obtain ⟨ascii, less, greater⟩ := metaChars_ascii special
  have noLetter : ∀ d : Char, d.isAlphanum = true → c ≠ d := by
    rintro d letter rfl
    simp [letter] at ascii
  have taken : next { state with rest := c :: rest } = some (c, { state with rest }) := rfl
  rw [escaped, bind_apply, taken, Option.bind_some]
  dsimp only
  split
  all_goals try exact absurd rfl (noLetter _ (by decide))
  · contradiction
  · contradiction
  · rw [if_pos ascii]
    rfl

theorem branch_of_mem_metaChars
    (special : c ∈ metaChars)
    (dense : state.switches.verbose = false)
    (rest : List Char)
    (fuel : Nat)
    (items : Items) :
    branch (fuel + 1) items { state with rest := '\\' :: c :: rest } =
      branch fuel (some (.one (literalSet state.switches c)) :: items) { state with rest } := by
  rw [branch, bind_apply, space_eq dense]
  exact congrArg
    (Option.bind · fun result =>
      branch fuel (some (ofEscaped result.2.switches result.1) :: items) result.2)
    (escaped_of_mem_metaChars special state rest)

theorem branch_of_notMem_metaChars
    (ordinary : c ∉ metaChars)
    (dense : state.switches.verbose = false)
    (rest : List Char)
    (fuel : Nat)
    (items : Items) :
    branch (fuel + 1) items { state with rest := c :: rest } =
      branch fuel (some (.one (literalSet state.switches c)) :: items) { state with rest } := by
  have other (d : Char) (special : d ∈ metaChars) : c ≠ d :=
    fun same => ordinary (same ▸ special)
  obtain ⟨bar, closing, opening, bracket, asterisk, sign, mark, brace, backslash⟩ :
      c ≠ '|' ∧ c ≠ ')' ∧ c ≠ '(' ∧ c ≠ '[' ∧ c ≠ '*' ∧ c ≠ '+' ∧ c ≠ '?' ∧ c ≠ '\x7b' ∧
        c ≠ '\\' := by
    refine ⟨?_, ?_, ?_, ?_, ?_, ?_, ?_, ?_, ?_⟩ <;> exact other _ (by decide)
  obtain ⟨caret, dollar, dot⟩ : c ≠ '^' ∧ c ≠ '$' ∧ c ≠ '.' := by
    refine ⟨?_, ?_, ?_⟩ <;> exact other _ (by decide)
  have item : simple state.switches c = .one (literalSet state.switches c) := by
    simp only [simple]
  have first : peek? { state with rest := c :: rest } =
      some (some c, { state with rest := c :: rest }) := rfl
  have taken : next { state with rest := c :: rest } = some (c, { state with rest }) := rfl
  have held : switches { state with rest } = some (state.switches, { state with rest }) := rfl
  -- The characters that a branch treats in a way of their own are excluded by the facts above.
  simp only [branch, bind_apply, space_eq dense, first, taken, held, Option.bind_some, item]

/-- A branch reads an escaped word one character after the other, up to a bar or the end. -/
theorem branch_escape
    (dense : state.switches.verbose = false)
    {behind : List Char}
    (stops : behind = [] ∨ ∃ more, behind = '|' :: more)
    (word : List Char)
    (spare : Nat)
    (items : Items) :
    branch (word.length + spare + 1) items { state with rest := escape word ++ behind } =
      some (close ((word.map fun c => some (.one (literalSet state.switches c))).reverse ++ items),
        { state with rest := behind }) := by
  induction word generalizing items with
  | nil =>
      rw [escape, List.flatMap_nil, List.nil_append, branch, bind_apply, space_eq dense]
      rcases stops with rfl | ⟨more, rfl⟩ <;> rfl
  | cons c word inductionHypothesis =>
      have step :
          branch ((c :: word).length + spare + 1) items
              { state with rest := escape (c :: word) ++ behind } =
            branch (word.length + spare + 1) (some (.one (literalSet state.switches c)) :: items)
              { state with rest := escape word ++ behind } := by
        have more : (c :: word).length + spare + 1 = (word.length + spare + 1) + 1 := by
          simp only [List.length_cons]
          omega
        rw [more]
        by_cases special : c ∈ metaChars
        · have spelled : escape (c :: word) ++ behind = '\\' :: c :: (escape word ++ behind) := by
            simp [escape, special]
          rw [spelled, branch_of_mem_metaChars special dense]
        · have spelled : escape (c :: word) ++ behind = c :: (escape word ++ behind) := by
            simp [escape, special]
          rw [spelled, branch_of_notMem_metaChars special dense]
      rw [step, inductionHypothesis]
      simp

theorem branch_eq_literalWith
    (dense : state.switches.verbose = false)
    {behind : List Char}
    (stops : behind = [] ∨ ∃ more, behind = '|' :: more)
    {word : List Char}
    {fuel : Nat}
    (enough : word.length < fuel) :
    branch fuel [] { state with rest := escape word ++ behind } =
      some (literalWith state.switches word, { state with rest := behind }) := by
  obtain ⟨spare, rfl⟩ := Nat.exists_eq_add_of_lt enough
  rw [branch_escape dense stops]
  simp [close, literalWith, List.filterMap_map]

/-- Escaped words with bars between them are alternatives. -/
theorem alternatives_escape
    (state : ReaderState)
    (dense : state.switches.verbose = false)
    {words : List (List Char)}
    (nonempty : words ≠ [])
    {fuel : Nat}
    (enough : (['|'].intercalate (words.map escape)).length + 1 < fuel) :
    alternatives fuel { state with rest := ['|'].intercalate (words.map escape) } =
      some (anyOf (words.map (literalWith state.switches)), { state with rest := [] }) := by
  induction words generalizing fuel with
  | nil => contradiction
  | cons word words inductionHypothesis =>
      obtain ⟨fuel, rfl⟩ : ∃ less, fuel = less + 1 := ⟨fuel - 1, by omega⟩
      have escapedLength := length_le_length_escape word
      cases words with
      | nil =>
          have spelled : ['|'].intercalate ([word].map escape) = escape word ++ [] := by
            simp
          rw [spelled, List.length_append] at enough
          rw [spelled, alternatives, bind_apply,
            branch_eq_literalWith dense (.inl rfl) (by omega), Option.bind_some]
          rfl
      | cons next words =>
          have spelled : ['|'].intercalate ((word :: next :: words).map escape) =
              escape word ++ '|' :: ['|'].intercalate ((next :: words).map escape) := by
            simp [List.intercalate_cons_cons]
          rw [spelled, List.length_append, List.length_cons] at enough
          have less : (['|'].intercalate ((next :: words).map escape)).length + 1 < fuel := by
            omega
          have later := inductionHypothesis (List.cons_ne_nil next words) less
          rw [spelled, alternatives, bind_apply,
            branch_eq_literalWith dense (.inr ⟨_, rfl⟩) (by omega), Option.bind_some]
          have taken : ∀ text : List Char, accept "|" { state with rest := '|' :: text } =
              some (true, { state with rest := text }) := fun _ => rfl
          dsimp only
          rw [bind_apply, taken, Option.bind_some, if_pos rfl, bind_apply, later]
          rfl

end Reader

/-- Escaped words with bars between them are the pattern of these words. -/
theorem readWith?_escape
    {switches : Switches}
    (dense : switches.verbose = false)
    {words : List (List Char)}
    (nonempty : words ≠ []) :
    readWith? switches (['|'].intercalate (words.map escape)) =
      some ⟨anyOf (words.map (literalWith switches)), []⟩ := by
  have enough : (['|'].intercalate (words.map escape)).length + 1 <
      4 * (['|'].intercalate (words.map escape)).length + 8 := by omega
  have whole := Reader.alternatives_escape { rest := [], switches } dense nonempty enough
  rw [readWith?, whole]
  rfl

/-- An escaped text is the pattern of that text and of no other. -/
theorem read?_escape (text : List Char) : read? (escape text) = some ⟨literal text, []⟩ := by
  have spelled : ['|'].intercalate ([text].map escape) = escape text := by simp
  rw [read?, ← spelled]
  exact readWith?_escape rfl (List.cons_ne_nil text [])

/-! ## Matching a literal -/

theorem holds_single (k c : Char) : (CharSet.single k).holds c = true ↔ k = c := by
  rw [CharSet.single, CharSet.holds, Bool.and_eq_true, decide_eq_true_eq, decide_eq_true_eq]
  exact ⟨fun held => Char.le_antisymm held.1 held.2, fun same => by simp [same]⟩

/-- The set of a letter holds the letters that are the same in a mode. -/
theorem holds_literalSet
    (mode : CaseMode)
    (k c : Char) :
    (Reader.literalSet { ignoreCase := mode == .insensitive } k).holds c = mode.same k c := by
  rw [Bool.eq_iff_iff, CaseMode.same, beq_iff_eq]
  cases mode with
  | sensitive => exact holds_single k c
  | insensitive =>
      have variants : ((Text.caseVariants c).any (CharSet.single k).holds) = true ↔
          k ∈ Text.caseVariants c := by
        simp [List.any_eq_true, holds_single]
      have held : (CharSet.folded (.single k)).holds c = true ↔
          k = c ∨ k ∈ Text.caseVariants c := by
        rw [CharSet.holds, Bool.or_eq_true, holds_single, variants]
      refine held.trans ?_
      rw [Text.mem_caseVariants_iff]
      exact or_iff_right_of_imp (congrArg Text.simpleFold)

/-- A pattern goes over the characters that a word has in a mode, and over nothing else. -/
structure Spells (mode : CaseMode) (pattern : Pattern) (word : List Char) : Prop where
  /-- Before the word, the only end is right behind it. -/
  reaches : ∀ cursor, mode.begins word cursor.rest = true →
    ∃ reached, pattern.ends cursor = [reached] ∧ reached.rest = cursor.rest.drop word.length
  /-- Elsewhere there is no end. -/
  stops : ∀ cursor, mode.begins word cursor.rest = false → pattern.ends cursor = []

namespace Spells

variable {mode : CaseMode} {first second pattern : Pattern} {left right word text : List Char}

theorem empty : Spells mode .empty [] where
  reaches cursor _ := ⟨cursor, rfl, rfl⟩
  stops _ elsewhere := absurd elsewhere (by simp [CaseMode.begins])

theorem one {set : CharSet} {k : Char} (holds : ∀ c, set.holds c = mode.same k c) :
    Spells mode (.one set) [k] where
  reaches cursor here := by
    obtain ⟨previous, rest, captures⟩ := cursor
    cases rest with
    | nil => contradiction
    | cons c rest =>
        have same : mode.same k c = true := by simpa [CaseMode.begins] using here
        exact ⟨⟨some c, rest, captures⟩, by simp [ends, holds, same], rfl⟩
  stops cursor elsewhere := by
    obtain ⟨previous, rest, captures⟩ := cursor
    cases rest with
    | nil => rfl
    | cons c rest =>
        have other : mode.same k c = false := by simpa [CaseMode.begins] using elsewhere
        simp [ends, holds, other]

theorem seq
    (before : Spells mode first left)
    (behind : Spells mode second right) :
    Spells mode (.seq first second) (left ++ right) where
  reaches cursor here := by
    rw [CaseMode.begins_append, Bool.and_eq_true] at here
    obtain ⟨middle, firstEnds, middleRest⟩ := before.reaches cursor here.1
    rw [← middleRest] at here
    obtain ⟨reached, secondEnds, reachedRest⟩ := behind.reaches middle here.2
    refine ⟨reached, ?_, ?_⟩
    · rw [ends, firstEnds]
      simp [secondEnds, distinct]
    · rw [reachedRest, middleRest, List.drop_drop, List.length_append]
  stops cursor elsewhere := by
    rw [CaseMode.begins_append] at elsewhere
    cases here : mode.begins left cursor.rest with
    | true =>
        obtain ⟨middle, firstEnds, middleRest⟩ := before.reaches cursor here
        have nowhere : second.ends middle = [] := by
          refine behind.stops middle ?_
          rwa [here, Bool.true_and, ← middleRest] at elsewhere
        rw [ends, firstEnds]
        simp [nowhere, distinct]
    | false =>
        rw [ends, before.stops cursor here]
        rfl

/-- The literal of a word goes over the word in the mode that its switch asks for. -/
theorem literalWith (mode : CaseMode) (word : List Char) :
    Spells mode (.literalWith { ignoreCase := mode == .insensitive } word) word := by
  induction word with
  | nil => exact empty
  | cons c word inductionHypothesis =>
      cases word with
      | nil => exact one (holds_literalSet mode c)
      | cons d word => exact (one (holds_literalSet mode c)).seq inductionHypothesis

theorem literal (text : List Char) : Spells .sensitive (.literal text) text :=
  literalWith .sensitive text

/-- A pattern that goes over a word matches where the word stands, and goes behind it. -/
theorem rest_of_matchAt?
    (spells : Spells mode pattern word)
    (cursor : Cursor) :
    (pattern.matchAt? cursor).map Cursor.rest =
      if mode.begins word cursor.rest then some (cursor.rest.drop word.length) else none := by
  cases here : mode.begins word cursor.rest with
  | true =>
      obtain ⟨reached, ends, rest⟩ := spells.reaches cursor here
      simp [matchAt?, ends, rest]
  | false => simp [matchAt?, spells.stops cursor here]

theorem isSome_matchAt?
    (spells : Spells mode pattern word)
    (cursor : Cursor) :
    (pattern.matchAt? cursor).isSome = mode.begins word cursor.rest := by
  rw [← Option.isSome_map, spells.rest_of_matchAt? cursor]
  cases mode.begins word cursor.rest <;> rfl

theorem findFrom?_isSome_iff
    (spells : Spells .sensitive pattern word)
    (previous : Option Char) :
    (pattern.findFrom? previous text).isSome ↔ word <:+: text := by
  induction text generalizing previous with
  | nil =>
      rw [findFrom?, Option.isSome_map, spells.isSome_matchAt?, CaseMode.begins_sensitive_iff,
        List.prefix_nil, List.infix_nil]
  | cons c text inductionHypothesis =>
      have here := spells.isSome_matchAt? ⟨previous, c :: text, []⟩
      rw [findFrom?, List.infix_cons_iff, ← CaseMode.begins_sensitive_iff, ← here]
      cases pattern.matchAt? ⟨previous, c :: text, []⟩ with
      | none => simpa using inductionHypothesis (some c)
      | some reached => simp

end Spells

/-- An escaped text occurs where the text itself stands, character by character. -/
theorem occursIn_escape_iff (word text : List Char) :
    occursIn (escape word) text = true ↔ word <:+: text := by
  rw [occursIn, read?_escape]
  exact (Spells.literal word).findFrom?_isSome_iff none

/-- Characters with a meaning in patterns lose it. -/
example : occursIn (escape "a.c".toList) "xabc".toList = false := by decide +kernel

end Pattern
end BlockSearch
