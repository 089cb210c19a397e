import BlockSearch.Json.Reader
import BlockSearch.Json.Value
import BlockSearch.Proofs.Json.Lexical
import Std.Data.String.ToNat

/-!
# Reading written values

A value whose numbers are natural numbers is read back from its text over several lines. The
proof goes through the tokens of the value: the text scans to them, and the reading machine
takes them to the value. The depth of a list or object is bounded by bounding its parts.
-/

namespace BlockSearch
namespace Json

/-- A value whose numbers are natural numbers. -/
inductive Plain : Json → Prop
  /-- The value `null`. -/
  | null : Plain .null
  /-- A truth value. -/
  | bool (value : Bool) : Plain (.bool value)
  /-- A natural number. -/
  | ofNat (n : Nat) : Plain (.ofNat n)
  /-- A text. -/
  | string (value : String) : Plain (.string value)
  /-- A list of such values. -/
  | array
      (items : List Json)
      (plain : ∀ item ∈ items, Plain item) : Plain (.array items)
  /-- An object of such values. -/
  | object
      (members : List (String × Json))
      (plain : ∀ member ∈ members, Plain member.2) : Plain (.object members)

mutual

/-- The tokens that spell a value. -/
def tokens : Json → List Token
  | .null => [.null]
  | .bool value => [.bool value]
  | .number literal => [.number literal]
  | .string value => [.string value]
  | .array [] => [.openArray, .closeArray]
  | .array (item :: items) => .openArray :: item.tokens ++ itemTokens items ++ [.closeArray]
  | .object [] => [.openObject, .closeObject]
  | .object ((name, value) :: members) =>
      .openObject :: .string name :: .colon :: value.tokens ++ memberTokens members ++
        [.closeObject]

/-- The tokens of the items behind the first one. -/
def itemTokens : List Json → List Token
  | [] => []
  | item :: items => .comma :: item.tokens ++ itemTokens items

/-- The tokens of the members behind the first one. -/
def memberTokens : List (String × Json) → List Token
  | [] => []
  | (name, value) :: members =>
      .comma :: .string name :: .colon :: value.tokens ++ memberTokens members

end

/-! ## From text to tokens -/

open Token (Scans Ends)

theorem Token.Scans.newLine
    {rest : List Char}
    {tokens : List Token}
    (scans : Scans rest tokens)
    (indent : Nat) :
    Scans (newLine indent ++ rest) tokens := by
  refine scans.spaces fun c member => ?_
  rcases List.mem_cons.1 member with rfl | member
  · rfl
  · rw [List.eq_of_mem_replicate member]
    rfl

theorem Token.Ends.newLine
    (indent : Nat)
    (rest : List Char) :
    Ends (newLine indent ++ rest) := by
  intro c first
  exact .inl (Option.some.inj first).symm

/-- What stands behind a value inside a list ends the value. -/
theorem Token.Ends.prettyItems
    {rest : List Char}
    (ends : Ends rest)
    (indent : Nat)
    (items : List Json) :
    Ends (prettyItems indent items ++ rest) := by
  cases items with
  | nil => exact ends
  | cons item items => exact fun c first => .inr (Option.some.inj first).symm

/-- What stands behind a value inside an object ends the value. -/
theorem Token.Ends.prettyMembers
    {rest : List Char}
    (ends : Ends rest)
    (indent : Nat)
    (members : List (String × Json)) :
    Ends (prettyMembers indent members ++ rest) := by
  cases members with
  | nil => exact ends
  | cons member members => exact fun c first => .inr (Option.some.inj first).symm

/-- The text of a value scans to its tokens wherever the value may stand. -/
def Spelled (json : Json) : Prop :=
  ∀ indent rest tokens, Ends rest → Scans rest tokens →
    Scans (json.prettyChars indent ++ rest) (json.tokens ++ tokens)

/-- The text behind a name scans to the tokens of a named value. -/
theorem Spelled.named
    {value : Json}
    (spelled : value.Spelled)
    (name : String)
    (indent : Nat)
    {rest : List Char}
    {tokens : List Token}
    (ends : Ends rest)
    (scans : Scans rest tokens) :
    Scans (quoted name ++ ([':', ' '] ++ (value.prettyChars indent ++ rest)))
      (.string name :: .colon :: (value.tokens ++ tokens)) := by
  have space := (spelled indent rest tokens ends scans).space ' ' rfl
  have colon := space.token ':' [] .colon rfl rfl
  exact colon.token '"' _ _ (Token.next?_quoted name _) rfl

theorem spelled_items
    {items : List Json}
    (spelled : ∀ item ∈ items, item.Spelled)
    (indent : Nat)
    {rest : List Char}
    {tokens : List Token}
    (ends : Ends rest)
    (scans : Scans rest tokens) :
    Scans (prettyItems indent items ++ rest) (itemTokens items ++ tokens) := by
  induction items with
  | nil => exact scans
  | cons item items inductionHypothesis =>
      have behind := inductionHypothesis fun other member =>
        spelled other (List.mem_cons_of_mem _ member)
      have value := spelled item List.mem_cons_self indent _ _
        (ends.prettyItems indent items) behind
      have comma := (value.newLine indent).token ',' [] .comma rfl rfl
      simpa [prettyItems, itemTokens] using comma

theorem spelled_members
    {members : List (String × Json)}
    (spelled : ∀ member ∈ members, member.2.Spelled)
    (indent : Nat)
    {rest : List Char}
    {tokens : List Token}
    (ends : Ends rest)
    (scans : Scans rest tokens) :
    Scans (prettyMembers indent members ++ rest) (memberTokens members ++ tokens) := by
  induction members with
  | nil => exact scans
  | cons member members inductionHypothesis =>
      obtain ⟨name, value⟩ := member
      have behind := inductionHypothesis fun other member =>
        spelled other (List.mem_cons_of_mem _ member)
      have named := (spelled (name, value) List.mem_cons_self).named name indent
        (ends.prettyMembers indent members) behind
      have comma := (named.newLine indent).token ',' [] .comma rfl rfl
      simpa [prettyMembers, memberTokens] using comma

/-- Every value with natural numbers scans to its tokens. -/
theorem Plain.spelled
    {json : Json}
    (plain : json.Plain) :
    json.Spelled := by
  induction plain with
  | null =>
      intro indent rest tokens ends scans
      exact scans.token 'n' ['u', 'l', 'l'] .null rfl rfl
  | bool value =>
      intro indent rest tokens ends scans
      cases value with
      | false => exact scans.token 'f' ['a', 'l', 's', 'e'] (.bool false) rfl rfl
      | true => exact scans.token 't' ['r', 'u', 'e'] (.bool true) rfl rfl
  | ofNat n =>
      intro indent rest tokens ends scans
      have digit : ∀ c ∈ (toString n).toList, c.isDigit = true := fun c member =>
        Nat.isDigit_of_mem_toDigits (by omega) (by omega) (Nat.toList_repr ▸ member)
      have first := Token.next?_toDigits n ends
      have text : (Json.ofNat n).prettyChars indent = (toString n).toList := rfl
      rw [text]
      cases digits : (toString n).toList with
      | nil =>
          have written : (toString n).toList = Nat.toDigits 10 n := Nat.toList_repr
          exact absurd (written.symm.trans digits) Nat.toDigits_ne_nil
      | cons c cs =>
          rw [digits] at first digit
          exact scans.token c cs _ first (Token.isSpace_of_isDigit (digit c List.mem_cons_self))
  | string value =>
      intro indent rest tokens ends scans
      exact scans.token '"' _ _ (Token.next?_quoted value rest) rfl
  | array items plain inductionHypothesis =>
      intro indent rest tokens ends scans
      have close := scans.token ']' [] .closeArray rfl rfl
      cases items with
      | nil => exact close.token '[' [] .openArray rfl rfl
      | cons item items =>
          have behind := spelled_items
            (fun other member => inductionHypothesis other (List.mem_cons_of_mem _ member))
            (indent + 1) (Ends.newLine indent _) (close.newLine indent)
          have value := inductionHypothesis item List.mem_cons_self (indent + 1) _ _
            ((Ends.newLine indent _).prettyItems (indent + 1) items) behind
          have whole := (value.newLine (indent + 1)).token '[' [] .openArray rfl rfl
          simpa [prettyChars, Json.tokens] using whole
  | object members plain inductionHypothesis =>
      intro indent rest tokens ends scans
      have close := scans.token '}' [] .closeObject rfl rfl
      cases members with
      | nil => exact close.token '{' [] .openObject rfl rfl
      | cons member members =>
          obtain ⟨name, value⟩ := member
          have behind := spelled_members
            (fun other member => inductionHypothesis other (List.mem_cons_of_mem _ member))
            (indent + 1) (Ends.newLine indent _) (close.newLine indent)
          have named := (inductionHypothesis (name, value) List.mem_cons_self).named name
            (indent + 1) ((Ends.newLine indent _).prettyMembers (indent + 1) members) behind
          have whole := (named.newLine (indent + 1)).token '{' [] .openObject rfl rfl
          simpa [prettyChars, Json.tokens] using whole

/-- The text of a value scans to its tokens. -/
theorem Plain.ofText?_prettyChars
    {json : Json}
    (plain : json.Plain) :
    Token.ofText? (json.prettyChars 0) = some json.tokens := by
  have scans := plain.spelled 0 [] [] (by intro c first; simp at first) Token.Scans.nil
  rw [List.append_nil, List.append_nil] at scans
  exact scans _ (Nat.le_refl _)

/-! ## From tokens to values -/

namespace Machine

@[simp] theorem run_cons
    (machine : Machine)
    (token : Token)
    (tokens : List Token) :
    machine.run (token :: tokens) = (machine.step token).bind (·.run tokens) := by
  simp [run, List.foldlM_cons]

/-- Where a value may stand, its tokens deliver it. -/
def Takes (json : Json) : Prop :=
  ∀ stack tokens, run ⟨stack, .value⟩ (json.tokens ++ tokens) = (deliver json stack).run tokens

/-- The first item of a list is taken as every other. -/
theorem run_firstItem
    (json : Json)
    (items : List Json)
    (stack : List Frame)
    (tokens : List Token) :
    run ⟨.array items :: stack, .firstItem⟩ (json.tokens ++ tokens) =
      run ⟨.array items :: stack, .value⟩ (json.tokens ++ tokens) := by
  cases json with
  | array inner => cases inner <;> rfl
  | object members => rcases members with _ | ⟨⟨name, value⟩, members⟩ <;> rfl
  | _ => rfl

theorem run_itemTokens
    {items : List Json}
    (takes : ∀ item ∈ items, Takes item)
    (read : List Json)
    (stack : List Frame)
    (tokens : List Token) :
    run ⟨.array read :: stack, .separator⟩ (itemTokens items ++ tokens) =
      run ⟨.array (items.reverse ++ read) :: stack, .separator⟩ tokens := by
  induction items generalizing read with
  | nil => rfl
  | cons item items inductionHypothesis =>
      have behind := inductionHypothesis
        (fun other member => takes other (List.mem_cons_of_mem _ member)) (item :: read)
      have first := takes item List.mem_cons_self (.array read :: stack)
        (itemTokens items ++ tokens)
      simpa [itemTokens, step, deliver] using first.trans (by simpa [deliver] using behind)

theorem run_memberTokens
    {members : List (String × Json)}
    (takes : ∀ member ∈ members, Takes member.2)
    (read : List (String × Json))
    (name : String)
    (stack : List Frame)
    (tokens : List Token) :
    ∃ last, run ⟨.object read name :: stack, .separator⟩ (memberTokens members ++ tokens) =
      run ⟨.object (members.reverse ++ read) last :: stack, .separator⟩ tokens := by
  induction members generalizing read name with
  | nil => exact ⟨name, rfl⟩
  | cons member members inductionHypothesis =>
      obtain ⟨next, value⟩ := member
      obtain ⟨last, behind⟩ := inductionHypothesis
        (fun other member => takes other (List.mem_cons_of_mem _ member)) ((next, value) :: read)
        next
      have first := takes (next, value) List.mem_cons_self (.object read next :: stack)
        (memberTokens members ++ tokens)
      refine ⟨last, ?_⟩
      simpa [memberTokens, step, deliver] using first.trans (by simpa [deliver] using behind)

end Machine

/-- The tokens of a value with natural numbers deliver it. -/
theorem Plain.takes
    {json : Json}
    (plain : json.Plain) :
    Machine.Takes json := by
  induction plain with
  | null => exact fun stack tokens => rfl
  | bool value => exact fun stack tokens => rfl
  | ofNat n => exact fun stack tokens => rfl
  | string value => exact fun stack tokens => rfl
  | array items plain inductionHypothesis =>
      intro stack tokens
      cases items with
      | nil => rfl
      | cons item items =>
          have first := inductionHypothesis item List.mem_cons_self (.array [] :: stack)
            (itemTokens items ++ .closeArray :: tokens)
          have behind := Machine.run_itemTokens
            (fun other member => inductionHypothesis other (List.mem_cons_of_mem _ member))
            [item] stack (.closeArray :: tokens)
          rw [← Machine.run_firstItem] at first
          have whole := first.trans behind
          simpa [Json.tokens, Machine.step, Machine.beginValue] using whole
  | object members plain inductionHypothesis =>
      intro stack tokens
      cases members with
      | nil => rfl
      | cons member members =>
          obtain ⟨name, value⟩ := member
          have first := inductionHypothesis (name, value) List.mem_cons_self
            (.object [] name :: stack) (memberTokens members ++ .closeObject :: tokens)
          obtain ⟨last, behind⟩ := Machine.run_memberTokens
            (fun other member => inductionHypothesis other (List.mem_cons_of_mem _ member))
            [(name, value)] name stack (.closeObject :: tokens)
          have whole := first.trans behind
          simpa [Json.tokens, Machine.step, Machine.beginValue] using whole

/-- A value with natural numbers is read back from its text. -/
theorem Plain.read?_pretty
    {json : Json}
    (plain : json.Plain) :
    read? json.pretty = some json := by
  have machine := plain.takes [] []
  rw [List.append_nil] at machine
  rw [read?, pretty, String.toList_ofList, plain.ofText?_prettyChars, Option.bind_some, ofTokens?,
    Machine.start, machine]
  rfl

/-! ## Numbers -/

/-- A natural number is read off the value that it is written as. -/
@[simp] theorem nat?_ofNat (n : Nat) : (ofNat n).nat? = some n := by
  have text : (toString n).toList = Nat.toDigits 10 n := Nat.toList_repr
  have digits : (toString n).toList.all Char.isDigit = true := by
    rw [text, List.all_eq_true]
    exact fun c member => Nat.isDigit_of_mem_toDigits (by omega) (by omega) member
  rw [ofNat, nat?, if_pos digits]
  exact Nat.toNat?_repr n

/-! ## Depth -/

theorem itemsDepth_le_iff
    {items : List Json}
    {bound : Nat} :
    itemsDepth items ≤ bound ↔ ∀ item ∈ items, item.depth ≤ bound := by
  induction items with
  | nil => simp [itemsDepth]
  | cons item items inductionHypothesis =>
      rw [itemsDepth, Nat.max_le, inductionHypothesis, List.forall_mem_cons]

theorem membersDepth_le_iff
    {members : List (String × Json)}
    {bound : Nat} :
    membersDepth members ≤ bound ↔ ∀ member ∈ members, member.2.depth ≤ bound := by
  induction members with
  | nil => simp [membersDepth]
  | cons member members inductionHypothesis =>
      obtain ⟨name, value⟩ := member
      rw [membersDepth, Nat.max_le, inductionHypothesis, List.forall_mem_cons]

/-- A list is as deep as its deepest item and one level more. -/
theorem depth_array_le_iff
    {items : List Json}
    {bound : Nat} :
    (array items).depth ≤ bound + 1 ↔ ∀ item ∈ items, item.depth ≤ bound := by
  rw [depth, Nat.add_le_add_iff_right, itemsDepth_le_iff]

/-- An object is as deep as its deepest member and one level more. -/
theorem depth_object_le_iff
    {members : List (String × Json)}
    {bound : Nat} :
    (object members).depth ≤ bound + 1 ↔ ∀ member ∈ members, member.2.depth ≤ bound := by
  rw [depth, Nat.add_le_add_iff_right, membersDepth_le_iff]

end Json
end BlockSearch
