/-!
# Decoding bytes

Bytes are read as UTF-8. Where they are not, the longest stretch that begins a character is
replaced by one replacement character, and so is a byte that begins none.
-/

namespace BlockSearch
namespace Text

/-- The character that stands for bytes that are no text. -/
def replacementChar : Char := '\ufffd'

/-- What may follow the first byte of a character of several bytes. -/
structure LeadByte where
  /-- The bits of the first byte that count. -/
  bits : Nat
  /-- The number of bytes that follow. -/
  following : Nat
  /-- The least value of the second byte. -/
  low : Nat
  /-- The greatest value of the second byte. -/
  high : Nat

/-- What may follow a byte, if it is the first of several. -/
def leadByte? (byte : Nat) : Option LeadByte :=
  if 0xC2 ≤ byte ∧ byte ≤ 0xDF then some ⟨byte - 0xC0, 1, 0x80, 0xBF⟩
  else if byte = 0xE0 then some ⟨0, 2, 0xA0, 0xBF⟩
  else if byte = 0xED then some ⟨0xD, 2, 0x80, 0x9F⟩
  else if 0xE1 ≤ byte ∧ byte ≤ 0xEF then some ⟨byte - 0xE0, 2, 0x80, 0xBF⟩
  else if byte = 0xF0 then some ⟨0, 3, 0x90, 0xBF⟩
  else if byte = 0xF4 then some ⟨4, 3, 0x80, 0x8F⟩
  else if 0xF1 ≤ byte ∧ byte ≤ 0xF3 then some ⟨byte - 0xF0, 3, 0x80, 0xBF⟩
  else none

/-- A decoder between two bytes: nothing, or a character of which some bytes are read. -/
inductive DecoderState
  /-- A character begins here. -/
  | start
  /-- A character whose value so far is `bits` and of which some bytes are missing. -/
  | inside (bits following low high : Nat)

/-- Read a byte at the start of a character. -/
def decodeFirst (byte : Nat) : DecoderState × List Char :=
  if byte < 0x80 then (.start, [Char.ofNat byte])
  else
    match leadByte? byte with
    | some lead => (.inside lead.bits lead.following lead.low lead.high, [])
    | none => (.start, [replacementChar])

/-- Read a byte. -/
def decodeStep (state : DecoderState) (byte : Nat) : DecoderState × List Char :=
  match state with
  | .start => decodeFirst byte
  | .inside bits following low high =>
      if low ≤ byte ∧ byte ≤ high then
        let bits := bits * 64 + (byte - 0x80)
        if following ≤ 1 then (.start, [Char.ofNat bits])
        else (.inside bits (following - 1) 0x80 0xBF, [])
      else
        let (state, chars) := decodeFirst byte
        (state, replacementChar :: chars)

/-- Read bytes. -/
def decodeFrom (state : DecoderState) : List UInt8 → List Char
  | [] =>
      match state with
      | .start => []
      | .inside .. => [replacementChar]
  | byte :: bytes =>
      let (state, chars) := decodeStep state byte.toNat
      chars ++ decodeFrom state bytes

/-- The text that bytes spell. -/
def decode (bytes : List UInt8) : List Char := decodeFrom .start bytes

end Text
end BlockSearch
