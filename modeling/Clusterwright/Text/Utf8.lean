/-!
# Text from bytes

`Utf8.scan` cuts a byte string into the characters it encodes and the pieces that encode none. A
piece is as long as the start of a character that it holds, so that each piece is replaced by one
mark. `decode?` accepts a byte string without such pieces; `decodeLossy` marks them.
-/

namespace Clusterwright

/-- Raw bytes, as files and tools hold them. -/
abbrev Bytes := List UInt8

namespace Utf8

/-- What the first byte of a character promises: the number of bytes that follow, the range of the
second byte, and the payload bits of the first. -/
structure Lead where
  following : Nat
  low : Nat
  high : Nat
  payload : Nat

/-- The promise of a first byte, or none if no character starts with it. The range of the second
byte leaves out overlong forms, surrogates and numbers past the last code point. -/
def Lead.of? (byte : Nat) : Option Lead :=
  if byte < 0x80 then some ⟨0, 0, 0, byte⟩
  else if byte < 0xC2 then none
  else if byte < 0xE0 then some ⟨1, 0x80, 0xBF, byte - 0xC0⟩
  else if byte = 0xE0 then some ⟨2, 0xA0, 0xBF, 0⟩
  else if byte = 0xED then some ⟨2, 0x80, 0x9F, 0xD⟩
  else if byte < 0xF0 then some ⟨2, 0x80, 0xBF, byte - 0xE0⟩
  else if byte = 0xF0 then some ⟨3, 0x90, 0xBF, 0⟩
  else if byte < 0xF4 then some ⟨3, 0x80, 0xBF, byte - 0xF0⟩
  else if byte = 0xF4 then some ⟨3, 0x80, 0x8F, 4⟩
  else none

/-- Reads the bytes that follow a first byte. The second byte must lie between `low` and `high`, the
later ones between 80 and BF (hexadecimal). -/
def continuation : Nat → Nat → Nat → Nat → Bytes → Option Nat × Bytes
  | 0, _, _, code, rest => (some code, rest)
  | _ + 1, _, _, _, [] => (none, [])
  | n + 1, low, high, code, byte :: rest =>
    if low ≤ byte.toNat ∧ byte.toNat ≤ high then
      continuation n 0x80 0xBF (code * 64 + (byte.toNat - 0x80)) rest
    else (none, byte :: rest)

theorem continuation_length_le (n low high code : Nat) (rest : Bytes) :
    (continuation n low high code rest).2.length ≤ rest.length := by
  induction n generalizing low high code rest with
  | zero => simp [continuation]
  | succ n ih =>
    cases rest with
    | nil => simp [continuation]
    | cons byte rest =>
      by_cases h : low ≤ byte.toNat ∧ byte.toNat ≤ high
      · simp only [continuation, if_pos h, List.length_cons]
        exact Nat.le_succ_of_le (ih _ _ _ _)
      · simp [continuation, if_neg h]

/-- The characters of a byte string; `none` stands for a piece that encodes no character. -/
def scan : Bytes → List (Option Char)
  | [] => []
  | byte :: rest =>
    match Lead.of? byte.toNat with
    | none => none :: scan rest
    | some lead =>
      let found := continuation lead.following lead.low lead.high lead.payload rest
      found.1.map Char.ofNat :: scan found.2
termination_by bytes => bytes.length
decreasing_by
  · simp
  · exact Nat.lt_succ_of_le (continuation_length_le ..)

/-- The text that a byte string encodes, if it encodes one. -/
def decode? (bytes : Bytes) : Option String :=
  ((scan bytes).mapM id).map String.ofList

/-- The text of a byte string, with the replacement character for each piece that encodes none. -/
def decodeLossy (bytes : Bytes) : String :=
  String.ofList ((scan bytes).map (·.getD '\uFFFD'))

/-- The bytes that encode a text. -/
def encode (text : String) : Bytes := text.toUTF8.toList

end Utf8

end Clusterwright
