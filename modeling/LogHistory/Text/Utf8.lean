import LogHistory.Bytes.LittleEndian

/-!
# Text as UTF-8

Text goes onto the wire as UTF-8. Coming back, bytes that are not UTF-8 never fail: each longest
piece that starts a character and cannot be finished, and each byte that starts none, becomes one
replacement character U+FFFD.

## The model

Reading is a machine that sees one byte at a time. Its state is the character under way, if any
(`Partial`): the bits gathered so far, how many bytes are missing, and the range the next byte must
lie in. The range shuts out overlong forms, surrogates and values past U+10FFFF at the second byte,
which is what makes the replaced pieces as long as possible.
-/

namespace LogHistory.Utf8

/-- The UTF-8 form of a text. -/
def encode (s : String) : Bytes :=
  s.toList.flatMap String.utf8EncodeChar

/-- What stands for bytes that are no text. -/
def replacement : Char := '\uFFFD'

/-- A character of which at least the first byte has been read. -/
structure Partial where
  /-- The bits gathered so far. -/
  bits : Nat
  /-- How many bytes are missing besides the next one. -/
  more : Nat
  /-- The least value the next byte may have. -/
  low : Nat
  /-- The greatest value the next byte may have. -/
  high : Nat
  deriving DecidableEq, Repr

/-- What a byte does where a character starts: the characters it completes and the one it opens. -/
def start (b : UInt8) : List Char × Option Partial :=
  let n := b.toNat
  if n < 0x80 then ([Char.ofNat n], none)
  else if n < 0xC2 then ([replacement], none)
  else if n < 0xE0 then ([], some ⟨n - 0xC0, 0, 0x80, 0xBF⟩)
  else if n = 0xE0 then ([], some ⟨0, 1, 0xA0, 0xBF⟩)
  else if n = 0xED then ([], some ⟨0xD, 1, 0x80, 0x9F⟩)
  else if n < 0xF0 then ([], some ⟨n - 0xE0, 1, 0x80, 0xBF⟩)
  else if n = 0xF0 then ([], some ⟨0, 2, 0x90, 0xBF⟩)
  else if n < 0xF4 then ([], some ⟨n - 0xF0, 2, 0x80, 0xBF⟩)
  else if n = 0xF4 then ([], some ⟨4, 2, 0x80, 0x8F⟩)
  else ([replacement], none)

/-- What a byte does in a state. A byte outside the range gives up the character under way and is
then looked at afresh. -/
def step : Option Partial → UInt8 → List Char × Option Partial
  | none, b => start b
  | some p, b =>
    if p.low ≤ b.toNat ∧ b.toNat ≤ p.high then
      let bits := 64 * p.bits + (b.toNat - 0x80)
      match p.more with
      | 0 => ([Char.ofNat bits], none)
      | more + 1 => ([], some ⟨bits, more, 0x80, 0xBF⟩)
    else
      let (cs, q) := start b
      (replacement :: cs, q)

/-- The characters read from a state on. A character still under way at the end is replaced. -/
def decodeFrom : Option Partial → Bytes → List Char
  | none, [] => []
  | some _, [] => [replacement]
  | p, b :: bs =>
    let (cs, q) := step p b
    cs ++ decodeFrom q bs

/-- The text of a byte string, with U+FFFD for what is no UTF-8. -/
def decode (bs : Bytes) : String :=
  String.ofList (decodeFrom none bs)

end LogHistory.Utf8
