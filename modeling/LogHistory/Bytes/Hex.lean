import LogHistory.Bytes.LittleEndian

/-!
# Hexadecimal text

Bytes are written as two lowercase digits each, high half first. Reading takes the bytes of a text
in pairs and accepts digits of either case; the first byte that is no digit is reported together
with its position.
-/

namespace LogHistory.Hex

/-- The lowercase hexadecimal digit of a number below sixteen. -/
def digit (n : Nat) : Char :=
  if n < 10 then Char.ofNat (48 + n) else Char.ofNat (87 + n)

/-- The two digits of a byte, high half first. -/
def ofByte (b : UInt8) : List Char :=
  [digit (b.toNat / 16), digit (b.toNat % 16)]

/-- The digits of a byte string. -/
def ofBytes (bs : Bytes) : String :=
  String.ofList (bs.flatMap ofByte)

/-- The `2 * w` digits of a number, most significant first. -/
def ofNat (w n : Nat) : String :=
  ofBytes (LittleEndian.encode w n).reverse

/-- The value of a digit of either case, given as an ASCII code. -/
def digitValue? (b : UInt8) : Option Nat :=
  if 48 ≤ b.toNat ∧ b.toNat ≤ 57 then some (b.toNat - 48)
  else if 97 ≤ b.toNat ∧ b.toNat ≤ 102 then some (b.toNat - 87)
  else if 65 ≤ b.toNat ∧ b.toNat ≤ 70 then some (b.toNat - 55)
  else none

/-- A byte that is no hexadecimal digit, with its position in the text. -/
structure BadDigit where
  /-- The offending byte. -/
  byte : UInt8
  /-- How many bytes come before it. -/
  position : Nat
  deriving DecidableEq, Repr

/-- The value of the digit at a position. -/
def digitAt (b : UInt8) (position : Nat) : Except BadDigit Nat :=
  match digitValue? b with
  | some v => .ok v
  | none => .error ⟨b, position⟩

/-- Reads pairs of digits from the given position on. A single byte left at the end is ignored, so
callers check that the length is even. -/
def decode : Nat → Bytes → Except BadDigit Bytes
  | position, hi :: lo :: rest => do
    let h ← digitAt hi position
    let l ← digitAt lo (position + 1)
    let bs ← decode (position + 2) rest
    return UInt8.ofNat (16 * h + l) :: bs
  | _, _ => .ok []

/-- Two digits make a byte. -/
theorem length_of_decode {position : Nat} {text bs : Bytes} (h : decode position text = .ok bs) :
    bs.length = text.length / 2 := by
  match text with
  | [] => cases h; rfl
  | [_] => cases h; simp
  | hi :: lo :: rest =>
    cases hh : digitAt hi position with
    | error e => simp [decode, hh, bind, Except.bind] at h
    | ok x =>
      cases hl : digitAt lo (position + 1) with
      | error e => simp [decode, hh, hl, bind, Except.bind] at h
      | ok y =>
        cases hr : decode (position + 2) rest with
        | error e => simp [decode, hh, hl, hr, bind, Except.bind] at h
        | ok tail =>
          simp only [decode, hh, hl, hr, bind, Except.bind, pure, Except.pure, Except.ok.injEq] at h
          subst h
          have := length_of_decode hr
          simp only [List.length_cons, this]
          omega
termination_by text.length

end LogHistory.Hex
