import LogHistory.Wire.Read

/-!
# Reading that stops at once

The layouts of the wire as a grammar that stops at the first read that does not fit and the first
length that cannot be one. Nothing is read after a fault, so a parser either yields a value and the
place where it ends, or the fault alone. It is the plain meaning of the layouts, which the reads
that carry on after a fault (`Read`) have to agree with.
-/

namespace LogHistory

/-- A place in a byte string. -/
structure Place where
  /-- The bytes from the place on. -/
  unread : Bytes
  /-- How many bytes come before it. -/
  offset : Nat
  deriving DecidableEq, Repr

/-- A step that reads a value and moves the place on, or stops. -/
abbrev Parser := StateT Place (Except DecodeError)

namespace Parser

/-- The next `n` bytes. -/
def take (n : Nat) : Parser Bytes := fun p =>
  if n ≤ p.unread.length then .ok (p.unread.take n, ⟨p.unread.drop n, p.offset + n⟩)
  else .error (.unexpectedEnd p.offset n)

/-- A number of `w` bytes, least significant first. -/
def number (w : Nat) : Parser Nat := LittleEndian.decode <$> take w

/-- A number of `w` bytes in two's complement. -/
def signed (w : Nat) : Parser Int :=
  (fun n : Nat => (n : Int).bmod (Nat.pow 256 w)) <$> number w

/-- A length; absent for -1. -/
def length? : Parser (Option Nat) := fun p => do
  let (n, q) ← signed 4 p
  if n = -1 then .ok (none, q)
  else if n < 0 then .error (.invalidLength n p.offset)
  else .ok (some n.toNat, q)

/-- A byte string with its length in front. -/
def byteString? : Parser (Option Bytes) := do
  match ← length? with
  | none => return none
  | some n => some <$> take n

/-- A text with its length in front. -/
def text? : Parser (Option String) := Option.map Utf8.decode <$> byteString?

/-- A text with its length in front; absent counts as empty. -/
def text : Parser String := (·.getD "") <$> text?

/-- Parses a value at the start of a byte string: the value and how many bytes it took. -/
def parse {α : Type} (p : Parser α) (data : Bytes) : Except DecodeError (α × Nat) :=
  (fun r : α × Place => (r.1, r.2.offset)) <$> p ⟨data, 0⟩

end Parser

end LogHistory
