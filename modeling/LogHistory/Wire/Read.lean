import LogHistory.Text.Utf8

/-!
# Reading bytes

A reader stands at an offset in a byte string. Each read takes a fixed count of bytes; a read that
does not fit, and a length that cannot be one, puts the reader at fault. The first fault stays: from
then on every read yields the value of no bytes at all (zero, false, absent) and the reader no
longer moves. So a decoder is written as if nothing could fail, and whether it did is asked once at
the end, by `decodeWith`.

Numbers are little-endian. Texts and byte strings carry a signed 32-bit length in front, of which -1
means that they are absent.
-/

namespace LogHistory

/-- Why bytes could not be decoded. -/
inductive DecodeError where
  /-- A read of `needed` bytes at `offset` went past the end. -/
  | unexpectedEnd (offset needed : Nat)
  /-- The length at `offset` is negative and not -1. -/
  | invalidLength (length : Int) (offset : Nat)
  deriving DecidableEq, Repr

/-- The wording of the error. -/
def DecodeError.message : DecodeError → String
  | unexpectedEnd offset needed =>
    "unexpected end of data at offset " ++ toString offset ++ " (needed " ++ toString needed
      ++ " more bytes)"
  | invalidLength length offset =>
    "invalid length prefix " ++ toString length ++ " at offset " ++ toString offset

/-- A place in a byte string, with the first fault met on the way there. -/
structure Reader where
  /-- The bytes from the place on. -/
  unread : Bytes
  /-- How many bytes come before it. -/
  offset : Nat
  /-- What went wrong first, if anything did. -/
  fault : Option DecodeError
  deriving DecidableEq, Repr

/-- A reader at the start of a byte string. -/
def Reader.start (data : Bytes) : Reader := ⟨data, 0, none⟩

/-- A step that reads a value and moves the reader on. -/
abbrev Read := StateM Reader

namespace Read

/-- The next `n` bytes; none of them if there are fewer. -/
def take (n : Nat) : Read Bytes := fun r =>
  match r.fault with
  | some _ => ([], r)
  | none =>
    if n ≤ r.unread.length then
      (r.unread.take n, ⟨r.unread.drop n, r.offset + n, none⟩)
    else ([], { r with fault := some (.unexpectedEnd r.offset n) })

/-- Passes over `n` bytes. -/
def skip (n : Nat) : Read Unit := do
  let _ ← take n

/-- Whether the reader is at fault. -/
def faulted : Read Bool := fun r => (r.fault.isSome, r)

/-- Where the reader stands. -/
def place : Read Nat := fun r => (r.offset, r)

/-- Puts the reader at fault, unless it is already. -/
def fail (e : DecodeError) : Read Unit := fun r => ((), { r with fault := r.fault <|> some e })

/-- A number of `w` bytes. -/
def number (w : Nat) : Read Nat := do
  return LittleEndian.decode (← take w)

/-- A byte. -/
def byte : Read UInt8 := do
  return UInt8.ofNat (← number 1)

/-- A truth value; any byte but zero is true. -/
def flag : Read Bool := do
  return (← byte) != 0

/-- A signed byte. -/
def int8 : Read Int8 := do
  return (← byte).toInt8

/-- A word of two bytes. -/
def uint16 : Read UInt16 := do
  return UInt16.ofNat (← number 2)

/-- A signed word of two bytes. -/
def int16 : Read Int16 := do
  return (← uint16).toInt16

/-- A word of four bytes. -/
def uint32 : Read UInt32 := do
  return UInt32.ofNat (← number 4)

/-- A signed word of four bytes. -/
def int32 : Read Int32 := do
  return (← uint32).toInt32

/-- A word of eight bytes. -/
def uint64 : Read UInt64 := do
  return UInt64.ofNat (← number 8)

/-- A signed word of eight bytes. -/
def int64 : Read Int64 := do
  return (← uint64).toInt64

/-- A length; absent for -1 and at fault. -/
def length? : Read (Option Nat) := do
  let offset ← place
  let n ← int32
  if (← faulted) || n.toInt = -1 then return none
  else if n.toInt < 0 then
    fail (.invalidLength n.toInt offset)
    return none
  else return some n.toInt.toNat

/-- A byte string with its length in front. -/
def byteString? : Read (Option Bytes) := do
  match ← length? with
  | none => return none
  | some n =>
    let bs ← take n
    if ← faulted then return none else return some bs

/-- A text with its length in front. -/
def text? : Read (Option String) := do
  return (← byteString?).map Utf8.decode

/-- A text with its length in front; absent counts as empty. -/
def text : Read String := do
  return (← text?).getD ""

end Read

/-- Reads a value from the start of a byte string: the value and how many bytes it took, or the
first fault. -/
def decodeWith {α : Type} (p : Read α) (data : Bytes) : Except DecodeError (α × Nat) :=
  let (a, r) := p (Reader.start data)
  match r.fault with
  | some e => .error e
  | none => .ok (a, r.offset)

/-- Reads at most `n` values one after another, until the bytes end or one cannot be read. -/
def decodeUpTo {α : Type} (read : Bytes → Except DecodeError (α × Nat)) :
    Nat → Bytes → List (Except DecodeError (α × Nat))
  | 0, _ => []
  | _ + 1, [] => []
  | n + 1, b :: bs =>
    match read (b :: bs) with
    | .error e => [.error e]
    | .ok (a, consumed) => .ok (a, consumed) :: decodeUpTo read n ((b :: bs).drop consumed)

end LogHistory
