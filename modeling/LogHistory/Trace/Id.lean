import LogHistory.Bytes.Hex
import LogHistory.Text.Quoted
import LogHistory.Text.Utf8

/-!
# Trace and span identifiers

A trace id has sixteen bytes; a span id is a 64-bit number, and zero means that there is none. Their
text is lowercase hexadecimal, most significant digit first, and empty when there is no span.
Reading takes digits of either case and exactly the right count of bytes; the empty text is read as
absent.
-/

namespace LogHistory

/-- The identity of a trace. -/
structure TraceId where
  /-- Its bytes, in the order of its hexadecimal text. -/
  bytes : Bytes
  /-- There are sixteen of them. -/
  length_eq : bytes.length = 16
  deriving DecidableEq, Repr

/-- Why a text is no identifier. -/
inductive HexError where
  /-- It has the wrong length, counted in bytes. -/
  | length (expected actual : Nat)
  /-- One of its bytes is no hexadecimal digit. -/
  | badDigit (digit : Hex.BadDigit)
  deriving DecidableEq, Repr

/-- The wording of the error. The offending byte is shown as the character of that code point. -/
def HexError.message : HexError → String
  | length expected actual =>
    "expected " ++ toString expected ++ " hex characters, got " ++ toString actual
  | badDigit digit =>
    "invalid hex: Invalid character " ++ Quoted.ofChar (Char.ofNat digit.byte.toNat)
      ++ " at position " ++ toString digit.position

namespace TraceId

/-- The trace id of sixteen zeros. -/
def zero : TraceId := ⟨List.replicate 16 0, by decide⟩

/-- The trace id of a word of four bytes, two of two, and eight bytes. -/
def ofWords (a : { bs : Bytes // bs.length = 4 }) (b c : { bs : Bytes // bs.length = 2 })
    (d : { bs : Bytes // bs.length = 8 }) : TraceId :=
  ⟨a.1 ++ b.1 ++ c.1 ++ d.1, by simp [a.2, b.2, c.2, d.2]⟩

/-- The text of a trace id beside a span id. -/
def hex (id : TraceId) (span : UInt64) : String :=
  if span = 0 then "" else Hex.ofBytes id.bytes

/-- Reads the text of a trace id. -/
def parse (s : String) : Except HexError (Option TraceId) :=
  let text := Utf8.encode s
  if text = [] then .ok none
  else if hlen : text.length = 32 then
    match h : Hex.decode 0 text with
    | .error digit => .error (.badDigit digit)
    | .ok bs => .ok (some ⟨bs, by rw [Hex.length_of_decode h, hlen]⟩)
  else .error (.length 32 text.length)

end TraceId

namespace SpanId

/-- The text of a span id. -/
def hex (span : UInt64) : String :=
  if span = 0 then "" else Hex.ofNat 8 span.toNat

/-- Reads the text of a span id; absent is zero. -/
def parse (s : String) : Except HexError UInt64 :=
  let text := Utf8.encode s
  if text = [] then .ok 0
  else if text.length = 16 then
    match Hex.decode 0 text with
    | .error digit => .error (.badDigit digit)
    | .ok bs => .ok (UInt64.ofNat (LittleEndian.decode bs.reverse))
  else .error (.length 16 text.length)

end SpanId

end LogHistory
