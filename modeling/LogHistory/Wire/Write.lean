import LogHistory.Text.Quoted
import LogHistory.Text.Utf8
import LogHistory.Time.Calendar

/-!
# Writing bytes

The wire forms that readers take apart: words of two, four and eight bytes, least significant first,
and texts with a signed 32-bit length in front. Encoding fails only for what has no wire form.
-/

namespace LogHistory

/-- Why a value could not be encoded. -/
inductive EncodeError where
  /-- The time has no positive 64-bit tick count. -/
  | timeOutOfRange (time : Instant)
  /-- The length does not fit its signed 32-bit field. -/
  | tooLong (length : Nat)
  /-- A scalar of a type that is only known by its tag. -/
  | unsupportedScalar (tag : UInt8)
  /-- A trace context whose span id means that there is none. -/
  | zeroSpanId
  /-- The value of an attribute could not be encoded. -/
  | inAttribute (key : String) (cause : EncodeError)
  deriving DecidableEq, Repr

/-- The wording of the error. -/
def EncodeError.message : EncodeError → String
  | timeOutOfRange time => "time " ++ time.text ++ " is outside the representable tick range"
  | tooLong length => "value of length " ++ toString length ++ " exceeds the maximum length prefix"
  | unsupportedScalar tag =>
    "scalar with type tag " ++ toString tag.toNat ++ " has no wire encoding"
  | zeroSpanId => "trace context with a zero span id cannot be encoded"
  | inAttribute key cause => "attribute " ++ Quoted.ofString key ++ ": " ++ cause.message

namespace Write

/-- The wire form of a value, if it has one. -/
abbrev Result := Except EncodeError Bytes

/-- A word of two bytes. -/
def uint16 (n : UInt16) : Bytes := LittleEndian.encode 2 n.toNat

/-- A word of four bytes. -/
def uint32 (n : UInt32) : Bytes := LittleEndian.encode 4 n.toNat

/-- A word of eight bytes. -/
def uint64 (n : UInt64) : Bytes := LittleEndian.encode 8 n.toNat

/-- The first length that a signed 32-bit field cannot hold. -/
def lengthLimit : Nat := 2147483648

/-- A length in its field of four bytes. -/
def length (n : Nat) : Result :=
  if n < lengthLimit then .ok (LittleEndian.encode 4 n) else .error (.tooLong n)

/-- A byte string with its length in front. -/
def byteString (bs : Bytes) : Result := do
  return (← length bs.length) ++ bs

/-- A text with its length in front. -/
def text (s : String) : Result := byteString (Utf8.encode s)

/-- The length of what is absent. -/
def absent : Bytes := [0xFF, 0xFF, 0xFF, 0xFF]

/-- A text with its length in front, or the mark that there is none. -/
def text? : Option String → Result
  | none => .ok absent
  | some s => text s

end Write

end LogHistory
