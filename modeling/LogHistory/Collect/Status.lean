import LogHistory.Text.Numeral

/-!
# Status codes

A completed call comes back with a 32-bit status. Its two high bits sort it: 00 is good, 01
uncertain, 10 bad. A few codes have names, and some of these matter to a collection: a token that is
no longer valid, and an argument that was refused.
-/

namespace LogHistory

/-- The status of a completed call. -/
structure StatusCode where
  /-- Its number; the two high bits say whether it is good, uncertain or bad. -/
  code : UInt32
  deriving DecidableEq, Repr

namespace StatusCode

/-- Success. -/
def good : StatusCode := ⟨0⟩

/-- A failure without a code of its own. -/
def unexpectedError : StatusCode := ⟨0x80010000⟩

/-- The object or method is not there. -/
def nodeIdUnknown : StatusCode := ⟨0x80340000⟩

/-- The token is not, or no longer, valid. -/
def staleToken : StatusCode := ⟨0x804A0000⟩

/-- An argument is out of range. -/
def invalidArgument : StatusCode := ⟨0x80AB0000⟩

/-- Whether the call succeeded. -/
def isGood (s : StatusCode) : Bool := s.code.toNat / 1073741824 = 0

/-- Whether the call failed. A status may be neither good nor bad. -/
def isBad (s : StatusCode) : Bool := s.code.toNat / 1073741824 = 2

/-- The name of the status, for those that are told apart. -/
def name? (s : StatusCode) : Option String :=
  if s = good then some "Good"
  else if s = unexpectedError then some "BadUnexpectedError"
  else if s = staleToken then some "BadContinuationPointInvalid"
  else if s = invalidArgument then some "BadInvalidArgument"
  else none

/-- The status as text: its number in hexadecimal, after its name if it has one. -/
def toText (s : StatusCode) : String :=
  let hex := "0x" ++ Numeral.paddedHex 8 s.code.toNat
  match s.name? with
  | some name => name ++ " (" ++ hex ++ ")"
  | none => hex

end StatusCode

end LogHistory
