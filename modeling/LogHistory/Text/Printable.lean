import LogHistory.Text.Combining
import LogHistory.Text.Unassigned

/-!
# Characters that show as themselves

A character is printable when quoted text may hold it as it is. The ASCII space is; control and
format characters, all other separators, fillers, private use, unassigned code points and characters
that attach to the one before are not.
-/

namespace LogHistory.Printable

/-- Whether the code point of a character lies in one of the ranges, ends included. -/
def isIn (ranges : List (Nat × Nat)) (c : Char) : Bool :=
  ranges.any fun r => r.1 ≤ c.toNat && c.toNat ≤ r.2

/-- The control characters. -/
def controlRanges : List (Nat × Nat) := [(0x0, 0x1F), (0x7F, 0x9F)]

/-- The spaces and the line and paragraph separators. -/
def separatorRanges : List (Nat × Nat) := [
  (0x20, 0x20), (0xA0, 0xA0), (0x1680, 0x1680), (0x2000, 0x200A), (0x2028, 0x2029),
  (0x202F, 0x202F), (0x205F, 0x205F), (0x3000, 0x3000)]

/-- The format characters: soft hyphen, directional marks, joiners, tags. -/
def formatRanges : List (Nat × Nat) := [
  (0xAD, 0xAD), (0x600, 0x605), (0x61C, 0x61C), (0x6DD, 0x6DD), (0x70F, 0x70F), (0x890, 0x891),
  (0x8E2, 0x8E2), (0x180E, 0x180E), (0x200B, 0x200F), (0x202A, 0x202E), (0x2060, 0x2064),
  (0x2066, 0x206F), (0xFEFF, 0xFEFF), (0xFFF9, 0xFFFB), (0x110BD, 0x110BD), (0x110CD, 0x110CD),
  (0x13430, 0x1343F), (0x1BCA0, 0x1BCA3), (0x1D173, 0x1D17A), (0xE0001, 0xE0001),
  (0xE0020, 0xE007F)]

/-- The letters that keep an empty place in a Hangul syllable and show as nothing. -/
def fillerRanges : List (Nat × Nat) := [(0x115F, 0x1160), (0x3164, 0x3164), (0xFFA0, 0xFFA0)]

/-- The code points left to private agreement. -/
def privateUseRanges : List (Nat × Nat) := [
  (0xE000, 0xF8FF), (0xF0000, 0xFFFFD), (0x100000, 0x10FFFD)]

/-- Whether the character is a control character. -/
def isControl (c : Char) : Bool := isIn controlRanges c

/-- Whether the character has to be shown by its code point. -/
def isHidden (c : Char) : Bool :=
  isControl c || isIn separatorRanges c || isIn formatRanges c || isIn fillerRanges c
    || isIn privateUseRanges c || isIn Unassigned.ranges c || isIn Combining.ranges c

/-- Whether quoted text may hold the character as it is. -/
def isPrintable (c : Char) : Bool := c = ' ' || !isHidden c

end LogHistory.Printable
