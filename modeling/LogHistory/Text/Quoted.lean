import LogHistory.Text.Printable

/-!
# Quoted text

Text inside messages stands between quotes, in a form that shows every character: five have a short
escape (NUL, tab, line feed, carriage return, backslash), the quote itself is escaped, a character
that is not printable becomes `\u{…}` with its code point in lowercase hexadecimal, and the rest
stand as they are. A single character is quoted the same way between single quotes.
-/

namespace LogHistory.Quoted

/-- The escape that shows a code point in hexadecimal. -/
def codePoint (c : Char) : List Char :=
  ['\\', 'u', '\x7b'] ++ Nat.toDigits 16 c.toNat ++ ['\x7d']

/-- How a character is written between the given quotes. -/
def escape (mark c : Char) : List Char :=
  if c = '\x00' then ['\\', '0']
  else if c = '\t' then ['\\', 't']
  else if c = '\r' then ['\\', 'r']
  else if c = '\n' then ['\\', 'n']
  else if c = '\\' then ['\\', '\\']
  else if c = mark then ['\\', mark]
  else if Printable.isPrintable c then [c]
  else codePoint c

/-- A text in double quotes. -/
def ofString (s : String) : String :=
  String.ofList ('"' :: (s.toList.flatMap (escape '"') ++ ['"']))

/-- A character in single quotes. -/
def ofChar (c : Char) : String :=
  String.ofList ('\'' :: (escape '\'' c ++ ['\'']))

end LogHistory.Quoted
