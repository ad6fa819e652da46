import LogHistory.NodeId.Basic
import LogHistory.Text.Numeral
import LogHistory.Text.Quoted

/-!
# Identifiers as text

An identifier is written `i=` and its number or `s=` and its text; a namespace other than 0 goes in
front as `ns=`, its number and a semicolon. Reading also takes the namespace 0, leading zeros and a
plus sign. The text runs to the end and may hold anything.
-/

namespace LogHistory.NodeId

/-- The identifier as text. -/
def toText (id : NodeId) : String :=
  (if id.ns = 0 then "" else "ns=" ++ toString id.ns.toNat ++ ";")
    ++ (match id with
      | numeric _ value => "i=" ++ toString value.toNat
      | text _ value => "s=" ++ value)

/-- Why a text is no identifier. Each error holds the whole text. -/
inductive ParseError where
  /-- What stands for the namespace is not a 16-bit number. -/
  | invalidNamespace (whole : String)
  /-- What stands for the number is not a 32-bit number. -/
  | invalidNumeric (whole : String)
  /-- There is neither a number nor a text, or no end to the namespace. -/
  | unsupportedFormat (whole : String)
  deriving DecidableEq, Repr

/-- The wording of the error. -/
def ParseError.message : ParseError → String
  | invalidNamespace whole => "invalid namespace in " ++ Quoted.ofString whole
  | invalidNumeric whole => "invalid numeric identifier in " ++ Quoted.ofString whole
  | unsupportedFormat whole =>
    "unsupported identifier format " ++ Quoted.ofString whole ++ " (expected i=<n> or s=<text>)"

/-- Splits a text at its first semicolon. -/
def splitSemicolon? : List Char → Option (List Char × List Char)
  | [] => none
  | c :: cs =>
    if c = ';' then some ([], cs)
    else (splitSemicolon? cs).map fun (before, after) => (c :: before, after)

/-- Reads the part after the namespace. -/
def parseValue (whole : String) (ns : UInt16) : List Char → Except ParseError NodeId
  | 'i' :: '=' :: digits =>
    match Numeral.parse? UInt32.size digits with
    | some n => .ok (numeric ns (UInt32.ofNat n))
    | none => .error (.invalidNumeric whole)
  | 's' :: '=' :: value => .ok (text ns (String.ofList value))
  | _ => .error (.unsupportedFormat whole)

/-- Reads a list of characters as an identifier. -/
def parseChars (whole : String) : List Char → Except ParseError NodeId
  | 'n' :: 's' :: '=' :: rest =>
    match splitSemicolon? rest with
    | none => .error (.unsupportedFormat whole)
    | some (digits, value) =>
      match Numeral.parse? UInt16.size digits with
      | none => .error (.invalidNamespace whole)
      | some ns => parseValue whole (UInt16.ofNat ns) value
  | cs => parseValue whole 0 cs

/-- Reads a text as an identifier. -/
def parse (s : String) : Except ParseError NodeId := parseChars s s.toList

end LogHistory.NodeId
