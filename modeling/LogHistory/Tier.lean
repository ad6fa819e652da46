import LogHistory.Text.Lowercase
import LogHistory.Text.Quoted

/-!
# Severity tiers

Records have a severity from 1 to 1000. Eight tiers divide that range; a number outside it belongs
to the tier `unspecified`. Each tier has a level on the scale of telemetry pipelines, a least
severity, which serves as the floor of a request, and names by which settings choose it. Names are
matched whatever their case.
-/

namespace LogHistory

/-- A level on the scale that telemetry pipelines use. -/
inductive Level where
  /-- No level. -/
  | unspecified
  /-- Of use to developers. -/
  | debug
  /-- Normal events. -/
  | info
  /-- Normal events worth notice. -/
  | info4
  /-- Warnings. -/
  | warn
  /-- Errors. -/
  | error
  /-- Serious errors. -/
  | error2
  /-- Errors that call for action. -/
  | error3
  /-- Failure of the whole. -/
  | fatal
  deriving DecidableEq, Repr

namespace Level

/-- The number of the level. -/
def number : Level → Nat
  | unspecified => 0
  | debug => 5
  | info => 9
  | info4 => 12
  | warn => 13
  | error => 17
  | error2 => 18
  | error3 => 19
  | fatal => 21

/-- The name of the level. -/
def name : Level → String
  | unspecified => "Unspecified"
  | debug => "Debug"
  | info => "Info"
  | info4 => "Info4"
  | warn => "Warn"
  | error => "Error"
  | error2 => "Error2"
  | error3 => "Error3"
  | fatal => "Fatal"

end Level

/-- A band of severities. -/
inductive Tier where
  /-- Outside the range. -/
  | unspecified
  /-- From 1. -/
  | debug
  /-- From 51. -/
  | information
  /-- From 101. -/
  | notice
  /-- From 151. -/
  | warning
  /-- From 201. -/
  | error
  /-- From 251. -/
  | critical
  /-- From 301. -/
  | alert
  /-- From 401. -/
  | emergency
  deriving DecidableEq, Repr

namespace Tier

/-- The place of the tier in their order. -/
def rank : Tier → Nat
  | unspecified => 0
  | debug => 1
  | information => 2
  | notice => 3
  | warning => 4
  | error => 5
  | critical => 6
  | alert => 7
  | emergency => 8

instance : LE Tier where
  le a b := a.rank ≤ b.rank

instance (a b : Tier) : Decidable (a ≤ b) := inferInstanceAs (Decidable (a.rank ≤ b.rank))

/-- The tier of a severity. -/
def ofSeverity (severity : Int) : Tier :=
  if severity < 1 then unspecified
  else if severity ≤ 50 then debug
  else if severity ≤ 100 then information
  else if severity ≤ 150 then notice
  else if severity ≤ 200 then warning
  else if severity ≤ 250 then error
  else if severity ≤ 300 then critical
  else if severity ≤ 400 then alert
  else if severity ≤ 1000 then emergency
  else unspecified

/-- The level of the tier. -/
def level : Tier → Level
  | unspecified => .unspecified
  | debug => .debug
  | information => .info
  | notice => .info4
  | warning => .warn
  | error => .error
  | critical => .error2
  | alert => .error3
  | emergency => .fatal

/-- The least severity that a request for the tier asks for. -/
def least : Tier → UInt16
  | unspecified => 1
  | debug => 1
  | information => 51
  | notice => 101
  | warning => 151
  | error => 201
  | critical => 251
  | alert => 301
  | emergency => 401

/-- The name of the tier. -/
def name : Tier → String
  | unspecified => "Unspecified"
  | debug => "Debug"
  | information => "Information"
  | notice => "Notice"
  | warning => "Warning"
  | error => "Error"
  | critical => "Critical"
  | alert => "Alert"
  | emergency => "Emergency"

/-- The names that settings may use, in lowercase. -/
def names : List (String × Tier) := [
  ("trace", debug), ("debug", debug), ("info", information), ("information", information),
  ("notice", notice), ("warn", warning), ("warning", warning), ("error", error),
  ("critical", critical), ("alert", alert), ("fatal", emergency), ("emergency", emergency)]

/-- The tier of a name, in whatever case it is written. -/
def ofName? (s : String) : Option Tier := names.lookup (Lowercase.ofString s)

end Tier

/-- The wording of the error that a text is not the name of a tier. -/
def unknownSeverityMessage (s : String) : String := "unknown severity " ++ Quoted.ofString s

end LogHistory
