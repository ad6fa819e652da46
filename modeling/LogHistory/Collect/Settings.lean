import LogHistory.Tier
import LogHistory.Time.Duration

/-!
# Settings

What a collection is bound by: how many records one call and a whole cycle may bring, the least
severity, how long a call may take, and how often cycles run. Settings are read from named values;
names that are missing have defaults and names that are not known are passed over. Whether the
values make sense is a second question, `validate`, which reports the first that does not.
-/

namespace LogHistory

/-- The bounds of collections. -/
structure Settings where
  /-- The most records that one call may ask for. -/
  maxRecordsPerCall : UInt32
  /-- The most records of one cycle, divided evenly among the sources. -/
  maxLogRecords : UInt32
  /-- The name of the least tier that is asked for. -/
  minSeverity : String
  /-- How long a call may take. -/
  requestTimeout : Duration
  /-- How much time lies between cycles. -/
  collectionInterval : Duration
  deriving DecidableEq, Repr

/-- Why settings make no sense. -/
inductive SettingsError where
  /-- The size of a call is zero or above the limit. -/
  | maxRecordsPerCall (got : UInt32)
  /-- The size of a cycle is zero. -/
  | maxLogRecords
  /-- There is no tier of this name. -/
  | minSeverity (name : String)
  /-- Calls have no time. -/
  | requestTimeout
  /-- Cycles follow one another too fast. -/
  | collectionInterval (got : Duration)
  deriving DecidableEq, Repr

namespace Settings

/-- The settings where none are given. -/
def default : Settings where
  maxRecordsPerCall := 100
  maxLogRecords := 1000
  minSeverity := Tier.information.name
  requestTimeout := .ofMillis 10000
  collectionInterval := .ofMillis 10000

instance : Inhabited Settings := ⟨default⟩

/-- The most records that one call can be set to ask for. -/
def callLimit : UInt32 := 10000

/-- The least interval between cycles. -/
def leastInterval : Duration := .ofMillis 1000

end Settings

/-- The wording of the error. -/
def SettingsError.message : SettingsError → String
  | maxRecordsPerCall got =>
    "max_records_per_call must be between 1 and " ++ toString Settings.callLimit.toNat ++ ", got "
      ++ toString got.toNat
  | maxLogRecords => "max_log_records must be at least 1"
  | minSeverity name => "min_severity: " ++ unknownSeverityMessage name
  | requestTimeout => "request_timeout must be positive"
  | collectionInterval got => "collection_interval must be at least 1s, got " ++ got.text

namespace Settings

/-! ### Reading -/

/-- A named value as it is given. -/
inductive Value where
  /-- A whole number. -/
  | whole (n : Int)
  /-- A text. -/
  | text (s : String)
  /-- Anything else. -/
  | other
  deriving DecidableEq, Repr

/-- A whole number from 0 up to, but not at, a bound. -/
def Value.below? (bound : Nat) : Value → Option Nat
  | whole n => if 0 ≤ n ∧ n < bound then some n.toNat else none
  | _ => none

/-- A text. -/
def Value.text? : Value → Option String
  | text s => some s
  | _ => none

/-- The value of a name, read by `read`, or the default if the name is missing. -/
def field {α : Type} (values : List (String × Value)) (name : String) (read : Value → Option α)
    (absent : α) : Option α :=
  match values.lookup name with
  | none => some absent
  | some v => read v

/-- Reads settings from named values, unless one of them has the wrong form. Times are given in
whole milliseconds. -/
def ofValues? (values : List (String × Value)) : Option Settings := do
  let word32 (v : Value) : Option UInt32 := (v.below? UInt32.size).map UInt32.ofNat
  let millis (v : Value) : Option Duration := (v.below? UInt64.size).map Duration.ofMillis
  let perCall ← field values "max_records_per_call" word32 default.maxRecordsPerCall
  let total ← field values "max_log_records" word32 default.maxLogRecords
  let severity ← field values "min_severity" Value.text? default.minSeverity
  let timeout ← field values "request_timeout" millis default.requestTimeout
  let interval ← field values "collection_interval" millis default.collectionInterval
  return ⟨perCall, total, severity, timeout, interval⟩

/-! ### Meaning -/

/-- The least severity that is asked for. -/
def floor (s : Settings) : Except SettingsError UInt16 :=
  match Tier.ofName? s.minSeverity with
  | some tier => .ok tier.least
  | none => .error (.minSeverity s.minSeverity)

/-- Checks every setting and reports the first that makes no sense. -/
def validate (s : Settings) : Except SettingsError Unit :=
  if s.maxRecordsPerCall = 0 ∨ callLimit < s.maxRecordsPerCall then
    .error (.maxRecordsPerCall s.maxRecordsPerCall)
  else if s.maxLogRecords = 0 then .error .maxLogRecords
  else match s.floor with
    | .error e => .error e
    | .ok _ =>
      if s.requestTimeout.nanos = 0 then .error .requestTimeout
      else if s.collectionInterval.nanos < leastInterval.nanos then
        .error (.collectionInterval s.collectionInterval)
      else .ok ()

/-- How many records one of so many sources may bring: an equal share, and at least one. The count
of sources is taken to be at least one and at most the greatest 32-bit number. -/
def quotaFor (s : Settings) (sources : Nat) : Nat :=
  max 1 (s.maxLogRecords.toNat / min (max sources 1) (UInt32.size - 1))

end Settings

end LogHistory
