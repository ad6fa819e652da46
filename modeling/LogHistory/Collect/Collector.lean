import LogHistory.Collect.Settings
import LogHistory.DecoderTable

/-!
# Collectors

A collector is what collections are made with: settings that have been found to make sense, the
least severity they name, the method that log objects are asked by, and a table of decoders.
-/

namespace LogHistory

/-- What collections are made with. -/
structure Collector where
  /-- The bounds of the collections. -/
  settings : Settings
  /-- The least severity that is asked for. -/
  floor : UInt16
  /-- The method by which log objects are asked. -/
  method : NodeId
  /-- How payloads are decoded. -/
  decoders : DecoderTable
  /-- The settings make sense. -/
  valid : settings.validate = .ok ()
  /-- The least severity is the one that the settings name. -/
  floor_eq : settings.floor = .ok floor

namespace Collector

/-- A collector with the given settings, if they make sense. -/
def make (settings : Settings) (method : NodeId) (decoders : DecoderTable) :
    Except SettingsError Collector :=
  match hv : settings.validate, hf : settings.floor with
  | .ok (), .ok floor => .ok ⟨settings, floor, method, decoders, hv, hf⟩
  | .error e, _ => .error e
  | _, .error e => .error e

/-- The most records that one call may ask for. -/
def cap (c : Collector) : Nat := c.settings.maxRecordsPerCall.toNat

/-- How long a call may take. -/
def timeout (c : Collector) : Duration := c.settings.requestTimeout

end Collector

end LogHistory
