import LogHistory.DecoderTable
import LogHistory.Proofs.FixedPoints
import LogHistory.Proofs.Spellings
import Mathlib.Data.Option.Basic

/-!
# What a telemetry record keeps

A telemetry record has as text what a record of the log has as numbers, and it has the trace context
spread over four fields. Neither loses anything, as long as a trace context has a span: the empty
text is no span, so the text of the span tells whether there was a context at all, and then every
field can be read back. Whatever has been decoded from bytes is such a record, for a context without
a span is read as none.

A record that arrives decoded need not be such a record. Its context may lack a span and still name
a parent. The record then counts as one without a trace, and the ids of trace and span are empty as
they should be, but the parent stays.

## What is proved

* `LogRecord.spanned_of_decode` — a trace context that was decoded has a span.
* `ofLogRecord_inj` — records whose contexts have spans can be told apart by their telemetry form.
* `isTraced_ofLogRecord_iff` — a telemetry record is traced if and only if there was a span.
* `trace_absent_iff` — without one, nothing is left of the context unless a parent was named.
-/

namespace LogHistory

/-! ### Trace contexts with a span -/

/-- The trace context of the record, if there is one, has a span. -/
def LogRecord.Spanned (r : LogRecord) : Prop := ∀ t, r.trace = some t → t.spanId ≠ 0

namespace Parser

variable {limit : Nat}

theorem yields_traceContext?_spanned :
    Yields limit traceContext? fun t? => ∀ t, t? = some t → t.spanId ≠ 0 := by
  refine laid_traceId.yields.bind fun id _ => (yields_number 8).bind fun span hspan =>
    (laid_number 8).yields.bind fun parent _ => laid_text?.yields.bind fun origin _ => .pure ?_
  split_ifs with hzero
  · exact nofun
  · rintro t ht
    obtain rfl := Option.some.inj ht
    exact span_ne_zero hspan hzero

theorem yields_logRecord_spanned : Yields limit logRecord LogRecord.Spanned :=
  (laid_signed 8).yields.bind fun _ _ => (laid_number 2).yields.bind fun _ _ =>
    laid_nodeId?.yields.bind fun _ _ => laid_nodeId?.yields.bind fun _ _ =>
    laid_text?.yields.bind fun _ _ => laid_message.yields.bind fun _ _ =>
    yields_traceContext?_spanned.bind fun _ htrace => laid_attributes.yields.bind fun _ _ =>
    .pure htrace

end Parser

/-- **A trace context that was decoded has a span**, however long the bytes. -/
theorem LogRecord.spanned_of_decode {data : Bytes} {r : LogRecord} {n : Nat}
    (h : decode data = .ok (r, n)) : r.Spanned := by
  rw [decode, Read.follows_logRecord.decodeWith] at h
  obtain ⟨there, hparse, -⟩ := Parser.parse_eq_ok.mp h
  have hyields : Parser.Yields data.length Parser.logRecord Spanned :=
    Parser.yields_logRecord_spanned
  exact (hyields ⟨data, 0⟩ there r (Nat.le_refl _) hparse).1

namespace TelemetryRecord

/-! ### Nothing is lost -/

/-- The texts of two trace contexts with spans, either of which may be absent, tell them apart. -/
theorem trace_inj {a b : Option TraceContext} (ha : ∀ t, a = some t → t.spanId ≠ 0)
    (hb : ∀ t, b = some t → t.spanId ≠ 0)
    (hid : (a.map TraceContext.traceHex).getD "" = (b.map TraceContext.traceHex).getD "")
    (hspan : (a.map TraceContext.spanHex).getD "" = (b.map TraceContext.spanHex).getD "")
    (hparent : (a.map TraceContext.parentSpanHex).getD "" =
      (b.map TraceContext.parentSpanHex).getD "")
    (horigin : a.bind TraceContext.parentOrigin = b.bind TraceContext.parentOrigin) : a = b := by
  cases a with
  | none =>
    cases b with
    | none => rfl
    | some t => exact absurd ((SpanId.hex_eq_empty_iff t.spanId).mp hspan.symm) (hb t rfl)
  | some t =>
    cases b with
    | none => exact absurd ((SpanId.hex_eq_empty_iff t.spanId).mp hspan) (ha t rfl)
    | some t' =>
      obtain ⟨traceId, spanId, parentSpanId, parentOrigin⟩ := t
      obtain ⟨traceId', spanId', parentSpanId', parentOrigin'⟩ := t'
      obtain rfl : spanId = spanId' := SpanId.hex_injective hspan
      obtain rfl : traceId = traceId' := TraceId.hex_inj (ha _ rfl) hid
      obtain rfl : parentSpanId = parentSpanId' := SpanId.hex_injective hparent
      obtain rfl : parentOrigin = parentOrigin' := horigin
      rfl

/-- **The telemetry form loses nothing.** Two records whose trace contexts have spans have the same
form only if they agree in all fields: the times, the identifiers with their kinds and namespaces,
all parts of the trace context, the attributes in their order and bit by bit. Every record that was
decoded is such a record. -/
theorem ofLogRecord_inj :
    (∀ (data : Bytes) (r : LogRecord) (n : Nat), LogRecord.decode data = .ok (r, n) → r.Spanned) ∧
      ∀ a b : LogRecord, a.Spanned → b.Spanned → (ofLogRecord a = ofLogRecord b ↔ a = b) := by
  refine ⟨fun data r n h => LogRecord.spanned_of_decode h, fun a b ha hb => ⟨fun h => ?_, ?_⟩⟩
  · simp only [ofLogRecord, TelemetryRecord.mk.injEq] at h
    obtain ⟨htime, hseverity, -, -, hmessage, hsourceName, hsourceNode, heventType, hid, hspan,
      hparent, horigin, hattributes⟩ := h
    have htrace := trace_inj ha hb hid hspan hparent horigin
    have hsourceNode := Option.map_injective NodeIdentity.ofNodeId_injective hsourceNode
    have heventType := Option.map_injective NodeId.toText_injective heventType
    obtain ⟨time, severity, message, eventType, sourceNode, sourceName, trace, attributes⟩ := a
    obtain ⟨time', severity', message', eventType', sourceNode', sourceName', trace',
      attributes'⟩ := b
    rw [LogRecord.mk.injEq]
    exact ⟨htime, hseverity, hmessage, heventType, hsourceNode, hsourceName, htrace, hattributes⟩
  · rintro rfl
    rfl

/-- A record from a node that is named by a number, or by the text of a number. -/
def fromNode (id : NodeId) : LogRecord where
  time := none
  severity := 300
  message := "x"
  eventType := some (.text 0 "ns=1;i=100")
  sourceNode := some id
  sourceName := some ""
  trace := some ⟨.zero, 7, 0, some ""⟩
  attributes := Attributes.empty.insert "x" (.double 0)

theorem spanned_fromNode (id : NodeId) : (fromNode id).Spanned := by
  rintro t ht
  obtain rfl := Option.some.inj ht
  decide

/-- The number 100 and the text "100" are written alike, but their kinds are not; and a leap second
with a span is among what can be decoded. -/
theorem ofLogRecord_inj_lookalikes :
    ((fromNode (.numeric 0 100)).Spanned ∧ (fromNode (.text 0 "100")).Spanned ∧
      ofLogRecord (fromNode (.numeric 0 100)) ≠ ofLogRecord (fromNode (.text 0 "100"))) ∧
    ∃ bs n, LogRecord.decode bs = .ok (LogRecord.leapRecord.normal, n) ∧
      LogRecord.leapRecord.normal.Spanned := by
  refine ⟨⟨spanned_fromNode _, spanned_fromNode _, fun h => ?_⟩, ?_⟩
  · have heq := (ofLogRecord_inj.2 _ _ (spanned_fromNode _) (spanned_fromNode _)).mp h
    exact absurd heq (by decide)
  · obtain ⟨bs, hbs⟩ : ∃ bs, LogRecord.leapRecord.encode = .ok bs := ⟨_, rfl⟩
    have hdecode := (Read.takes_logRecord hbs).decodeWith []
    exact ⟨bs ++ [], bs.length, hdecode, ofLogRecord_inj.1 _ _ _ hdecode⟩

/-! ### Absent trace contexts -/

/-- Nothing of a trace context. -/
structure TraceAbsent (r : TelemetryRecord) : Prop where
  /-- There is no trace. -/
  traceId : r.traceId = ""
  /-- There is no span. -/
  spanId : r.spanId = ""
  /-- There is no parent. -/
  parentSpanId : r.parentSpanId = ""
  /-- A parent ran nowhere. -/
  parentOrigin : r.parentOrigin = none

/-- Ids of trace and span in full length. -/
structure TracePresent (r : TelemetryRecord) : Prop where
  /-- The trace has sixteen bytes. -/
  traceId : Hex.IsText 32 r.traceId
  /-- The span has eight. -/
  spanId : Hex.IsText 16 r.spanId
  /-- It is not zero. -/
  spanId_ne : r.spanId ≠ "0000000000000000"

end TelemetryRecord

/-- The trace context lacks a span and yet names a parent. -/
def LogRecord.Orphaned (r : LogRecord) : Prop :=
  ∃ t, r.trace = some t ∧ t.spanId = 0 ∧ (t.parentSpanId ≠ 0 ∨ t.parentOrigin ≠ none)

theorem LogRecord.Spanned.not_orphaned {r : LogRecord} (h : r.Spanned) : ¬ r.Orphaned := by
  rintro ⟨t, ht, hzero, -⟩
  exact h t ht hzero

namespace TelemetryRecord

variable {r : LogRecord}

theorem isTraced_ofLogRecord_iff :
    (ofLogRecord r).isTraced = true ↔ ∃ t, r.trace = some t ∧ t.spanId ≠ 0 := by
  rw [isTraced, decide_eq_true_iff]
  change (r.trace.map TraceContext.spanHex).getD "" ≠ "" ↔ _
  cases r.trace with
  | none => simp
  | some t => simp [TraceContext.spanHex, SpanId.hex_eq_empty_iff]

theorem spanId_of_not_isTraced (h : (ofLogRecord r).isTraced = false) {t : TraceContext}
    (ht : r.trace = some t) : t.spanId = 0 := by
  by_contra hne
  rw [isTraced_ofLogRecord_iff.mpr ⟨t, ht, hne⟩] at h
  cases h

theorem tracePresent_of_isTraced (h : (ofLogRecord r).isTraced = true) :
    (ofLogRecord r).TracePresent := by
  obtain ⟨t, ht, hspan⟩ := isTraced_ofLogRecord_iff.mp h
  have htraceId : (ofLogRecord r).traceId = t.traceHex := by
    simp [ofLogRecord, LogRecord.traceHex, ht]
  have hspanId : (ofLogRecord r).spanId = t.spanHex := by
    simp [ofLogRecord, LogRecord.spanHex, ht]
  constructor
  · rw [htraceId]
    exact TraceId.isText_hex t.traceId hspan
  · rw [hspanId]
    exact SpanId.isText_hex hspan
  · rw [hspanId]
    exact SpanId.hex_ne_zeros t.spanId

theorem ids_of_not_isTraced (h : (ofLogRecord r).isTraced = false) :
    (ofLogRecord r).traceId = "" ∧ (ofLogRecord r).spanId = "" := by
  cases ht : r.trace with
  | none => simp [ofLogRecord, LogRecord.traceHex, LogRecord.spanHex, ht]
  | some t =>
    simp [ofLogRecord, LogRecord.traceHex, LogRecord.spanHex, ht, TraceContext.traceHex,
      TraceContext.spanHex, TraceId.hex, SpanId.hex, spanId_of_not_isTraced h ht]

/-- What is left of a context is what it says about a parent. -/
theorem parent_ofLogRecord_iff :
    ((ofLogRecord r).parentSpanId = "" ∧ (ofLogRecord r).parentOrigin = none) ↔
      ∀ t, r.trace = some t → t.parentSpanId = 0 ∧ t.parentOrigin = none := by
  change ((r.trace.map TraceContext.parentSpanHex).getD "" = "" ∧
    r.trace.bind TraceContext.parentOrigin = none) ↔ _
  cases r.trace with
  | none => simp
  | some t => simp [TraceContext.parentSpanHex, SpanId.hex_eq_empty_iff]

/-- **Where nothing is left of a trace context.** A traced record has a trace id of 32 and a span id
of 16 hexadecimal digits, not all zero; one that is not traced has neither. But parents are only
absent as well if the context, where it lacks a span, names none. No decoded record has such a
context. -/
theorem trace_absent_iff (r : LogRecord) :
    ((ofLogRecord r).isTraced = true → (ofLogRecord r).TracePresent) ∧
      ((ofLogRecord r).isTraced = false →
        (ofLogRecord r).traceId = "" ∧ (ofLogRecord r).spanId = "") ∧
      ((ofLogRecord r).TraceAbsent ↔ (ofLogRecord r).isTraced = false ∧ ¬ r.Orphaned) ∧
      ∀ (data : Bytes) (n : Nat), LogRecord.decode data = .ok (r, n) → ¬ r.Orphaned := by
  refine ⟨tracePresent_of_isTraced, ids_of_not_isTraced, ⟨fun h => ?_, fun ⟨h, hparent⟩ => ?_⟩,
    fun data n h => (LogRecord.spanned_of_decode h).not_orphaned⟩
  · refine ⟨by simp [isTraced, h.spanId], ?_⟩
    rintro ⟨t, ht, -, hnamed⟩
    obtain ⟨hspan, horigin⟩ := parent_ofLogRecord_iff.mp ⟨h.parentSpanId, h.parentOrigin⟩ t ht
    exact hnamed.elim (· hspan) (· horigin)
  · obtain ⟨htraceId, hspanId⟩ := ids_of_not_isTraced h
    obtain ⟨hspan, horigin⟩ := parent_ofLogRecord_iff.mpr fun t ht => by
      by_contra hnamed
      exact hparent ⟨t, ht, spanId_of_not_isTraced h ht, Decidable.not_and_iff_or_not.mp hnamed⟩
    exact ⟨htraceId, hspanId, hspan, horigin⟩

/-- A record whose trace context has no span but names a parent. -/
def orphanRecord : LogRecord :=
  { LogRecord.make .epoch 300 "x" with
    trace := some ⟨⟨[1, 2, 3, 4, 5, 6, 7, 8, 9, 10, 11, 12, 13, 14, 15, 16], by decide⟩, 0, 255,
      some "gateway"⟩ }

/-- A record with a span has its ids, the one without has none, and a decoded record without a trace
context has no parent either. -/
theorem trace_absent_iff_cases :
    ((ofLogRecord (fromNode .null)).isTraced = true ∧
      (ofLogRecord (fromNode .null)).TracePresent) ∧
    ((ofLogRecord orphanRecord).isTraced = false ∧ (ofLogRecord orphanRecord).traceId = "" ∧
      (ofLogRecord orphanRecord).spanId = "") ∧
    LogRecord.decode (foreignBytes ++ [9]) = .ok (foreignRecord, 111) ∧
      (ofLogRecord foreignRecord).TraceAbsent := by
  have huntraced : (ofLogRecord orphanRecord).isTraced = false := by decide
  have htraced : (ofLogRecord (fromNode .null)).isTraced = true := by decide
  refine ⟨⟨htraced, (trace_absent_iff _).1 htraced⟩,
    ⟨huntraced, (trace_absent_iff _).2.1 huntraced⟩, decode_foreignBytes, ?_⟩
  obtain ⟨-, -, habsent, hdecoded⟩ := trace_absent_iff foreignRecord
  exact habsent.mpr ⟨by decide, hdecoded _ _ decode_foreignBytes⟩

/-- The parent that is kept. Tables hand on a record that arrives decoded as it is. -/
theorem orphan_parent_kept :
    DecoderTable.default.decode (.structured orphanRecord) = .ok orphanRecord ∧
      (ofLogRecord orphanRecord).isTraced = false ∧
      (ofLogRecord orphanRecord).parentSpanId = "00000000000000ff" ∧
      (ofLogRecord orphanRecord).parentOrigin = some "gateway" ∧
      ¬ (ofLogRecord orphanRecord).TraceAbsent := by
  refine ⟨rfl, by decide, by decide, by decide, fun h => ?_⟩
  exact absurd h.parentOrigin (by decide)

end TelemetryRecord

end LogHistory
