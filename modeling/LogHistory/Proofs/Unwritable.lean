import LogHistory.Proofs.FixedPoints

/-!
# What has no wire form

Three things in a record have no wire form: a time without a positive 64-bit tick count, a trace
context whose span id means that there is none, and a value of a type that is only known by its tag.
Encoding fails if the record has one of them, and for no other reason, as long as its texts and the
count of its attributes fit their length fields. The fields are written in order and the first that
cannot be written is reported, so the time comes before the trace context, and this before the first
value of an unknown type in the order of the attributes (`LogRecord.Unwritable`).

## What is proved

* `Write.bind_eq_error` — a sequence of writes fails with the first fault.
* `LogRecord.encodeEntries_eq_error_iff_of_fits` — attributes fail at the first value of an unknown
  type.
* `LogRecord.encode_eq_error_iff` — a record fails at the first thing that has no wire form.
* `LogRecord.keptBy_normal` — a record that can be written is kept, but for what is less than a tick
  and null identifiers.
-/

namespace LogHistory

theorem Write.bind_eq_error {α : Type} {x : Except EncodeError α} {f : α → Write.Result}
    {e : EncodeError} :
    (x >>= f) = .error e ↔ x = .error e ∨ ∃ a, x = .ok a ∧ f a = .error e := by
  cases x with
  | error e' => simp [bind, Except.bind]
  | ok a => simp [bind, Except.bind]

/-- The instant has a tick count on the wire: a positive one that fits in 64 bits with a sign. -/
def Instant.HasTicks (t : Instant) : Prop := 1 ≤ t.ticks ∧ t.ticks ≤ 9223372036854775807

/-- The type of the value is known. -/
def Scalar.Known (v : Scalar) : Prop := ∀ tag, v ≠ .unsupported tag

theorem Scalar.not_known_iff {v : Scalar} : ¬ v.Known ↔ ∃ tag, v = .unsupported tag := by
  simp [Scalar.Known]

/-! ### Texts -/

/-- The texts of an identifier. -/
def NodeId.texts : NodeId → List String
  | numeric _ _ => []
  | text _ value => [value]

/-- The texts of a value. -/
def Scalar.texts : Scalar → List String
  | text value => [value]
  | _ => []

namespace LogRecord

/-- All texts of a record. -/
def texts (r : LogRecord) : List String :=
  r.eventType.toList.flatMap NodeId.texts ++ r.sourceNode.toList.flatMap NodeId.texts ++
    r.sourceName.toList ++ [r.message] ++ (r.trace.bind (·.parentOrigin)).toList ++
    r.attributes.entries.flatMap fun e => e.1 :: e.2.texts

/-- The texts of a record and the count of its attributes fit their length fields. -/
structure Fits (r : LogRecord) : Prop where
  /-- Each text does, in its bytes. -/
  texts : ∀ s ∈ r.texts, (Utf8.encode s).length < Write.lengthLimit
  /-- The count does. -/
  count : r.attributes.size < Write.lengthLimit

/-- The first thing in a record that has no wire form, as the error that reports it. -/
inductive Unwritable (r : LogRecord) : EncodeError → Prop where
  /-- The time has no tick count. -/
  | time {t : Instant} (ht : r.time = some t) (hticks : ¬ t.HasTicks) :
    Unwritable r (.timeOutOfRange t)
  /-- The time can be written, and the trace context has no span. -/
  | span (htime : ∀ t, r.time = some t → t.HasTicks) {c : TraceContext} (hc : r.trace = some c)
    (hspan : c.spanId = 0) : Unwritable r .zeroSpanId
  /-- Time and trace context can be written, and this is the first value of an unknown type. -/
  | value (htime : ∀ t, r.time = some t → t.HasTicks)
    (htrace : ∀ c, r.trace = some c → c.spanId ≠ 0)
    {before after : List (String × Scalar)} {key : String} {tag : UInt8}
    (hentries : r.attributes.entries = before ++ (key, .unsupported tag) :: after)
    (hbefore : ∀ e ∈ before, e.2.Known) : Unwritable r (.inAttribute key (.unsupportedScalar tag))

/-! ### Fields -/

theorem encodeTime_some (t : Instant) :
    (t.HasTicks ∧ ∃ out, encodeTime (some t) = .ok out) ∨
      ¬ t.HasTicks ∧ encodeTime (some t) = .error (.timeOutOfRange t) := by
  simp only [encodeTime]
  cases hk : Ticks.ofInstant? t with
  | some k =>
    obtain ⟨hpos, hlt, -⟩ := (Ticks.ofInstant?_eq_some_iff t k).mp hk
    exact .inl ⟨⟨by omega, by omega⟩, _, rfl⟩
  | none =>
    refine .inr ⟨fun hticks => ?_, rfl⟩
    obtain ⟨hpos, hle⟩ := hticks
    have hk' := (Ticks.ofInstant?_eq_some_iff t (.ofInt t.ticks)).mpr
      ⟨by omega, by omega, Int64.toInt_ofInt_of_le (by omega) (by omega)⟩
    rw [hk] at hk'
    cases hk'

theorem exists_encodeTime {t? : Option Instant} (h : ∀ t, t? = some t → t.HasTicks) :
    ∃ out, encodeTime t? = .ok out := by
  cases t? with
  | none => exact ⟨_, rfl⟩
  | some t => exact (encodeTime_some t).elim And.right fun hnot => absurd (h t rfl) hnot.1

theorem encodeTime_eq_error_iff {t? : Option Instant} {e : EncodeError} :
    encodeTime t? = .error e ↔ ∃ t, t? = some t ∧ ¬ t.HasTicks ∧ e = .timeOutOfRange t := by
  cases t? with
  | none => simp [encodeTime]
  | some t =>
    rcases encodeTime_some t with ⟨hticks, out, hout⟩ | ⟨hticks, herror⟩
    · simp [hout, hticks]
    · simp [herror, hticks, eq_comm]

theorem exists_encode_nodeId {id : Option NodeId}
    (h : ∀ s ∈ id.toList.flatMap NodeId.texts, (Utf8.encode s).length < Write.lengthLimit) :
    ∃ out, NodeId.encode? id = .ok out := by
  match id with
  | none => exact ⟨_, rfl⟩
  | some (.numeric ns value) => exact NodeId.exists_encode_numeric ns value
  | some (.text ns value) =>
    obtain ⟨out, hout⟩ := Write.exists_text (h value (by simp [NodeId.texts]))
    exact ⟨_, Write.bind_eq_ok.mpr ⟨out, hout, rfl⟩⟩

theorem exists_encode_text? {s? : Option String}
    (h : ∀ s ∈ s?.toList, (Utf8.encode s).length < Write.lengthLimit) :
    ∃ out, Write.text? s? = .ok out := by
  cases s? with
  | none => exact ⟨_, rfl⟩
  | some s => exact Write.exists_text (h s (by simp))

theorem exists_encode_trace {c? : Option TraceContext} (hspan : ∀ c, c? = some c → c.spanId ≠ 0)
    (h : ∀ s ∈ (c?.bind (·.parentOrigin)).toList, (Utf8.encode s).length < Write.lengthLimit) :
    ∃ out, TraceContext.encode? c? = .ok out := by
  cases c? with
  | none => exact ⟨_, rfl⟩
  | some c =>
    obtain ⟨out, hout⟩ := exists_encode_text? h
    exact ⟨_, (if_neg (hspan c rfl)).trans (Write.bind_eq_ok.mpr ⟨out, hout, rfl⟩)⟩

/-- The only fault of a trace context whose text fits is that it has no span. -/
theorem encode_trace_eq_error_iff {c? : Option TraceContext} {e : EncodeError}
    (h : ∀ s ∈ (c?.bind (·.parentOrigin)).toList, (Utf8.encode s).length < Write.lengthLimit) :
    TraceContext.encode? c? = .error e ↔ (∃ c, c? = some c ∧ c.spanId = 0) ∧ e = .zeroSpanId := by
  by_cases hspan : ∃ c, c? = some c ∧ c.spanId = 0
  · obtain ⟨c, rfl, hzero⟩ := hspan
    simp [TraceContext.encode?, hzero, eq_comm]
  · obtain ⟨out, hout⟩ := exists_encode_trace (fun c hc hzero => hspan ⟨c, hc, hzero⟩) h
    simp [hout, hspan]

/-! ### Attributes -/

theorem exists_encode_scalar {v : Scalar} (hknown : v.Known)
    (h : ∀ s ∈ v.texts, (Utf8.encode s).length < Write.lengthLimit) :
    ∃ out, v.encode = .ok out := by
  cases v with
  | text value =>
    obtain ⟨out, hout⟩ := Write.exists_text (h value (by simp [Scalar.texts]))
    exact ⟨_, Write.bind_eq_ok.mpr ⟨out, hout, rfl⟩⟩
  | unsupported tag => exact absurd rfl (hknown tag)
  | _ => exact ⟨_, rfl⟩

variable {e : String × Scalar} {es : List (String × Scalar)} {error : EncodeError}

/-- The fault of a value of an unknown type names the attribute, and is the only one of an attribute
whose texts fit. -/
theorem encodeAttribute_eq_error_iff
    (h : ∀ s ∈ e.1 :: e.2.texts, (Utf8.encode s).length < Write.lengthLimit) :
    encodeAttribute e = .error error ↔
      ∃ tag, e.2 = .unsupported tag ∧ error = .inAttribute e.1 (.unsupportedScalar tag) := by
  obtain ⟨key, value⟩ := e
  rw [List.forall_mem_cons] at h
  obtain ⟨out, hout⟩ := Write.exists_text h.1
  by_cases hknown : value.Known
  · obtain ⟨bs, hbs⟩ := (exists_encodeAttribute_iff (key, value)).mpr
      ⟨⟨out, hout⟩, exists_encode_scalar hknown h.2⟩
    simp [hbs, hknown _]
  · obtain ⟨tag, rfl⟩ := Scalar.not_known_iff.mp hknown
    have herror : encodeAttribute (key, .unsupported tag) =
        .error (.inAttribute key (.unsupportedScalar tag)) := by
      rw [encodeAttribute, hout]
      rfl
    simp [herror, eq_comm]

theorem encodeEntries_cons_eq_error_iff :
    encodeEntries (e :: es) = .error error ↔ encodeAttribute e = .error error ∨
      (∃ out, encodeAttribute e = .ok out) ∧ encodeEntries es = .error error := by
  rw [encodeEntries]
  simp only [Write.bind_eq_error]
  simp [pure, Except.pure]

/-- Attributes fail at the first that cannot be written. -/
theorem encodeEntries_eq_error_iff :
    encodeEntries es = .error error ↔ ∃ before e after, es = before ++ e :: after ∧
      (∀ e ∈ before, ∃ out, encodeAttribute e = .ok out) ∧ encodeAttribute e = .error error := by
  induction es with
  | nil => simp [encodeEntries]
  | cons e es ih =>
    rw [encodeEntries_cons_eq_error_iff, ih]
    constructor
    · rintro (herror | ⟨hout, before, e', after, rfl, hbefore, herror⟩)
      · exact ⟨[], e, es, rfl, nofun, herror⟩
      · exact ⟨e :: before, e', after, rfl, List.forall_mem_cons.mpr ⟨hout, hbefore⟩, herror⟩
    · rintro ⟨before, e', after, hes, hbefore, herror⟩
      cases before with
      | nil =>
        cases hes
        exact .inl herror
      | cons e before =>
        cases hes
        obtain ⟨hout, hbefore⟩ := List.forall_mem_cons.mp hbefore
        exact .inr ⟨hout, before, e', after, rfl, hbefore, herror⟩

/-- **Attributes whose texts fit fail at the first value of an unknown type.** -/
theorem encodeEntries_eq_error_iff_of_fits
    (h : ∀ e ∈ es, ∀ s ∈ e.1 :: e.2.texts, (Utf8.encode s).length < Write.lengthLimit) :
    encodeEntries es = .error error ↔ ∃ before key tag after,
      es = before ++ (key, .unsupported tag) :: after ∧ (∀ e ∈ before, e.2.Known) ∧
        error = .inAttribute key (.unsupportedScalar tag) := by
  rw [encodeEntries_eq_error_iff]
  constructor
  · rintro ⟨before, ⟨key, value⟩, after, rfl, hbefore, herror⟩
    obtain ⟨tag, rfl, rfl⟩ := (encodeAttribute_eq_error_iff (h _ (by simp))).mp herror
    refine ⟨before, key, tag, after, rfl, fun e he tag htag => ?_, rfl⟩
    obtain ⟨out, hout⟩ := hbefore e he
    cases hout.symm.trans ((encodeAttribute_eq_error_iff (h e (by simp [he]))).mpr ⟨tag, htag, rfl⟩)
  · rintro ⟨before, key, tag, after, rfl, hbefore, rfl⟩
    refine ⟨before, _, after, rfl, fun e he => ?_,
      (encodeAttribute_eq_error_iff (h _ (by simp))).mpr ⟨tag, rfl, rfl⟩⟩
    cases hout : encodeAttribute e with
    | ok out => exact ⟨out, rfl⟩
    | error e' =>
      obtain ⟨tag, htag, -⟩ := (encodeAttribute_eq_error_iff (h e (by simp [he]))).mp hout
      exact absurd htag (hbefore e he tag)

open Classical in
theorem exists_first_unsupported {key : String} {tag : UInt8} (h : (key, .unsupported tag) ∈ es) :
    ∃ before key tag after,
      es = before ++ (key, .unsupported tag) :: after ∧ ∀ e ∈ before, e.2.Known := by
  cases hfind : es.find? fun e => ¬ e.2.Known with
  | none =>
    have hknown : Scalar.Known (.unsupported tag) := by
      simpa using List.find?_eq_none.mp hfind _ h
    exact absurd rfl (hknown tag)
  | some e =>
    obtain ⟨hunknown, before, after, hes, hbefore⟩ := List.find?_eq_some_iff_append.mp hfind
    obtain ⟨tag, htag⟩ := Scalar.not_known_iff.mp (of_decide_eq_true hunknown)
    exact ⟨before, e.1, tag, after, htag ▸ hes, fun e he => by simpa using hbefore e he⟩

/-! ### Records -/

variable {r : LogRecord}

/-- What can go wrong when a record is written whose texts fit: the time, then the trace context,
then the attributes. -/
theorem encode_eq_bind (h : r.Fits) : ∃ eventType sourceNode sourceName message count,
    r.encode = encodeTime r.time >>= fun time => TraceContext.encode? r.trace >>= fun trace =>
      encodeEntries r.attributes.entries >>= fun entries =>
        Except.ok (time ++ Write.uint16 r.severity ++ eventType ++ sourceNode ++ sourceName ++
          message ++ trace ++ (count ++ entries)) := by
  have htexts := h.texts
  simp only [texts, List.forall_mem_append] at htexts
  obtain ⟨⟨⟨⟨⟨heventType, hsourceNode⟩, hsourceName⟩, hmessage⟩, -⟩, -⟩ := htexts
  obtain ⟨eventType, heventType⟩ := exists_encode_nodeId heventType
  obtain ⟨sourceNode, hsourceNode⟩ := exists_encode_nodeId hsourceNode
  obtain ⟨sourceName, hsourceName⟩ := exists_encode_text? hsourceName
  obtain ⟨message, hmessage⟩ := Write.exists_text (hmessage _ List.mem_cons_self)
  have hcount : Write.length r.attributes.size = .ok (LittleEndian.encode 4 r.attributes.size) :=
    if_pos h.count
  refine ⟨eventType, sourceNode, sourceName, textMask :: message,
    LittleEndian.encode 4 r.attributes.size, ?_⟩
  rw [encode, heventType, hsourceNode, hsourceName, encodeMessage, hmessage, encodeAttributes,
    hcount]
  cases encodeTime r.time with
  | error e => rfl
  | ok time =>
    cases TraceContext.encode? r.trace with
    | error e => rfl
    | ok trace => cases encodeEntries r.attributes.entries <;> rfl

/-- **A record fails at the first thing that has no wire form.** -/
theorem encode_eq_error_iff (h : r.Fits) (e : EncodeError) :
    r.encode = .error e ↔ r.Unwritable e := by
  obtain ⟨eventType, sourceNode, sourceName, message, count, hencode⟩ := encode_eq_bind h
  have htexts := h.texts
  simp only [texts, List.forall_mem_append, List.forall_mem_flatMap] at htexts
  obtain ⟨⟨-, horigin⟩, hentries⟩ := htexts
  rw [hencode]
  simp only [Write.bind_eq_error, reduceCtorEq, and_false, exists_false, or_false]
  rw [encodeTime_eq_error_iff, encode_trace_eq_error_iff horigin,
    encodeEntries_eq_error_iff_of_fits hentries]
  constructor
  · rintro (⟨t, ht, hticks, rfl⟩ | ⟨time, htime, hlater⟩)
    · exact .time ht hticks
    · have htime' : ∀ t, r.time = some t → t.HasTicks := fun t ht => by
        rcases encodeTime_some t with hticks | ⟨-, herror⟩
        · exact hticks.1
        · rw [ht, herror] at htime
          cases htime
      rcases hlater with
        ⟨⟨c, hc, hspan⟩, rfl⟩ | ⟨trace, htrace, before, key, tag, after, hes, hb, rfl⟩
      · exact .span htime' hc hspan
      · refine .value htime' (fun c hc hspan => ?_) hes hb
        have herror := (encode_trace_eq_error_iff horigin).mpr ⟨⟨c, hc, hspan⟩, rfl⟩
        rw [herror] at htrace
        cases htrace
  · rintro (⟨ht, hticks⟩ | ⟨htime, hc, hspan⟩ | ⟨htime, htrace, hes, hb⟩)
    · exact .inl ⟨_, ht, hticks, rfl⟩
    · obtain ⟨time, htime⟩ := exists_encodeTime htime
      exact .inr ⟨time, htime, .inl ⟨⟨_, hc, hspan⟩, rfl⟩⟩
    · obtain ⟨time, htime⟩ := exists_encodeTime htime
      obtain ⟨trace, htrace⟩ := exists_encode_trace htrace horigin
      exact .inr ⟨time, htime, .inr ⟨trace, htrace, _, _, _, _, hes, hb, rfl⟩⟩

/-- The first thing that has no wire form, without regard to which is the first. -/
theorem exists_unwritable_iff : (∃ e, r.Unwritable e) ↔
    (∃ t, r.time = some t ∧ ¬ t.HasTicks) ∨ (∃ c, r.trace = some c ∧ c.spanId = 0) ∨
      ∃ key tag, (key, Scalar.unsupported tag) ∈ r.attributes.entries := by
  constructor
  · rintro ⟨e, ⟨ht, hticks⟩ | ⟨-, hc, hspan⟩ | ⟨-, -, hes, -⟩⟩
    · exact .inl ⟨_, ht, hticks⟩
    · exact .inr (.inl ⟨_, hc, hspan⟩)
    · exact .inr (.inr ⟨_, _, hes ▸ List.mem_append_right _ List.mem_cons_self⟩)
  · intro h
    by_cases htime : ∃ t, r.time = some t ∧ ¬ t.HasTicks
    · obtain ⟨t, ht, hticks⟩ := htime
      exact ⟨_, .time ht hticks⟩
    have htime' : ∀ t, r.time = some t → t.HasTicks := fun t ht =>
      Classical.not_not.mp fun hticks => htime ⟨t, ht, hticks⟩
    by_cases htrace : ∃ c, r.trace = some c ∧ c.spanId = 0
    · obtain ⟨c, hc, hspan⟩ := htrace
      exact ⟨_, .span htime' hc hspan⟩
    obtain ⟨key, tag, hmem⟩ := (h.resolve_left htime).resolve_left htrace
    obtain ⟨before, key, tag, after, hes, hb⟩ := exists_first_unsupported hmem
    exact ⟨_, .value htime' (fun c hc hspan => htrace ⟨c, hc, hspan⟩) hes hb⟩

/-- What a record is kept by: a record with the same tick count and the same other fields, but for a
null identifier, which counts as none. -/
structure KeptBy (r r' : LogRecord) : Prop where
  /-- The time has the same tick count, or is not set. -/
  time : r'.time.map Instant.ticks = r.time.map Instant.ticks
  /-- The severity is the same. -/
  severity : r'.severity = r.severity
  /-- The message is the same. -/
  message : r'.message = r.message
  /-- The event type is the same, unless it is null. -/
  eventType : r'.eventType = r.eventType.filter (!·.isNull)
  /-- The source node is the same, unless it is null. -/
  sourceNode : r'.sourceNode = r.sourceNode.filter (!·.isNull)
  /-- The source name is the same. -/
  sourceName : r'.sourceName = r.sourceName
  /-- The trace context is the same. -/
  trace : r'.trace = r.trace
  /-- The attributes are the same, in their order. -/
  attributes : r'.attributes = r.attributes

theorem keptBy_normal {bs : Bytes} (h : r.encode = .ok bs) : r.KeptBy r.normal := by
  refine ⟨?_, rfl, rfl, rfl, rfl, rfl, rfl, rfl⟩
  cases ht : r.time with
  | none => rw [normal, ht]; rfl
  | some t =>
    obtain ⟨t', ht', -, htotal⟩ := normal_time h ht
    have hticks : t'.ticks = t.ticks := by
      rw [Instant.ticks, Instant.ticks, htotal, Int.mul_ediv_cancel _ (by decide)]
    rw [ht', Option.map_some, Option.map_some, hticks]

/-- **Encoding fails exactly when something has no wire form**, in a record whose texts and count of
attributes fit their length fields: the time has no tick count, or the trace context no span, or a
value is of an unknown type. The error reports the first of these in the order of the fields, and
among the attributes the first in their order. Nothing is left out of what is encoded: it is
decoded, with all of its bytes, as a record with the same tick count, the same attributes and the
same other fields, a null identifier counting as none. -/
theorem encode_fails_iff (r : LogRecord) (h : r.Fits) :
    ((∃ e, r.encode = .error e) ↔
      (∃ t, r.time = some t ∧ ¬ t.HasTicks) ∨ (∃ c, r.trace = some c ∧ c.spanId = 0) ∨
        ∃ key tag, (key, Scalar.unsupported tag) ∈ r.attributes.entries) ∧
      (∀ e, r.encode = .error e ↔ r.Unwritable e) ∧
      ∀ bs, r.encode = .ok bs → ∃ r', decode bs = .ok (r', bs.length) ∧ r.KeptBy r' := by
  refine ⟨?_, encode_eq_error_iff h, fun bs hbs => ⟨r.normal, ?_, keptBy_normal hbs⟩⟩
  · rw [← exists_unwritable_iff]
    exact exists_congr (encode_eq_error_iff h)
  · have hdecode := (Read.takes_logRecord hbs).decodeWith []
    rwa [List.append_nil] at hdecode

/-- An instant in the last 100 ns of 1600, which have the count -1. -/
def earlyInstant : Instant := ⟨-11644473601, 999999999, by decide, by decide, by decide⟩

/-- A record with all three faults: a time without a tick count, a trace context without a span, and
values of two unknown types. -/
def faultyRecord : LogRecord where
  time := some earlyInstant
  severity := 500
  message := "é"
  eventType := some .null
  sourceNode := some (.text 2 "pump")
  sourceName := some ""
  trace := some ⟨.zero, 0, 7, some "gateway"⟩
  attributes := ((Attributes.empty.insert "a" (.text "")).insert "b" (.unsupported 13)).insert "c"
    (.unsupported 14)

/-- The faults come to light one after another, in the order of the fields; without them the record
is written and kept. -/
theorem encode_fails_iff_faultyRecord :
    faultyRecord.encode = .error (.timeOutOfRange earlyInstant) ∧
      { faultyRecord with time := none }.encode = .error .zeroSpanId ∧
      { faultyRecord with time := none, trace := none }.encode =
        .error (.inAttribute "b" (.unsupportedScalar 13)) ∧
      ∃ bs r', (make .epoch 500 "é").encode = .ok bs ∧ decode bs = .ok (r', bs.length) ∧
        (make .epoch 500 "é").KeptBy r' := by
  have hticks : ¬ earlyInstant.HasTicks := by
    simp [Instant.HasTicks, Instant.ticks, Instant.totalNanos, earlyInstant, Ticks.unixEpoch]
  have hfits : faultyRecord.Fits := ⟨by decide, by decide⟩
  have hfits' : { faultyRecord with time := none }.Fits := ⟨by decide, by decide⟩
  have hfits'' : { faultyRecord with time := none, trace := none }.Fits := ⟨by decide, by decide⟩
  have htime : ∀ t, (none : Option Instant) = some t → t.HasTicks := by simp
  have htrace : ∀ c, (none : Option TraceContext) = some c → c.spanId ≠ 0 := by simp
  have hentries : faultyRecord.attributes.entries =
      [("a", .text "")] ++ ("b", .unsupported 13) :: [("c", .unsupported 14)] := rfl
  have hbefore : ∀ e ∈ [("a", Scalar.text "")], e.2.Known := by simp [Scalar.Known]
  obtain ⟨bs, hbs⟩ : ∃ bs, (make .epoch 500 "é").encode = .ok bs := ⟨_, rfl⟩
  obtain ⟨r', hdecode, hkept⟩ := (encode_fails_iff (make .epoch 500 "é") ⟨by decide, by decide⟩).2.2
    bs hbs
  exact ⟨((encode_fails_iff _ hfits).2.1 _).mpr (.time rfl hticks),
    ((encode_fails_iff _ hfits').2.1 _).mpr (.span htime rfl rfl),
    ((encode_fails_iff _ hfits'').2.1 _).mpr (.value htime htrace hentries hbefore),
    bs, r', hbs, hdecode, hkept⟩

end LogRecord

end LogHistory
