import LogHistory.Proofs.EntryCounts

/-!
# The trace context within a record

The trace section stands behind the five fields that have no fixed length, and before the
attributes. It is there in every record: sixteen bytes of a trace id, a span id and a parent span id
of eight bytes each, and the text of the parent's origin. What comes before it is the preface of the
record. The bytes that the preface takes are where the section starts, and 32 bytes after that its
text does.

Only whether the span id is zero says if there is a trace context. If there is none, then the other
24 bytes may be anything: neither the record nor the place where its attributes start depends on
them. So they carry nothing through a program that reads records, and nothing of what stood there
comes back to whoever is given the record.

## What is proved

* `Parser.logRecord_eq_preface` — a record is a preface, a trace section and attributes.
* `Parser.traceContext?_numbers` — what is read of a trace section, given its three numbers.
* `LogRecord.exists_sections` — every record that is decoded has such a section.
* `LogRecord.decode_of_zero_span` — with a span id of zero, the other numbers make no difference to
  what is decoded, the faults included.
* `trace_sections_exact` — where the section is, what is read of it, and what is not.
-/

namespace LogHistory

/-! ### Bytes in place -/

/-- The bytes, with others in the place of those from an offset on. -/
def overwrite (data : Bytes) (offset : Nat) (bs : Bytes) : Bytes :=
  data.take offset ++ bs ++ data.drop (offset + bs.length)

variable {xs ys zs : Bytes} {offset : Nat}

theorem overwrite_append {bs : Bytes} (hoffset : offset = xs.length) (hlen : bs.length = ys.length) :
    overwrite (xs ++ (ys ++ zs)) offset bs = xs ++ (bs ++ zs) := by
  subst hoffset
  rw [overwrite, List.take_left, hlen, ← List.drop_drop, List.drop_left, List.drop_left,
    List.append_assoc]

theorem take_drop_append {w : Nat} (hoffset : offset = xs.length) (hw : w = ys.length) :
    ((xs ++ (ys ++ zs)).drop offset).take w = ys := by
  subst hoffset hw
  rw [List.drop_left, List.take_left]

theorem Write.decode_uint64 (v : UInt64) : LittleEndian.decode (uint64 v) = v.toNat := by
  rw [uint64, LittleEndian.decode_encode]
  exact Nat.mod_eq_of_lt v.toNat_lt

theorem Write.length_uint64 (v : UInt64) : (uint64 v).length = 8 := LittleEndian.length_encode ..

theorem Write.exists_uint64 {bs : Bytes} (h : bs.length = 8) : ∃ v, bs = uint64 v := by
  have hlt := LittleEndian.decode_lt bs
  have hword := LittleEndian.encode_decode bs
  rw [h] at hlt hword
  exact ⟨.ofNat (LittleEndian.decode bs), by rw [uint64, UInt64.toNat_ofNat_of_lt' hlt, hword]⟩

theorem Write.uint64_eq_zero_iff {v : UInt64} : (∀ b ∈ uint64 v, b = 0) ↔ v = 0 := by
  constructor
  · intro h
    have hzeros : uint64 v = List.replicate 8 0 :=
      List.eq_replicate_iff.mpr ⟨length_uint64 v, h⟩
    rw [← UInt64.toNat_inj, ← decode_uint64, hzeros]
    rfl
  · rintro rfl b hb
    exact List.eq_of_mem_replicate (show b ∈ List.replicate 8 0 from hb)

/-! ### The fields before the trace section -/

/-- The fields of a record before its trace section. -/
def Parser.preface : Parser LogRecord := do
  let ticks ← signed 8
  let severity ← number 2
  let eventType ← nodeId?
  let sourceNode ← nodeId?
  let sourceName ← text?
  let message ← message
  return ⟨Ticks.toInstant? (.ofInt ticks), .ofNat severity, message, eventType, sourceNode,
    sourceName, none, .empty⟩

/-- The fields of a record before its trace section. -/
def Read.preface : Read LogRecord := do
  let ticks ← int64
  let severity ← uint16
  let eventType ← nodeId?
  let sourceNode ← nodeId?
  let sourceName ← text?
  let message ← message
  return ⟨Ticks.toInstant? ticks, severity, message, eventType, sourceNode, sourceName, none,
    .empty⟩

namespace Parser

theorem laid_preface : Laid preface :=
  (laid_signed 8).bind fun _ => (laid_number 2).bind fun _ => laid_nodeId?.bind fun _ =>
    laid_nodeId?.bind fun _ => laid_text?.bind fun _ => laid_message.bind fun _ => .pure _

/-- A record is a preface, a trace section and attributes. -/
theorem logRecord_eq_preface : logRecord =
    preface >>= fun r => traceContext? >>= fun t => attributes >>= fun a =>
      pure { r with trace := t, attributes := a } := by
  simp only [logRecord, preface, bind_assoc, pure_bind]

end Parser

theorem Read.follows_preface : Follows preface Parser.preface id :=
  follows_int64.bind fun ticks => follows_uint16.bind fun severity =>
    follows_nodeId?.bind fun eventType => follows_nodeId?.bind fun sourceNode =>
    follows_text?.bind fun sourceName => follows_message.bind fun message => .pure (by simp)

/-! ### The trace section -/

/-- The bytes of the three numbers of a section, and what comes after them. -/
def TraceContext.numbers (id : TraceId) (span parent : UInt64) (rest : Bytes) : Bytes :=
  id.bytes ++ (Write.uint64 span ++ (Write.uint64 parent ++ rest))

theorem TraceContext.exists_numbers {bs : Bytes} (h : 32 ≤ bs.length) :
    ∃ (id : TraceId) (span parent : UInt64) (rest : Bytes),
      bs = numbers id span parent rest := by
  obtain ⟨xs, bs, rfl, hid⟩ := exists_append_of_le (show 16 ≤ bs.length by omega)
  rw [List.length_append] at h
  obtain ⟨ys, bs, rfl, hspan⟩ := exists_append_of_le (show 8 ≤ bs.length by omega)
  rw [List.length_append] at h
  obtain ⟨zs, rest, rfl, hparent⟩ := exists_append_of_le (show 8 ≤ bs.length by omega)
  obtain ⟨span, rfl⟩ := Write.exists_uint64 hspan
  obtain ⟨parent, rfl⟩ := Write.exists_uint64 hparent
  exact ⟨⟨xs, hid⟩, span, parent, rest, rfl⟩

section Numbers

variable (xs : Bytes) (id : TraceId) (span parent : UInt64) (rest : Bytes)

open TraceContext

theorem drop_numbers :
    (xs ++ numbers id span parent rest).drop (xs.length + 32) = rest := by
  have hid := id.length_eq
  have hspan := Write.length_uint64 span
  have hparent := Write.length_uint64 parent
  rw [numbers, ← List.append_assoc, ← List.append_assoc, ← List.append_assoc]
  exact List.drop_left' (by simp only [List.length_append]; omega)

theorem traceId_numbers :
    ((xs ++ numbers id span parent rest).drop xs.length).take 16 = id.bytes :=
  take_drop_append rfl id.length_eq.symm

theorem spanId_numbers :
    ((xs ++ numbers id span parent rest).drop (xs.length + 16)).take 8 = Write.uint64 span := by
  rw [numbers, ← List.append_assoc]
  exact take_drop_append (by rw [List.length_append, id.length_eq]) (Write.length_uint64 span).symm

theorem parentSpanId_numbers :
    ((xs ++ numbers id span parent rest).drop (xs.length + 24)).take 8 = Write.uint64 parent := by
  rw [numbers, ← List.append_assoc, ← List.append_assoc]
  refine take_drop_append ?_ (Write.length_uint64 parent).symm
  rw [List.length_append, List.length_append, id.length_eq, Write.length_uint64, Nat.add_assoc]

/-- Overwriting the trace id and the parent's span id gives another section. -/
theorem overwrite_numbers (id' : TraceId) (parent' : UInt64) :
    overwrite (overwrite (xs ++ numbers id span parent rest) xs.length id'.bytes) (xs.length + 24)
      (Write.uint64 parent') = xs ++ numbers id' span parent' rest := by
  have hlen : xs.length + 24 = (xs ++ id'.bytes ++ Write.uint64 span).length := by
    rw [List.length_append, List.length_append, id'.length_eq, Write.length_uint64, Nat.add_assoc]
  have hword : (Write.uint64 parent').length = (Write.uint64 parent).length := by
    rw [Write.length_uint64, Write.length_uint64]
  rw [numbers, overwrite_append rfl (id'.length_eq.trans id.length_eq.symm), ← List.append_assoc,
    ← List.append_assoc, overwrite_append hlen hword, List.append_assoc, List.append_assoc, numbers]

end Numbers

/-- What the bytes of a trace section say: nothing, if the span id is zero. -/
def TraceContext.spanned? (id : TraceId) (span parent : UInt64) (origin : Option String) :
    Option TraceContext :=
  if span = 0 then none else some ⟨id, span, parent, origin⟩

/-- What a read takes, the parser that it follows takes. -/
theorem Read.Takes.parser_eq {α β : Type} {p : Read α} {q : Parser β} {e : α → β} {bs : Bytes}
    {a : α} (h : p.Takes bs a) (hp : p.Follows q e) (rest : Bytes) (offset : Nat) :
    q ⟨bs ++ rest, offset⟩ = .ok (e a, ⟨rest, offset + bs.length⟩) := by
  have htakes := h rest offset
  rw [← hp.stopped_eq]
  exact Parser.map_ok (stopped_ok htakes)

/-- **What is read of a trace section** whose three numbers are given is what its text leaves. -/
theorem Parser.traceContext?_numbers (id : TraceId) (span parent : UInt64) (rest : Bytes)
    (offset : Nat) :
    traceContext? ⟨TraceContext.numbers id span parent rest, offset⟩ =
      (TraceContext.spanned? id span parent <$> text?) ⟨rest, offset + 32⟩ := by
  have hid := (Read.takes_traceId id).parser_eq Read.follows_traceId
    (Write.uint64 span ++ (Write.uint64 parent ++ rest)) offset
  have hspan := (Read.takes_uint64 span).parser_eq Read.follows_uint64
    (Write.uint64 parent ++ rest) (offset + id.bytes.length)
  have hparent := (Read.takes_uint64 parent).parser_eq Read.follows_uint64 rest
    (offset + id.bytes.length + (Write.uint64 span).length)
  have hzero : span.toNat = 0 ↔ span = 0 := by
    rw [← UInt64.toNat_inj]
    rfl
  rw [traceContext?, TraceContext.numbers, bind_ok hid, bind_ok hspan, bind_ok hparent,
    map_eq_pure_bind, id.length_eq, Write.length_uint64, Write.length_uint64]
  simp only [TraceContext.spanned?, hzero, UInt64.ofNat_toNat, id_eq]

/-! ### Records -/

/-- What a layout takes at a place is decoded of what is left there. -/
theorem Read.Follows.decodeWith_unread {α : Type} {p : Read α} {q : Parser α} (hp : p.Follows q id)
    (hq : q.Laid) {here there : Place} {a : α} (h : q here = .ok (a, there)) :
    ∃ k, LogHistory.decodeWith p here.unread = .ok (a, k) ∧ there.unread = here.unread.drop k ∧
      there.offset = here.offset + k := by
  obtain ⟨used, hunread, hoffset, haccepts⟩ := hq.delimits here there a h
  refine ⟨used.length, ?_, ?_, hoffset⟩
  · rw [hunread]
    exact (hp.takes haccepts).decodeWith there.unread
  · rw [hunread, List.drop_left]

namespace Parser

/-- What follows the numbers of a trace section: its text, and the attributes. -/
def sectionEnd (front : LogRecord) (trace? : Option String → Option TraceContext) :
    Parser LogRecord := do
  let origin ← text?
  let attributes ← attributes
  return { front with trace := trace? origin, attributes := attributes }

/-- After a preface and the numbers of a section, a record is read of what is left. -/
theorem logRecord_numbers {xs : Bytes} {front : LogRecord} (hfront : preface.Accepts xs front)
    (id : TraceId) (span parent : UInt64) (rest : Bytes) :
    logRecord ⟨xs ++ TraceContext.numbers id span parent rest, 0⟩ =
      sectionEnd front (TraceContext.spanned? id span parent) ⟨rest, xs.length + 32⟩ := by
  rw [logRecord_eq_preface, bind_ok (hfront.whole _ 0), Nat.zero_add]
  have hsection := traceContext?_numbers id span parent rest xs.length
  cases htext : text? ⟨rest, xs.length + 32⟩ with
  | error e =>
    rw [map_error htext] at hsection
    rw [bind_error hsection, sectionEnd, bind_error htext]
  | ok r =>
    rw [map_ok htext] at hsection
    rw [bind_ok hsection, sectionEnd, bind_ok htext]

end Parser

namespace LogRecord

variable {data : Bytes} {r : LogRecord} {n : Nat}

/-- **Every record that is decoded has a trace section**, behind a preface. -/
theorem exists_sections (h : decode data = .ok (r, n)) :
    ∃ (xs : Bytes) (front : LogRecord) (id : TraceId) (span parent : UInt64) (rest : Bytes),
      data = xs ++ TraceContext.numbers id span parent rest ∧
        Parser.preface.Accepts xs front := by
  rw [decode, Read.follows_logRecord.decodeWith] at h
  obtain ⟨there, hparse, -⟩ := Parser.parse_eq_ok.mp h
  rw [Parser.logRecord_eq_preface] at hparse
  obtain ⟨front, mid, hfront, hparse⟩ := Parser.bind_eq_ok.mp hparse
  obtain ⟨t, last, hsection, -⟩ := Parser.bind_eq_ok.mp hparse
  obtain ⟨xs, hdata, -, haccepts⟩ := Parser.laid_preface.delimits _ mid front hfront
  -- The section has had the bytes of its numbers, and more.
  obtain ⟨used, hused, hoffset, -⟩ := Parser.laid_traceContext?.delimits mid last t hsection
  have hleast := Parser.atLeast_traceContext? mid last t hsection
  have hlen : 32 ≤ mid.unread.length := by
    rw [hused, List.length_append]
    omega
  obtain ⟨id, span, parent, rest, hnumbers⟩ := TraceContext.exists_numbers hlen
  exact ⟨xs, front, id, span, parent, rest, by rw [← hnumbers]; exact hdata, haccepts⟩

/-- **With a span id of zero, the trace id and the parent's span id make no difference**, whether
there is a record or a fault. -/
theorem decode_of_zero_span {xs : Bytes} {front : LogRecord}
    (hfront : Parser.preface.Accepts xs front) (id id' : TraceId) (parent parent' : UInt64)
    (rest : Bytes) :
    decode (xs ++ TraceContext.numbers id 0 parent rest) =
      decode (xs ++ TraceContext.numbers id' 0 parent' rest) := by
  have hnone : TraceContext.spanned? id 0 parent = TraceContext.spanned? id' 0 parent' := rfl
  simp only [decode, Read.follows_logRecord.decodeWith, Parser.parse,
    Parser.logRecord_numbers hfront, hnone]

/-- What comes after the numbers of a section: a text and attributes, and the record is made of
what they are. -/
theorem exists_sectionEnd {xs : Bytes} {front : LogRecord}
    (hfront : Parser.preface.Accepts xs front) {id : TraceId} {span parent : UInt64} {rest : Bytes}
    (h : decode (xs ++ TraceContext.numbers id span parent rest) = .ok (r, n)) :
    ∃ origin m k, decodeWith Read.text? rest = .ok (origin, m) ∧
      decodeWith Read.attributes (rest.drop m) = .ok (r.attributes, k) ∧
      n = xs.length + 32 + m + k ∧
      r = { front with
        trace := TraceContext.spanned? id span parent origin, attributes := r.attributes } := by
  rw [decode, Read.follows_logRecord.decodeWith] at h
  obtain ⟨there, hparse, rfl⟩ := Parser.parse_eq_ok.mp h
  rw [Parser.logRecord_numbers hfront] at hparse
  obtain ⟨origin, mid, htext, hparse⟩ := Parser.bind_eq_ok.mp hparse
  obtain ⟨attributes, last, hattributes, hparse⟩ := Parser.bind_eq_ok.mp hparse
  cases hparse
  obtain ⟨m, horigin, hunread, hm⟩ :=
    Read.follows_text?.decodeWith_unread Parser.laid_text? htext
  obtain ⟨k, hdecode, -, hk⟩ :=
    Read.follows_attributes.decodeWith_unread Parser.laid_attributes hattributes
  rw [hunread] at hdecode
  exact ⟨origin, m, k, horigin, hdecode, by rw [hk, hm], rfl⟩

end LogRecord

/-- **The trace section of a record** starts where the preface ends, at `p`. Its text is what is
decoded 32 bytes after that, and the attributes are what is decoded after the text, be there a trace
context or not. There is one if the eight bytes of the span id are not all zero; its trace id is the
sixteen bytes of the section in their order, and its span ids are the numbers after it, least
significant byte first. If they are all zero there is none, and the bytes of the trace id and of the
parent's span id can be overwritten with any others without a change to what is decoded. -/
theorem trace_sections_exact (data : Bytes) (r : LogRecord) (n : Nat)
    (h : LogRecord.decode data = .ok (r, n)) :
    ∃ front p origin m k, decodeWith Read.preface data = .ok (front, p) ∧
      decodeWith Read.text? (data.drop (p + 32)) = .ok (origin, m) ∧
      decodeWith Read.attributes (data.drop (p + 32 + m)) = .ok (r.attributes, k) ∧
      n = p + 32 + m + k ∧ r = { front with trace := r.trace, attributes := r.attributes } ∧
      ((∃ b ∈ (data.drop (p + 16)).take 8, b ≠ 0) → ∃ t, r.trace = some t ∧
        t.traceId.bytes = (data.drop p).take 16 ∧
        t.spanId.toNat = LittleEndian.decode ((data.drop (p + 16)).take 8) ∧
        t.parentSpanId.toNat = LittleEndian.decode ((data.drop (p + 24)).take 8) ∧
        t.parentOrigin = origin) ∧
      ((∀ b ∈ (data.drop (p + 16)).take 8, b = 0) → r.trace = none ∧
        ∀ id parent : Bytes, id.length = 16 → parent.length = 8 →
          LogRecord.decode (overwrite (overwrite data p id) (p + 24) parent) = .ok (r, n)) := by
  obtain ⟨xs, front, id, span, parent, rest, rfl, hfront⟩ := LogRecord.exists_sections h
  obtain ⟨origin, m, k, horigin, hattributes, hn, hr⟩ := LogRecord.exists_sectionEnd hfront h
  have hrest := drop_numbers xs id span parent rest
  have hspanId := spanId_numbers xs id span parent rest
  refine ⟨front, xs.length, origin, m, k, (Read.follows_preface.takes hfront).decodeWith _, ?_, ?_,
    hn, ?_, ?_, ?_⟩
  · rwa [hrest]
  · rwa [← List.drop_drop, hrest]
  · rw [hr]
  · rintro ⟨b, hb, hne⟩
    rw [hspanId] at hb
    have hspan : span ≠ 0 := fun heq => hne (Write.uint64_eq_zero_iff.mpr heq b hb)
    rw [traceId_numbers, hspanId, parentSpanId_numbers, Write.decode_uint64, Write.decode_uint64]
    exact ⟨⟨id, span, parent, origin⟩, by rw [hr]; exact if_neg hspan, rfl, rfl, rfl, rfl⟩
  · intro hzeros
    rw [hspanId] at hzeros
    obtain rfl := Write.uint64_eq_zero_iff.mp hzeros
    refine ⟨by rw [hr]; rfl, fun id' parent' hid' hparent' => ?_⟩
    obtain ⟨word, rfl⟩ := Write.exists_uint64 hparent'
    rw [overwrite_numbers xs id 0 parent rest ⟨id', hid'⟩ word, ← h]
    exact LogRecord.decode_of_zero_span hfront ⟨id', hid'⟩ id word parent rest

/-- The shortest heading with a trace context in it, and no attributes. -/
def tracedBytes : Bytes :=
  shortestHeading.take 17 ++ [15, 14, 13, 12, 11, 10, 9, 8, 7, 6, 5, 4, 3, 2, 1, 0] ++
    [7, 0, 0, 0, 0, 0, 0, 0] ++ [0, 0, 0, 0, 0, 0, 0, 9] ++ Write.absent ++ List.replicate 4 0

/-- What it says. -/
def tracedRecord : LogRecord :=
  { shortestRecord with
    trace := some ⟨⟨[15, 14, 13, 12, 11, 10, 9, 8, 7, 6, 5, 4, 3, 2, 1, 0], by decide⟩, 7,
      648518346341351424, none⟩ }

/-- A trace context is found behind a preface of 17 bytes, with its trace id as it stands there.
Where the span id is zero, other bytes that are all ones are read as zeros are. -/
theorem trace_sections_exact_shortest :
    (LogRecord.decode tracedBytes = .ok (tracedRecord, 57) ∧
      ∃ t, tracedRecord.trace = some t ∧ t.traceId.bytes = (tracedBytes.drop 17).take 16 ∧
        t.parentSpanId.toNat = LittleEndian.decode ((tracedBytes.drop 41).take 8)) ∧
    LogRecord.decode (overwrite (overwrite (shortestHeading ++ List.replicate 4 0) 17
      (List.replicate 16 0xFF)) 41 (List.replicate 8 0xFF)) = .ok (shortestRecord, 57) := by
  have htraced : LogRecord.decode tracedBytes = .ok (tracedRecord, 57) :=
    eq_ok_of_toOption (by decide +kernel)
  have hpreface : decodeWith Read.preface tracedBytes = .ok (shortestRecord, 17) :=
    eq_ok_of_toOption (by decide +kernel)
  have hplain : LogRecord.decode (shortestHeading ++ List.replicate 4 0) =
      .ok (shortestRecord, 57) := eq_ok_of_toOption (by decide +kernel)
  have hpreface' : decodeWith Read.preface (shortestHeading ++ List.replicate 4 0) =
      .ok (shortestRecord, 17) := eq_ok_of_toOption (by decide +kernel)
  obtain ⟨_, _, _, _, _, hfront, -, -, -, -, hspan, -⟩ := trace_sections_exact _ _ _ htraced
  obtain ⟨_, _, _, _, _, hfront', -, -, -, -, -, hzero⟩ := trace_sections_exact _ _ _ hplain
  cases hpreface.symm.trans hfront
  cases hpreface'.symm.trans hfront'
  obtain ⟨t, ht, hid, -, hparent, -⟩ := hspan (by decide +kernel)
  exact ⟨⟨htraced, t, ht, hid, hparent⟩, (hzero (by decide +kernel)).2 _ _ (by decide) (by decide)⟩

end LogHistory
