import LogHistory.Proofs.Takes
import LogHistory.Proofs.Ticks

/-!
# Log records come back

Decoding an encoded record yields the record without what the wire does not carry,
`LogRecord.normal`: the time at its last whole tick, and no identifier in place of a null one. All
else is unchanged, the order of the attributes and the bits of floating-point numbers included, and
whatever follows the record is left alone.

Each field has a lemma that its read takes its wire form. The attributes are read as a list of
entries, and putting the entries of a map into the empty map one after another gives the map again
(`Attributes.ofList_entries`), because no name occurs twice. The fields are put together around the
message (`Read.takes_logRecord_around`), which may have been read of other bytes than it is written
in.
-/

namespace LogHistory

/-! ### Putting entries into a map -/

namespace Attributes

theorem put_of_notMem {key : String} {value : Scalar} {es : List (String × Scalar)}
    (h : key ∉ es.map Prod.fst) : put key value es = es ++ [(key, value)] := by
  induction es with
  | nil => rfl
  | cons e es ih =>
    rw [List.map_cons, List.mem_cons, not_or] at h
    rw [put, if_neg (Ne.symm h.1), ih h.2, List.cons_append]

theorem entries_foldl_insert (es : List (String × Scalar)) :
    ∀ a : Attributes, ((a.entries ++ es).map Prod.fst).Nodup →
      (es.foldl (fun a e => a.insert e.1 e.2) a).entries = a.entries ++ es := by
  induction es with
  | nil => intro a _; rw [List.foldl_nil, List.append_nil]
  | cons e es ih =>
    intro a h
    have hnew : e.1 ∉ a.entries.map Prod.fst := by
      rw [List.map_append, List.nodup_append] at h
      exact fun hmem => h.2.2 _ hmem _ (by simp) rfl
    have hput : (a.insert e.1 e.2).entries = a.entries ++ [e] := put_of_notMem hnew
    rw [List.append_cons] at h
    rw [List.foldl_cons, ih _ (by rwa [hput]), hput, List.append_assoc, List.singleton_append]

theorem ofList_entries (a : Attributes) : ofList a.entries = a := by
  have h := entries_foldl_insert a.entries empty (by simpa [empty] using a.nodup)
  rw [Attributes.mk.injEq]
  simpa [ofList, empty] using h

theorem ofNamed_map_some (es : List (String × Scalar)) :
    ofNamed (es.map fun e => (some e.1, e.2)) = ofList es := by
  rw [ofNamed, List.filterMap_map]
  congr 1
  exact List.filterMap_some

end Attributes

/-! ### Fields -/

/-- A time that can be written has a tick count, which is what is written. -/
theorem LogRecord.ofInstant?_of_encodeTime {t : Instant} {bs : Bytes}
    (h : LogRecord.encodeTime (some t) = .ok bs) :
    ∃ ticks, Ticks.ofInstant? t = some ticks ∧ bs = Write.uint64 ticks.toUInt64 := by
  simp only [LogRecord.encodeTime] at h
  split at h
  · next ticks hticks =>
    cases h
    exact ⟨ticks, hticks, rfl⟩
  · cases h

namespace Read

theorem takes_time {t : Option Instant} {bs : Bytes} (h : LogRecord.encodeTime t = .ok bs) :
    ∃ ticks, Takes int64 bs ticks ∧ Ticks.toInstant? ticks = t.bind Instant.wholeTick? := by
  cases t with
  | none =>
    cases h
    exact ⟨0, takes_int64 0, rfl⟩
  | some t =>
    obtain ⟨ticks, hticks, rfl⟩ := LogRecord.ofInstant?_of_encodeTime h
    obtain ⟨hpos, -, hk⟩ := (Ticks.ofInstant?_eq_some_iff t ticks).mp hticks
    exact ⟨ticks, takes_int64 ticks, Ticks.toInstant?_eq_wholeTick? hk hpos⟩

/-- A message is written without a locale, and its text comes back. -/
theorem takes_message {message : String} {bs : Bytes}
    (h : LogRecord.encodeMessage message = .ok bs) : Takes Read.message bs message := by
  obtain ⟨out, hout, h⟩ := Write.bind_eq_ok.mp h
  cases h
  exact (takes_byte LogRecord.textMask).bind ((Takes.pure none).bind (takes_text hout))

theorem takes_fixed {n : Nat} (bs : Bytes) (h : bs.length = n) :
    Takes (fixed n) bs ⟨bs, h⟩ := by
  subst h
  have h := (takes_take bs).map fun xs : Bytes =>
    if h : xs.length = bs.length then (⟨xs, h⟩ : { xs : Bytes // xs.length = bs.length })
    else ⟨List.replicate bs.length 0, List.length_replicate⟩
  rwa [dif_pos rfl] at h

/-- The sixteen bytes of a trace id come back in their order, though they are read as words. -/
theorem takes_traceId (id : TraceId) : Takes traceId id.bytes id := by
  obtain ⟨bytes, hlen⟩ := id
  obtain ⟨a, bytes, rfl, ha⟩ := exists_append_of_le (show 4 ≤ bytes.length by omega)
  have hbytes : bytes.length = 12 := by
    rw [List.length_append] at hlen
    omega
  obtain ⟨b, bytes, rfl, hb⟩ := exists_append_of_le (show 2 ≤ bytes.length by omega)
  rw [List.length_append] at hbytes
  obtain ⟨c, d, rfl, hc⟩ := exists_append_of_le (show 2 ≤ bytes.length by omega)
  rw [List.length_append] at hbytes
  have hd : d.length = 8 := by omega
  have h : Takes traceId (a ++ (b ++ (c ++ d))) (.ofWords ⟨a, ha⟩ ⟨b, hb⟩ ⟨c, hc⟩ ⟨d, hd⟩) :=
    (takes_fixed a ha).bind <| (takes_fixed b hb).bind <| (takes_fixed c hc).bind <|
      (takes_fixed d hd).map _
  simpa only [TraceId.ofWords, List.append_assoc] using h

/-- A trace context that may be absent comes back; one that can be written has a span. -/
theorem takes_traceContext? {t : Option TraceContext} {bs : Bytes}
    (h : TraceContext.encode? t = .ok bs) : Takes traceContext? bs t := by
  cases t with
  | none =>
    cases h
    exact (takes_traceId .zero).bind <| (takes_uint64 0).bind <| (takes_uint64 0).bind <|
      takes_byteString?_absent.map _ |>.map _
  | some t =>
    simp only [TraceContext.encode?] at h
    split_ifs at h with hspan
    obtain ⟨origin, horigin, h⟩ := Write.bind_eq_ok.mp h
    cases h
    have h : Takes traceContext?
        (t.traceId.bytes ++ (Write.uint64 t.spanId ++ (Write.uint64 t.parentSpanId ++ origin)))
        (if t.spanId = 0 then none
          else some ⟨t.traceId, t.spanId, t.parentSpanId, t.parentOrigin⟩) :=
      (takes_traceId t.traceId).bind <| (takes_uint64 t.spanId).bind <|
        (takes_uint64 t.parentSpanId).bind <| (takes_text? horigin).map _
    rw [if_neg hspan] at h
    simpa only [List.append_assoc] using h

/-! ### Attributes -/

theorem takes_entry {e : String × Scalar} {bs : Bytes} (h : LogRecord.encodeAttribute e = .ok bs) :
    ∃ xs ys, bs = xs ++ ys ∧ Takes text? xs (some e.1) ∧ Takes scalar ys e.2 := by
  obtain ⟨key, hkey, h⟩ := Write.bind_eq_ok.mp h
  split at h
  · next value hvalue =>
    cases h
    exact ⟨key, value, rfl, takes_text?_some hkey, takes_scalar hvalue⟩
  · cases h

theorem takes_entries_cons {n : Nat} {xs ys zs : Bytes} {key : Option String} {value : Scalar}
    {es : List (Option String × Scalar)} (hkey : Takes text? xs key)
    (hvalue : Takes scalar ys value) (hlater : Takes (entries n) zs es) :
    Takes (entries (n + 1)) (xs ++ (ys ++ zs)) ((key, value) :: es) :=
  hkey.bind (hvalue.bind (.of_not_faulted (hlater.map _)))

theorem takes_entries {es : List (String × Scalar)} :
    ∀ {bs : Bytes}, LogRecord.encodeEntries es = .ok bs →
      Takes (entries es.length) bs (es.map fun e => (some e.1, e.2)) := by
  induction es with
  | nil => intro bs h; cases h; exact .pure _
  | cons e es ih =>
    intro bs h
    obtain ⟨first, hfirst, h⟩ := Write.bind_eq_ok.mp h
    obtain ⟨later, hlater, h⟩ := Write.bind_eq_ok.mp h
    cases h
    obtain ⟨xs, ys, rfl, hkey, hvalue⟩ := takes_entry hfirst
    rw [List.append_assoc]
    exact takes_entries_cons hkey hvalue (ih hlater)

theorem takes_attributes_of_entries {n : Nat} (hn : n < Write.lengthLimit) {bs : Bytes}
    {es : List (Option String × Scalar)} (h : Takes (entries n) bs es) :
    Takes attributes (LittleEndian.encode 4 n ++ bs) (.ofNamed es) := by
  refine (takes_int32_of_lt hn).bind ?_
  rw [toInt_ofNat_of_lt hn, Int.toNat_natCast]
  exact h.map Attributes.ofNamed

/-- The attributes come back in their order, each with its value. -/
theorem takes_attributes {a : Attributes} {bs : Bytes}
    (h : LogRecord.encodeAttributes a = .ok bs) : Takes attributes bs a := by
  obtain ⟨count, hcount, h⟩ := Write.bind_eq_ok.mp h
  obtain ⟨out, hout, h⟩ := Write.bind_eq_ok.mp h
  cases h
  unfold Write.length at hcount
  split_ifs at hcount with hlt
  cases hcount
  have h := takes_attributes_of_entries hlt (takes_entries hout)
  rwa [Attributes.ofNamed_map_some, Attributes.ofList_entries] at h

end Read

/-! ### Records -/

namespace LogRecord

/-- The wire form of the fields before the message. -/
def encodeFront (r : LogRecord) : Write.Result := do
  let time ← encodeTime r.time
  let eventType ← NodeId.encode? r.eventType
  let sourceNode ← NodeId.encode? r.sourceNode
  let sourceName ← Write.text? r.sourceName
  return time ++ Write.uint16 r.severity ++ eventType ++ sourceNode ++ sourceName

/-- The wire form of the fields after the message. -/
def encodeBack (r : LogRecord) : Write.Result := do
  let trace ← TraceContext.encode? r.trace
  let attributes ← encodeAttributes r.attributes
  return trace ++ attributes

/-- A record is written around its message. -/
theorem encode_eq_ok {r : LogRecord} {bs : Bytes} : r.encode = .ok bs ↔
    ∃ front message back, r.encodeFront = .ok front ∧ encodeMessage r.message = .ok message ∧
      r.encodeBack = .ok back ∧ bs = front ++ (message ++ back) := by
  have hencode : r.encode = r.encodeFront >>= fun front => encodeMessage r.message >>= fun message =>
      r.encodeBack >>= fun back => pure (front ++ (message ++ back)) := by
    simp only [encode, encodeFront, encodeBack, bind_assoc, pure_bind, List.append_assoc]
  rw [hencode]
  simp only [Write.bind_eq_ok]
  constructor
  · rintro ⟨front, hfront, message, hmessage, back, hback, h⟩
    cases h
    exact ⟨front, message, back, hfront, hmessage, hback, rfl⟩
  · rintro ⟨front, message, back, hfront, hmessage, hback, rfl⟩
    exact ⟨front, hfront, message, hmessage, back, hback, rfl⟩

end LogRecord

namespace Read

/-- The fields around a message come back, whatever bytes the message has been read of. -/
theorem takes_logRecord_around {r : LogRecord} {front bs back : Bytes} {text : String}
    (hfront : r.encodeFront = .ok front) (hmessage : Takes message bs text)
    (hback : r.encodeBack = .ok back) :
    Takes logRecord (front ++ (bs ++ back)) { r.normal with message := text } := by
  obtain ⟨time, htime, hfront⟩ := Write.bind_eq_ok.mp hfront
  obtain ⟨eventType, heventType, hfront⟩ := Write.bind_eq_ok.mp hfront
  obtain ⟨sourceNode, hsourceNode, hfront⟩ := Write.bind_eq_ok.mp hfront
  obtain ⟨sourceName, hsourceName, hfront⟩ := Write.bind_eq_ok.mp hfront
  cases hfront
  obtain ⟨trace, htrace, hback⟩ := Write.bind_eq_ok.mp hback
  obtain ⟨attributes, hattributes, hback⟩ := Write.bind_eq_ok.mp hback
  cases hback
  obtain ⟨ticks, hticks, hinstant⟩ := takes_time htime
  have hr : { r.normal with message := text } = ⟨Ticks.toInstant? ticks, r.severity, text,
      r.eventType.filter (!·.isNull), r.sourceNode.filter (!·.isNull), r.sourceName, r.trace,
      r.attributes⟩ := by
    rw [hinstant]
    rfl
  rw [hr]
  simp only [List.append_assoc]
  exact hticks.bind <| (takes_uint16 r.severity).bind <| (takes_nodeId? heventType).bind <|
    (takes_nodeId? hsourceNode).bind <| (takes_text? hsourceName).bind <|
      hmessage.bind <| (takes_traceContext? htrace).bind <| (takes_attributes hattributes).map _

/-- **A record is taken from its wire form**, without what the wire does not carry. -/
theorem takes_logRecord {r : LogRecord} {bs : Bytes} (h : r.encode = .ok bs) :
    Takes logRecord bs r.normal := by
  obtain ⟨front, message, back, hfront, hmessage, hback, rfl⟩ := LogRecord.encode_eq_ok.mp h
  exact takes_logRecord_around hfront (takes_message hmessage) hback

end Read

/-! ### The record that comes back -/

namespace LogRecord

/-- The time of a record that can be written comes back as an ordinary instant, with the total of
nanoseconds rounded down to a multiple of 100. -/
theorem normal_time {r : LogRecord} {bs : Bytes} (h : r.encode = .ok bs) {t : Instant}
    (ht : r.time = some t) :
    ∃ t', r.normal.time = some t' ∧ t'.nanos < 1000000000 ∧
      t'.totalNanos = t.totalNanos / 100 * 100 := by
  obtain ⟨time, htime, -⟩ := Write.bind_eq_ok.mp h
  rw [ht] at htime
  obtain ⟨ticks, hticks, -⟩ := ofInstant?_of_encodeTime htime
  obtain ⟨hpos, hlt, -⟩ := (Ticks.ofInstant?_eq_some_iff t ticks).mp hticks
  obtain ⟨t', ht', hnanos, htotal⟩ := Instant.exists_wholeTick? hpos hlt
  exact ⟨t', by rw [normal, ht]; exact ht', hnanos, htotal⟩

theorem filter_isNull {id : Option NodeId} (h : id ≠ some .null) :
    id.filter (!·.isNull) = id := by
  cases id with
  | none => rfl
  | some id =>
    have hn : id.isNull = false := by
      rw [NodeId.isNull, decide_eq_false_iff_not]
      exact fun heq => h (congrArg some heq)
    simp [Option.filter, hn]

/-- A record with a time at a whole tick, or none, and no null identifier is normal. -/
theorem normal_eq_self {r : LogRecord} (htime : ∀ t, r.time = some t → t.isWholeTick = true)
    (heventType : r.eventType ≠ some .null) (hsourceNode : r.sourceNode ≠ some .null) :
    r.normal = r := by
  have ht : r.time.bind Instant.wholeTick? = r.time := by
    cases h : r.time with
    | none => rfl
    | some t => exact Instant.wholeTick?_of_isWholeTick (htime t h)
  rw [normal, ht, filter_isNull heventType, filter_isNull hsourceNode]

/-- **Decoding undoes encoding**, up to what the wire does not carry and whatever follows: what
comes back is the record in normal form, with the count of its bytes. Its time is the ordinary
instant with the total of nanoseconds rounded down to a multiple of 100; and a record whose time is
ordinary and at a whole tick, or not set, and whose identifiers are not null, comes back as it
was. -/
theorem decode_encoded (r : LogRecord) (bs rest : Bytes) (h : r.encode = .ok bs) :
    decode (bs ++ rest) = .ok (r.normal, bs.length) ∧
      (r.time = none → r.normal.time = none) ∧
      (∀ t, r.time = some t → ∃ t', r.normal.time = some t' ∧ t'.nanos < 1000000000 ∧
        t'.totalNanos = t.totalNanos / 100 * 100) ∧
      ((∀ t, r.time = some t → t.isWholeTick = true) → r.eventType ≠ some .null →
        r.sourceNode ≠ some .null → decode (bs ++ rest) = .ok (r, bs.length)) := by
  have hdecode : decode (bs ++ rest) = .ok (r.normal, bs.length) :=
    (Read.takes_logRecord h).decodeWith rest
  refine ⟨hdecode, fun hnone => ?_, fun t ht => normal_time h ht, fun htime he hs => ?_⟩
  · rw [normal, hnone]
    rfl
  · rw [hdecode, normal_eq_self htime he hs]

/-- A record in a leap second, with a null event type, a text that is not ASCII and a NaN. -/
def leapRecord : LogRecord where
  time := some ⟨1483228799, 1500000199, by decide, by decide, by decide⟩
  severity := 65535
  message := "é"
  eventType := some .null
  sourceNode := some (.text 2 "")
  sourceName := some ""
  trace := some ⟨.zero, 7, 0, none⟩
  attributes := Attributes.empty.insert "x" (.float 0x7FC00001)

/-- The leap second at the end of 2016 comes back as the next second, 100 ns rounded off; a record
at a whole tick comes back as it was. -/
theorem decode_encoded_leapRecord :
    (∃ bs, leapRecord.encode = .ok bs ∧
      decode (bs ++ [7]) = .ok (leapRecord.normal, bs.length) ∧
      leapRecord.normal.time = some ⟨1483228800, 500000100, by decide, by decide, by decide⟩) ∧
    ∃ bs, (make .epoch 500 "x").encode = .ok bs ∧
      decode (bs ++ [7]) = .ok (make .epoch 500 "x", bs.length) := by
  obtain ⟨bs, h⟩ : ∃ bs, leapRecord.encode = .ok bs := ⟨_, rfl⟩
  obtain ⟨cs, h'⟩ : ∃ cs, (make .epoch 500 "x").encode = .ok cs := ⟨_, rfl⟩
  refine ⟨⟨bs, h, (decode_encoded leapRecord bs [7] h).1, rfl⟩, cs, h', ?_⟩
  refine (decode_encoded _ cs [7] h').2.2.2 (fun t ht => ?_) (by decide) (by decide)
  cases ht
  rfl

end LogRecord

end LogHistory
