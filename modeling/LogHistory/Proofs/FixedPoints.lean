import LogHistory.Proofs.RecordRoundTrip
import LogHistory.Proofs.SelfDelimiting

/-!
# Decoded records are fixed points

A decoder takes more forms than an encoder writes. Identifiers come in longer forms and in forms
that are not represented, texts may be absent or no UTF-8, a message may have a locale, a name may
occur twice or not at all. Each of these is read as a value that can be written: the null identifier
as none, a text with replacement characters, a zero span as no trace context, a count of ticks as
the instant of these ticks. The only values that cannot are those of types that are not known.

So what is decoded, if it can be encoded at all, comes back unchanged from its encoding. It is
already without what the wire does not carry (`LogRecord.normal_eq_self`).

## What is proved

* `Parser.Yields` — what holds of the values of a parser, closed under sequencing.
* `Parser.yields_logRecord` — what is read of a record can be written (`LogRecord.FromWire`).
* `LogRecord.FromWire.exists_error_iff` — such a record cannot be encoded just if a type is unknown.
* `decoded_fixed` — the same for every byte string that is decoded.

Reading may make a text three times as long, a byte that is no UTF-8 becoming a replacement
character. Hence the bound on the byte string: a text from a longer one might not fit its length
field.
-/

namespace LogHistory

/-! ### What can be written -/

theorem Write.exists_text {s : String} (h : (Utf8.encode s).length < lengthLimit) :
    ∃ out, text s = .ok out :=
  ⟨_, bind_eq_ok.mpr ⟨_, if_pos h, rfl⟩⟩

theorem NodeId.exists_encode_numeric (ns : UInt16) (value : UInt32) :
    ∃ out, (numeric ns value).encode = .ok out := by
  unfold encode
  simp only
  split_ifs
  · exact ⟨_, rfl⟩
  · exact ⟨_, rfl⟩
  · exact ⟨_, rfl⟩

/-! ### Attributes that were given one after another -/

namespace Attributes

theorem mem_put {key : String} {value : Scalar} {es : List (String × Scalar)}
    {e : String × Scalar} (h : e ∈ put key value es) : e = (key, value) ∨ e ∈ es := by
  induction es with
  | nil => exact .inl (List.mem_singleton.mp h)
  | cons e' es ih =>
    rw [put] at h
    split_ifs at h
    · exact (List.mem_cons.mp h).imp_right (List.mem_cons_of_mem _)
    · rcases List.mem_cons.mp h with rfl | h
      · exact .inr List.mem_cons_self
      · exact (ih h).imp_right (List.mem_cons_of_mem _)

theorem length_put_le (key : String) (value : Scalar) (es : List (String × Scalar)) :
    (put key value es).length ≤ es.length + 1 := by
  induction es with
  | nil => exact Nat.le_refl _
  | cons e es ih =>
    rw [put]
    split_ifs
    · exact Nat.le_succ _
    · exact Nat.succ_le_succ ih

/-- What is kept of a list of entries was in it, and there is no more of it. -/
theorem entries_foldl_insert_subset (es : List (String × Scalar)) : ∀ a : Attributes,
    (∀ e ∈ (es.foldl (fun a e => a.insert e.1 e.2) a).entries, e ∈ a.entries ∨ e ∈ es) ∧
      (es.foldl (fun a e => a.insert e.1 e.2) a).size ≤ a.size + es.length := by
  induction es with
  | nil => exact fun a => ⟨fun e h => .inl h, Nat.le_refl _⟩
  | cons e es ih =>
    intro a
    obtain ⟨hmem, hsize⟩ := ih (a.insert e.1 e.2)
    refine ⟨fun e' h => ?_, ?_⟩
    · rcases hmem e' h with h | h
      · rcases mem_put h with rfl | h
        · exact .inr List.mem_cons_self
        · exact .inl h
      · exact .inr (List.mem_cons_of_mem _ h)
    · have hput : (a.insert e.1 e.2).size ≤ a.size + 1 := length_put_le ..
      rw [List.foldl_cons, List.length_cons]
      omega

theorem mem_entries_ofNamed {es : List (Option String × Scalar)} {e : String × Scalar}
    (h : e ∈ (ofNamed es).entries) : (some e.1, e.2) ∈ es := by
  rcases (entries_foldl_insert_subset _ empty).1 e h with h | h
  · cases h
  · obtain ⟨⟨key, value⟩, hmem, he⟩ := List.mem_filterMap.mp h
    obtain ⟨key, rfl, rfl⟩ := Option.map_eq_some_iff.mp he
    exact hmem

theorem size_ofNamed_le (es : List (Option String × Scalar)) : (ofNamed es).size ≤ es.length :=
  Nat.le_trans (entries_foldl_insert_subset _ empty).2
    (by simpa [empty, size] using List.length_filterMap_le ..)

end Attributes

/-! ### Records that were read -/

/-- What holds of a scalar that was read: it can be written, or its type is not known. -/
def Scalar.FromWire (v : Scalar) : Prop :=
  (∃ out, v.encode = .ok out) ∨ ∃ tag, v = .unsupported tag

/-- What holds of attributes that were read. -/
structure Attributes.FromWire (a : Attributes) : Prop where
  /-- They can be counted. -/
  size : ∃ out, Write.length a.size = .ok out
  /-- Their names fit their length fields. -/
  names : ∀ e ∈ a.entries, ∃ out, Write.text e.1 = .ok out
  /-- Their values can be written if they are known. -/
  values : ∀ e ∈ a.entries, e.2.FromWire

/-- What holds of a record that was read: there is nothing in it that cannot be written, but for
values of types that are not known. -/
structure LogRecord.FromWire (r : LogRecord) : Prop where
  /-- The time is an ordinary instant at a whole tick, and has a tick count. -/
  time : ∀ t, r.time = some t → t.isWholeTick = true ∧ ∃ k, Ticks.ofInstant? t = some k
  /-- The event type is not null. -/
  eventType : r.eventType ≠ some .null ∧ ∃ out, NodeId.encode? r.eventType = .ok out
  /-- The source node is not null. -/
  sourceNode : r.sourceNode ≠ some .null ∧ ∃ out, NodeId.encode? r.sourceNode = .ok out
  /-- The source name fits its length field. -/
  sourceName : ∃ out, Write.text? r.sourceName = .ok out
  /-- The message fits its length field. -/
  message : ∃ out, encodeMessage r.message = .ok out
  /-- The trace context has a span. -/
  trace : (∀ t, r.trace = some t → t.spanId ≠ 0) ∧
    ∃ out, TraceContext.encode? r.trace = .ok out
  /-- The attributes can be written as far as their values are known. -/
  attributes : r.attributes.FromWire

namespace Parser

variable {α β : Type}

/-- What the parser yields has a property, if there are at most `limit` bytes. -/
def Yields (limit : Nat) (q : Parser α) (P : α → Prop) : Prop :=
  ∀ (here there : Place) (a : α), here.unread.length ≤ limit → q here = .ok (a, there) →
    P a ∧ there.unread.length ≤ limit

variable {limit : Nat} {q : Parser α} {P P' : α → Prop}

theorem Yields.pure {a : α} (h : P a) : Yields limit (Pure.pure a) P := by
  intro here there b hlen hok
  cases hok
  exact ⟨h, hlen⟩

theorem Yields.bind {f : α → Parser β} {Q : β → Prop} (hq : Yields limit q P)
    (hf : ∀ a, P a → Yields limit (f a) Q) : Yields limit (q >>= f) Q := by
  intro here there b hlen hok
  obtain ⟨a, mid, hfirst, hnext⟩ := bind_eq_ok.mp hok
  obtain ⟨ha, hmid⟩ := hq here mid a hlen hfirst
  exact hf a ha mid there b hmid hnext

theorem Yields.map {f : α → β} {Q : β → Prop} (hq : Yields limit q P) (h : ∀ a, P a → Q (f a)) :
    Yields limit (f <$> q) Q := by
  rw [map_eq_pure_bind]
  exact hq.bind fun a ha => .pure (h a ha)

theorem Yields.mono (hq : Yields limit q P) (h : ∀ a, P a → P' a) : Yields limit q P' :=
  fun here there a hlen hok => ⟨h a (hq here there a hlen hok).1, (hq here there a hlen hok).2⟩

/-- A layout leaves no more bytes than there were. -/
theorem Laid.yields (hq : Laid q) : Yields limit q fun _ => True := by
  intro here there a hlen hok
  obtain ⟨used, hunread, -, -⟩ := hq.delimits here there a hok
  rw [hunread, List.length_append] at hlen
  exact ⟨trivial, by omega⟩

/-! ### Bytes and texts -/

theorem yields_take (n : Nat) :
    Yields limit (take n) fun bs => bs.length ≤ limit ∧ bs.length = n := by
  intro here there bs hlen hok
  obtain ⟨hle, rfl, rfl⟩ := take_eq_ok.mp hok
  simp only [List.length_take, List.length_drop]
  omega

theorem yields_number (w : Nat) : Yields limit (number w) (· < Nat.pow 256 w) :=
  (yields_take w).map fun bs hbs => hbs.2 ▸ LittleEndian.decode_lt bs

/-- A count that was read fits a signed 32-bit field. -/
theorem yields_count : Yields limit (signed 4) (·.toNat < Write.lengthLimit) := by
  refine (yields_number 4).map fun n _ => ?_
  have hlt : (n : Int).bmod (Nat.pow 256 4) < (Nat.pow 256 4 + 1) / 2 := Int.bmod_lt (by decide)
  have hhalf : (((Nat.pow 256 4 : Nat) : Int) + 1) / 2 = 2147483648 := by decide
  unfold Write.lengthLimit
  omega

theorem yields_byteString? :
    Yields limit byteString? fun bs? => ∀ bs, bs? = some bs → bs.length ≤ limit := by
  refine laid_length?.yields.bind fun n _ => ?_
  cases n with
  | none => exact .pure (by simp)
  | some n => exact (yields_take n).map fun bs hbs => by simp [hbs.1]

theorem span_ne_zero {n : Nat} (h : n < Nat.pow 256 8) (hne : ¬ n = 0) : UInt64.ofNat n ≠ 0 := by
  rw [ne_eq, ← UInt64.toNat_inj, UInt64.toNat_ofNat_of_lt' h]
  exact hne

variable (hlimit : 3 * limit < Write.lengthLimit)
include hlimit

/-- A text that was read can be written, though it may have grown. -/
theorem yields_text? : Yields limit text? fun s => ∃ out, Write.text? s = .ok out := by
  refine yields_byteString?.map fun bs? hbs => ?_
  cases bs? with
  | none => exact ⟨_, rfl⟩
  | some bs =>
    have hgrown := Utf8.length_encode_decode_le bs
    have hle := hbs bs rfl
    exact Write.exists_text (by omega)

theorem yields_text : Yields limit text fun s => ∃ out, Write.text s = .ok out := by
  refine (yields_text? hlimit).map fun s hs => ?_
  cases s with
  | none => exact ⟨_, rfl⟩
  | some s => exact hs

/-! ### Identifiers and scalars -/

theorem yields_nodeId : Yields limit nodeId fun id => ∃ out, id.encode = .ok out := by
  refine (laid_number 1).yields.bind fun form _ => ?_
  split
  · exact (laid_number 1).yields.bind fun _ _ => .pure (NodeId.exists_encode_numeric ..)
  · exact (laid_number 1).yields.bind fun _ _ => (laid_number 2).yields.bind fun _ _ =>
      .pure (NodeId.exists_encode_numeric ..)
  · exact (laid_number 2).yields.bind fun _ _ => (laid_number 4).yields.bind fun _ _ =>
      .pure (NodeId.exists_encode_numeric ..)
  · refine (laid_number 2).yields.bind fun ns _ => (yields_text hlimit).bind fun s hs => .pure ?_
    obtain ⟨out, hout⟩ := hs
    exact ⟨_, Write.bind_eq_ok.mpr ⟨out, hout, rfl⟩⟩
  · exact (laid_take 2).yields.bind fun _ _ => (laid_take 16).yields.bind fun _ _ =>
      .pure (NodeId.exists_encode_numeric ..)
  · exact (laid_take 2).yields.bind fun _ _ => laid_byteString?.yields.bind fun _ _ =>
      .pure (NodeId.exists_encode_numeric ..)
  · exact .pure (NodeId.exists_encode_numeric ..)

/-- An identifier that was read is not null, and can be written. -/
theorem yields_nodeId? :
    Yields limit nodeId? fun id => id ≠ some .null ∧ ∃ out, NodeId.encode? id = .ok out := by
  refine (yields_nodeId hlimit).bind fun id hid => .pure ?_
  by_cases hnull : id = .null
  · rw [if_pos hnull]
    exact ⟨nofun, _, rfl⟩
  · rw [if_neg hnull]
    exact ⟨fun h => hnull (Option.some.inj h), hid⟩

/-- A scalar that was read can be written, unless its type is not known. -/
theorem yields_scalar : Yields limit scalar Scalar.FromWire := by
  have hfixed : ∀ {v : Scalar} {out : Bytes}, v.payload = .ok out → v.FromWire :=
    fun h => .inl ⟨_, Write.bind_eq_ok.mpr ⟨_, h, rfl⟩⟩
  refine (laid_number 1).yields.bind fun tag _ => ?_
  split
  · exact .pure (hfixed rfl)
  · exact (laid_number 1).yields.bind fun _ _ => .pure (hfixed rfl)
  · exact (laid_signed 1).yields.bind fun _ _ => .pure (hfixed rfl)
  · exact (laid_number 1).yields.bind fun _ _ => .pure (hfixed rfl)
  · exact (laid_signed 2).yields.bind fun _ _ => .pure (hfixed rfl)
  · exact (laid_number 2).yields.bind fun _ _ => .pure (hfixed rfl)
  · exact (laid_signed 4).yields.bind fun _ _ => .pure (hfixed rfl)
  · exact (laid_number 4).yields.bind fun _ _ => .pure (hfixed rfl)
  · exact (laid_signed 8).yields.bind fun _ _ => .pure (hfixed rfl)
  · exact (laid_number 8).yields.bind fun _ _ => .pure (hfixed rfl)
  · exact (laid_number 4).yields.bind fun _ _ => .pure (hfixed rfl)
  · exact (laid_number 8).yields.bind fun _ _ => .pure (hfixed rfl)
  · exact (yields_text hlimit).bind fun s ⟨_, hs⟩ => .pure (hfixed hs)
  · exact .pure (.inr ⟨_, rfl⟩)

/-! ### Records -/

theorem yields_message :
    Yields limit message fun s => ∃ out, LogRecord.encodeMessage s = .ok out := by
  have htext : ∀ {s : String}, (∃ out, Write.text s = .ok out) →
      ∃ out, LogRecord.encodeMessage s = .ok out :=
    fun ⟨_, h⟩ => ⟨_, Write.bind_eq_ok.mpr ⟨_, h, rfl⟩⟩
  refine (laid_number 1).yields.bind fun mask _ => ?_
  split_ifs
  · exact laid_text?.yields.bind fun _ _ => (yields_text hlimit).mono fun _ => htext
  · exact laid_text?.yields.bind fun _ _ => .pure (htext ⟨_, rfl⟩)
  · exact (yields_text hlimit).mono fun _ => htext
  · exact .pure (htext ⟨_, rfl⟩)

/-- A trace context that was read has a span, and can be written. -/
theorem yields_traceContext? : Yields limit traceContext? fun t =>
    (∀ t', t = some t' → t'.spanId ≠ 0) ∧ ∃ out, TraceContext.encode? t = .ok out := by
  refine laid_traceId.yields.bind fun id _ => (yields_number 8).bind fun span hspan =>
    (laid_number 8).yields.bind fun parent _ => (yields_text? hlimit).bind fun origin horigin =>
      .pure ?_
  split_ifs with hzero
  · exact ⟨nofun, _, rfl⟩
  · have hne := span_ne_zero hspan hzero
    refine ⟨fun t' ht' => Option.some.inj ht' ▸ hne, ?_⟩
    obtain ⟨out, hout⟩ := horigin
    exact ⟨_, (if_neg hne).trans (Write.bind_eq_ok.mpr ⟨out, hout, rfl⟩)⟩

theorem yields_entries (n : Nat) :
    Yields limit (entries n) fun es => es.length = n ∧
      ∀ e ∈ es, (∃ out, Write.text? e.1 = .ok out) ∧ e.2.FromWire := by
  induction n with
  | zero => exact .pure ⟨rfl, nofun⟩
  | succ n ih =>
    refine (yields_text? hlimit).bind fun key hkey => (yields_scalar hlimit).bind
      fun value hvalue => ih.bind fun es hes => .pure ⟨by rw [List.length_cons, hes.1], ?_⟩
    exact List.forall_mem_cons.mpr ⟨⟨hkey, hvalue⟩, hes.2⟩

theorem yields_attributes : Yields limit attributes Attributes.FromWire := by
  refine yields_count.bind fun count hcount => (yields_entries hlimit count.toNat).bind
    fun es ⟨hlen, hes⟩ => .pure ⟨?_, ?_, ?_⟩
  · have hsize := Attributes.size_ofNamed_le es
    exact ⟨_, if_pos (by omega)⟩
  · exact fun e he => (hes _ (Attributes.mem_entries_ofNamed he)).1
  · exact fun e he => (hes _ (Attributes.mem_entries_ofNamed he)).2

/-- **What is read of a record can be written**, but for values of types that are not known. -/
theorem yields_logRecord : Yields limit logRecord LogRecord.FromWire := by
  refine (laid_signed 8).yields.bind fun ticks _ => (laid_number 2).yields.bind fun severity _ =>
    (yields_nodeId? hlimit).bind fun eventType heventType =>
    (yields_nodeId? hlimit).bind fun sourceNode hsourceNode =>
    (yields_text? hlimit).bind fun sourceName hsourceName =>
    (yields_message hlimit).bind fun message hmessage =>
    (yields_traceContext? hlimit).bind fun trace htrace =>
    (yields_attributes hlimit).bind fun attributes hattributes =>
    .pure ⟨fun t ht => ?_, heventType, hsourceNode, hsourceName, hmessage, htrace, hattributes⟩
  by_cases hpos : 0 < (Int64.ofInt ticks).toInt
  · obtain ⟨t', ht', hticks, hwhole⟩ := Ticks.exists_toInstant? hpos
    obtain rfl := Option.some.inj (ht'.symm.trans ht)
    exact ⟨hwhole, _, hticks⟩
  · rw [Ticks.toInstant?, if_pos (by omega)] at ht
    cases ht

end Parser

/-! ### Writing them again -/

namespace LogRecord

theorem exists_encodeEntries_iff (es : List (String × Scalar)) :
    (∃ out, encodeEntries es = .ok out) ↔ ∀ e ∈ es, ∃ out, encodeAttribute e = .ok out := by
  induction es with
  | nil => exact ⟨fun _ => nofun, fun _ => ⟨_, rfl⟩⟩
  | cons e es ih =>
    rw [List.forall_mem_cons, ← ih]
    constructor
    · rintro ⟨out, h⟩
      obtain ⟨first, hfirst, h⟩ := Write.bind_eq_ok.mp h
      obtain ⟨later, hlater, -⟩ := Write.bind_eq_ok.mp h
      exact ⟨⟨first, hfirst⟩, later, hlater⟩
    · rintro ⟨⟨first, hfirst⟩, later, hlater⟩
      exact ⟨_, Write.bind_eq_ok.mpr ⟨first, hfirst, Write.bind_eq_ok.mpr ⟨later, hlater, rfl⟩⟩⟩

theorem exists_encodeAttribute_iff (e : String × Scalar) :
    (∃ out, encodeAttribute e = .ok out) ↔
      (∃ out, Write.text e.1 = .ok out) ∧ ∃ out, e.2.encode = .ok out := by
  constructor
  · rintro ⟨out, h⟩
    obtain ⟨key, hkey, h⟩ := Write.bind_eq_ok.mp h
    split at h
    · next value hvalue => exact ⟨⟨key, hkey⟩, value, hvalue⟩
    · cases h
  · rintro ⟨⟨key, hkey⟩, value, hvalue⟩
    refine ⟨key ++ value, Write.bind_eq_ok.mpr ⟨key, hkey, ?_⟩⟩
    rw [hvalue]
    rfl

variable {r : LogRecord}

/-- A record that was read can be written if all its values can. -/
theorem FromWire.exists_encode_iff (h : r.FromWire) :
    (∃ bs, r.encode = .ok bs) ↔ ∀ e ∈ r.attributes.entries, ∃ out, e.2.encode = .ok out := by
  constructor
  · rintro ⟨bs, hbs⟩ e he
    obtain ⟨time, -, hbs⟩ := Write.bind_eq_ok.mp hbs
    obtain ⟨eventType, -, hbs⟩ := Write.bind_eq_ok.mp hbs
    obtain ⟨sourceNode, -, hbs⟩ := Write.bind_eq_ok.mp hbs
    obtain ⟨sourceName, -, hbs⟩ := Write.bind_eq_ok.mp hbs
    obtain ⟨message, -, hbs⟩ := Write.bind_eq_ok.mp hbs
    obtain ⟨trace, -, hbs⟩ := Write.bind_eq_ok.mp hbs
    obtain ⟨attributes, hattributes, -⟩ := Write.bind_eq_ok.mp hbs
    obtain ⟨count, -, hattributes⟩ := Write.bind_eq_ok.mp hattributes
    obtain ⟨entries, hentries, -⟩ := Write.bind_eq_ok.mp hattributes
    exact ((exists_encodeAttribute_iff e).mp ((exists_encodeEntries_iff _).mp ⟨_, hentries⟩ e he)).2
  · intro hvalues
    obtain ⟨entries, hentries⟩ := (exists_encodeEntries_iff r.attributes.entries).mpr fun e he =>
      (exists_encodeAttribute_iff e).mpr ⟨h.attributes.names e he, hvalues e he⟩
    obtain ⟨time, htime⟩ : ∃ out, encodeTime r.time = .ok out := by
      cases ht : r.time with
      | none => exact ⟨_, rfl⟩
      | some t =>
        obtain ⟨-, k, hk⟩ := h.time t ht
        exact ⟨Write.uint64 k.toUInt64, by rw [encodeTime, hk]⟩
    obtain ⟨-, eventType, heventType⟩ := h.eventType
    obtain ⟨-, sourceNode, hsourceNode⟩ := h.sourceNode
    obtain ⟨sourceName, hsourceName⟩ := h.sourceName
    obtain ⟨message, hmessage⟩ := h.message
    obtain ⟨-, trace, htrace⟩ := h.trace
    obtain ⟨count, hcount⟩ := h.attributes.size
    rw [encode, htime, heventType, hsourceNode, hsourceName, hmessage, htrace, encodeAttributes,
      hcount, hentries]
    exact ⟨_, rfl⟩

/-- **A record that was read cannot be written** if and only if a value's type is not known. -/
theorem FromWire.exists_error_iff (h : r.FromWire) :
    (∃ e, r.encode = .error e) ↔
      ∃ key tag, (key, Scalar.unsupported tag) ∈ r.attributes.entries := by
  have herror : (∃ e, r.encode = .error e) ↔ ¬ ∃ bs, r.encode = .ok bs := by
    cases r.encode with
    | error e => simp
    | ok bs => simp
  rw [herror, h.exists_encode_iff]
  constructor
  · intro hnot
    obtain ⟨⟨key, value⟩, he⟩ := Classical.not_forall.mp hnot
    obtain ⟨hmem, hvalue⟩ := Classical.not_imp.mp he
    obtain ⟨tag, rfl⟩ := (h.attributes.values _ hmem).resolve_left hvalue
    exact ⟨key, tag, hmem⟩
  · rintro ⟨key, tag, hmem⟩ hall
    obtain ⟨out, hout⟩ := hall _ hmem
    cases hout

end LogRecord

/-- The time of a record that is decoded is that of the first eight bytes. -/
theorem Parser.time_of_logRecord {here there : Place} {r : LogRecord}
    (h : logRecord here = .ok (r, there)) :
    r.time = Ticks.toInstant? (.ofInt (LittleEndian.decode (here.unread.take 8))) := by
  obtain ⟨ticks, mid, hticks, h⟩ := bind_eq_ok.mp h
  have htime : r.time = Ticks.toInstant? (.ofInt ticks) := by
    obtain ⟨severity, mid, -, h⟩ := bind_eq_ok.mp h
    obtain ⟨eventType, mid, -, h⟩ := bind_eq_ok.mp h
    obtain ⟨sourceNode, mid, -, h⟩ := bind_eq_ok.mp h
    obtain ⟨sourceName, mid, -, h⟩ := bind_eq_ok.mp h
    obtain ⟨message, mid, -, h⟩ := bind_eq_ok.mp h
    obtain ⟨trace, mid, -, h⟩ := bind_eq_ok.mp h
    obtain ⟨attributes, mid, -, h⟩ := bind_eq_ok.mp h
    cases h
    rfl
  rw [htime]
  obtain ⟨n, hn, rfl⟩ := map_eq_ok.mp hticks
  obtain ⟨bs, htake, rfl⟩ := map_eq_ok.mp hn
  obtain ⟨-, rfl, -⟩ := take_eq_ok.mp htake
  have hpow : Nat.pow 256 8 = 2 ^ 64 := by decide
  refine congrArg Ticks.toInstant? ?_
  rw [hpow, ← Int64.toInt_inj, Int64.toInt_ofInt, Int64.toInt_ofInt]
  exact Int.bmod_bmod

/-- **Decoded records are fixed points.** Whatever forms the bytes use, a record that is decoded
from them has no null identifier, no trace context without a span and no name twice. It cannot be
encoded if and only if it has a value of a type that is not known; and if it can, then it is decoded
again as it is, with all of the bytes. A positive tick count is the count of its time. -/
theorem decoded_fixed (data : Bytes) (hdata : 3 * data.length < Write.lengthLimit) (r : LogRecord)
    (n : Nat) (h : LogRecord.decode data = .ok (r, n)) :
    r.eventType ≠ some .null ∧ r.sourceNode ≠ some .null ∧
      (∀ t, r.trace = some t → t.spanId ≠ 0) ∧ (r.attributes.entries.map Prod.fst).Nodup ∧
      ((∃ e, r.encode = .error e) ↔
        ∃ key tag, (key, Scalar.unsupported tag) ∈ r.attributes.entries) ∧
      (∀ bs, r.encode = .ok bs → LogRecord.decode bs = .ok (r, bs.length)) ∧
      ∀ ticks : Int64, ticks = .ofInt (LittleEndian.decode (data.take 8)) → 0 < ticks.toInt →
        ∃ t, r.time = some t ∧ Ticks.ofInstant? t = some ticks := by
  rw [LogRecord.decode, Read.follows_logRecord.decodeWith] at h
  obtain ⟨there, hparse, -⟩ := Parser.parse_eq_ok.mp h
  have hwire : r.FromWire :=
    (Parser.yields_logRecord hdata ⟨data, 0⟩ there r (Nat.le_refl _) hparse).1
  refine ⟨hwire.eventType.1, hwire.sourceNode.1, hwire.trace.1, r.attributes.nodup,
    hwire.exists_error_iff, fun bs hbs => ?_, ?_⟩
  · have hdecode := (Read.takes_logRecord hbs).decodeWith []
    rwa [List.append_nil, LogRecord.normal_eq_self (fun t ht => (hwire.time t ht).1)
      hwire.eventType.1 hwire.sourceNode.1] at hdecode
  · rintro ticks rfl hpos
    obtain ⟨t, ht, hticks, -⟩ := Ticks.exists_toInstant? hpos
    exact ⟨t, (Parser.time_of_logRecord hparse).trans ht, hticks⟩

/-- A record in forms that are never written comes back from the forms that are. -/
theorem decoded_fixed_foreignBytes :
    LogRecord.decode (foreignBytes ++ [9]) = .ok (foreignRecord, 111) ∧
      ∃ bs, foreignRecord.encode = .ok bs ∧ bs.length = 78 ∧
        LogRecord.decode bs = .ok (foreignRecord, 78) := by
  obtain ⟨bs, hbs, hlen⟩ : ∃ bs, foreignRecord.encode = .ok bs ∧ bs.length = 78 :=
    ⟨_, rfl, by decide⟩
  obtain ⟨-, -, -, -, -, hdecode, -⟩ :=
    decoded_fixed (foreignBytes ++ [9]) (by decide) foreignRecord 111 decode_foreignBytes
  exact ⟨decode_foreignBytes, bs, hbs, hlen, hlen ▸ hdecode bs hbs⟩

end LogHistory
