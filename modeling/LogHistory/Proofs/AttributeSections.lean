import LogHistory.Proofs.RecordRoundTrip
import LogHistory.Proofs.SelfDelimiting
import Mathlib.Data.List.Induction

/-!
# The attributes at the end of a record

The last part of a record is a count and as many entries. An entry is a name, which may be absent,
and a value: a scalar in its wire form, or the tag of a type that is not known, alone
(`WireEntry`). Names may come again. What is read of such entries is a map in which each name stands
where it came first, with the value that came with it last; a value without a name takes its bytes
and counts for nothing else. A count that is not positive has no entries, and nothing after it is
read.

What comes before the count is the heading of the record. The two are read one after the other
(`Read.logRecord_eq`), so the attributes may follow any heading.

## What is proved

* `Attributes.map_fst_ofList`, `Attributes.get?_ofList` — the names of a map made of entries, and
  their values.
* `Read.takes_heading` — a heading is taken from its bytes.
* `WireEntry.takes_entries` — so are entries, in all their forms.
* `attributes_read_as_map` — what is decoded of a heading, a count and entries.
-/

namespace LogHistory

/-! ### Maps made of entries -/

namespace Attributes

theorem ofList_concat (es : List (String × Scalar)) (e : String × Scalar) :
    ofList (es ++ [e]) = (ofList es).insert e.1 e.2 := by
  simp only [ofList, List.foldl_append, List.foldl_cons, List.foldl_nil]

/-- **The names of a map are those of its entries**, in the order in which they first came. -/
theorem map_fst_ofList (es : List (String × Scalar)) :
    (ofList es).entries.map Prod.fst = (es.map Prod.fst).eraseDups := by
  induction es using List.reverseRecOn with
  | nil => rfl
  | append_singleton es e ih =>
    have hput : ((ofList es).insert e.1 e.2).entries = put e.1 e.2 (ofList es).entries := rfl
    rw [ofList_concat, hput, map_fst_put, ih, List.map_append, List.eraseDups_append]
    by_cases hmem : e.1 ∈ es.map Prod.fst
    · rw [if_pos (List.mem_eraseDups.mpr hmem)]
      simp [List.removeAll, hmem]
    · rw [if_neg fun h => hmem (List.mem_eraseDups.mp h)]
      simp [List.removeAll, hmem, List.eraseDups_cons]

theorem lookup_entry (e : String × Scalar) (es : List (String × Scalar)) (key : String) :
    (e :: es).lookup key = if key = e.1 then some e.2 else es.lookup key := by
  rw [List.lookup_cons]
  by_cases h : key = e.1
  · rw [if_pos h, beq_iff_eq.mpr h]
  · rw [if_neg h, beq_eq_false_iff_ne.mpr h]

theorem lookup_put (key : String) (value : Scalar) (es : List (String × Scalar)) (key' : String) :
    (put key value es).lookup key' = if key' = key then some value else es.lookup key' := by
  induction es with
  | nil => rw [put, lookup_entry]
  | cons e es ih =>
    rw [put, lookup_entry e es]
    by_cases h : e.1 = key
    · rw [if_pos h, lookup_entry, h]
      split_ifs <;> rfl
    · rw [if_neg h, lookup_entry, ih]
      by_cases h' : key' = key
      · rw [if_pos h', if_pos h', if_neg fun heq => h (heq.symm.trans h')]
      · rw [if_neg h', if_neg h']

/-- **The value of a name is the last that came with it.** -/
theorem get?_ofList (es : List (String × Scalar)) (key : String) :
    (ofList es).get? key = es.reverse.lookup key := by
  induction es using List.reverseRecOn with
  | nil => rfl
  | append_singleton es e ih =>
    have hput : ((ofList es).insert e.1 e.2).get? key =
        (put e.1 e.2 (ofList es).entries).lookup key := rfl
    rw [ofList_concat, hput, lookup_put, List.reverse_append, List.reverse_singleton,
      List.singleton_append, lookup_entry, ← ih]
    rfl

end Attributes

/-! ### Headings -/

theorem Read.Follows.takes {α : Type} {p : Read α} {q : Parser α} (hp : p.Follows q id) {bs : Bytes}
    {a : α} (hq : q.Accepts bs a) : p.Takes bs a := by
  intro rest offset
  have h := hq.whole rest offset
  rw [← hp.stopped_eq, id_map, stopped] at h
  rcases hread : p ⟨bs ++ rest, offset, none⟩ with ⟨b, unread, offset', _ | e⟩
  · rw [hread] at h
    cases h
    rfl
  · rw [hread] at h
    cases h

/-- What is decoded is taken from the bytes that were used. -/
theorem Read.Follows.takes_take {α : Type} {p : Read α} {q : Parser α} (hp : p.Follows q id)
    (hq : q.Laid) {data : Bytes} {a : α} {n : Nat} (h : LogHistory.decodeWith p data = .ok (a, n)) :
    n ≤ data.length ∧ p.Takes (data.take n) a := by
  obtain ⟨used, rest, rfl, rfl, haccepts⟩ := hp.exists_accepts hq h
  rw [List.take_left]
  exact ⟨by simp, hp.takes haccepts⟩

/-- The fields of a record before its attributes. -/
def Parser.heading : Parser LogRecord := do
  let ticks ← signed 8
  let severity ← number 2
  let eventType ← nodeId?
  let sourceNode ← nodeId?
  let sourceName ← text?
  let message ← message
  let trace ← traceContext?
  return ⟨Ticks.toInstant? (.ofInt ticks), .ofNat severity, message, eventType, sourceNode,
    sourceName, trace, .empty⟩

theorem Parser.laid_heading : Laid heading :=
  (laid_signed 8).bind fun _ => (laid_number 2).bind fun _ => laid_nodeId?.bind fun _ =>
    laid_nodeId?.bind fun _ => laid_text?.bind fun _ => laid_message.bind fun _ =>
    laid_traceContext?.bind fun _ => .pure _

theorem Parser.logRecord_eq : logRecord =
    heading >>= fun r => attributes >>= fun a => pure { r with attributes := a } := by
  simp only [logRecord, heading, bind_assoc, pure_bind]

namespace Read

/-- The fields of a record before its attributes. -/
def heading : Read LogRecord := do
  let ticks ← int64
  let severity ← uint16
  let eventType ← nodeId?
  let sourceNode ← nodeId?
  let sourceName ← text?
  let message ← message
  let trace ← traceContext?
  return ⟨Ticks.toInstant? ticks, severity, message, eventType, sourceNode, sourceName, trace,
    .empty⟩

/-- A record is a heading and attributes. -/
theorem logRecord_eq : logRecord =
    heading >>= fun r => attributes >>= fun a => pure { r with attributes := a } := by
  simp only [logRecord, heading, bind_assoc, pure_bind]

theorem follows_heading : Follows heading Parser.heading id :=
  follows_int64.bind fun ticks => follows_uint16.bind fun severity =>
    follows_nodeId?.bind fun eventType => follows_nodeId?.bind fun sourceNode =>
    follows_text?.bind fun sourceName => follows_message.bind fun message =>
    follows_traceContext?.bind fun trace => .pure (by simp)

/-- **A heading is taken from its bytes**, if they are decoded to the end. -/
theorem takes_heading {front : Bytes} {r : LogRecord}
    (h : decodeWith heading front = .ok (r, front.length)) : Takes heading front r := by
  have htakes := (follows_heading.takes_take Parser.laid_heading h).2
  rwa [List.take_length] at htakes

end Read

/-! ### Entries -/

/-- The value of an entry on the wire. -/
inductive WireValue where
  /-- A scalar in its wire form. -/
  | known (v : Scalar)
  /-- The tag of a type that is not known, alone. -/
  | unknown (tag : UInt8) (h : 13 ≤ tag.toNat % 64)

namespace WireValue

/-- Its bytes. -/
def encode : WireValue → Write.Result
  | known v => v.encode
  | unknown tag _ => .ok [tag]

/-- What is read of it: of a tag, the low six bits. -/
def scalar : WireValue → Scalar
  | known v => v
  | unknown tag _ => .unsupported (tag &&& 0x3F)

theorem takes_unknown {tag : UInt8} (h : 13 ≤ tag.toNat % 64) :
    Read.Takes Read.scalar [tag] (.unsupported (tag &&& 0x3F)) := by
  obtain ⟨k, hk⟩ : ∃ k, tag.toNat % 64 = k + 13 := ⟨tag.toNat % 64 - 13, by omega⟩
  have htag : tag &&& 0x3F = UInt8.ofNat (k + 13) := by
    rw [← hk, ← UInt8.toNat_inj, UInt8.toNat_and, UInt8.toNat_ofNat_of_lt' (show _ < 256 by omega)]
    exact Nat.and_two_pow_sub_one_eq_mod tag.toNat 6
  rw [htag]
  refine (Read.takes_byte tag).bind ?_
  rw [hk]
  exact .pure _

theorem takes_scalar {v : WireValue} {bs : Bytes} (h : v.encode = .ok bs) :
    Read.Takes Read.scalar bs v.scalar := by
  cases v with
  | known v => exact Read.takes_scalar h
  | unknown tag htag =>
    cases h
    exact takes_unknown htag

end WireValue

/-- An entry on the wire. -/
structure WireEntry where
  /-- The name, which may be absent. -/
  name : Option String
  /-- The value. -/
  value : WireValue

namespace WireEntry

/-- Its bytes. -/
def encode (e : WireEntry) : Write.Result := do
  return (← Write.text? e.name) ++ (← e.value.encode)

/-- The bytes of entries, one after another. -/
def encodeAll : List WireEntry → Write.Result
  | [] => .ok []
  | e :: es => do
    let first ← e.encode
    return first ++ (← encodeAll es)

/-- What is read of it. -/
def named (e : WireEntry) : Option String × Scalar := (e.name, e.value.scalar)

/-- **Entries are taken from their bytes**, whatever their names and values. -/
theorem takes_entries {es : List WireEntry} :
    ∀ {bs : Bytes}, encodeAll es = .ok bs →
      Read.Takes (Read.entries es.length) bs (es.map named) := by
  induction es with
  | nil => intro bs h; cases h; exact .pure _
  | cons e es ih =>
    intro bs h
    obtain ⟨first, hfirst, h⟩ := Write.bind_eq_ok.mp h
    obtain ⟨later, hlater, h⟩ := Write.bind_eq_ok.mp h
    cases h
    obtain ⟨name, hname, hfirst⟩ := Write.bind_eq_ok.mp hfirst
    obtain ⟨value, hvalue, hfirst⟩ := Write.bind_eq_ok.mp hfirst
    cases hfirst
    rw [List.append_assoc]
    exact Read.takes_entries_cons (Read.takes_text? hname) (WireValue.takes_scalar hvalue)
      (ih hlater)

/-- The attributes that entries make. -/
def attributes (es : List WireEntry) : Attributes := .ofNamed (es.map named)

theorem map_fst_attributes (es : List WireEntry) :
    (attributes es).entries.map Prod.fst = (es.filterMap (·.name)).eraseDups := by
  rw [attributes, Attributes.ofNamed, Attributes.map_fst_ofList, List.filterMap_map,
    List.map_filterMap]
  congr 2
  funext e
  cases h : e.name <;> simp [named, h]

theorem get?_attributes {before after : List WireEntry} {e : WireEntry} {key : String}
    (he : e.name = some key) (hafter : ∀ e ∈ after, e.name ≠ some key) :
    (attributes (before ++ e :: after)).get? key = some e.value.scalar := by
  rw [attributes, Attributes.ofNamed, Attributes.get?_ofList, List.map_append, List.map_cons,
    List.filterMap_append, List.filterMap_cons_some (by rw [named, he]; rfl), List.reverse_append,
    List.reverse_cons, List.lookup_append, List.lookup_append]
  have hnone : ((after.map named).filterMap fun e => e.1.map fun key => (key, e.2)).reverse.lookup
      key = none := by
    rw [List.lookup_eq_none_iff]
    intro p hp
    obtain ⟨_, hmem, hp⟩ := List.mem_filterMap.mp (List.mem_reverse.mp hp)
    obtain ⟨e', he', rfl⟩ := List.mem_map.mp hmem
    obtain ⟨key', hkey', rfl⟩ := Option.map_eq_some_iff.mp hp
    rw [bne_iff_ne]
    rintro rfl
    exact hafter e' he' hkey'
  rw [hnone]
  simp

end WireEntry

/-- A count that is not positive has no entries, and is all that is read. -/
theorem Read.takes_attributes_of_nonpos {count : Int32} (h : count.toInt ≤ 0) :
    Takes attributes (Write.uint32 count.toUInt32) .empty := by
  have hnone : Takes (entries count.toInt.toNat) [] [] := by
    rw [Int.toNat_of_nonpos h]
    exact .pure _
  have hread : Takes attributes (Write.uint32 count.toUInt32 ++ []) (.ofNamed []) :=
    (takes_int32 count).bind (hnone.map Attributes.ofNamed)
  rwa [List.append_nil] at hread

/-- **The attributes are read as a map.** After any heading, a count and as many entries, each with
a name or none and with a value of a known type or the tag of an unknown one, are decoded to the
last byte, whatever follows them. No name occurs twice in what is read; the names are those of the
entries, in the order in which they first came, and the value of a name is that of its last entry.
A count that is not positive is read as no attributes, and nothing after it is taken. -/
theorem attributes_read_as_map (front : Bytes) (r : LogRecord)
    (hfront : decodeWith Read.heading front = .ok (r, front.length)) :
    (∀ (es : List WireEntry) (bs : Bytes), es.length < Write.lengthLimit →
      WireEntry.encodeAll es = .ok bs → ∃ a : Attributes,
        (∀ rest, LogRecord.decode (front ++ LittleEndian.encode 4 es.length ++ bs ++ rest) =
          .ok ({ r with attributes := a }, front.length + 4 + bs.length)) ∧
        (a.entries.map Prod.fst).Nodup ∧
        a.entries.map Prod.fst = (es.filterMap (·.name)).eraseDups ∧
        ∀ before e after key, es = before ++ e :: after → e.name = some key →
          (∀ e' ∈ after, e'.name ≠ some key) → a.get? key = some e.value.scalar) ∧
      ∀ count : Int32, count.toInt ≤ 0 → ∀ rest,
        LogRecord.decode (front ++ Write.uint32 count.toUInt32 ++ rest) =
          .ok ({ r with attributes := .empty }, front.length + 4) := by
  have hdecode : ∀ {bs : Bytes} {a : Attributes} (rest : Bytes), Read.Takes Read.attributes bs a →
      LogRecord.decode (front ++ bs ++ rest) =
        .ok ({ r with attributes := a }, (front ++ bs).length) := fun rest h => by
    have htakes := (Read.takes_heading hfront).bind
      (f := fun r => Read.attributes >>= fun a => pure { r with attributes := a })
      (h.map fun a => { r with attributes := a })
    rw [← Read.logRecord_eq] at htakes
    exact htakes.decodeWith rest
  refine ⟨fun es bs hcount hbs => ⟨WireEntry.attributes es, fun rest => ?_, Attributes.nodup _,
    WireEntry.map_fst_attributes es, ?_⟩, fun count hcount rest => ?_⟩
  · have h := hdecode rest (Read.takes_attributes_of_entries hcount (WireEntry.takes_entries hbs))
    rw [← List.append_assoc] at h
    rw [h]
    simp [Nat.add_assoc, WireEntry.attributes]
  · rintro before e after key rfl he hafter
    exact WireEntry.get?_attributes he hafter
  · rw [hdecode rest (Read.takes_attributes_of_nonpos hcount)]
    simp [Write.uint32]

/-- The shortest heading: no time, identifiers in forms that are not represented, a message without
a text, and no trace context. -/
def shortestHeading : Bytes :=
  List.replicate 8 0 ++ [0xF4, 1] ++ [6, 0x1F] ++ Write.absent ++ [0] ++
    (List.replicate 32 0 ++ Write.absent)

/-- What it says. -/
def shortestRecord : LogRecord where
  time := none
  severity := 500
  message := ""
  eventType := none
  sourceNode := none
  sourceName := none
  trace := none
  attributes := .empty

theorem decode_shortestHeading :
    decodeWith Read.heading shortestHeading = .ok (shortestRecord, shortestHeading.length) := rfl

/-- Entries with a name that comes twice, a value without a name, and two tags. -/
def mixedEntries : List WireEntry :=
  [⟨some "k", .unknown 0x8D (by decide)⟩, ⟨none, .known (.int32 1)⟩, ⟨some "j", .known .null⟩,
    ⟨some "k", .known (.text "é")⟩, ⟨some "l", .unknown 0xFF (by decide)⟩]

/-- The name that comes twice keeps its place and takes its second value. -/
theorem attributes_read_as_map_mixedEntries :
    (∃ bs a, WireEntry.encodeAll mixedEntries = .ok bs ∧
      LogRecord.decode (shortestHeading ++ LittleEndian.encode 4 5 ++ bs ++ [9]) =
        .ok ({ shortestRecord with attributes := a }, 96) ∧
      a.entries.map Prod.fst = ["k", "j", "l"] ∧ a.get? "k" = some (.text "é") ∧
      a.get? "l" = some (.unsupported 63)) ∧
    LogRecord.decode (shortestHeading ++ [0xFF, 0xFF, 0xFF, 0xFF] ++ [9]) =
      .ok ({ shortestRecord with attributes := .empty }, 57) := by
  obtain ⟨hentries, hnone⟩ :=
    attributes_read_as_map shortestHeading shortestRecord decode_shortestHeading
  obtain ⟨bs, hbs, hlen⟩ : ∃ bs, WireEntry.encodeAll mixedEntries = .ok bs ∧ bs.length = 39 :=
    ⟨_, rfl, by decide⟩
  obtain ⟨a, hdecode, -, hkeys, hlast⟩ := hentries mixedEntries bs (by decide) hbs
  have hk := hlast (mixedEntries.take 3) _ (mixedEntries.drop 4) "k" rfl rfl (by decide)
  have hl := hlast (mixedEntries.take 4) _ [] "l" rfl rfl nofun
  rw [hlen] at hdecode
  exact ⟨⟨bs, a, hbs, hdecode [9], hkeys, hk, hl⟩, hnone (-1) (by decide) [9]⟩

end LogHistory
