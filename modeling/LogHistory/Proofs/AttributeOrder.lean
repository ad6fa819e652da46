import LogHistory.Proofs.Unwritable

/-!
# The order of attributes

The attributes of a record have an order, and it is kept: they are written in it and read back in
it. Equality passes it over. So records that differ in the order of their attributes alone are
equal, and so is what is read back of them, although they are written as different byte strings. If
one of them can be written then so can the other, and with the same bytes in another order, since
each attribute is written by itself.

Floating-point values are compared as numbers, and a NaN differs from itself. So a record with a NaN
among its attributes does not even equal itself; no other kind of value has to be left out.

## What is proved

* `Scalar.same_self_iff` — a value equals itself unless it is a NaN.
* `Attributes.same_iff` — what it is for attributes to be equal, entry by entry.
* `LogRecord.encodeEntries_of_perm` — entries in another order are written with the same bytes in
  another order.
* `attribute_order_irrelevant` — two records with the same attributes in different orders.
-/

namespace LogHistory

/-! ### Equality -/

theorem Scalar.same_self_iff (v : Scalar) : v.same v = true ↔ v.isNaN = false := by
  cases v <;> simp [same, isNaN, Decimal.Format.equal]

namespace Attributes

variable {a b : Attributes}

theorem get?_eq_some_iff {key : String} {value : Scalar} :
    a.get? key = some value ↔ (key, value) ∈ a.entries := by
  rw [get?, List.lookup_eq_some_iff]
  constructor
  · rintro ⟨before, after, h, -⟩
    rw [h]
    simp
  · intro h
    obtain ⟨before, after, h⟩ := List.append_of_mem h
    refine ⟨before, after, h, fun e he => ?_⟩
    have hnodup := a.nodup
    rw [h, List.map_append, List.map_cons, List.nodup_append] at hnodup
    -- The name stands nowhere before, since it does not occur twice.
    have hne := hnodup.2.2 e.1 (List.mem_map_of_mem he) key List.mem_cons_self
    simpa using Ne.symm hne

/-- **Attributes are equal** if there are as many and each name has an equal value. -/
theorem same_iff : a.same b = true ↔ a.size = b.size ∧
    ∀ e ∈ a.entries, ∃ value, (e.1, value) ∈ b.entries ∧ e.2.same value = true := by
  simp [same, Option.any_eq_true, get?_eq_some_iff]

theorem same_of_perm (h : a.entries.Perm b.entries)
    (hnan : ∀ e ∈ a.entries, e.2.isNaN = false) : a.same b = true := by
  rw [same_iff]
  refine ⟨h.length_eq, fun e he => ⟨e.2, h.mem_iff.mp he, ?_⟩⟩
  rw [Scalar.same_self_iff]
  exact hnan e he

end Attributes

namespace LogRecord

variable {r : LogRecord} {x : Attributes}

theorem same_of_perm (h : r.attributes.entries.Perm x.entries)
    (hnan : ∀ e ∈ r.attributes.entries, e.2.isNaN = false) :
    r.same { r with attributes := x } = true := by
  simp [same, Attributes.same_of_perm h hnan]

/-! ### Writing -/

variable {e : String × Scalar} {es es' : List (String × Scalar)} {out : Bytes}

theorem encodeEntries_cons_eq_ok : encodeEntries (e :: es) = .ok out ↔
    ∃ first later, encodeAttribute e = .ok first ∧ encodeEntries es = .ok later ∧
      out = first ++ later := by
  rw [encodeEntries]
  simp only [Write.bind_eq_ok]
  constructor
  · rintro ⟨first, hfirst, later, hlater, h⟩
    cases h
    exact ⟨first, later, hfirst, hlater, rfl⟩
  · rintro ⟨first, later, hfirst, hlater, rfl⟩
    exact ⟨first, hfirst, later, hlater, rfl⟩

/-- **Entries in another order** are written with the same bytes in another order. -/
theorem encodeEntries_of_perm (h : es.Perm es') : ∀ {out : Bytes}, encodeEntries es = .ok out →
    ∃ out', encodeEntries es' = .ok out' ∧ out.Perm out' := by
  induction h with
  | nil =>
    intro out hout
    exact ⟨out, hout, .refl _⟩
  | cons e _ ih =>
    intro out hout
    obtain ⟨first, later, hfirst, hlater, rfl⟩ := encodeEntries_cons_eq_ok.mp hout
    obtain ⟨later', hlater', hperm⟩ := ih hlater
    exact ⟨first ++ later', encodeEntries_cons_eq_ok.mpr ⟨first, later', hfirst, hlater', rfl⟩,
      hperm.append_left first⟩
  | swap e e' es =>
    intro out hout
    obtain ⟨first, later, hfirst, hlater, rfl⟩ := encodeEntries_cons_eq_ok.mp hout
    obtain ⟨second, rest, hsecond, hrest, rfl⟩ := encodeEntries_cons_eq_ok.mp hlater
    refine ⟨second ++ (first ++ rest), ?_, ?_⟩
    · exact encodeEntries_cons_eq_ok.mpr ⟨second, _, hsecond,
        encodeEntries_cons_eq_ok.mpr ⟨first, rest, hfirst, hrest, rfl⟩, rfl⟩
    · rw [← List.append_assoc, ← List.append_assoc]
      exact List.perm_append_comm.append_right rest
  | trans _ _ ih ih' =>
    intro out hout
    obtain ⟨out', hout', hperm⟩ := ih hout
    obtain ⟨out'', hout'', hperm'⟩ := ih' hout'
    exact ⟨out'', hout'', hperm.trans hperm'⟩

theorem encode_of_perm (h : r.attributes.entries.Perm x.entries) (hout : r.encode = .ok out) :
    ∃ out', { r with attributes := x }.encode = .ok out' ∧ out.Perm out' := by
  obtain ⟨front, message, back, hfront, hmessage, hback, rfl⟩ := encode_eq_ok.mp hout
  obtain ⟨trace, htrace, hback⟩ := Write.bind_eq_ok.mp hback
  obtain ⟨attributes, hattributes, hback⟩ := Write.bind_eq_ok.mp hback
  obtain ⟨count, hcount, hattributes⟩ := Write.bind_eq_ok.mp hattributes
  obtain ⟨entries, hentries, hattributes⟩ := Write.bind_eq_ok.mp hattributes
  cases hback
  cases hattributes
  obtain ⟨entries', hentries', hperm⟩ := encodeEntries_of_perm h hentries
  have hsize : r.attributes.size = x.size := h.length_eq
  rw [hsize] at hcount
  refine ⟨front ++ (message ++ (trace ++ (count ++ entries'))), ?_, ?_⟩
  · refine encode_eq_ok.mpr ⟨front, message, _, hfront, hmessage, ?_, rfl⟩
    refine Write.bind_eq_ok.mpr ⟨trace, htrace, Write.bind_eq_ok.mpr ⟨count ++ entries', ?_, rfl⟩⟩
    exact Write.bind_eq_ok.mpr ⟨count, hcount, Write.bind_eq_ok.mpr ⟨entries', hentries', rfl⟩⟩
  · exact (((hperm.append_left count).append_left trace).append_left message).append_left front

end LogRecord

/-- **The order of attributes is irrelevant** to all but the order in which they are written and
read. Of two records that have the same attributes without a NaN, in whatever orders, and agree on
all other fields, each equals the other; the one can be written if and only if the other can. Their
byte strings are then equally long, and what is decoded of them is equal again, each record with its
attributes in its own order. -/
theorem attribute_order_irrelevant (a b : LogRecord)
    (hothers : b = { a with attributes := b.attributes })
    (hperm : a.attributes.entries.Perm b.attributes.entries)
    (hnan : ∀ e ∈ a.attributes.entries, e.2.isNaN = false) :
    a.same b = true ∧ b.same a = true ∧
      ((∃ as, a.encode = .ok as) ↔ ∃ bs, b.encode = .ok bs) ∧
      ∀ as bs, a.encode = .ok as → b.encode = .ok bs → as.length = bs.length ∧
        ∃ a' b', LogRecord.decode as = .ok (a', as.length) ∧
          LogRecord.decode bs = .ok (b', bs.length) ∧ a'.same b' = true ∧ b'.same a' = true ∧
          a'.attributes = a.attributes ∧ b'.attributes = b.attributes := by
  obtain ⟨x, rfl⟩ : ∃ x, b = { a with attributes := x } := ⟨_, hothers⟩
  have hnan' : ∀ e ∈ x.entries, e.2.isNaN = false := fun e he => hnan e (hperm.mem_iff.mpr he)
  refine ⟨LogRecord.same_of_perm hperm hnan, ?_, ⟨?_, ?_⟩, ?_⟩
  · exact LogRecord.same_of_perm (r := { a with attributes := x }) hperm.symm hnan'
  · rintro ⟨as, has⟩
    obtain ⟨bs, hbs, -⟩ := LogRecord.encode_of_perm hperm has
    exact ⟨bs, hbs⟩
  · rintro ⟨bs, hbs⟩
    obtain ⟨as, has, -⟩ := LogRecord.encode_of_perm (x := a.attributes) hperm.symm hbs
    exact ⟨as, has⟩
  · intro as bs has hbs
    obtain ⟨bs', hbs', hbytes⟩ := LogRecord.encode_of_perm hperm has
    obtain rfl : bs' = bs := Except.ok.inj (hbs'.symm.trans hbs)
    have hdecode := (Read.takes_logRecord has).decodeWith []
    have hdecode' := (Read.takes_logRecord hbs).decodeWith []
    rw [List.append_nil] at hdecode hdecode'
    refine ⟨hbytes.length_eq, _, _, hdecode, hdecode', ?_, ?_, rfl, rfl⟩
    · exact LogRecord.same_of_perm (r := a.normal) hperm hnan
    · exact LogRecord.same_of_perm (r := { a.normal with attributes := x }) hperm.symm hnan'

/-- The record in a leap second with a negative zero, a text and a value that is null. -/
def LogRecord.measuredRecord : LogRecord :=
  { LogRecord.leapRecord with
    attributes := ((Attributes.empty.insert "t" (.double 0x8000000000000000)).insert "u"
      (.text "°C")).insert "v" .null }

/-- The same with its attributes the other way round. -/
def LogRecord.reversedRecord : LogRecord :=
  { LogRecord.leapRecord with
    attributes := ((Attributes.empty.insert "v" .null).insert "u" (.text "°C")).insert "t"
      (.double 0x8000000000000000) }

/-- The two are written as different byte strings of one length, and come back equal. -/
theorem attribute_order_irrelevant_reversed :
    LogRecord.measuredRecord.same LogRecord.reversedRecord = true ∧
      ∃ as bs a' b', LogRecord.measuredRecord.encode = .ok as ∧
        LogRecord.reversedRecord.encode = .ok bs ∧ as ≠ bs ∧ as.length = bs.length ∧
        LogRecord.decode as = .ok (a', as.length) ∧ LogRecord.decode bs = .ok (b', bs.length) ∧
        a'.same b' = true ∧ a' ≠ b' := by
  obtain ⟨hsame, -, hencode, hdecode⟩ := attribute_order_irrelevant LogRecord.measuredRecord
    LogRecord.reversedRecord rfl (by decide) (by decide)
  obtain ⟨as, has⟩ : ∃ as, LogRecord.measuredRecord.encode = .ok as := ⟨_, rfl⟩
  obtain ⟨bs, hbs⟩ := hencode.mp ⟨as, has⟩
  obtain ⟨hlength, a', b', ha', hb', hsame', -, ha, hb⟩ := hdecode as bs has hbs
  have hentries : LogRecord.measuredRecord.attributes ≠ LogRecord.reversedRecord.attributes := by
    decide
  have hne : a' ≠ b' := by
    rintro rfl
    exact hentries (ha.symm.trans hb)
  refine ⟨hsame, as, bs, a', b', has, hbs, ?_, hlength, ha', hb', hsame', hne⟩
  rintro rfl
  cases ha'.symm.trans hb'
  exact hne rfl

end LogHistory
