import LogHistory.Proofs.Layouts

/-!
# Decoding finds its own end

A layout asks for bytes one read after another and never looks past the last one. So the bytes that
it takes say themselves where they end: whatever follows them changes nothing, and if any of them
are missing, then the read they are missing from is the one that fails (`Parser.Accepts`). In
particular no beginning of them is taken for a shorter value, and a record can be decoded from a
buffer that holds more, or waited for until enough has come.

## What is proved

* `Accepts.bind` — bytes that are accepted one after another are accepted together.
* `Laid.delimits` — what a layout takes, it accepts.
* `Read.Follows.exists_accepts` — so does what is decoded.
* `decode_self_delimiting` — records, identifiers and scalars.
-/

namespace LogHistory

namespace Parser

variable {α β : Type}

/-- The parser takes exactly these bytes and yields this value, whatever comes after them; without
the last of them it ends at a read that would have gone past the end. -/
structure Accepts (q : Parser α) (used : Bytes) (a : α) : Prop where
  /-- The bytes are taken. -/
  whole : ∀ (rest : Bytes) (offset : Nat),
    q ⟨used ++ rest, offset⟩ = .ok (a, ⟨rest, offset + used.length⟩)
  /-- Fewer of them are too few. -/
  cut : ∀ k offset : Nat, k < used.length → ∃ start needed,
    q ⟨used.take k, offset⟩ = .error (.unexpectedEnd start needed) ∧
      start ≤ offset + k ∧ offset + k < start + needed

theorem Accepts.pure (a : α) : Accepts (Pure.pure a) [] a :=
  ⟨fun _ _ => rfl, fun _ _ h => absurd h (Nat.not_lt_zero _)⟩

/-- **Bytes that are accepted one after another are accepted together.** -/
theorem Accepts.bind {q : Parser α} {f : α → Parser β} {xs ys : Bytes} {a : α} {b : β}
    (hq : Accepts q xs a) (hf : Accepts (f a) ys b) : Accepts (q >>= f) (xs ++ ys) b where
  whole rest offset := by
    rw [List.append_assoc, bind_ok (hq.whole (ys ++ rest) offset),
      hf.whole rest (offset + xs.length), List.length_append, Nat.add_assoc]
  cut k offset hk := by
    rw [List.length_append] at hk
    by_cases hlt : k < xs.length
    · -- The cut is in the first part.
      obtain ⟨start, needed, herror, hbound⟩ := hq.cut k offset hlt
      have htake : (xs ++ ys).take k = xs.take k :=
        List.take_append_of_le_length (Nat.le_of_lt hlt)
      exact ⟨start, needed, bind_error (htake ▸ herror), hbound⟩
    · -- The first part is there.
      obtain ⟨start, needed, herror, hle, hlt'⟩ :=
        hf.cut (k - xs.length) (offset + xs.length) (by omega)
      refine ⟨start, needed, ?_, by omega, by omega⟩
      rw [List.take_append, List.take_of_length_le (by omega), bind_ok (hq.whole _ offset), herror]

theorem accepts_take (bs : Bytes) : Accepts (take bs.length) bs bs where
  whole rest offset := by
    rw [take_ok (by simp), List.take_left, List.drop_left]
  cut k offset hk := by
    have hlen : (bs.take k).length = k := List.length_take_of_le (Nat.le_of_lt hk)
    exact ⟨offset, bs.length, take_error (by rw [hlen]; omega), by omega, by omega⟩

/-- What the parser takes, it accepts. -/
def Delimits (q : Parser α) : Prop :=
  ∀ (here there : Place) (a : α), q here = .ok (a, there) →
    ∃ used, here.unread = used ++ there.unread ∧ there.offset = here.offset + used.length ∧
      Accepts q used a

theorem Delimits.pure (a : α) : Delimits (Pure.pure a) := by
  intro here there a h
  cases h
  exact ⟨[], rfl, rfl, .pure _⟩

theorem Delimits.bind {q : Parser α} {f : α → Parser β} (hq : Delimits q)
    (hf : ∀ a, Delimits (f a)) : Delimits (q >>= f) := by
  intro here there b h
  obtain ⟨a, mid, hfirst, hnext⟩ := bind_eq_ok.mp h
  obtain ⟨xs, hunread, hoffset, hxs⟩ := hq here mid a hfirst
  obtain ⟨ys, hunread', hoffset', hys⟩ := hf a mid there b hnext
  refine ⟨xs ++ ys, ?_, ?_, hxs.bind hys⟩
  · rw [hunread, hunread', List.append_assoc]
  · rw [hoffset', hoffset, List.length_append, Nat.add_assoc]

theorem Delimits.map {q : Parser α} (hq : Delimits q) (f : α → β) : Delimits (f <$> q) := by
  rw [map_eq_pure_bind]
  exact hq.bind fun a => .pure (f a)

theorem delimits_take (n : Nat) : Delimits (take n) := by
  intro here there bs h
  obtain ⟨hle, rfl, rfl⟩ := take_eq_ok.mp h
  have hlen := List.length_take_of_le hle
  have haccepts := accepts_take (here.unread.take n)
  rw [hlen] at haccepts
  exact ⟨_, (List.take_append_drop n _).symm, by rw [hlen], haccepts⟩

/-- A number of four bytes in two's complement is the word that these bytes are. -/
theorem signed_eq_ok {here there : Place} {z : Int} (h : signed 4 here = .ok (z, there)) :
    ∃ w : Int32, w.toInt = z ∧ here.unread.take 4 = Write.uint32 w.toUInt32 := by
  obtain ⟨n, hn, rfl⟩ := map_eq_ok.mp h
  obtain ⟨bs, htake, rfl⟩ := map_eq_ok.mp hn
  obtain ⟨hle, rfl, -⟩ := take_eq_ok.mp htake
  have hlen : (here.unread.take 4).length = 4 := List.length_take_of_le hle
  have hlt := LittleEndian.decode_lt (here.unread.take 4)
  have hword := LittleEndian.encode_decode (here.unread.take 4)
  rw [hlen] at hlt hword
  obtain ⟨u, hu⟩ : ∃ u : UInt32, u.toNat = LittleEndian.decode (here.unread.take 4) :=
    ⟨.ofNat _, UInt32.toNat_ofNat_of_lt' hlt⟩
  refine ⟨u.toInt32, ?_, ?_⟩
  · rw [← hu]
    exact BitVec.toInt_eq_toNat_bmod u.toBitVec
  · rw [Write.uint32, UInt32.toUInt32_toInt32, hu, hword]

/-- A length is the number read for it, which is -1 or not negative. -/
theorem length?_eq_ok {here there : Place} {n : Option Nat} :
    length? here = .ok (n, there) ↔ ∃ z, signed 4 here = .ok (z, there) ∧
      ((z = -1 ∧ n = none) ∨ (0 ≤ z ∧ n = some z.toNat)) := by
  constructor
  · intro h
    cases hz : signed 4 here with
    | error e =>
      rw [length?_error hz] at h
      cases h
    | ok r =>
      rw [length?_ok hz] at h
      split_ifs at h with habsent hneg
      · cases h
        exact ⟨r.1, rfl, .inl ⟨habsent, rfl⟩⟩
      · cases h
        exact ⟨r.1, rfl, .inr ⟨Int.not_lt.mp hneg, rfl⟩⟩
  · rintro ⟨z, hz, ⟨rfl, rfl⟩ | ⟨hpos, rfl⟩⟩
    · rw [length?_ok hz, if_pos rfl]
    · rw [length?_ok hz, if_neg (by omega), if_neg (Int.not_lt.mpr hpos)]

theorem delimits_length? : Delimits length? := by
  have hsigned : Delimits (signed 4) := ((delimits_take 4).map _).map _
  intro here there n h
  obtain ⟨z, hz, hn⟩ := length?_eq_ok.mp h
  obtain ⟨used, hunread, hoffset, haccepts⟩ := hsigned here there z hz
  refine ⟨used, hunread, hoffset, fun rest offset => ?_, fun k offset hk => ?_⟩
  · exact length?_eq_ok.mpr ⟨z, haccepts.whole rest offset, hn⟩
  · obtain ⟨start, needed, herror, hbound⟩ := haccepts.cut k offset hk
    exact ⟨start, needed, length?_error herror, hbound⟩

/-- **What a layout takes, it accepts.** -/
theorem Laid.delimits {q : Parser α} (hq : Laid q) : Delimits q := by
  induction hq with
  | pure a => exact .pure a
  | take n _ ih => exact (delimits_take n).bind ih
  | length _ ih => exact delimits_length?.bind ih

end Parser

/-! ### Decoding -/

/-- Decoding yields this value from the first `n` bytes of the data, whatever comes after them, and
from fewer of them nothing: it ends with a read that starts within them and goes past their end. -/
structure Delimited {α : Type} (decode : Bytes → Except DecodeError (α × Nat)) (data : Bytes)
    (a : α) (n : Nat) : Prop where
  /-- The bytes are there. -/
  le : n ≤ data.length
  /-- They alone count. -/
  append : ∀ rest, decode (data.take n ++ rest) = .ok (a, n)
  /-- They are all needed. -/
  cut : ∀ k < n, ∃ offset needed, decode (data.take k) = .error (.unexpectedEnd offset needed) ∧
    offset ≤ k ∧ k < offset + needed

/-- What is decoded stands at the start of the data, in bytes that the parser accepts. -/
theorem Read.Follows.exists_accepts {α : Type} {p : Read α} {q : Parser α} (hp : p.Follows q id)
    (hq : q.Laid) {data : Bytes} {a : α} {n : Nat} (h : LogHistory.decodeWith p data = .ok (a, n)) :
    ∃ used rest, data = used ++ rest ∧ used.length = n ∧ q.Accepts used a := by
  rw [hp.decodeWith] at h
  obtain ⟨there, hparse, hn⟩ := Parser.parse_eq_ok.mp h
  obtain ⟨used, hdata, hoffset, haccepts⟩ := hq.delimits ⟨data, 0⟩ there a hparse
  rw [Nat.zero_add] at hoffset
  exact ⟨used, there.unread, hdata, hoffset.symm.trans hn, haccepts⟩

theorem Read.delimited_of_follows {α : Type} {p : Read α} {q : Parser α} (hp : p.Follows q id)
    (hq : q.Laid) {data : Bytes} {a : α} {n : Nat} (h : decodeWith p data = .ok (a, n)) :
    Delimited (decodeWith p) data a n := by
  obtain ⟨used, rest, rfl, rfl, haccepts⟩ := hp.exists_accepts hq h
  refine ⟨?_, fun rest => ?_, fun k hk => ?_⟩
  · rw [List.length_append]
    exact Nat.le_add_right ..
  · rw [List.take_left, hp.decodeWith]
    exact Parser.parse_eq_ok.mpr ⟨_, haccepts.whole rest 0, Nat.zero_add _⟩
  · obtain ⟨start, needed, herror, hbound⟩ := haccepts.cut k 0 hk
    rw [Nat.zero_add] at hbound
    refine ⟨start, needed, ?_, hbound⟩
    rw [List.take_append_of_le_length (Nat.le_of_lt hk), hp.decodeWith]
    exact Parser.parse_error herror

/-- **Decoding finds its own end.** A record, an identifier or a scalar that is decoded takes its
bytes and no others: what follows them is not looked at, and each shorter beginning of them is an
unexpected end, at a read that starts within what is left and goes past it. -/
theorem decode_self_delimiting (data : Bytes) :
    (∀ r n, LogRecord.decode data = .ok (r, n) → Delimited LogRecord.decode data r n) ∧
      (∀ id n, NodeId.decode data = .ok (id, n) → Delimited NodeId.decode data id n) ∧
      ∀ v n, Scalar.decode data = .ok (v, n) → Delimited Scalar.decode data v n :=
  ⟨fun _ _ => Read.delimited_of_follows Read.follows_logRecord Parser.laid_logRecord,
    fun _ _ => Read.delimited_of_follows Read.follows_nodeId Parser.laid_nodeId,
    fun _ _ => Read.delimited_of_follows Read.follows_scalar Parser.laid_scalar⟩

/-- A record as another program might write it: made in the first tick of 1601, with a GUID for its
event type, a locale beside its message, a value without a name, and one name twice, the second time
with a text that is not UTF-8. -/
def foreignBytes : Bytes :=
  [1, 0, 0, 0, 0, 0, 0, 0, 0xF4, 1] ++ (4 :: List.replicate 18 9) ++ [0, 7] ++ Write.absent ++
    [3, 2, 0, 0, 0, 101, 110, 2, 0, 0, 0, 104, 105] ++ (List.replicate 32 0 ++ Write.absent) ++
    [3, 0, 0, 0, 1, 0, 0, 0, 107, 0x81, 1] ++ Write.absent ++ [0] ++
    [1, 0, 0, 0, 107, 0x4C, 1, 0, 0, 0, 0xC3]

/-- What it says. -/
def foreignRecord : LogRecord where
  time := some ⟨-11644473600, 100, by decide, by decide, by decide⟩
  severity := 500
  message := "hi"
  eventType := none
  sourceNode := some (.numeric 0 7)
  sourceName := none
  trace := none
  attributes := Attributes.empty.insert "k" (.text "\uFFFD")

/-- A result can be compared by evaluation once the error is left out. -/
theorem eq_ok_of_toOption {α : Type} {x : Except DecodeError α} {a : α}
    (h : x.toOption = some a) : x = .ok a := by
  cases x with
  | error e => cases h
  | ok b => exact congrArg Except.ok (Option.some.inj h)

theorem decode_foreignBytes :
    LogRecord.decode (foreignBytes ++ [9]) = .ok (foreignRecord, 111) :=
  eq_ok_of_toOption (by decide +kernel)

/-- The record, an identifier with a byte string and a text that is not UTF-8, each with a byte too
many. -/
theorem decode_self_delimiting_foreignBytes :
    Delimited LogRecord.decode (foreignBytes ++ [9]) foreignRecord 111 ∧
      Delimited NodeId.decode [5, 1, 0, 2, 0, 0, 0, 7, 7, 9] .null 9 ∧
      Delimited Scalar.decode [0x8C, 1, 0, 0, 0, 0xC3, 9] (.text "\uFFFD") 6 :=
  ⟨(decode_self_delimiting _).1 _ _ decode_foreignBytes, (decode_self_delimiting _).2.1 _ _ rfl,
    (decode_self_delimiting _).2.2 _ _ rfl⟩

end LogHistory
