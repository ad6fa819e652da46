import LogHistory.Proofs.FirstFault
import Mathlib.Algebra.GroupWithZero.Nat
import Mathlib.Data.List.Forall2

/-!
# Runs of a reader

A reader is asked for numbers, byte strings and texts, in any order and after a fault as well as
before one. Whatever is asked of it, it stands inside of its data and never goes back. A read does
one of a few things (`ReadOp.Outcome`): it takes the bytes of a value; or it finds too few bytes, or
a length that cannot be one, and puts the reader at fault; or the reader is at fault already, and
nothing happens.

A value that does not fit leaves the reader at the offset that the fault names. Of a value with its
length in front the length is taken first, so a fault in what follows is found four bytes on: a
length that cannot be one is named by the offset before its four bytes, and content that does not
fit by the offset after them.

The values are told by relations of their own (`ReadOp.Denotes`): a number is the little-endian
value of its bytes, signed in two's complement, and a byte string or text has its length in front.
Nothing is said there of how they are read.

## What is proved

* `ReadOp.outcome` — what a single read does.
* `Reader.Within.after` — a reader stays within its data, and its fault names where it stopped.
* `Reader.exists_pieces` — up to the first fault the values lie end to end.
* `Reader.after_of_fault`, `Reader.eq_nothing_of_fault` — from the first fault on nothing happens.
* `reader_runs_exact` — all of this for any run.
-/

namespace LogHistory

/-- The number whose digits in base 256 are the bytes, in two's complement. -/
def LittleEndian.decodeSigned (bs : Bytes) : Int := (decode bs : Int).bmod (Nat.pow 256 bs.length)

/-- Bytes that are the wire form of a byte string: its length, -1 if it is absent, and what is in
it. -/
inductive LengthPrefixed : Bytes → Option Bytes → Prop where
  /-- The byte string is absent. -/
  | absent {front : Bytes} : front.length = 4 → LittleEndian.decodeSigned front = -1 →
      LengthPrefixed front none
  /-- The byte string is there. -/
  | present {front content : Bytes} : front.length = 4 →
      LittleEndian.decodeSigned front = content.length →
      LengthPrefixed (front ++ content) (some content)

/-! ### Reads and their values -/

/-- What can be asked of a reader. -/
inductive ReadOp where
  /-- To pass over so many bytes. -/
  | skip (n : Nat)
  /-- A byte. -/
  | byte
  /-- A truth value. -/
  | flag
  /-- A signed byte. -/
  | int8
  /-- A word of two bytes. -/
  | uint16
  /-- A signed word of two bytes. -/
  | int16
  /-- A word of four bytes. -/
  | uint32
  /-- A signed word of four bytes. -/
  | int32
  /-- A word of eight bytes. -/
  | uint64
  /-- A signed word of eight bytes. -/
  | int64
  /-- A floating-point number of four bytes, as the word of its bits. -/
  | float32
  /-- A floating-point number of eight bytes, as the word of its bits. -/
  | float64
  /-- So many bytes as they are. -/
  | fixed (n : Nat)
  /-- A byte string with its length in front. -/
  | byteString
  /-- A text with its length in front. -/
  | text?
  /-- A text with its length in front, empty if it is absent. -/
  | text

namespace ReadOp

/-- The values of a read. -/
def Result : ReadOp → Type
  | skip _ => Unit
  | byte => UInt8
  | flag => Bool
  | int8 => Int8
  | uint16 => UInt16
  | int16 => Int16
  | uint32 | float32 => UInt32
  | int32 => Int32
  | uint64 | float64 => UInt64
  | int64 => Int64
  | fixed _ => Bytes
  | byteString => Option Bytes
  | text? => Option String
  | text => String

/-- The read. -/
def read : (op : ReadOp) → Read op.Result
  | skip n => Read.skip n
  | byte => Read.byte
  | flag => Read.flag
  | int8 => Read.int8
  | uint16 => Read.uint16
  | int16 => Read.int16
  | uint32 | float32 => Read.uint32
  | int32 => Read.int32
  | uint64 | float64 => Read.uint64
  | int64 => Read.int64
  | fixed n => do return (← Read.fixed n).1
  | byteString => Read.byteString?
  | text? => Read.text?
  | text => Read.text

/-- The value of no bytes at all. -/
def nothing : (op : ReadOp) → op.Result
  | skip _ => ()
  | byte => (0 : UInt8)
  | flag => false
  | int8 => (0 : Int8)
  | uint16 => (0 : UInt16)
  | int16 => (0 : Int16)
  | uint32 | float32 => (0 : UInt32)
  | int32 => (0 : Int32)
  | uint64 | float64 => (0 : UInt64)
  | int64 => (0 : Int64)
  | fixed n => List.replicate n 0
  | byteString | text? => none
  | text => ""

/-- How many bytes the values take, if all take equally many. -/
def width? : ReadOp → Option Nat
  | skip n | fixed n => some n
  | byte | flag | int8 => some 1
  | uint16 | int16 => some 2
  | uint32 | int32 | float32 => some 4
  | uint64 | int64 | float64 => some 8
  | byteString | text? | text => none

/-- The bytes, if they are as many as they should be, are those of the value. -/
def Shows : (op : ReadOp) → Bytes → op.Result → Prop
  | skip _, _, _ => True
  | byte, bs, v => UInt8.toNat v = LittleEndian.decode bs
  | flag, bs, v => v = true ↔ LittleEndian.decode bs ≠ 0
  | int8, bs, v => Int8.toInt v = LittleEndian.decodeSigned bs
  | uint16, bs, v => UInt16.toNat v = LittleEndian.decode bs
  | int16, bs, v => Int16.toInt v = LittleEndian.decodeSigned bs
  | uint32, bs, v | float32, bs, v => UInt32.toNat v = LittleEndian.decode bs
  | int32, bs, v => Int32.toInt v = LittleEndian.decodeSigned bs
  | uint64, bs, v | float64, bs, v => UInt64.toNat v = LittleEndian.decode bs
  | int64, bs, v => Int64.toInt v = LittleEndian.decodeSigned bs
  | fixed _, bs, v => v = bs
  | byteString, bs, v => LengthPrefixed bs v
  | text?, bs, v => ∃ content, LengthPrefixed bs content ∧ v = content.map Utf8.decode
  | text, bs, v => ∃ content, LengthPrefixed bs content ∧ v = (content.map Utf8.decode).getD ""

/-- The bytes are those of the value. -/
structure Denotes (op : ReadOp) (bs : Bytes) (v : op.Result) : Prop where
  /-- They are as many as every value of the read takes. -/
  length_eq : ∀ w, op.width? = some w → bs.length = w
  /-- They show the value. -/
  shows_value : op.Shows bs v

end ReadOp

/-! ### Where a reader can be -/

namespace Reader

/-- A reader of the data, at an offset. -/
def placed (data : Bytes) (offset : Nat) (fault : Option DecodeError) : Reader :=
  ⟨data.drop offset, offset, fault⟩

/-- The fault says why a reader of the data stopped at an offset. -/
def StopsAt (data : Bytes) (offset : Nat) : DecodeError → Prop
  | .unexpectedEnd start needed => offset = start ∧ data.length < start + needed
  | .invalidLength length start => offset = start + 4 ∧ length < -1 ∧
      ∃ front, front <+: data.drop start ∧ front.length = 4 ∧
        LittleEndian.decodeSigned front = length

/-- The reader is one of the data. -/
structure Within (data : Bytes) (r : Reader) : Prop where
  /-- It stands inside of the data. -/
  offset_le : r.offset ≤ data.length
  /-- What it has not read is the rest of the data. -/
  unread_eq : r.unread = data.drop r.offset
  /-- If it is at fault, it stands where its fault says. -/
  stopsAt : ∀ e, r.fault = some e → StopsAt data r.offset e

variable {data : Bytes} {r : Reader}

theorem within_start (data : Bytes) : (start data).Within data :=
  ⟨Nat.zero_le _, rfl, fun _ h => nomatch h⟩

theorem within_placed {offset : Nat} (h : offset ≤ data.length) :
    (placed data offset none).Within data :=
  ⟨h, rfl, fun _ h => nomatch h⟩

theorem within_placed_some {offset : Nat} {e : DecodeError} (h : offset ≤ data.length)
    (he : StopsAt data offset e) : (placed data offset (some e)).Within data :=
  ⟨h, rfl, fun _ h => Option.some.inj h ▸ he⟩

theorem Within.add_length_le {bs : Bytes} (h : r.Within data) (hbs : bs <+: data.drop r.offset) :
    r.offset + bs.length ≤ data.length := by
  have hlength := hbs.length_le
  have hle := h.offset_le
  rw [List.length_drop] at hlength
  omega

end Reader

namespace Read

variable {data : Bytes} {r : Reader}

theorem take_of_fault {e : DecodeError} (n : Nat) (h : r.fault = some e) : take n r = ([], r) := by
  simp only [take, h]

theorem exists_front {offset n : Nat} (h : offset + n ≤ data.length) :
    ∃ bs, bs <+: data.drop offset ∧ bs.length = n := by
  refine ⟨(data.drop offset).take n, List.take_prefix _ _, ?_⟩
  rw [List.length_take, List.length_drop]
  omega

theorem take_of_prefix {bs : Bytes} (h : r.Within data) (hfault : r.fault = none)
    (hbs : bs <+: data.drop r.offset) :
    take bs.length r = (bs, .placed data (r.offset + bs.length) none) := by
  simp only [take, hfault, h.unread_eq, hbs.length_le, if_true, List.drop_drop, Reader.placed,
    (List.prefix_iff_eq_take.mp hbs).symm]

theorem take_of_short {n : Nat} (h : r.Within data) (hfault : r.fault = none)
    (hlt : data.length < r.offset + n) :
    take n r = ([], .placed data r.offset (some (.unexpectedEnd r.offset n))) := by
  have hshort : ¬ n ≤ (data.drop r.offset).length := by
    have := h.offset_le
    rw [List.length_drop]
    omega
  simp only [take, hfault, h.unread_eq, hshort, if_false, Reader.placed]

theorem length?_of_fault {n : Int32} {r' : Reader} {e : DecodeError} (h : int32 r = (n, r'))
    (hfault : r'.fault = some e) : length? r = (none, r') := by
  rw [length?_of_int32 h, hfault]
  rfl

theorem byteString?_of_none {r' : Reader} (h : length? r = (none, r')) :
    byteString? r = (none, r') := by
  simp only [byteString?, bind_apply, h, pure_apply]

theorem byteString?_of_some {r' r'' : Reader} {n : Nat} {bs : Bytes}
    (h : length? r = (some n, r')) (htake : take n r' = (bs, r'')) :
    byteString? r = (if r''.fault.isSome then none else some bs, r'') := by
  obtain ⟨unread, offset, fault⟩ := r''
  simp only [byteString?, bind_apply, h, htake, faulted_apply]
  cases fault <;> rfl

end Read

/-! ### What a read does -/

namespace ReadOp

variable {op : ReadOp} {data : Bytes} {r r' : Reader}

/-- What a read of a reader of the data yields, and where it leaves the reader. -/
inductive Outcome (op : ReadOp) (data : Bytes) (r : Reader) : op.Result → Reader → Prop where
  /-- The reader is at fault already, and nothing happens. -/
  | stuck {e : DecodeError} : r.fault = some e → Outcome op data r op.nothing r
  /-- The next bytes, none of them past the end, are those of a value; the reader is behind them. -/
  | value {bs : Bytes} {v : op.Result} : r.fault = none → bs <+: data.drop r.offset →
      r.offset + bs.length ≤ data.length → op.Denotes bs v →
      Outcome op data r v (.placed data (r.offset + bs.length) none)
  /-- There are fewer bytes than the value takes. -/
  | short {w : Nat} : r.fault = none → op.width? = some w → data.length < r.offset + w →
      Outcome op data r op.nothing (.placed data r.offset (some (.unexpectedEnd r.offset w)))
  /-- There are too few bytes for a length. -/
  | noLength : r.fault = none → op.width? = none → data.length < r.offset + 4 →
      Outcome op data r op.nothing (.placed data r.offset (some (.unexpectedEnd r.offset 4)))
  /-- The length is negative and not -1. -/
  | badLength {front : Bytes} {length : Int} : r.fault = none → op.width? = none →
      front <+: data.drop r.offset → front.length = 4 →
      LittleEndian.decodeSigned front = length → length < -1 →
      Outcome op data r op.nothing
        (.placed data (r.offset + 4) (some (.invalidLength length r.offset)))
  /-- There are fewer bytes after the length than it says. -/
  | noContent {front : Bytes} {n : Nat} : r.fault = none → op.width? = none →
      front <+: data.drop r.offset → front.length = 4 →
      LittleEndian.decodeSigned front = n → data.length < r.offset + 4 + n →
      Outcome op data r op.nothing
        (.placed data (r.offset + 4) (some (.unexpectedEnd (r.offset + 4) n)))

theorem append_prefix_drop {xs ys : Bytes} {n : Nat} (hxs : xs <+: data.drop n)
    (hys : ys <+: data.drop (n + xs.length)) : xs ++ ys <+: data.drop n := by
  obtain ⟨rest, hrest⟩ := hxs
  rw [← List.drop_drop, ← hrest, List.drop_left] at hys
  rw [← hrest]
  exact (List.prefix_append_right_inj xs).mpr hys

/-- A signed word is the number that its bytes are in two's complement, if the word with the same
bits is the number that they are. -/
theorem eq_decodeSigned {bs : Bytes} {w n : Nat} {z : Int} (hbs : bs.length = w)
    (hz : z = (n : Int).bmod (Nat.pow 256 w)) (hn : n = LittleEndian.decode bs) :
    z = LittleEndian.decodeSigned bs := by
  rw [LittleEndian.decodeSigned, hbs, hz, hn]

/-- A read whose values all take equally many bytes takes these, and makes a value of them. -/
theorem exists_take {w : Nat} (hw : op.width? = some w) :
    ∃ f : Bytes → op.Result, (op.read = do return f (← Read.take w)) ∧ f [] = op.nothing ∧
      ∀ bs, bs.length = w → op.Shows bs (f bs) := by
  have hlt (bs : Bytes) (hbs : bs.length = w) : LittleEndian.decode bs < Nat.pow 256 w :=
    hbs ▸ LittleEndian.decode_lt bs
  cases op with
  | skip n =>
    cases hw
    exact ⟨fun _ => (), rfl, rfl, fun _ _ => trivial⟩
  | byte =>
    cases hw
    exact ⟨fun bs => UInt8.ofNat (LittleEndian.decode bs), rfl, rfl, fun bs hbs =>
      UInt8.toNat_ofNat_of_lt' (hlt bs hbs)⟩
  | flag =>
    cases hw
    refine ⟨fun bs => UInt8.ofNat (LittleEndian.decode bs) != 0, rfl, rfl, fun bs hbs => ?_⟩
    have hb := UInt8.toNat_ofNat_of_lt' (hlt bs hbs)
    change (UInt8.ofNat (LittleEndian.decode bs) != 0) = true ↔ _
    rw [bne_iff_ne, ne_eq, ← UInt8.toNat_inj, hb]
    rfl
  | int8 =>
    cases hw
    exact ⟨fun bs => (UInt8.ofNat (LittleEndian.decode bs)).toInt8, rfl, rfl, fun bs hbs =>
      eq_decodeSigned hbs (BitVec.toInt_eq_toNat_bmod _) (UInt8.toNat_ofNat_of_lt' (hlt bs hbs))⟩
  | uint16 =>
    cases hw
    exact ⟨fun bs => UInt16.ofNat (LittleEndian.decode bs), rfl, rfl, fun bs hbs =>
      UInt16.toNat_ofNat_of_lt' (hlt bs hbs)⟩
  | int16 =>
    cases hw
    exact ⟨fun bs => (UInt16.ofNat (LittleEndian.decode bs)).toInt16, rfl, rfl, fun bs hbs =>
      eq_decodeSigned hbs (BitVec.toInt_eq_toNat_bmod _) (UInt16.toNat_ofNat_of_lt' (hlt bs hbs))⟩
  | uint32 | float32 =>
    cases hw
    exact ⟨fun bs => UInt32.ofNat (LittleEndian.decode bs), rfl, rfl, fun bs hbs =>
      UInt32.toNat_ofNat_of_lt' (hlt bs hbs)⟩
  | int32 =>
    cases hw
    exact ⟨fun bs => (UInt32.ofNat (LittleEndian.decode bs)).toInt32, rfl, rfl, fun bs hbs =>
      eq_decodeSigned hbs (BitVec.toInt_eq_toNat_bmod _) (UInt32.toNat_ofNat_of_lt' (hlt bs hbs))⟩
  | uint64 | float64 =>
    cases hw
    exact ⟨fun bs => UInt64.ofNat (LittleEndian.decode bs), rfl, rfl, fun bs hbs =>
      UInt64.toNat_ofNat_of_lt' (hlt bs hbs)⟩
  | int64 =>
    cases hw
    exact ⟨fun bs => (UInt64.ofNat (LittleEndian.decode bs)).toInt64, rfl, rfl, fun bs hbs =>
      eq_decodeSigned hbs (BitVec.toInt_eq_toNat_bmod _) (UInt64.toNat_ofNat_of_lt' (hlt bs hbs))⟩
  | fixed n =>
    cases hw
    refine ⟨fun bs => (if h : bs.length = w then ⟨bs, h⟩
      else ⟨List.replicate w 0, List.length_replicate⟩ : { bs : Bytes // bs.length = w }).1,
      rfl, ?_, fun bs hbs => ?_⟩
    · cases w <;> rfl
    · exact congrArg Subtype.val (dif_pos hbs)
  | byteString | text? | text => cases hw

theorem exists_int32 {bs : Bytes} (h : Read.take 4 r = (bs, r')) :
    ∃ n : Int32, Read.int32 r = (n, r') ∧
      (bs.length = 4 → n.toInt = LittleEndian.decodeSigned bs) := by
  obtain ⟨f, hread, -, hshows⟩ : ∃ f : Bytes → int32.Result, _ := exists_take rfl
  refine ⟨f bs, ?_, hshows bs⟩
  rw [show Read.int32 = _ from hread, Read.bind_apply, h]
  rfl

/-- **What a read of a fixed count of bytes does.** -/
theorem outcome_of_width {w : Nat} (hw : op.width? = some w) (h : r.Within data) :
    op.Outcome data r (op.read r).1 (op.read r).2 := by
  obtain ⟨f, hread, hnothing, hshows⟩ := exists_take hw
  rw [hread, Read.bind_apply, Read.pure_apply]
  cases hfault : r.fault with
  | some e =>
    rw [Read.take_of_fault w hfault, hnothing]
    exact .stuck hfault
  | none =>
    by_cases hle : r.offset + w ≤ data.length
    · obtain ⟨bs, hbs, rfl⟩ := Read.exists_front hle
      rw [Read.take_of_prefix h hfault hbs]
      refine .value hfault hbs hle ⟨fun w' hw' => ?_, hshows bs rfl⟩
      exact Option.some.inj (hw.symm.trans hw')
    · have hlt := Nat.lt_of_not_le hle
      rw [Read.take_of_short h hfault hlt, hnothing]
      exact .short hfault hw hlt

theorem Outcome.within {v : op.Result} (h : r.Within data) (o : op.Outcome data r v r') :
    r'.Within data := by
  cases o with
  | stuck _ => exact h
  | value _ _ hle _ => exact Reader.within_placed hle
  | short _ _ hlt => exact Reader.within_placed_some h.offset_le ⟨rfl, hlt⟩
  | noLength _ _ hlt => exact Reader.within_placed_some h.offset_le ⟨rfl, hlt⟩
  | @badLength front length _ _ hfront hfour hlength hneg =>
    exact Reader.within_placed_some (hfour ▸ h.add_length_le hfront)
      ⟨rfl, hneg, front, hfront, hfour, hlength⟩
  | noContent _ _ hfront hfour _ hlt =>
    exact Reader.within_placed_some (hfour ▸ h.add_length_le hfront) ⟨rfl, hlt⟩

theorem Outcome.offset_le {v : op.Result} (o : op.Outcome data r v r') : r.offset ≤ r'.offset := by
  cases o with
  | stuck _ | short _ _ _ | noLength _ _ _ => exact Nat.le_refl _
  | value _ _ _ _ | badLength _ _ _ _ _ _ | noContent _ _ _ _ _ _ => exact Nat.le_add_right _ _

/-- A reader at fault yields nothing and stays as it is. -/
theorem Outcome.of_fault {v : op.Result} {e : DecodeError} (o : op.Outcome data r v r')
    (h : r.fault = some e) : v = op.nothing ∧ r' = r := by
  cases o with
  | stuck _ => exact ⟨rfl, rfl⟩
  | value hfault _ _ _ | short hfault _ _ | noLength hfault _ _ | badLength hfault _ _ _ _ _
  | noContent hfault _ _ _ _ _ => cases hfault.symm.trans h

/-- A reader that is not at fault after a read has gone over the bytes of its value. -/
theorem Outcome.exists_bytes {v : op.Result} (o : op.Outcome data r v r') (h : r'.fault = none) :
    ∃ bs, bs <+: data.drop r.offset ∧ op.Denotes bs v ∧ r'.offset = r.offset + bs.length := by
  cases o with
  | stuck hfault => cases hfault.symm.trans h
  | value _ hbs _ hdenotes => exact ⟨_, hbs, hdenotes, rfl⟩
  | short _ _ _ | noLength _ _ _ | badLength _ _ _ _ _ _ | noContent _ _ _ _ _ _ => cases h

theorem Outcome.of_eq {v : op.Result} (o : op.Outcome data r v r') (h : op.read r = (v, r')) :
    op.Outcome data r (op.read r).1 (op.read r).2 := by
  rw [h]
  exact o

theorem outcome_of_length {front : Bytes} {n : Nat} (h : r.Within data) (hfault : r.fault = none)
    (hfront : front <+: data.drop r.offset) (hfour : front.length = 4)
    (hn : LittleEndian.decodeSigned front = n)
    (hlength : Read.length? r = (some n, .placed data (r.offset + 4) none)) :
    byteString.Outcome data r (byteString.read r).1 (byteString.read r).2 := by
  have hbehind : (Reader.placed data (r.offset + 4) none).Within data :=
    Reader.within_placed (hfour ▸ h.add_length_le hfront)
  by_cases hfits : r.offset + 4 + n ≤ data.length
  · obtain ⟨content, hcontent, rfl⟩ := Read.exists_front hfits
    have hnext : front ++ content <+: data.drop r.offset :=
      append_prefix_drop hfront (hfour ▸ hcontent)
    have hdenotes : byteString.Denotes (front ++ content) (some content) :=
      ⟨(fun _ hw => nomatch hw), LengthPrefixed.present hfour hn⟩
    have hvalue := Outcome.value hfault hnext (h.add_length_le hnext) hdenotes
    rw [List.length_append, hfour, ← Nat.add_assoc] at hvalue
    exact hvalue.of_eq
      (Read.byteString?_of_some hlength (Read.take_of_prefix hbehind rfl hcontent))
  · have hlt := Nat.lt_of_not_le hfits
    have hcut := Outcome.noContent hfault (rfl : byteString.width? = none) hfront hfour hn hlt
    exact hcut.of_eq (Read.byteString?_of_some hlength (Read.take_of_short hbehind rfl hlt))

theorem outcome_of_front {front : Bytes} (h : r.Within data) (hfault : r.fault = none)
    (hfront : front <+: data.drop r.offset) (hfour : front.length = 4) :
    byteString.Outcome data r (byteString.read r).1 (byteString.read r).2 := by
  have hle := h.add_length_le hfront
  obtain ⟨n, hint, hn⟩ := exists_int32 (hfour ▸ Read.take_of_prefix h hfault hfront)
  have hlength := Read.length?_of_int32 hint
  rw [hn hfour] at hlength
  simp only [Reader.placed, Option.isSome_none, Bool.false_or, decide_eq_true_eq] at hlength
  split_ifs at hlength with habsent hneg
  · have hdenotes : byteString.Denotes front none :=
      ⟨(fun _ hw => nomatch hw), LengthPrefixed.absent hfour habsent⟩
    have hvalue := Outcome.value hfault hfront hle hdenotes
    rw [hfour] at hvalue
    exact hvalue.of_eq (Read.byteString?_of_none hlength)
  · have hbad : byteString.Outcome data r none _ :=
      .badLength hfault rfl hfront hfour rfl (by omega)
    exact hbad.of_eq (Read.byteString?_of_none hlength)
  · obtain ⟨n, hn⟩ := Int.eq_ofNat_of_zero_le (Int.not_lt.mp hneg)
    rw [hn, Int.toNat_natCast] at hlength
    exact outcome_of_length h hfault hfront hfour hn hlength

/-- **What a read of a byte string does.** The length is read first, so it is that read that may be
at fault, or the length itself, or the read of what is in the byte string. -/
theorem outcome_byteString (h : r.Within data) :
    byteString.Outcome data r (byteString.read r).1 (byteString.read r).2 := by
  cases hfault : r.fault with
  | some e =>
    obtain ⟨n, hint, -⟩ := exists_int32 (Read.take_of_fault 4 hfault)
    have hstuck : byteString.Outcome data r none r := .stuck hfault
    exact hstuck.of_eq (Read.byteString?_of_none (Read.length?_of_fault hint hfault))
  | none =>
    by_cases hle : r.offset + 4 ≤ data.length
    · obtain ⟨front, hfront, hfour⟩ := Read.exists_front hle
      exact outcome_of_front h hfault hfront hfour
    · have hlt := Nat.lt_of_not_le hle
      obtain ⟨n, hint, -⟩ := exists_int32 (Read.take_of_short h hfault hlt)
      have hcut : byteString.Outcome data r none _ := .noLength hfault rfl hlt
      exact hcut.of_eq (Read.byteString?_of_none (Read.length?_of_fault hint rfl))

/-- What is made of a byte string does what the read of the byte string does. -/
theorem Outcome.of_byteString {v : byteString.Result} (o : byteString.Outcome data r v r')
    (hw : op.width? = none) {f : Option Bytes → op.Result} (hnothing : f none = op.nothing)
    (hshows : ∀ bs content, LengthPrefixed bs content → op.Shows bs (f content)) :
    op.Outcome data r (f v) r' := by
  have hlengths {bs : Bytes} : ∀ w, op.width? = some w → bs.length = w :=
    fun _ hw' => nomatch hw.symm.trans hw'
  cases o with
  | stuck hfault => exact hnothing ▸ .stuck hfault
  | value hfault hbs hle hdenotes =>
    exact .value hfault hbs hle ⟨hlengths, hshows _ _ hdenotes.shows_value⟩
  | short _ hw' _ => cases hw'
  | noLength hfault _ hlt => exact hnothing ▸ .noLength hfault hw hlt
  | badLength hfault _ hfront hfour hlength hneg =>
    exact hnothing ▸ .badLength hfault hw hfront hfour hlength hneg
  | noContent hfault _ hfront hfour hlength hlt =>
    exact hnothing ▸ .noContent hfault hw hfront hfour hlength hlt

/-- **What a read does.** -/
theorem outcome (op : ReadOp) (h : r.Within data) :
    op.Outcome data r (op.read r).1 (op.read r).2 := by
  cases hw : op.width? with
  | some w => exact outcome_of_width hw h
  | none =>
    cases op with
    | byteString => exact outcome_byteString h
    | text? =>
      exact (outcome_byteString h).of_byteString hw rfl fun _ content hcontent =>
        ⟨content, hcontent, rfl⟩
    | text =>
      exact (outcome_byteString h).of_byteString hw rfl fun _ content hcontent =>
        ⟨content, hcontent, rfl⟩
    | _ => cases hw

end ReadOp

namespace Reader

/-! ### Runs -/

/-- The reader after a run of reads. -/
def after (r : Reader) (ops : List ReadOp) : Reader := ops.foldl (fun r op => (op.read r).2) r

/-- The reads of a run, each with its value. -/
def values : Reader → List ReadOp → List ((op : ReadOp) × op.Result)
  | _, [] => []
  | r, op :: ops => ⟨op, (op.read r).1⟩ :: values (op.read r).2 ops

variable {data : Bytes} {r : Reader}

/-- **A reader of the data stays one**, whatever is asked of it. -/
theorem Within.after (h : r.Within data) (ops : List ReadOp) : (r.after ops).Within data := by
  induction ops generalizing r with
  | nil => exact h
  | cons op ops ih => exact ih ((ReadOp.outcome op h).within h)

theorem Within.offset_le_after (h : r.Within data) (ops : List ReadOp) :
    r.offset ≤ (r.after ops).offset := by
  induction ops generalizing r with
  | nil => exact Nat.le_refl _
  | cons op ops ih =>
    have ho := ReadOp.outcome op h
    exact Nat.le_trans ho.offset_le (ih (ho.within h))

/-- **A reader at fault stays as it is.** -/
theorem after_of_fault {e : DecodeError} (h : r.Within data) (hfault : r.fault = some e)
    (ops : List ReadOp) : r.after ops = r := by
  induction ops with
  | nil => rfl
  | cons op ops ih =>
    rw [Reader.after, List.foldl_cons, ((ReadOp.outcome op h).of_fault hfault).2]
    exact ih

/-- **A reader at fault yields nothing.** -/
theorem eq_nothing_of_fault {e : DecodeError} (h : r.Within data) (hfault : r.fault = some e)
    (ops : List ReadOp) : ∀ s ∈ r.values ops, s.2 = s.1.nothing := by
  induction ops with
  | nil => exact fun _ hs => nomatch hs
  | cons op ops ih =>
    obtain ⟨hvalue, hstays⟩ := (ReadOp.outcome op h).of_fault hfault
    rw [values, hstays]
    intro s hs
    cases hs with
    | head => exact hvalue
    | tail _ hs => exact ih s hs

/-- **The values lie end to end** up to the first fault: what has been read is the bytes of one
after those of the other. -/
theorem exists_pieces (h : r.Within data) (ops : List ReadOp)
    (hfault : (r.after ops).fault = none) : ∃ pieces : List Bytes,
      data.take r.offset ++ pieces.flatten = data.take (r.after ops).offset ∧
      List.Forall₂ (fun s bs => s.1.Denotes bs s.2) (r.values ops) pieces := by
  induction ops generalizing r with
  | nil => exact ⟨[], List.append_nil _, .nil⟩
  | cons op ops ih =>
    have ho := ReadOp.outcome op h
    have hwithin := ho.within h
    -- If the first of the reads were at fault, then so would be the reader after the run.
    have hnext : (op.read r).2.fault = none := by
      cases he : (op.read r).2.fault with
      | none => rfl
      | some e =>
        have hafter := congrArg fault (after_of_fault hwithin he ops)
        cases (hafter.trans he).symm.trans hfault
    obtain ⟨bs, hbs, hdenotes, hoffset⟩ := ho.exists_bytes hnext
    obtain ⟨pieces, hpieces, hvalues⟩ := ih hwithin hfault
    refine ⟨bs :: pieces, ?_, .cons hdenotes hvalues⟩
    rw [List.flatten_cons, ← List.append_assoc, List.prefix_iff_eq_take.mp hbs, ← List.take_add,
      ← hoffset]
    exact hpieces

end Reader

/-- A reader of the data after a run of reads from its start. -/
def Reader.reached (data : Bytes) (ops : List ReadOp) : Reader := (Reader.start data).after ops

theorem Reader.within_reached (data : Bytes) (ops : List ReadOp) :
    (reached data ops).Within data := (within_start data).after ops

theorem Reader.reached_append (data : Bytes) (ops more : List ReadOp) :
    reached data (ops ++ more) = (reached data ops).after more := List.foldl_append

/-- **Runs of a reader**, exactly. Whatever a reader of the data has been asked for, in any order:

* It stands inside of the data, what it has not read is the rest of them, and if it is at fault it
  stands where its fault says.
* The next read does what `ReadOp.Outcome` says, and no further run goes back.
* As long as there is no fault, what has been read is the bytes of the values, one after the other,
  and the offset is the sum of their counts.
* Once there is a fault, no further run changes the reader, and all values are those of no bytes at
  all. -/
theorem reader_runs_exact (data : Bytes) (ops : List ReadOp) :
    (Reader.reached data ops).Within data ∧
    (∀ op : ReadOp, op.Outcome data (Reader.reached data ops) (op.read (Reader.reached data ops)).1
      (Reader.reached data (ops ++ [op]))) ∧
    (∀ more, (Reader.reached data ops).offset ≤ (Reader.reached data (ops ++ more)).offset) ∧
    ((Reader.reached data ops).fault = none → ∃ pieces : List Bytes,
      List.Forall₂ (fun s bs => s.1.Denotes bs s.2) ((Reader.start data).values ops) pieces ∧
      pieces.flatten = data.take (Reader.reached data ops).offset ∧
      (pieces.map List.length).sum = (Reader.reached data ops).offset) ∧
    ((Reader.reached data ops).fault ≠ none → ∀ more,
      Reader.reached data (ops ++ more) = Reader.reached data ops ∧
      ∀ s ∈ (Reader.reached data ops).values more, s.2 = s.1.nothing) := by
  have hwithin := Reader.within_reached data ops
  refine ⟨hwithin, fun op => ?_, fun more => ?_, fun hfault => ?_, fun hfault more => ?_⟩
  · rw [Reader.reached_append]
    exact op.outcome hwithin
  · rw [Reader.reached_append]
    exact hwithin.offset_le_after more
  · obtain ⟨pieces, hpieces, hvalues⟩ := Reader.exists_pieces (Reader.within_start data) ops hfault
    have hflatten : pieces.flatten = data.take (Reader.reached data ops).offset := hpieces
    refine ⟨pieces, hvalues, hflatten, ?_⟩
    rw [← List.length_flatten, hflatten, List.length_take_of_le hwithin.offset_le]
  · obtain ⟨e, he⟩ := Option.ne_none_iff_exists'.mp hfault
    rw [Reader.reached_append]
    exact ⟨Reader.after_of_fault hwithin he more, Reader.eq_nothing_of_fault hwithin he more⟩

/-- A byte, the length -7 and another byte. -/
def unreadableText : Bytes := [0x42, 0xF9, 0xFF, 0xFF, 0xFF, 0x07]

/-- After the byte there is no fault. The text puts the reader at fault, behind the length, and the
byte after it is not read any more. -/
theorem reader_runs_exact_unreadableText :
    (∃ pieces : List Bytes, pieces.flatten = [0x42] ∧ (pieces.map List.length).sum = 1) ∧
    ∀ more, Reader.reached unreadableText ([.byte, .text?] ++ more) =
      ⟨[0x07], 5, some (.invalidLength (-7) 1)⟩ := by
  have hfine : (Reader.reached unreadableText [.byte]).fault = none := by decide
  have hfault : Reader.reached unreadableText [.byte, .text?] =
      ⟨[0x07], 5, some (.invalidLength (-7) 1)⟩ := by decide
  constructor
  · obtain ⟨pieces, -, hflatten, hsum⟩ :=
      (reader_runs_exact unreadableText [.byte]).2.2.2.1 hfine
    exact ⟨pieces, hflatten.trans (by decide), hsum.trans (by decide)⟩
  · intro more
    have hstays := (reader_runs_exact unreadableText [.byte, .text?]).2.2.2.2
      (by rw [hfault]; exact Option.some_ne_none _) more
    exact hstays.1.trans hfault

end LogHistory
