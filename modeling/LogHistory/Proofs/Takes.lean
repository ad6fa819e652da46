import LogHistory.LogRecord.Wire
import LogHistory.Proofs.Utf8
import Mathlib.Tactic.SplitIfs

/-!
# Reading what was written

A reader that meets the wire form of a value takes exactly that form, whatever bytes follow, yields
the value and stays without a fault: `Read.Takes`. The relation is closed under sequencing
(`Takes.bind`), so a layout is read back field by field, each lemma about a field being used
wherever the field occurs.

## What is proved

* Numbers of every width, lengths, byte strings and texts are taken from their wire forms.
* Identifiers in their shortest form (`takes_nodeId`) and absent or present ones (`takes_nodeId?`).
* Scalars of every type that has a wire form (`takes_scalar`).

The wire form is given by an equation `v.encode = .ok bs`, so nothing is assumed of the size of a
text: one that is too long for its length field has no wire form.
-/

namespace LogHistory

/-- A sequence of writes succeeds if and only if each of them does. -/
theorem Write.bind_eq_ok {α : Type} {x : Except EncodeError α} {f : α → Write.Result} {bs : Bytes} :
    (x >>= f) = .ok bs ↔ ∃ a, x = .ok a ∧ f a = .ok bs := by
  cases x with
  | error e => simp [bind, Except.bind]
  | ok a => simp [bind, Except.bind]

/-- Enough bytes start with so many of them. -/
theorem exists_append_of_le {bs : Bytes} {n : Nat} (h : n ≤ bs.length) :
    ∃ xs ys, bs = xs ++ ys ∧ xs.length = n :=
  ⟨_, _, (List.take_append_drop n bs).symm, List.length_take_of_le h⟩

namespace Read

variable {α β : Type}

/-- The read takes exactly these bytes, whatever comes after them, and yields this value. -/
def Takes (p : Read α) (bs : Bytes) (a : α) : Prop :=
  ∀ (rest : Bytes) (offset : Nat),
    p ⟨bs ++ rest, offset, none⟩ = (a, ⟨rest, offset + bs.length, none⟩)

theorem bind_apply (p : Read α) (f : α → Read β) (r : Reader) :
    (p >>= f) r = f (p r).1 (p r).2 := rfl

theorem pure_apply (a : α) (r : Reader) : (pure a : Read α) r = (a, r) := rfl

theorem faulted_apply (r : Reader) : faulted r = (r.fault.isSome, r) := rfl

/-! ### Sequences -/

theorem Takes.pure (a : α) : Takes (Pure.pure a) [] a := fun _ _ => rfl

/-- One read after the other takes the bytes of the first and then those of the second. -/
theorem Takes.bind {p : Read α} {f : α → Read β} {xs ys : Bytes} {a : α} {b : β}
    (hp : Takes p xs a) (hf : Takes (f a) ys b) : Takes (p >>= f) (xs ++ ys) b := by
  intro rest offset
  rw [bind_apply, List.append_assoc, hp (ys ++ rest) offset, hf rest (offset + xs.length),
    List.length_append, Nat.add_assoc]

/-- A read whose value is only handed on. -/
theorem Takes.map {p : Read α} {xs : Bytes} {a : α} (hp : Takes p xs a) (f : α → β) :
    Takes (p >>= fun x => Pure.pure (f x)) xs (f a) := by
  have h := hp.bind (f := fun x => Pure.pure (f x)) (Takes.pure (f a))
  rwa [List.append_nil] at h

/-- A read that goes on unless the reader is at fault goes on. -/
theorem Takes.of_not_faulted {p q : Read α} {bs : Bytes} {a : α} (hq : Takes q bs a) :
    Takes (faulted >>= fun b => if b then p else q) bs a := fun rest offset => hq rest offset

/-- What was taken is decoded, with its length, from the front of any longer byte string. -/
theorem Takes.decodeWith {p : Read α} {bs : Bytes} {a : α} (hp : Takes p bs a) (rest : Bytes) :
    LogHistory.decodeWith p (bs ++ rest) = .ok (a, bs.length) := by
  rw [LogHistory.decodeWith, Reader.start, hp rest 0, Nat.zero_add]

/-! ### Numbers -/

theorem takes_take (bs : Bytes) : Takes (take bs.length) bs bs := by
  intro rest offset
  have hle : bs.length ≤ (bs ++ rest).length := by simp
  simp only [take, hle, if_true, List.take_left, List.drop_left]

theorem takes_number (w n : Nat) :
    Takes (number w) (LittleEndian.encode w n) (n % Nat.pow 256 w) := by
  have h := (takes_take (LittleEndian.encode w n)).map LittleEndian.decode
  rwa [LittleEndian.length_encode, LittleEndian.decode_encode] at h

theorem takes_byte (b : UInt8) : Takes byte [b] b := by
  have h := (takes_take [b]).map LittleEndian.decode |>.map UInt8.ofNat
  rwa [show UInt8.ofNat (LittleEndian.decode [b]) = b by simp [LittleEndian.decode]] at h

theorem takes_flag (v : Bool) : Takes flag [if v then 1 else 0] v := by
  have h := (takes_byte (if v then 1 else 0)).map (· != 0)
  rwa [show ((if v then 1 else 0 : UInt8) != 0) = v by cases v <;> rfl] at h

theorem takes_int8 (v : Int8) : Takes int8 [v.toUInt8] v := (takes_byte v.toUInt8).map _

theorem takes_uint16 (v : UInt16) : Takes uint16 (Write.uint16 v) v := by
  have h := (takes_number 2 v.toNat).map UInt16.ofNat
  rwa [Nat.mod_eq_of_lt (by exact v.toNat_lt), UInt16.ofNat_toNat] at h

theorem takes_int16 (v : Int16) : Takes int16 (Write.uint16 v.toUInt16) v :=
  (takes_uint16 v.toUInt16).map _

theorem takes_uint32 (v : UInt32) : Takes uint32 (Write.uint32 v) v := by
  have h := (takes_number 4 v.toNat).map UInt32.ofNat
  rwa [Nat.mod_eq_of_lt (by exact v.toNat_lt), UInt32.ofNat_toNat] at h

theorem takes_int32 (v : Int32) : Takes int32 (Write.uint32 v.toUInt32) v :=
  (takes_uint32 v.toUInt32).map _

theorem takes_uint64 (v : UInt64) : Takes uint64 (Write.uint64 v) v := by
  have h := (takes_number 8 v.toNat).map UInt64.ofNat
  rwa [Nat.mod_eq_of_lt (by exact v.toNat_lt), UInt64.ofNat_toNat] at h

theorem takes_int64 (v : Int64) : Takes int64 (Write.uint64 v.toUInt64) v :=
  (takes_uint64 v.toUInt64).map _

/-! ### Lengths, byte strings and texts -/

/-- A number below the limit, in four bytes, is the signed number it stands for. -/
theorem takes_int32_of_lt {n : Nat} (h : n < Write.lengthLimit) :
    Takes int32 (LittleEndian.encode 4 n) (Int32.ofNat n) := by
  unfold Write.lengthLimit at h
  have hw : Write.uint32 (Int32.ofNat n).toUInt32 = LittleEndian.encode 4 n := by
    rw [Write.uint32, Int32.toUInt32_ofNat', UInt32.toNat_ofNat_of_lt' (Nat.lt_trans h (by decide))]
  exact hw ▸ takes_int32 (Int32.ofNat n)

theorem toInt_ofNat_of_lt {n : Nat} (h : n < Write.lengthLimit) : (Int32.ofNat n).toInt = n := by
  unfold Write.lengthLimit at h
  exact Int32.toInt_ofNat_of_lt (by omega)

theorem takes_length? {n : Nat} {bs : Bytes} (h : Write.length n = .ok bs) :
    Takes length? bs (some n) := by
  unfold Write.length at h
  split at h
  · next hn =>
    cases h
    intro rest offset
    have hneg : ¬ (n : Int) = -1 := by omega
    have hnonneg : ¬ (n : Int) < 0 := by omega
    simp only [length?, bind_apply, place, faulted_apply, takes_int32_of_lt hn rest offset,
      toInt_ofNat_of_lt hn, Option.isSome_none, Bool.false_or, hneg, hnonneg, decide_false,
      Bool.false_eq_true, if_false, pure_apply, Int.toNat_natCast]
  · cases h

theorem takes_absent : Takes length? Write.absent none := by
  intro rest offset
  have h : Takes int32 Write.absent (-1) := takes_int32 (-1)
  simp only [length?, bind_apply, place, faulted_apply, h rest offset]
  rfl

theorem takes_byteString? {bs out : Bytes} (h : Write.byteString bs = .ok out) :
    Takes byteString? out (some bs) := by
  obtain ⟨len, hlen, h⟩ := Write.bind_eq_ok.mp h
  cases h
  have h := (takes_take bs).bind
    (f := fun bs => do if ← faulted then return none else return some bs)
    (.of_not_faulted (.pure (some bs)))
  rw [List.append_nil] at h
  exact (takes_length? hlen).bind h

theorem takes_byteString?_absent : Takes byteString? Write.absent none :=
  takes_absent.bind (Takes.pure none)

theorem takes_text?_some {s : String} {out : Bytes} (h : Write.text s = .ok out) :
    Takes text? out (some s) := by
  have h' := (takes_byteString? h).map (Option.map Utf8.decode)
  rwa [Option.map_some, Utf8.decode_encode] at h'

/-- A text that may be absent; the empty text is not absent. -/
theorem takes_text? {s : Option String} {out : Bytes} (h : Write.text? s = .ok out) :
    Takes text? out s := by
  cases s with
  | none =>
    cases h
    exact takes_byteString?_absent.map (Option.map Utf8.decode)
  | some s => exact takes_text?_some h

theorem takes_text {s : String} {out : Bytes} (h : Write.text s = .ok out) : Takes text out s :=
  (takes_text?_some h).map (·.getD "")

/-! ### Identifiers -/

/-- The number of an identifier in one byte, in namespace 0. -/
theorem takes_nodeId_short {value : UInt32} (h : value.toNat < 256) :
    Takes nodeId [0, UInt8.ofNat value.toNat] (.numeric 0 value) := by
  have hv : UInt32.ofNat (UInt8.ofNat value.toNat).toNat = value := by
    rw [UInt8.toNat_ofNat_of_lt' h, UInt32.ofNat_toNat]
  have hb := (takes_byte (UInt8.ofNat value.toNat)).map fun v =>
    NodeId.numeric 0 (UInt32.ofNat v.toNat)
  rw [hv] at hb
  exact (takes_byte 0).bind hb

/-- A namespace in one byte and a number in two. -/
theorem takes_nodeId_medium {ns : UInt16} {value : UInt32} (hn : ns.toNat < 256)
    (hv : value.toNat < 65536) :
    Takes nodeId (1 :: UInt8.ofNat ns.toNat :: LittleEndian.encode 2 value.toNat)
      (.numeric ns value) := by
  have hid : NodeId.numeric (UInt16.ofNat (UInt8.ofNat ns.toNat).toNat)
      (UInt32.ofNat (UInt16.ofNat value.toNat).toNat) = .numeric ns value := by
    rw [UInt8.toNat_ofNat_of_lt' hn, UInt16.ofNat_toNat, UInt16.toNat_ofNat_of_lt' hv,
      UInt32.ofNat_toNat]
  have hw := takes_uint16 (UInt16.ofNat value.toNat)
  rw [Write.uint16, UInt16.toNat_ofNat_of_lt' hv] at hw
  rw [← hid]
  exact (takes_byte 1).bind ((takes_byte (UInt8.ofNat ns.toNat)).bind (hw.map _))

/-- A namespace in two bytes and a number in four. -/
theorem takes_nodeId_long (ns : UInt16) (value : UInt32) :
    Takes nodeId (2 :: (Write.uint16 ns ++ Write.uint32 value)) (.numeric ns value) :=
  (takes_byte 2).bind ((takes_uint16 ns).bind ((takes_uint32 value).map _))

/-- **An identifier comes back** from its wire form. -/
theorem takes_nodeId {id : NodeId} {bs : Bytes} (h : id.encode = .ok bs) : Takes nodeId bs id := by
  cases id with
  | numeric ns value =>
    simp only [NodeId.encode] at h
    split_ifs at h with h0 h1
    · cases h
      rw [show ns = 0 from UInt16.toNat_inj.mp h0.1]
      exact takes_nodeId_short h0.2
    · cases h
      exact takes_nodeId_medium h1.1 h1.2
    · cases h
      exact takes_nodeId_long ns value
  | text ns value =>
    obtain ⟨out, hout, h⟩ := Write.bind_eq_ok.mp h
    cases h
    exact (takes_byte 3).bind ((takes_uint16 ns).bind ((takes_text hout).map _))

/-- An identifier that may be absent comes back, the null identifier as absent. -/
theorem takes_nodeId? {id : Option NodeId} {bs : Bytes} (h : NodeId.encode? id = .ok bs) :
    Takes nodeId? bs (id.filter (!·.isNull)) := by
  cases id with
  | none =>
    cases h
    have hzero : (0 : UInt32).toNat < 256 := by decide
    exact (takes_nodeId_short hzero).map _
  | some id =>
    have hid := (takes_nodeId h).map fun v => if v.isNull then none else some v
    rwa [show (if id.isNull then none else some id) = (some id).filter (!·.isNull) by
      cases hn : id.isNull <;> simp [Option.filter, hn]] at hid

/-! ### Scalars -/

/-- **A scalar comes back** from its wire form, floating-point numbers bit for bit. -/
theorem takes_scalar {v : Scalar} {bs : Bytes} (h : v.encode = .ok bs) : Takes scalar bs v := by
  obtain ⟨out, hout, h⟩ := Write.bind_eq_ok.mp h
  cases h
  cases v with
  | null => cases hout; exact (takes_byte 0).bind (.pure _)
  | bool v => cases hout; exact (takes_byte 1).bind ((takes_flag v).map _)
  | sbyte v => cases hout; exact (takes_byte 2).bind ((takes_int8 v).map _)
  | byte v => cases hout; exact (takes_byte 3).bind ((takes_byte v).map _)
  | int16 v => cases hout; exact (takes_byte 4).bind ((takes_int16 v).map _)
  | uint16 v => cases hout; exact (takes_byte 5).bind ((takes_uint16 v).map _)
  | int32 v => cases hout; exact (takes_byte 6).bind ((takes_int32 v).map _)
  | uint32 v => cases hout; exact (takes_byte 7).bind ((takes_uint32 v).map _)
  | int64 v => cases hout; exact (takes_byte 8).bind ((takes_int64 v).map _)
  | uint64 v => cases hout; exact (takes_byte 9).bind ((takes_uint64 v).map _)
  | float v => cases hout; exact (takes_byte 10).bind ((takes_uint32 v).map _)
  | double v => cases hout; exact (takes_byte 11).bind ((takes_uint64 v).map _)
  | text v => exact (takes_byte 12).bind ((takes_text hout).map _)
  | unsupported tag => cases hout

end Read

end LogHistory
