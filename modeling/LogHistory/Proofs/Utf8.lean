import LogHistory.Text.Utf8
import Mathlib.Tactic.SplitIfs

/-!
# UTF-8 comes back

Writing a text as UTF-8 and reading it gives the text again, whatever it is. The reader is a machine
that sees one byte at a time, so the proof follows one character through it: its first byte opens a
`Partial` (`start_two`, `start_three`, `start_four`), each byte between adds six bits
(`decodeFrom_more`), and the last one closes it (`decodeFrom_last`).

## What is proved

* `decodeFrom_utf8EncodeChar` — the bytes of a character, followed by anything, are read as that
  character, and the machine is between characters again.
* `decode_encode` — reading undoes writing.
* `encode_decode_iff` — writing undoes reading just where the bytes are UTF-8.
* `length_encode_decode_le` — what has been read is written in at most three times the bytes.
-/

namespace LogHistory.Utf8

/-! ### First bytes -/

theorem start_one {n : Nat} (h : n < 0x80) : start (UInt8.ofNat n) = ([Char.ofNat n], none) := by
  have hn : (UInt8.ofNat n).toNat = n := by rw [UInt8.toNat_ofNat']; omega
  simp only [start, hn, h, if_true]

theorem start_two : ∀ n < 32, 2 ≤ n →
    start (UInt8.ofNat (n + 0xC0)) = ([], some ⟨n, 0, 0x80, 0xBF⟩) := by
  decide

/-- The first of three bytes. The range of the second shuts out short forms and surrogates. -/
theorem start_three : ∀ n < 16,
    start (UInt8.ofNat (n + 0xE0)) =
      ([], some ⟨n, 1, if n = 0 then 0xA0 else 0x80, if n = 0xD then 0x9F else 0xBF⟩) := by
  decide

/-- The first of four bytes. The range of the second shuts out short forms and what lies past
U+10FFFF. -/
theorem start_four : ∀ n < 5,
    start (UInt8.ofNat (n + 0xF0)) =
      ([], some ⟨n, 2, if n = 0 then 0x90 else 0x80, if n = 4 then 0x8F else 0xBF⟩) := by
  decide

/-! ### Bytes of a character -/

theorem decodeFrom_open {b : UInt8} {p : Partial} (h : start b = ([], some p)) (bs : Bytes) :
    decodeFrom none (b :: bs) = decodeFrom (some p) bs := by
  simp only [decodeFrom, step, h, List.nil_append]

theorem toNat_ofNat_tail (n : Nat) : (UInt8.ofNat (n % 64 + 0x80)).toNat = n % 64 + 0x80 := by
  rw [UInt8.toNat_ofNat']; omega

/-- A byte in the range, with more to come, adds six bits. -/
theorem decodeFrom_more {bits more low high n : Nat} (bs : Bytes) (hl : low ≤ n % 64 + 0x80)
    (hh : n % 64 + 0x80 ≤ high) :
    decodeFrom (some ⟨bits, more + 1, low, high⟩) (UInt8.ofNat (n % 64 + 0x80) :: bs) =
      decodeFrom (some ⟨64 * bits + n % 64, more, 0x80, 0xBF⟩) bs := by
  simp only [decodeFrom, step, toNat_ofNat_tail, hl, hh, and_self, if_true, List.nil_append,
    Nat.add_sub_cancel]

theorem decodeFrom_last {bits low high n : Nat} (bs : Bytes) (hl : low ≤ n % 64 + 0x80)
    (hh : n % 64 + 0x80 ≤ high) :
    decodeFrom (some ⟨bits, 0, low, high⟩) (UInt8.ofNat (n % 64 + 0x80) :: bs) =
      Char.ofNat (64 * bits + n % 64) :: decodeFrom none bs := by
  simp only [decodeFrom, step, toNat_ofNat_tail, hl, hh, and_self, if_true, Nat.add_sub_cancel,
    List.singleton_append]

/-! ### Characters and texts -/

/-- **A character comes back**, whatever follows its bytes. -/
theorem decodeFrom_utf8EncodeChar (c : Char) (bs : Bytes) :
    decodeFrom none (String.utf8EncodeChar c ++ bs) = c :: decodeFrom none bs := by
  have hc : Char.ofNat c.val.toNat = c := Char.ofNat_toNat c
  have hv : c.val.toNat < 0xD800 ∨ 0xDFFF < c.val.toNat ∧ c.val.toNat < 0x110000 := c.valid
  unfold String.utf8EncodeChar
  generalize c.val.toNat = v at hc hv
  simp only
  split_ifs with h1 h2 h3
  · simp only [List.singleton_append, decodeFrom, step, start_one (show v < 0x80 by omega), hc]
  · rw [show v / 64 % 0x20 = v / 64 by omega]
    simp only [List.cons_append, List.nil_append]
    rw [decodeFrom_open (start_two (v / 64) (by omega) (by omega)),
      decodeFrom_last _ (by omega) (by omega), show 64 * (v / 64) + v % 64 = v by omega, hc]
  · rw [show v / 4096 % 0x10 = v / 4096 by omega]
    simp only [List.cons_append, List.nil_append]
    rw [decodeFrom_open (start_three (v / 4096) (by omega)),
      decodeFrom_more _ (by split_ifs <;> omega) (by split_ifs <;> omega),
      decodeFrom_last _ (by omega) (by omega),
      show 64 * (64 * (v / 4096) + v / 64 % 64) + v % 64 = v by omega, hc]
  · rw [show v / 262144 % 0x08 = v / 262144 by omega]
    simp only [List.cons_append, List.nil_append]
    rw [decodeFrom_open (start_four (v / 262144) (by omega)),
      decodeFrom_more _ (by split_ifs <;> omega) (by split_ifs <;> omega),
      decodeFrom_more _ (by omega) (by omega), decodeFrom_last _ (by omega) (by omega),
      show 64 * (64 * (64 * (v / 262144) + v / 4096 % 64) + v / 64 % 64) + v % 64 = v by omega, hc]

theorem decodeFrom_flatMap (cs : List Char) :
    decodeFrom none (cs.flatMap String.utf8EncodeChar) = cs := by
  induction cs with
  | nil => rfl
  | cons c cs ih => rw [List.flatMap_cons, decodeFrom_utf8EncodeChar, ih]

/-- **Reading undoes writing.** -/
theorem decode_encode (s : String) : decode (encode s) = s := by
  rw [decode, encode, decodeFrom_flatMap, String.ofList_toList]

theorem decodeFrom_ascii {bs : Bytes} (h : ∀ b ∈ bs, b.toNat < 0x80) :
    decodeFrom none bs = bs.map fun b => Char.ofNat b.toNat := by
  induction bs with
  | nil => rfl
  | cons b bs ih =>
    obtain ⟨hb, hbs⟩ := List.forall_mem_cons.mp h
    rw [decodeFrom, step, start, if_pos hb, List.map_cons, ← ih hbs]
    rfl

/-- The bytes are UTF-8: those that a string can have. -/
def IsValid (bs : Bytes) : Prop := bs.toByteArray.IsValidUTF8

theorem isValid_iff {bs : Bytes} : IsValid bs ↔ ∃ s, encode s = bs := by
  constructor
  · rintro ⟨cs, h⟩
    rw [List.utf8Encode, List.toByteArray_inj] at h
    exact ⟨String.ofList cs, by rw [encode, String.toList_ofList, h]⟩
  · rintro ⟨s, rfl⟩
    exact ⟨s.toList, rfl⟩

/-- **Bytes that are UTF-8 are those of the text that is read of them**, and no others are. -/
theorem encode_decode_iff {bs : Bytes} : encode (decode bs) = bs ↔ IsValid bs := by
  rw [isValid_iff]
  constructor
  · exact fun h => ⟨decode bs, h⟩
  · rintro ⟨s, rfl⟩
    rw [decode_encode]

/-! ### Lengths

A byte that is no UTF-8 becomes a replacement character of three bytes; nothing grows more. -/

/-- The most bytes that a character under way comes to if it is given up. -/
def pending : Option Partial → Nat
  | none => 0
  | some _ => 3

/-- A byte where a character starts comes to three bytes at most, those it leaves pending
included. -/
theorem length_start_le (b : UInt8) :
    ((start b).1.flatMap String.utf8EncodeChar).length + pending (start b).2 ≤ 3 := by
  have hone : ∀ n < 0x80, (Char.ofNat n).utf8Size ≤ 3 := by decide
  have hreplacement : replacement.utf8Size = 3 := by decide
  generalize hr : start b = r
  unfold start at hr
  by_cases h : b.toNat < 0x80
  · rw [if_pos h] at hr
    subst hr
    simpa [pending] using hone _ h
  · rw [if_neg h] at hr
    repeat' split at hr
    all_goals
      subst hr
      simp [pending, hreplacement]

/-- A character that is completed has had at least two bytes, so its four are covered. -/
theorem length_step_le (p : Option Partial) (b : UInt8) :
    ((step p b).1.flatMap String.utf8EncodeChar).length + pending (step p b).2 ≤
      pending p + 3 := by
  have hstart := length_start_le b
  cases p with
  | none => simpa [step, pending] using hstart
  | some p =>
    unfold step
    simp only
    split_ifs
    · cases p.more with
      | zero =>
        have hchar := Char.utf8Size_le_four (Char.ofNat (64 * p.bits + (b.toNat - 0x80)))
        rw [← String.length_utf8EncodeChar] at hchar
        simp only [List.flatMap_cons, List.flatMap_nil, List.append_nil, pending]
        omega
      | succ more => simp [pending]
    · have hreplacement : (String.utf8EncodeChar replacement).length = 3 := by decide
      simp only [List.flatMap_cons, List.length_append, hreplacement, pending]
      simp only [pending] at hstart
      omega

/-- Three bytes for each byte are enough, and three for what is pending. -/
theorem length_decodeFrom_le (bs : Bytes) : ∀ p : Option Partial,
    ((decodeFrom p bs).flatMap String.utf8EncodeChar).length ≤ pending p + 3 * bs.length := by
  induction bs with
  | nil =>
    intro p
    cases p with
    | none => exact Nat.zero_le _
    | some p =>
      simp only [decodeFrom, pending]
      decide
  | cons b bs ih =>
    intro p
    have hstep := length_step_le p b
    have hrest := ih (step p b).2
    rw [decodeFrom]
    simp only [List.flatMap_append, List.length_append, List.length_cons]
    omega

/-- **A text that was read is at most three times as long** as the bytes it was read from. -/
theorem length_encode_decode_le (bs : Bytes) : (encode (decode bs)).length ≤ 3 * bs.length := by
  rw [encode, decode, String.toList_ofList]
  have h := length_decodeFrom_le bs none
  rwa [pending, Nat.zero_add] at h

end LogHistory.Utf8
