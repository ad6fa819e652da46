import LogHistory.Proofs.IdentifierTexts
import LogHistory.TelemetryRecord

/-!
# Texts that tell things apart

Traces, spans and identifiers are handed on as texts, and no two of a kind have the same text. A
byte has two hexadecimal digits, so the digits of byte strings can be cut apart again. The empty
text is the text of no number: it is free to stand for the identifier of a span that is not there.
An identifier is handed on in parts, its namespace, its kind and its number or text.

## What is proved

* `Hex.isText_ofBytes`, `Hex.ofBytes_injective` — the hexadecimal digits of a byte string.
* `SpanId.hex_eq_empty_iff`, `SpanId.hex_injective` — the text of a span id.
* `NodeIdentity.ofNodeId_injective` — the parts of an identifier.
-/

namespace LogHistory

/-! ### Hexadecimal digits -/

namespace Hex

/-- A lowercase hexadecimal digit. -/
def IsDigit (c : Char) : Prop := ('0' ≤ c ∧ c ≤ '9') ∨ ('a' ≤ c ∧ c ≤ 'f')

instance : DecidablePred IsDigit := fun c =>
  inferInstanceAs (Decidable (('0' ≤ c ∧ c ≤ '9') ∨ ('a' ≤ c ∧ c ≤ 'f')))

/-- A text of so many lowercase hexadecimal digits. -/
structure IsText (n : Nat) (s : String) : Prop where
  /-- There are so many characters. -/
  length : s.length = n
  /-- All of them are digits. -/
  digits : ∀ c ∈ s.toList, IsDigit c

theorem isDigit_digit : ∀ n < 16, IsDigit (digit n) := by
  decide

theorem digit_inj : ∀ m < 16, ∀ n < 16, digit m = digit n → m = n := by
  decide

theorem halves_lt (b : UInt8) : b.toNat / 16 < 16 ∧ b.toNat % 16 < 16 := by
  have hb := b.toNat_lt
  omega

theorem ofByte_injective : Function.Injective ofByte := by
  intro a b h
  obtain ⟨hhigh, h⟩ := List.cons_eq_cons.mp h
  obtain ⟨hlow, -⟩ := List.cons_eq_cons.mp h
  have hdiv := digit_inj _ (halves_lt a).1 _ (halves_lt b).1 hhigh
  have hmod := digit_inj _ (halves_lt a).2 _ (halves_lt b).2 hlow
  apply UInt8.toNat_inj.mp
  omega

theorem isDigit_of_mem_ofByte {b : UInt8} {c : Char} (h : c ∈ ofByte b) : IsDigit c := by
  rcases List.mem_cons.mp h with rfl | h
  · exact isDigit_digit _ (halves_lt b).1
  · rw [List.mem_singleton.mp h]
    exact isDigit_digit _ (halves_lt b).2

/-- Byte strings are cut apart again, two digits at a time. -/
theorem flatMap_ofByte_injective :
    ∀ as bs : Bytes, as.flatMap ofByte = bs.flatMap ofByte → as = bs
  | [], [], _ => rfl
  | [], _ :: _, h => by cases h
  | _ :: _, [], h => by cases h
  | a :: as, b :: bs, h => by
    rw [List.flatMap_cons, List.flatMap_cons] at h
    obtain ⟨hfirst, hlater⟩ := List.append_inj h rfl
    rw [ofByte_injective hfirst, flatMap_ofByte_injective as bs hlater]

theorem ofBytes_injective : Function.Injective ofBytes := by
  intro as bs h
  exact flatMap_ofByte_injective as bs (String.ofList_injective h)

theorem length_flatMap_ofByte (bs : Bytes) : (bs.flatMap ofByte).length = 2 * bs.length := by
  induction bs with
  | nil => rfl
  | cons b bs ih =>
    rw [List.flatMap_cons, List.length_append, ih, List.length_cons]
    simp only [ofByte, List.length_cons, List.length_nil]
    omega

/-- **The text of a byte string** has two digits a byte. -/
theorem isText_ofBytes (bs : Bytes) : IsText (2 * bs.length) (ofBytes bs) where
  length := by rw [ofBytes, String.length_ofList, length_flatMap_ofByte]
  digits c hc := by
    rw [ofBytes, String.toList_ofList] at hc
    obtain ⟨b, -, hb⟩ := List.mem_flatMap.mp hc
    exact isDigit_of_mem_ofByte hb

theorem isText_ofNat (w n : Nat) : IsText (2 * w) (ofNat w n) := by
  have h := isText_ofBytes (LittleEndian.encode w n).reverse
  rwa [List.length_reverse, LittleEndian.length_encode] at h

theorem ofNat_inj {w m n : Nat} (hm : m < Nat.pow 256 w) (hn : n < Nat.pow 256 w)
    (h : ofNat w m = ofNat w n) : m = n := by
  have hbytes := congrArg LittleEndian.decode (List.reverse_injective (ofBytes_injective h))
  rwa [LittleEndian.decode_encode, LittleEndian.decode_encode, Nat.mod_eq_of_lt hm,
    Nat.mod_eq_of_lt hn] at hbytes

theorem IsText.ne_empty {n : Nat} {s : String} (h : IsText n s) (hn : 0 < n) : s ≠ "" := by
  rintro rfl
  have hlen := h.length
  rw [String.length_empty] at hlen
  omega

end Hex

/-! ### Spans and traces -/

namespace SpanId

theorem isText_hex {span : UInt64} (h : span ≠ 0) : Hex.IsText 16 (hex span) := by
  rw [hex, if_neg h]
  exact Hex.isText_ofNat 8 span.toNat

/-- Just zero, which is no span, has the empty text. -/
theorem hex_eq_empty_iff (span : UInt64) : hex span = "" ↔ span = 0 := by
  constructor
  · intro h
    by_contra hne
    exact (isText_hex hne).ne_empty (by decide) h
  · rintro rfl
    rfl

theorem ofNat_toNat_inj {a b : UInt64} (h : Hex.ofNat 8 a.toNat = Hex.ofNat 8 b.toNat) :
    a = b :=
  UInt64.toNat_inj.mp (Hex.ofNat_inj (w := 8) a.toNat_lt b.toNat_lt h)

/-- **No two span ids have the same text.** -/
theorem hex_injective : Function.Injective hex := by
  intro a b h
  by_cases ha : a = 0
  · rw [ha] at h ⊢
    exact ((hex_eq_empty_iff b).mp h.symm).symm
  · have hb : b ≠ 0 := fun hb =>
      ha ((hex_eq_empty_iff a).mp (h.trans ((hex_eq_empty_iff b).mpr hb)))
    rw [hex, hex, if_neg ha, if_neg hb] at h
    exact ofNat_toNat_inj h

/-- A span is not written as zeros. -/
theorem hex_ne_zeros (span : UInt64) : hex span ≠ "0000000000000000" := by
  by_cases h : span = 0
  · rw [h]
    decide
  · rw [hex, if_neg h]
    intro hzeros
    have hzero : "0000000000000000" = Hex.ofNat 8 (0 : UInt64).toNat := by decide
    exact h (ofNat_toNat_inj (hzeros.trans hzero))

end SpanId

namespace TraceId

variable {span : UInt64}

theorem isText_hex (id : TraceId) (h : span ≠ 0) : Hex.IsText 32 (id.hex span) := by
  have htext := Hex.isText_ofBytes id.bytes
  rw [id.length_eq] at htext
  rw [hex, if_neg h]
  exact htext

/-- Beside a span no two trace ids have the same text. -/
theorem hex_inj {a b : TraceId} (hspan : span ≠ 0) (h : a.hex span = b.hex span) : a = b := by
  rw [hex, hex, if_neg hspan, if_neg hspan] at h
  obtain ⟨as, ha⟩ := a
  obtain ⟨bs, hb⟩ := b
  obtain rfl := Hex.ofBytes_injective h
  rfl

end TraceId

/-! ### Identifiers -/

/-- **No two identifiers have the same parts.** -/
theorem NodeIdentity.ofNodeId_injective : Function.Injective NodeIdentity.ofNodeId := by
  intro a b h
  rw [ofNodeId, ofNodeId, NodeIdentity.mk.injEq] at h
  obtain ⟨hns, hkind, hvalue⟩ := h
  refine NodeId.valueChars_inj hns ?_
  cases a with
  | numeric ns value =>
    cases b with
    | numeric ns' value' =>
      simp only [NodeId.valueText, Nat.toString_eq_repr] at hvalue
      rw [NodeId.valueChars, NodeId.valueChars, ← Nat.toList_repr, hvalue, Nat.toList_repr]
    | text ns' value' => exact absurd (show "Numeric" = "String" from hkind) (by decide)
  | text ns value =>
    cases b with
    | numeric ns' value' => exact absurd (show "String" = "Numeric" from hkind) (by decide)
    | text ns' value' => exact congrArg (fun s : String => 's' :: '=' :: s.toList) hvalue

end LogHistory
