import LogHistory.Proofs.Spellings
import LogHistory.Proofs.Utf8
import LogHistory.Text.Lowercase

/-!
# Hexadecimal texts of traces and spans

The text of an id is two digits for each of its bytes. Reading it looks at the bytes of the text,
not at its characters: there have to be twice as many as the id has bytes, and each has to be the
code of a digit, in either case. A text with other characters may happen to have the right number of
bytes; the first byte that is no digit is then reported with its position. The empty text stands for
an id that is not there.

Two digits are a byte, high half first (`Hex.Spells`), so a text of digits spells just one byte
string. What is written of this byte string is the text in lowercase. A span is a number, and is
spelled with its most significant byte first, although on the wire this byte comes last. Zero is no
span and is written as the empty text, so its sixteen digits are the only text that is read and not
written again.

## What is proved

* `Hex.decode_eq_ok_iff`, `Hex.decode_eq_error_iff` — a text of an even length is read as what it
  spells, or refused for its first byte that is no digit.
* `Hex.spells_ofBytes`, `Hex.ofBytes_of_spells` — what is written of a byte string spells it, and is
  the lowercase form of all that does.
* `hex_texts_exact` — so trace ids and span ids are read exactly, and come back both ways.
-/

namespace LogHistory

theorem Utf8.encode_eq_nil_iff {s : String} : encode s = [] ↔ s = "" := by
  constructor
  · intro h
    rw [← decode_encode s, h]
    rfl
  · rintro rfl
    rfl

namespace Hex

/-! ### Digits -/

/-- The code of a hexadecimal digit: `0` to `9`, `a` to `f` or `A` to `F`. -/
def IsCode (b : UInt8) : Prop :=
  (48 ≤ b.toNat ∧ b.toNat ≤ 57) ∨ (97 ≤ b.toNat ∧ b.toNat ≤ 102) ∨ (65 ≤ b.toNat ∧ b.toNat ≤ 70)

instance : DecidablePred IsCode := fun _ => inferInstanceAs (Decidable (_ ∨ _ ∨ _))

variable {b : UInt8} {v : Nat}

theorem exists_digitValue?_iff : (∃ v, digitValue? b = some v) ↔ IsCode b := by
  unfold digitValue? IsCode
  split_ifs <;> simp_all

theorem digitValue?_eq_none_iff : digitValue? b = none ↔ ¬ IsCode b := by
  rw [← exists_digitValue?_iff, Option.eq_none_iff_forall_ne_some, not_exists]

/-- A digit has the value of its lowercase form. -/
theorem toLower_of_digitValue? (h : digitValue? b = some v) :
    v < 16 ∧ b.toNat < 0x80 ∧ (Char.ofNat b.toNat).toLower = digit v := by
  have hnumber : ∀ n < 58, 48 ≤ n → (Char.ofNat n).toLower = digit (n - 48) := by decide
  have hsmall : ∀ n < 103, 97 ≤ n → (Char.ofNat n).toLower = digit (n - 87) := by decide
  have hcapital : ∀ n < 71, 65 ≤ n → (Char.ofNat n).toLower = digit (n - 55) := by decide
  unfold digitValue? at h
  split_ifs at h with hn hs hc
  · cases h
    exact ⟨by omega, by omega, hnumber _ (by omega) hn.1⟩
  · cases h
    exact ⟨by omega, by omega, hsmall _ (by omega) hs.1⟩
  · cases h
    exact ⟨by omega, by omega, hcapital _ (by omega) hc.1⟩

theorem eq_of_digitValue?_zero (h : digitValue? b = some 0) : b = 48 := by
  rw [← UInt8.toNat_inj]
  unfold digitValue? at h
  split_ifs at h
  all_goals
    simp only [Option.some.injEq] at h
    simp only [UInt8.reduceToNat]
    omega

theorem digitValue?_digit : ∀ n < 16, digitValue? (UInt8.ofNat (digit n).toNat) = some n := by
  decide

theorem utf8EncodeChar_digit :
    ∀ n < 16, String.utf8EncodeChar (digit n) = [UInt8.ofNat (digit n).toNat] := by
  decide

/-! ### Spelling -/

/-- `Spells text bs`: the text is two digits for each of the bytes, high half first. -/
inductive Spells : Bytes → Bytes → Prop where
  /-- No digits spell no bytes. -/
  | nil : Spells [] []
  /-- Two digits spell a byte, and what comes after them the others. -/
  | cons {hi lo : UInt8} {h l : Nat} {text bs : Bytes} : digitValue? hi = some h →
      digitValue? lo = some l → Spells text bs →
      Spells (hi :: lo :: text) (UInt8.ofNat (16 * h + l) :: bs)

/-- `Misspells text bad`: this byte, at this position, is the first that is no digit. -/
def Misspells (text : Bytes) (bad : BadDigit) : Prop :=
  ∃ before after, text = before ++ bad.byte :: after ∧ before.length = bad.position ∧
    (∀ b ∈ before, IsCode b) ∧ ¬ IsCode bad.byte

variable {text bs : Bytes} {bad : BadDigit}

theorem Spells.isCode (h : Spells text bs) : ∀ b ∈ text, IsCode b := by
  induction h with
  | nil => simp
  | cons hhi hlo _ ih =>
    simp only [List.forall_mem_cons]
    exact ⟨exists_digitValue?_iff.mp ⟨_, hhi⟩, exists_digitValue?_iff.mp ⟨_, hlo⟩, ih⟩

theorem Spells.length_eq (h : Spells text bs) : text.length = 2 * bs.length := by
  induction h with
  | nil => rfl
  | cons _ _ _ ih =>
    simp only [List.length_cons, ih]
    omega

theorem Misspells.not_isCode (h : Misspells text bad) : ¬ ∀ b ∈ text, IsCode b := by
  obtain ⟨before, after, rfl, -, -, hbad⟩ := h
  intro hall
  exact hbad (hall _ (by simp))

/-- **A text of an even length spells something**, or has a first byte that is no digit. -/
theorem spells_or_misspells : ∀ {text : Bytes}, text.length % 2 = 0 →
    (∃ bs, Spells text bs) ∨ ∃ bad, Misspells text bad
  | [], _ => .inl ⟨[], .nil⟩
  | hi :: lo :: text, heven => by
    by_cases hhi : IsCode hi
    · by_cases hlo : IsCode lo
      · have heven' : text.length % 2 = 0 := by
          simp only [List.length_cons] at heven
          omega
        rcases spells_or_misspells heven' with ⟨bs, h⟩ | ⟨bad, before, after, rfl, hlen, hb, hbad⟩
        · obtain ⟨h', hh⟩ := exists_digitValue?_iff.mpr hhi
          obtain ⟨l, hl⟩ := exists_digitValue?_iff.mpr hlo
          exact .inl ⟨_, .cons hh hl h⟩
        · refine .inr ⟨⟨bad.byte, bad.position + 2⟩, hi :: lo :: before, after, rfl, ?_, ?_, hbad⟩
          · simp [hlen]
          · simpa [hhi, hlo] using hb
      · exact .inr ⟨⟨lo, 1⟩, [hi], text, rfl, rfl, by simp [hhi], hlo⟩
    · exact .inr ⟨⟨hi, 0⟩, [], lo :: text, rfl, rfl, by simp, hhi⟩

/-! ### Reading -/

theorem digitAt_of_some (h : digitValue? b = some v) (position : Nat) :
    digitAt b position = .ok v := by
  rw [digitAt, h]

theorem digitAt_of_not_isCode (h : ¬ IsCode b) (position : Nat) :
    digitAt b position = .error ⟨b, position⟩ := by
  rw [digitAt, digitValue?_eq_none_iff.mpr h]

/-- A pair of digits is read as a byte, and what comes after it from two positions further on. -/
theorem decode_pair {hi lo : UInt8} {h l : Nat} (hh : digitValue? hi = some h)
    (hl : digitValue? lo = some l) (position : Nat) (text : Bytes) :
    decode position (hi :: lo :: text) =
      (decode (position + 2) text).map (UInt8.ofNat (16 * h + l) :: ·) := by
  rw [decode, digitAt_of_some hh, digitAt_of_some hl]
  cases decode (position + 2) text <;> rfl

/-- **What is spelled is read**, from any position on. -/
theorem decode_of_spells (h : Spells text bs) : ∀ position, decode position text = .ok bs := by
  induction h with
  | nil => exact fun _ => rfl
  | cons hhi hlo _ ih =>
    intro position
    rw [decode_pair hhi hlo, ih]
    rfl

/-- **The first byte that is no digit is reported**, be it the first or the second of a pair. -/
theorem decode_of_misspells : ∀ {text : Bytes} {byte : UInt8} {place : Nat}, text.length % 2 = 0 →
    Misspells text ⟨byte, place⟩ → ∀ position,
      decode position text = .error ⟨byte, position + place⟩
  | [], _, _, _, ⟨_, _, htext, _⟩, _ => by simp at htext
  | hi :: lo :: text, byte, place, heven, h, position => by
    obtain ⟨before, after, htext, hlen, hbefore, hbad⟩ := h
    simp only at htext hlen hbad
    match before with
    | [] =>
      simp only [List.nil_append, List.cons.injEq] at htext
      simp only [List.length_nil] at hlen
      rw [decode, htext.1, digitAt_of_not_isCode hbad, ← hlen]
      rfl
    | [b] =>
      simp only [List.singleton_append, List.cons.injEq] at htext
      simp only [List.length_singleton] at hlen
      obtain ⟨h, hh⟩ := exists_digitValue?_iff.mpr (hbefore b (by simp))
      rw [decode, htext.1, htext.2.1, digitAt_of_some hh, digitAt_of_not_isCode hbad, ← hlen]
      rfl
    | b :: b' :: before =>
      simp only [List.cons_append, List.cons.injEq] at htext
      simp only [List.forall_mem_cons] at hbefore
      simp only [List.length_cons] at hlen heven
      obtain ⟨rfl, rfl, htext⟩ := htext
      obtain ⟨h, hh⟩ := exists_digitValue?_iff.mpr hbefore.1
      obtain ⟨l, hl⟩ := exists_digitValue?_iff.mpr hbefore.2.1
      have hlater : decode (position + 2) text = .error ⟨byte, position + 2 + before.length⟩ :=
        decode_of_misspells (by omega) ⟨before, after, htext, rfl, hbefore.2.2, hbad⟩ (position + 2)
      have hplace : position + 2 + before.length = position + place := by omega
      rw [decode_pair hh hl, hlater, hplace]
      rfl

theorem decode_eq_ok_iff (heven : text.length % 2 = 0) :
    decode 0 text = .ok bs ↔ Spells text bs := by
  refine ⟨fun h => ?_, fun h => decode_of_spells h 0⟩
  rcases spells_or_misspells heven with ⟨bs', h'⟩ | ⟨bad, h'⟩
  · cases h.symm.trans (decode_of_spells h' 0)
    exact h'
  · cases h.symm.trans (decode_of_misspells heven h' 0)

theorem decode_eq_error_iff (heven : text.length % 2 = 0) :
    decode 0 text = .error bad ↔ Misspells text bad := by
  constructor
  · intro h
    rcases spells_or_misspells heven with ⟨bs', h'⟩ | ⟨bad', h'⟩
    · cases h.symm.trans (decode_of_spells h' 0)
    · have hbad := h.symm.trans (decode_of_misspells heven h' 0)
      rw [Nat.zero_add] at hbad
      cases hbad
      exact h'
  · intro h
    rw [decode_of_misspells heven h, Nat.zero_add]

/-! ### Writing -/

/-- **What is written of a byte string spells it.** -/
theorem spells_ofBytes (bs : Bytes) : Spells (Utf8.encode (ofBytes bs)) bs := by
  rw [Utf8.encode, ofBytes, String.toList_ofList]
  induction bs with
  | nil => exact .nil
  | cons b bs ih =>
    obtain ⟨hhi, hlo⟩ := halves_lt b
    have hcons := Spells.cons (digitValue?_digit _ hhi) (digitValue?_digit _ hlo) ih
    rw [show 16 * (b.toNat / 16) + b.toNat % 16 = b.toNat by omega, UInt8.ofNat_toNat] at hcons
    simpa [ofByte, utf8EncodeChar_digit _ hhi, utf8EncodeChar_digit _ hlo] using hcons

theorem ofByte_halves {h l : Nat} (hh : h < 16) (hl : l < 16) :
    ofByte (UInt8.ofNat (16 * h + l)) = [digit h, digit l] := by
  have hbyte : (UInt8.ofNat (16 * h + l)).toNat = 16 * h + l :=
    UInt8.toNat_ofNat_of_lt' (by simp only [UInt8.size]; omega)
  rw [ofByte, hbyte, show (16 * h + l) / 16 = h by omega, show (16 * h + l) % 16 = l by omega]

theorem map_toLower_of_spells (h : Spells text bs) :
    (text.map fun b => Char.ofNat b.toNat).map Char.toLower = bs.flatMap ofByte := by
  induction h with
  | nil => rfl
  | cons hhi hlo _ ih =>
    obtain ⟨hh, -, hhi⟩ := toLower_of_digitValue? hhi
    obtain ⟨hl, -, hlo⟩ := toLower_of_digitValue? hlo
    rw [List.map_cons, List.map_cons, List.map_cons, List.map_cons, List.flatMap_cons, hhi, hlo,
      ofByte_halves hh hl, ih]
    rfl

/-- **What is written of a byte string is the lowercase form of every text that spells it.** -/
theorem ofBytes_of_spells {s : String} (h : Spells (Utf8.encode s) bs) :
    ofBytes bs = Lowercase.ofString s := by
  have hascii : ∀ b ∈ Utf8.encode s, b.toNat < 0x80 := by
    intro b hb
    obtain ⟨v, hv⟩ := exists_digitValue?_iff.mpr (h.isCode b hb)
    exact (toLower_of_digitValue? hv).2.1
  have hchars : s.toList = (Utf8.encode s).map fun b => Char.ofNat b.toNat := by
    rw [← Utf8.decodeFrom_ascii hascii]
    exact (Utf8.decodeFrom_flatMap s.toList).symm
  have hsmall : ∀ c ∈ s.toList, c.toNat < 0x80 := by
    rw [hchars]
    intro c hc
    obtain ⟨b, hb, rfl⟩ := List.mem_map.mp hc
    have hkept : ∀ n < 0x80, (Char.ofNat n).toNat < 0x80 := by decide
    exact hkept _ (hascii b hb)
  rw [ofBytes, Lowercase.ofString, Lowercase.ofChars_of_ascii hsmall, hchars,
    map_toLower_of_spells h]

/-- Texts of zeros spell zeros, and no others do. -/
theorem eq_replicate_of_spells_zeros :
    ∀ {n : Nat} {text : Bytes}, Spells text (List.replicate n 0) → text = List.replicate (2 * n) 48
  | 0, _, .nil => rfl
  | n + 1, text, h => by
    rw [List.replicate_succ] at h
    generalize hzero : (0 : UInt8) = zero at h
    cases h with
    | @cons hi lo h l text _ hhi hlo hlater =>
      obtain ⟨hh, -⟩ := toLower_of_digitValue? hhi
      obtain ⟨hl, -⟩ := toLower_of_digitValue? hlo
      have hsum := congrArg UInt8.toNat hzero
      rw [UInt8.toNat_ofNat_of_lt' (by simp only [UInt8.size]; omega)] at hsum
      simp only [UInt8.reduceToNat] at hsum
      obtain rfl : h = 0 := by omega
      obtain rfl : l = 0 := by omega
      rw [← hzero] at hlater
      rw [eq_of_digitValue?_zero hhi, eq_of_digitValue?_zero hlo,
        eq_replicate_of_spells_zeros hlater, Nat.mul_succ, List.replicate_succ,
        List.replicate_succ]

/-! ### Ids -/

/-- How ids of `w` bytes are read of texts, if `absent` has no bytes. -/
structure ReadsExactly {α : Type} (w : Nat) (parse : String → Except HexError α) (absent : α)
    (bytes : α → Option Bytes) : Prop where
  /-- The empty text is read as absent. -/
  empty : parse "" = .ok absent
  /-- Any other text with the wrong number of bytes is refused for it. -/
  length (s : String) : s ≠ "" → (Utf8.encode s).length ≠ 2 * w →
    parse s = .error (.length (2 * w) (Utf8.encode s).length)
  /-- A text with the right number of bytes is accepted if and only if all of them are digits. -/
  accepts (s : String) : (Utf8.encode s).length = 2 * w →
    ((∃ a, parse s = .ok a) ↔ ∀ b ∈ Utf8.encode s, IsCode b)
  /-- What is read of it is the id whose bytes it spells. -/
  value (s : String) (a : α) : (Utf8.encode s).length = 2 * w →
    (parse s = .ok a ↔ ∃ bs, bytes a = some bs ∧ Spells (Utf8.encode s) bs)
  /-- It is refused for its first byte that is no digit. -/
  refuses (s : String) (e : HexError) : (Utf8.encode s).length = 2 * w →
    (parse s = .error e ↔ ∃ bad, Misspells (Utf8.encode s) bad ∧ e = .badDigit bad)

namespace ReadsExactly

variable {α : Type} {w : Nat} {parse : String → Except HexError α} {absent a : α}
  {bytes : α → Option Bytes} {s : String}

/-- Texts are read exactly if their digits are, and an id is told by its bytes. -/
theorem of_decode (hw : 0 < w) (hempty : parse "" = .ok absent)
    (hlength : ∀ s, Utf8.encode s ≠ [] → (Utf8.encode s).length ≠ 2 * w →
      parse s = .error (.length (2 * w) (Utf8.encode s).length))
    (hok : ∀ s bs, Utf8.encode s ≠ [] → (Utf8.encode s).length = 2 * w →
      decode 0 (Utf8.encode s) = .ok bs → ∃ a, parse s = .ok a ∧ bytes a = some bs)
    (hbad : ∀ s bad, Utf8.encode s ≠ [] → (Utf8.encode s).length = 2 * w →
      decode 0 (Utf8.encode s) = .error bad → parse s = .error (.badDigit bad))
    (hinj : ∀ a a' bs, bytes a = some bs → bytes a' = some bs → a = a') :
    ReadsExactly w parse absent bytes := by
  have heven : ∀ s, (Utf8.encode s).length = 2 * w → (Utf8.encode s).length % 2 = 0 := by
    intro s hlen
    omega
  have hne : ∀ s, (Utf8.encode s).length = 2 * w → Utf8.encode s ≠ [] := by
    intro s hlen
    exact List.ne_nil_of_length_pos (by omega)
  -- A text of this length spells what is read of it, or it has a fault and is refused for it.
  have hcases : ∀ s, (Utf8.encode s).length = 2 * w →
      (∃ a bs, parse s = .ok a ∧ bytes a = some bs ∧ Spells (Utf8.encode s) bs) ∨
        ∃ bad, parse s = .error (.badDigit bad) ∧ Misspells (Utf8.encode s) bad := by
    intro s hlen
    cases hdecode : decode 0 (Utf8.encode s) with
    | ok bs =>
      obtain ⟨a, ha, hbytes⟩ := hok s bs (hne s hlen) hlen hdecode
      exact .inl ⟨a, bs, ha, hbytes, (decode_eq_ok_iff (heven s hlen)).mp hdecode⟩
    | error bad =>
      exact .inr ⟨bad, hbad s bad (hne s hlen) hlen hdecode,
        (decode_eq_error_iff (heven s hlen)).mp hdecode⟩
  refine ⟨hempty, fun s hs => hlength s (mt Utf8.encode_eq_nil_iff.mp hs),
    fun s hlen => ⟨?_, fun hall => ?_⟩, fun s a hlen => ⟨fun h => ?_, ?_⟩,
    fun s e hlen => ⟨fun h => ?_, ?_⟩⟩
  · rintro ⟨a, ha⟩
    rcases hcases s hlen with ⟨_, bs, -, -, hspells⟩ | ⟨bad, herror, -⟩
    · exact hspells.isCode
    · cases ha.symm.trans herror
  · rcases hcases s hlen with ⟨a, -, ha, -⟩ | ⟨bad, -, hmisspells⟩
    · exact ⟨a, ha⟩
    · exact absurd hall hmisspells.not_isCode
  · rcases hcases s hlen with ⟨a', bs, ha', hbytes, hspells⟩ | ⟨bad, herror, -⟩
    · cases h.symm.trans ha'
      exact ⟨bs, hbytes, hspells⟩
    · cases h.symm.trans herror
  · rintro ⟨bs, hbytes, hspells⟩
    have hdecode := (decode_eq_ok_iff (heven s hlen)).mpr hspells
    obtain ⟨a', ha', hbytes'⟩ := hok s bs (hne s hlen) hlen hdecode
    rw [ha', hinj a' a bs hbytes' hbytes]
  · rcases hcases s hlen with ⟨a, -, ha, -⟩ | ⟨bad, herror, hmisspells⟩
    · cases h.symm.trans ha
    · cases h.symm.trans herror
      exact ⟨bad, hmisspells, rfl⟩
  · rintro ⟨bad, hmisspells, rfl⟩
    exact hbad s bad (hne s hlen) hlen ((decode_eq_error_iff (heven s hlen)).mpr hmisspells)

variable (hreads : ReadsExactly w parse absent bytes)

include hreads

/-- What is written of the bytes of an id is read as the id. -/
theorem parse_ofBytes {bs : Bytes} (hbytes : bytes a = some bs) (hlen : bs.length = w) :
    parse (ofBytes bs) = .ok a := by
  have hspells := spells_ofBytes bs
  have htext := hspells.length_eq
  rw [hlen] at htext
  exact (hreads.value _ a htext).mpr ⟨bs, hbytes, hspells⟩

/-- What is read is absent, or the text spells its bytes. -/
theorem spells_of_parse (h : parse s = .ok a) :
    s = "" ∧ a = absent ∨ ∃ bs, bytes a = some bs ∧ Spells (Utf8.encode s) bs := by
  by_cases hempty : s = ""
  · subst hempty
    exact .inl ⟨rfl, Except.ok.inj (h.symm.trans hreads.empty)⟩
  · by_cases hlen : (Utf8.encode s).length = 2 * w
    · exact .inr ((hreads.value s a hlen).mp h)
    · cases h.symm.trans (hreads.length s hempty hlen)

end ReadsExactly

end Hex

namespace TraceId

/-- **Trace ids are read exactly.** -/
theorem readsExactly_parse : Hex.ReadsExactly 16 parse none (Option.map (·.bytes)) := by
  refine .of_decode (by decide) rfl (fun s hne hlen => ?_) (fun s bs hne hlen h => ?_)
    (fun s bad hne hlen h => ?_) ?_
  · rw [parse, if_neg hne, dif_neg hlen]
  · refine ⟨some ⟨bs, by rw [Hex.length_of_decode h, hlen]⟩, ?_, rfl⟩
    rw [parse, if_neg hne, dif_pos hlen]
    split
    · next bad hbad => cases hbad.symm.trans h
    · next bs' hbs' =>
      cases hbs'.symm.trans h
      rfl
  · rw [parse, if_neg hne, dif_pos hlen]
    split
    · next bad' hbad' =>
      cases hbad'.symm.trans h
      rfl
    · next bs hbs => cases hbs.symm.trans h
  · rintro (_ | ⟨as, has⟩) (_ | ⟨bs, hbs⟩) _ h h'
    · cases h
    · cases h
    · cases h'
    · cases h
      cases h'
      rfl

end TraceId

namespace SpanId

/-- The bytes of a span, most significant first. -/
def bytes (span : UInt64) : Bytes := (LittleEndian.encode 8 span.toNat).reverse

theorem length_bytes (span : UInt64) : (bytes span).length = 8 := by
  simp [bytes]

theorem bytes_injective : Function.Injective bytes := by
  intro a b h
  refine ofNat_toNat_inj ?_
  rw [Hex.ofNat, Hex.ofNat]
  exact congrArg Hex.ofBytes h

/-- **Span ids are read exactly.** -/
theorem readsExactly_parse : Hex.ReadsExactly 8 parse 0 fun span => some (bytes span) := by
  refine .of_decode (by decide) rfl (fun s hne hlen => ?_) (fun s bs hne hlen h => ?_)
    (fun s bad hne hlen h => ?_) ?_
  · rw [parse, if_neg hne, if_neg hlen]
  · refine ⟨_, by rw [parse, if_neg hne, if_pos hlen, h], ?_⟩
    have hbs : bs.reverse.length = 8 := by
      rw [List.length_reverse, Hex.length_of_decode h, hlen]
    have hlt := LittleEndian.decode_lt bs.reverse
    rw [hbs] at hlt
    rw [bytes, UInt64.toNat_ofNat_of_lt' hlt, ← hbs, LittleEndian.encode_decode,
      List.reverse_reverse]
  · rw [parse, if_neg hne, if_pos hlen, h]
  · intro a a' bs h h'
    exact bytes_injective (Option.some.inj (h.trans h'.symm))

end SpanId

/-- **Traces and spans are read exactly and come back.** The empty text is read as absent, and as
zero for a span. Any other text is refused if it has not 32 bytes, or 16 for a span; if it has, then
it is accepted if and only if all of them are digits of either case, and else refused for the first
that is not. What is read has the bytes that the digits spell, of a span the most significant first.
The text of a trace beside a span, and the text of a span, zero among them, are read as what they
were written of. The other way round a text that is accepted is written again in lowercase, but for
sixteen zeros, which are no span and are written as the empty text. -/
theorem hex_texts_exact :
    Hex.ReadsExactly 16 TraceId.parse none (Option.map (·.bytes)) ∧
      Hex.ReadsExactly 8 SpanId.parse 0 (fun span => some (SpanId.bytes span)) ∧
      (∀ (id : TraceId) (span : UInt64), span ≠ 0 → TraceId.parse (id.hex span) = .ok (some id)) ∧
      (∀ span : UInt64, SpanId.parse (SpanId.hex span) = .ok span) ∧
      (∀ (s : String) (id : TraceId) (span : UInt64), span ≠ 0 →
        TraceId.parse s = .ok (some id) → id.hex span = Lowercase.ofString s) ∧
      ∀ (s : String) (span : UInt64), SpanId.parse s = .ok span →
        SpanId.hex span = if s = "0000000000000000" then "" else Lowercase.ofString s := by
  refine ⟨TraceId.readsExactly_parse, SpanId.readsExactly_parse, fun id span hspan => ?_,
    fun span => ?_, fun s id span hspan h => ?_, fun s span h => ?_⟩
  · rw [TraceId.hex, if_neg hspan]
    exact TraceId.readsExactly_parse.parse_ofBytes rfl id.length_eq
  · by_cases hspan : span = 0
    · rw [hspan]
      rfl
    · rw [SpanId.hex, if_neg hspan]
      exact SpanId.readsExactly_parse.parse_ofBytes rfl (SpanId.length_bytes span)
  · rcases TraceId.readsExactly_parse.spells_of_parse h with ⟨-, hnone⟩ | ⟨bs, hbs, hspells⟩
    · cases hnone
    · cases hbs
      rw [TraceId.hex, if_neg hspan, Hex.ofBytes_of_spells hspells]
  · have hzeros : SpanId.parse "0000000000000000" = .ok 0 := rfl
    rcases SpanId.readsExactly_parse.spells_of_parse h with ⟨rfl, rfl⟩ | ⟨bs, hbs, hspells⟩
    · rfl
    · cases hbs
      by_cases hspan : span = 0
      · subst hspan
        have hreplicate : SpanId.bytes 0 = List.replicate 8 0 := rfl
        rw [hreplicate] at hspells
        have hs : s = "0000000000000000" := by
          rw [← Utf8.decode_encode s, Hex.eq_replicate_of_spells_zeros hspells]
          rfl
        rw [if_pos hs]
        rfl
      · have hs : s ≠ "0000000000000000" := by
          rintro rfl
          exact hspan (Except.ok.inj (h.symm.trans hzeros))
        rw [SpanId.hex, if_neg hspan, if_neg hs, ← Hex.ofBytes_of_spells hspells]
        rfl

/-- A text in both cases is read, written in lowercase and read again; one of sixteen bytes that
ends in a letter with an accent is refused for the first of its two bytes. -/
theorem hex_texts_exact_mixedCase :
    (∃ id, TraceId.parse "0102030405060708090A0b0C0d0E0fF0" = .ok (some id) ∧
      id.hex 7 = "0102030405060708090a0b0c0d0e0ff0" ∧ TraceId.parse (id.hex 7) = .ok (some id)) ∧
      (∃ span, SpanId.parse "00000000ABCDEF00" = .ok span ∧ span = 0xABCDEF00 ∧
        SpanId.hex span = "00000000abcdef00") ∧
      SpanId.parse "00000000000000é" = .error (.badDigit ⟨0xC3, 14⟩) ∧
      SpanId.parse "é" = .error (.length 16 2) := by
  obtain ⟨-, hspans, hid, -, hlower, hlower'⟩ := hex_texts_exact
  obtain ⟨id, hparse⟩ : ∃ id, TraceId.parse "0102030405060708090A0b0C0d0E0fF0" = .ok (some id) :=
    ⟨_, rfl⟩
  have hspan : SpanId.parse "00000000ABCDEF00" = .ok 0xABCDEF00 := rfl
  have hzeros : ∀ b ∈ List.replicate 14 48, Hex.IsCode b := by
    intro b hb
    rw [List.eq_of_mem_replicate hb]
    decide
  have haccent : Hex.Misspells (Utf8.encode "00000000000000é") ⟨0xC3, 14⟩ :=
    ⟨List.replicate 14 48, [0xA9], rfl, rfl, hzeros, by decide⟩
  refine ⟨⟨id, hparse, ?_, hid id 7 (by decide)⟩, ⟨_, hspan, rfl, ?_⟩, ?_, ?_⟩
  · rw [hlower _ id 7 (by decide) hparse]
    decide
  · rw [hlower' _ _ hspan, if_neg (by decide)]
    decide
  · exact (hspans.refuses _ _ rfl).mpr ⟨_, haccent, rfl⟩
  · exact hspans.length "é" (by decide) (by decide)

end LogHistory
