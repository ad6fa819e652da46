import LogHistory.Proofs.Unwritable

/-!
# The forms of an identifier

A number is written in the first form that holds its namespace and itself, and the forms come in the
order of their sizes: two bytes, four, seven. So no bytes that are read as the identifier are fewer
than those that are written for it. Form for form this is what reading can come to
(`NodeId.Form`), the flags in the first byte making no difference. It does not hold of all
identifiers. The null identifier is written in two bytes, and is read of a single byte with a form
that is not known; and a text may be read of fewer bytes than it has if they are no UTF-8.

An identifier that may be absent is written as the null identifier if it is, and the null identifier
is read as absent. All others come back as they are.

## What is proved

* `Parser.form_of_nodeId` — what can be read as an identifier, and the bytes it takes.
* `NodeId.length_encode_numeric` — the bytes that are written for a number.
* `NodeId.Form.length_le` — they are no more than those of any form that is read as it.
* `identifier_forms_exact` — identifiers come back from their wire form, which is the shortest for
  numbers.
-/

namespace LogHistory

namespace NodeId

/-- `Form id n`: the identifier is read of `n` bytes in one of the forms. -/
inductive Form : NodeId → Nat → Prop where
  /-- A number of one byte, in namespace 0. -/
  | short {value : Nat} : value < 256 → Form (numeric 0 (.ofNat value)) 2
  /-- A namespace of one byte and a number of two. -/
  | medium {ns value : Nat} : ns < 256 → value < 65536 →
      Form (numeric (.ofNat ns) (.ofNat value)) 4
  /-- A namespace of two bytes and a number of four. -/
  | long (ns : UInt16) (value : UInt32) : Form (numeric ns value) 7
  /-- A namespace and a text. -/
  | text (ns : UInt16) (value : String) (n : Nat) : Form (text ns value) n
  /-- A form whose identifiers are not represented. -/
  | null (n : Nat) : Form null n

/-! ### Written identifiers -/

variable {id : NodeId} {ns : UInt16} {value : UInt32} {bs : Bytes} {n : Nat}

theorem length_encode_numeric (h : (numeric ns value).encode = .ok bs) :
    bs.length = if ns.toNat = 0 ∧ value.toNat < 256 then 2
      else if ns.toNat < 256 ∧ value.toNat < 65536 then 4 else 7 := by
  simp only [encode] at h
  split_ifs at h ⊢ with hshort hmedium
  · cases h
    rfl
  · cases h
    simp only [List.length_cons, LittleEndian.length_encode]
  · cases h
    simp only [List.length_cons, List.length_append, Write.uint16, Write.uint32,
      LittleEndian.length_encode]

/-- **No form of a number is shorter than the one that is written.** -/
theorem Form.length_le (hform : Form (numeric ns value) n)
    (hnull : numeric ns value ≠ NodeId.null)
    (h : (numeric ns value).encode = .ok bs) : bs.length ≤ n := by
  rw [length_encode_numeric h]
  generalize hid : numeric ns value = id at hform hnull
  cases hform with
  | @short value' hvalue =>
    obtain ⟨rfl, rfl⟩ := NodeId.numeric.inj hid
    have hfits : (UInt32.ofNat value').toNat < 256 := by
      rwa [UInt32.toNat_ofNat_of_lt' (Nat.lt_trans hvalue (by decide))]
    exact Nat.le_of_eq (if_pos ⟨rfl, hfits⟩)
  | @medium ns' value' hns hvalue =>
    obtain ⟨rfl, rfl⟩ := NodeId.numeric.inj hid
    have hfits : (UInt16.ofNat ns').toNat < 256 ∧ (UInt32.ofNat value').toNat < 65536 := by
      rw [UInt16.toNat_ofNat_of_lt' (Nat.lt_trans hns (by decide)),
        UInt32.toNat_ofNat_of_lt' (Nat.lt_trans hvalue (by decide))]
      exact ⟨hns, hvalue⟩
    rw [if_pos hfits]
    split_ifs <;> omega
  | long => split_ifs <;> omega
  | text => cases hid
  | null => exact absurd rfl hnull

end NodeId

/-! ### Identifiers that are read -/

namespace Parser

variable {here there : Place}

theorem number_eq_ok {w n : Nat} (h : number w here = .ok (n, there)) :
    n < Nat.pow 256 w ∧ there.offset = here.offset + w := by
  obtain ⟨bs, htake, rfl⟩ := map_eq_ok.mp h
  obtain ⟨hle, rfl, rfl⟩ := take_eq_ok.mp htake
  have hlt := LittleEndian.decode_lt (here.unread.take w)
  rw [List.length_take_of_le hle] at hlt
  exact ⟨hlt, rfl⟩

/-- **What is read as an identifier has one of the forms**, and takes the bytes of it. -/
theorem form_of_nodeId {id : NodeId} {n : Nat} (h : nodeId here = .ok (id, there))
    (hn : there.offset = here.offset + n) : id.Form n := by
  obtain ⟨form, mid, hform, h⟩ := bind_eq_ok.mp h
  obtain ⟨-, hmid⟩ := number_eq_ok hform
  -- From here on the flags in the first byte are out of sight.
  generalize form % 16 = k at h
  match k with
  | 0 =>
    obtain ⟨value, last, hvalue, h⟩ := bind_eq_ok.mp h
    cases h
    obtain ⟨hvalue, hlast⟩ := number_eq_ok hvalue
    obtain rfl : n = 2 := by omega
    exact .short hvalue
  | 1 =>
    obtain ⟨ns, mid', hns, h⟩ := bind_eq_ok.mp h
    obtain ⟨value, last, hvalue, h⟩ := bind_eq_ok.mp h
    cases h
    obtain ⟨hns, hmid'⟩ := number_eq_ok hns
    obtain ⟨hvalue, hlast⟩ := number_eq_ok hvalue
    obtain rfl : n = 4 := by omega
    exact .medium hns hvalue
  | 2 =>
    obtain ⟨ns, mid', hns, h⟩ := bind_eq_ok.mp h
    obtain ⟨value, last, hvalue, h⟩ := bind_eq_ok.mp h
    cases h
    obtain ⟨-, hmid'⟩ := number_eq_ok hns
    obtain ⟨-, hlast⟩ := number_eq_ok hvalue
    obtain rfl : n = 7 := by omega
    exact .long _ _
  | 3 =>
    obtain ⟨ns, mid', -, h⟩ := bind_eq_ok.mp h
    obtain ⟨value, last, -, h⟩ := bind_eq_ok.mp h
    cases h
    exact .text _ _ _
  | 4 =>
    obtain ⟨ns, mid', -, h⟩ := bind_eq_ok.mp h
    obtain ⟨skipped, last, -, h⟩ := bind_eq_ok.mp h
    cases h
    exact .null _
  | 5 =>
    obtain ⟨ns, mid', -, h⟩ := bind_eq_ok.mp h
    obtain ⟨skipped, last, -, h⟩ := bind_eq_ok.mp h
    cases h
    exact .null _
  | k + 6 =>
    cases h
    exact .null _

end Parser

theorem NodeId.form_of_decode {data : Bytes} {id : NodeId} {n : Nat}
    (h : NodeId.decode data = .ok (id, n)) : id.Form n := by
  rw [NodeId.decode, Read.follows_nodeId.decodeWith] at h
  obtain ⟨there, hparse, rfl⟩ := Parser.parse_eq_ok.mp h
  exact Parser.form_of_nodeId hparse (Nat.zero_add _).symm

open NodeId in
/-- **Identifiers come back from their wire form.** An absent identifier is written in two zeros, as
the null identifier is, and is read of them. An identifier whose text fits its length field has a
wire form, which takes all of its bytes and no more; for a number, but for the null identifier, no
bytes that are decoded as it are fewer. One that may be absent is written in the same form, and is
read as present unless it is null. -/
theorem identifier_forms_exact :
    encode? none = .ok [0, 0] ∧ encode? (some null) = .ok [0, 0] ∧
      Read.Takes Read.nodeId? [0, 0] none ∧
      ∀ id : NodeId, (∀ ns s, id = text ns s → (Utf8.encode s).length < Write.lengthLimit) →
        ∃ bs, id.encode = .ok bs ∧ (∀ rest, decode (bs ++ rest) = .ok (id, bs.length)) ∧
          (∀ ns value, id = numeric ns value → id ≠ null →
            ∀ data n, decode data = .ok (id, n) → bs.length ≤ n) ∧
          encode? (some id) = .ok bs ∧ (id ≠ null → Read.Takes Read.nodeId? bs (some id)) := by
  have habsent : encode? none = .ok [0, 0] := rfl
  refine ⟨habsent, rfl, Read.takes_nodeId? habsent, fun id h => ?_⟩
  have hfits : ∀ s ∈ (some id).toList.flatMap texts,
      (Utf8.encode s).length < Write.lengthLimit := by
    intro s hs
    cases id with
    | numeric ns value => cases hs
    | text ns s' =>
      cases List.mem_singleton.mp hs
      exact h ns s rfl
  obtain ⟨bs, hbs⟩ := LogRecord.exists_encode_nodeId hfits
  refine ⟨bs, hbs, (Read.takes_nodeId hbs).decodeWith, ?_, hbs, fun hnull => ?_⟩
  · rintro ns value rfl hnull data n hdata
    exact (form_of_decode hdata).length_le hnull hbs
  · have htakes := Read.takes_nodeId? hbs
    rwa [LogRecord.filter_isNull fun heq => hnull (Option.some.inj heq)] at htakes

open NodeId in
/-- The largest number of the form of four bytes can also be read of the form of seven, with a flag
in its first byte, but of no bytes that are fewer than four. A text is taken with what follows left
where it is, and one that may be absent is read as present. -/
theorem identifier_forms_exact_boundary :
    (numeric 255 65535).encode = .ok [1, 255, 255, 255] ∧
      decode [0x92, 255, 0, 255, 255, 0, 0] = .ok (numeric 255 65535, 7) ∧
      (∀ data n, decode data = .ok (numeric 255 65535, n) → 4 ≤ n) ∧
      Read.Takes Read.nodeId? [3, 2, 0, 1, 0, 0, 0, 105] (some (text 2 "i")) := by
  have htext : (text 2 "i").encode = .ok [3, 2, 0, 1, 0, 0, 0, 105] := rfl
  obtain ⟨-, -, -, hforms⟩ := identifier_forms_exact
  obtain ⟨bs, hbs, -, hleast, -⟩ := hforms (numeric 255 65535) nofun
  obtain ⟨bs', hbs', -, -, -, htakes⟩ := hforms (text 2 "i") (by
    rintro ns s ⟨⟩
    decide)
  cases hbs
  cases htext.symm.trans hbs'
  exact ⟨rfl, rfl, hleast 255 65535 rfl nofun, htakes nofun⟩

end LogHistory
