import LogHistory.Proofs.Unwritable

/-!
# The forms of a scalar

A scalar comes back from its wire form, floating-point numbers bit for bit, and the only ones that
have none are those of unknown types. The other way round bytes do not always come back, for there
are forms that are read and never written (`Scalar.Form`). The two high bits of the tag may be set;
a truth value may be any byte; a text may be absent, and then is read as the empty text, or may be
no UTF-8, and then is read with replacement characters. The bytes of a scalar are written again as
they were read just if none of this is so. A type that is not known is read of the tag alone.

A text with replacement characters may be up to three times as long as what it was read of. If it
does not fit its length field any more, then what was read cannot be written at all; it takes more
than 700 million bytes that are no UTF-8 for that.

## What is proved

* `Parser.form_of_scalar` — the forms in which a scalar can be read.
* `Scalar.Form.encode_eq_iff` — in which of them it is written.
* `scalar_forms_exact` — scalars come back from their bytes, and which bytes come back from their
  scalar.
-/

namespace LogHistory

/-- A byte string with its length in front, or the mark that there is none. -/
def Write.byteString? : Option Bytes → Write.Result
  | none => .ok absent
  | some bs => byteString bs

theorem Write.byteString_eq_ok {bs out : Bytes} :
    byteString bs = .ok out ↔
      bs.length < lengthLimit ∧ out = LittleEndian.encode 4 bs.length ++ bs := by
  unfold byteString length
  split_ifs with h
  · simp [h, bind, Except.bind, pure, Except.pure, eq_comm]
  · simp [h, bind, Except.bind]

/-- A length that can be written is not the mark of what is absent. -/
theorem Write.encode_ne_absent {n : Nat} (h : n < lengthLimit) :
    LittleEndian.encode 4 n ≠ absent := by
  intro heq
  have hvalue := LittleEndian.decode_encode 4 n
  have habsent : LittleEndian.decode absent = 4294967295 := by decide
  have hpow : Nat.pow 256 4 = 4294967296 := by decide
  rw [heq, habsent, hpow] at hvalue
  unfold lengthLimit at h
  omega

/-! ### What has been read -/

namespace Parser

variable {here there : Place}

theorem unread_of_take {n : Nat} {bs : Bytes} (h : take n here = .ok (bs, there)) :
    bs.length = n ∧ here.unread = bs ++ there.unread := by
  obtain ⟨hle, rfl, rfl⟩ := take_eq_ok.mp h
  exact ⟨List.length_take_of_le hle, (List.take_append_drop n _).symm⟩

/-- A number fits its bytes, and these are its digits. -/
theorem unread_of_number {w n : Nat} (h : number w here = .ok (n, there)) :
    n < Nat.pow 256 w ∧ here.unread = LittleEndian.encode w n ++ there.unread := by
  obtain ⟨bs, htake, rfl⟩ := map_eq_ok.mp h
  obtain ⟨rfl, hunread⟩ := unread_of_take htake
  rw [LittleEndian.encode_decode]
  exact ⟨LittleEndian.decode_lt bs, hunread⟩

/-- A number in two's complement is that of its digits. -/
theorem unread_of_signed {w : Nat} {z : Int} (h : signed w here = .ok (z, there)) :
    ∃ n < Nat.pow 256 w, (n : Int).bmod (Nat.pow 256 w) = z ∧
      here.unread = LittleEndian.encode w n ++ there.unread := by
  obtain ⟨n, hn, hz⟩ := map_eq_ok.mp h
  obtain ⟨hlt, hunread⟩ := unread_of_number hn
  exact ⟨n, hlt, hz, hunread⟩

/-- What is read of a length: the mark of what is absent, or the digits of a number that can be
written. -/
theorem unread_of_length? {n? : Option Nat} (h : length? here = .ok (n?, there)) :
    (n? = none ∧ here.unread = Write.absent ++ there.unread) ∨
      ∃ n < Write.lengthLimit, n? = some n ∧
        here.unread = LittleEndian.encode 4 n ++ there.unread := by
  obtain ⟨z, hz, hn⟩ := length?_eq_ok.mp h
  obtain ⟨n, hlt, hmod, hunread⟩ := unread_of_signed hz
  have hpow : Nat.pow 256 4 = 4294967296 := by decide
  rw [hpow] at hlt hmod
  rw [Int.bmod_def] at hmod
  obtain ⟨rfl, rfl⟩ | ⟨hpos, rfl⟩ := hn
  · obtain rfl : n = 4294967295 := by omega
    exact .inl ⟨rfl, hunread⟩
  · obtain rfl : z = n := by omega
    refine .inr ⟨n, ?_, rfl, hunread⟩
    unfold Write.lengthLimit
    omega

/-- A byte string that may be absent has been read of its wire form. -/
theorem unread_of_byteString? {bs? : Option Bytes} (h : byteString? here = .ok (bs?, there)) :
    ∃ out, Write.byteString? bs? = .ok out ∧ here.unread = out ++ there.unread := by
  obtain ⟨n?, mid, hlength, h⟩ := bind_eq_ok.mp h
  obtain ⟨rfl, hunread⟩ | ⟨n, hlt, rfl, hunread⟩ := unread_of_length? hlength
  · cases h
    exact ⟨Write.absent, rfl, hunread⟩
  · obtain ⟨bs, htake, rfl⟩ := map_eq_ok.mp h
    obtain ⟨rfl, hmid⟩ := unread_of_take htake
    rw [hmid, ← List.append_assoc] at hunread
    exact ⟨_, Write.byteString_eq_ok.mpr ⟨hlt, rfl⟩, hunread⟩

end Parser

/-! ### Forms -/

namespace Scalar

/-- `Form tag body v`: the scalar is read of a tag and the bytes after it, in one of the forms. -/
inductive Form (tag : UInt8) : Bytes → Scalar → Prop where
  /-- The bytes after the tag are those that are written. -/
  | written {v : Scalar} {body : Bytes} : v.typeId.toNat = tag.toNat % 64 →
      v.payload = .ok body → Form tag body v
  /-- A truth value that is neither zero nor one. -/
  | truth {b : UInt8} : tag.toNat % 64 = 1 → b ≠ 0 → b ≠ 1 → Form tag [b] (.bool true)
  /-- A text that is absent. -/
  | absent : tag.toNat % 64 = 12 → Form tag Write.absent (.text "")
  /-- A text that is no UTF-8. -/
  | foreign {bs : Bytes} : tag.toNat % 64 = 12 → bs.length < Write.lengthLimit →
      ¬ Utf8.IsValid bs →
      Form tag (LittleEndian.encode 4 bs.length ++ bs) (.text (Utf8.decode bs))
  /-- A type that is not known. -/
  | unknown : 13 ≤ tag.toNat % 64 → Form tag [] (.unsupported (.ofNat (tag.toNat % 64)))

/-- The bytes of a scalar are as they are written: no flags beside the type, zero or one for a truth
value, and for a text one that is there and is UTF-8. -/
structure Plain (tag : UInt8) (body : Bytes) : Prop where
  /-- The two high bits of the tag are clear. -/
  flags : tag.toNat < 64
  /-- A truth value is zero or one. -/
  truth : tag.toNat % 64 = 1 → body = [0] ∨ body = [1]
  /-- A text is there and is UTF-8. -/
  text : tag.toNat % 64 = 12 → body.take 4 ≠ Write.absent ∧ Utf8.IsValid (body.drop 4)

/-- The text of the value fits its length field. -/
def Fits (v : Scalar) : Prop := ∀ s ∈ v.texts, (Utf8.encode s).length < Write.lengthLimit

variable {tag : UInt8} {body : Bytes} {v : Scalar} {n : Nat}

theorem encode_eq_ok {bs : Bytes} :
    v.encode = .ok bs ↔ ∃ body, v.payload = .ok body ∧ bs = v.typeId :: body := by
  rw [encode, Write.bind_eq_ok]
  simp [pure, Except.pure, eq_comm]

theorem typeId_lt (h : v.payload = .ok body) : v.typeId.toNat < 13 := by
  cases v with
  | unsupported k => cases h
  | _ => exact of_decide_eq_true rfl

/-! ### Numbers

A number is written in the digits it was read of, in two's complement too. -/

theorem encode_one (h : n < Nat.pow 256 1) : LittleEndian.encode 1 n = [UInt8.ofNat n] := by
  have hmod : n % 256 = n := Nat.mod_eq_of_lt h
  rw [LittleEndian.encode, LittleEndian.encode, hmod]

theorem uint16_ofNat (h : n < Nat.pow 256 2) :
    Write.uint16 (.ofNat n) = LittleEndian.encode 2 n := by
  rw [Write.uint16, UInt16.toNat_ofNat_of_lt' h]

theorem uint32_ofNat (h : n < Nat.pow 256 4) :
    Write.uint32 (.ofNat n) = LittleEndian.encode 4 n := by
  rw [Write.uint32, UInt32.toNat_ofNat_of_lt' h]

theorem uint64_ofNat (h : n < Nat.pow 256 8) :
    Write.uint64 (.ofNat n) = LittleEndian.encode 8 n := by
  rw [Write.uint64, UInt64.toNat_ofNat_of_lt' h]

theorem payload_sbyte (h : n < Nat.pow 256 1) :
    (sbyte (.ofInt ((n : Int).bmod (Nat.pow 256 1)))).payload = .ok (LittleEndian.encode 1 n) := by
  have hv : Int8.ofInt ((n : Int).bmod (Nat.pow 256 1)) = Int8.ofNat n := by
    rw [Int8.ofInt_eq_iff_bmod_eq_toInt, Int8.toInt_ofNat']
    exact Int.bmod_bmod
  rw [hv, payload, Int8.toUInt8_ofNat', encode_one h]

theorem payload_int16 (h : n < Nat.pow 256 2) :
    (int16 (.ofInt ((n : Int).bmod (Nat.pow 256 2)))).payload = .ok (LittleEndian.encode 2 n) := by
  have hv : Int16.ofInt ((n : Int).bmod (Nat.pow 256 2)) = Int16.ofNat n := by
    rw [Int16.ofInt_eq_iff_bmod_eq_toInt, Int16.toInt_ofNat']
    exact Int.bmod_bmod
  rw [hv, payload, Int16.toUInt16_ofNat', uint16_ofNat h]

theorem payload_int32 (h : n < Nat.pow 256 4) :
    (int32 (.ofInt ((n : Int).bmod (Nat.pow 256 4)))).payload = .ok (LittleEndian.encode 4 n) := by
  have hv : Int32.ofInt ((n : Int).bmod (Nat.pow 256 4)) = Int32.ofNat n := by
    rw [Int32.ofInt_eq_iff_bmod_eq_toInt, Int32.toInt_ofNat']
    exact Int.bmod_bmod
  rw [hv, payload, Int32.toUInt32_ofNat', uint32_ofNat h]

theorem payload_int64 (h : n < Nat.pow 256 8) :
    (int64 (.ofInt ((n : Int).bmod (Nat.pow 256 8)))).payload = .ok (LittleEndian.encode 8 n) := by
  have hv : Int64.ofInt ((n : Int).bmod (Nat.pow 256 8)) = Int64.ofNat n := by
    rw [Int64.ofInt_eq_iff_bmod_eq_toInt, Int64.toInt_ofNat']
    exact Int.bmod_bmod
  rw [hv, payload, Int64.toUInt64_ofNat', uint64_ofNat h]

end Scalar

namespace Parser

open Scalar

variable {here there : Place} {v : Scalar} {tag : UInt8} {w : Nat}

/-- What is read of a number is read in the form that is written. -/
theorem form_of_number {f : Nat → Scalar}
    (h : (number w >>= fun n => pure (f n)) here = .ok (v, there))
    (htag : ∀ n, (f n).typeId.toNat = tag.toNat % 64)
    (hf : ∀ n < Nat.pow 256 w, (f n).payload = .ok (LittleEndian.encode w n)) :
    ∃ body, here.unread = body ++ there.unread ∧ Form tag body v := by
  obtain ⟨n, mid, hn, h⟩ := bind_eq_ok.mp h
  cases h
  obtain ⟨hlt, hunread⟩ := unread_of_number hn
  exact ⟨_, hunread, .written (htag n) (hf n hlt)⟩

/-- So is what is read of a number in two's complement. -/
theorem form_of_signed {f : Int → Scalar}
    (h : (signed w >>= fun z => pure (f z)) here = .ok (v, there))
    (htag : ∀ z, (f z).typeId.toNat = tag.toNat % 64)
    (hf : ∀ n < Nat.pow 256 w,
      (f ((n : Int).bmod (Nat.pow 256 w))).payload = .ok (LittleEndian.encode w n)) :
    ∃ body, here.unread = body ++ there.unread ∧ Form tag body v := by
  obtain ⟨z, mid, hz, h⟩ := bind_eq_ok.mp h
  cases h
  obtain ⟨n, hlt, rfl, hunread⟩ := unread_of_signed hz
  exact ⟨_, hunread, .written (htag _) (hf n hlt)⟩

/-- A truth value is read of any byte. -/
theorem form_of_flag (htag : tag.toNat % 64 = 1)
    (h : (number 1 >>= fun n => pure (Scalar.bool (n ≠ 0))) here = .ok (v, there)) :
    ∃ body, here.unread = body ++ there.unread ∧ Form tag body v := by
  obtain ⟨n, mid, hn, h⟩ := bind_eq_ok.mp h
  cases h
  obtain ⟨hlt, hunread⟩ := unread_of_number hn
  obtain ⟨b, rfl⟩ : ∃ b : UInt8, b.toNat = n := ⟨.ofNat n, UInt8.toNat_ofNat_of_lt' hlt⟩
  rw [encode_one hlt, UInt8.ofNat_toNat] at hunread
  refine ⟨[b], hunread, ?_⟩
  by_cases hzero : b = 0
  · subst hzero
    exact .written htag.symm rfl
  · by_cases hone : b = 1
    · subst hone
      exact .written htag.symm rfl
    · have hne : b.toNat ≠ 0 := fun h => hzero (UInt8.toNat_inj.mp h)
      rw [decide_eq_true hne]
      exact .truth htag hzero hone

/-- What is read of a text is read in one of its forms. -/
theorem form_of_text {s : String} (htag : tag.toNat % 64 = 12) (h : text here = .ok (s, there)) :
    ∃ body, here.unread = body ++ there.unread ∧ Form tag body (.text s) := by
  obtain ⟨s?, htext, rfl⟩ := map_eq_ok.mp h
  obtain ⟨bs?, hbytes, rfl⟩ := map_eq_ok.mp htext
  obtain ⟨out, hout, hunread⟩ := unread_of_byteString? hbytes
  refine ⟨out, hunread, ?_⟩
  cases bs? with
  | none =>
    cases hout
    exact .absent htag
  | some bs =>
    obtain ⟨hlt, rfl⟩ := Write.byteString_eq_ok.mp hout
    by_cases hvalid : Utf8.IsValid bs
    · refine .written htag.symm (Write.byteString_eq_ok.mpr ?_)
      rw [Option.map_some, Option.getD_some, Utf8.encode_decode_iff.mpr hvalid]
      exact ⟨hlt, rfl⟩
    · exact .foreign htag hlt hvalid

/-- **What is read as a scalar is read in one of the forms.** -/
theorem form_of_scalar (h : scalar here = .ok (v, there)) :
    ∃ tag body, here.unread = tag :: (body ++ there.unread) ∧ v.Form tag body := by
  obtain ⟨t, mid, ht, h⟩ := bind_eq_ok.mp h
  obtain ⟨hlt, hunread⟩ := unread_of_number ht
  obtain ⟨tag, rfl⟩ : ∃ tag : UInt8, tag.toNat = t := ⟨.ofNat t, UInt8.toNat_ofNat_of_lt' hlt⟩
  rw [encode_one hlt, UInt8.ofNat_toNat] at hunread
  suffices hbody : ∃ body, mid.unread = body ++ there.unread ∧ v.Form tag body by
    obtain ⟨body, hmid, hform⟩ := hbody
    exact ⟨tag, body, by rw [hunread, hmid]; rfl, hform⟩
  generalize hk : tag.toNat % 64 = k at h
  match k with
  | 0 =>
    cases h
    exact ⟨[], rfl, .written hk.symm rfl⟩
  | 1 => exact form_of_flag hk h
  | 2 => exact form_of_signed h (fun _ => hk.symm) fun _ => payload_sbyte
  | 3 =>
    exact form_of_number h (fun _ => hk.symm) fun _ hn => congrArg Except.ok (encode_one hn).symm
  | 4 => exact form_of_signed h (fun _ => hk.symm) fun _ => payload_int16
  | 5 => exact form_of_number h (fun _ => hk.symm) fun _ hn => congrArg Except.ok (uint16_ofNat hn)
  | 6 => exact form_of_signed h (fun _ => hk.symm) fun _ => payload_int32
  | 7 => exact form_of_number h (fun _ => hk.symm) fun _ hn => congrArg Except.ok (uint32_ofNat hn)
  | 8 => exact form_of_signed h (fun _ => hk.symm) fun _ => payload_int64
  | 9 => exact form_of_number h (fun _ => hk.symm) fun _ hn => congrArg Except.ok (uint64_ofNat hn)
  | 10 => exact form_of_number h (fun _ => hk.symm) fun _ hn => congrArg Except.ok (uint32_ofNat hn)
  | 11 => exact form_of_number h (fun _ => hk.symm) fun _ hn => congrArg Except.ok (uint64_ofNat hn)
  | 12 =>
    obtain ⟨s, last, hs, h⟩ := bind_eq_ok.mp h
    cases h
    exact form_of_text hk hs
  | k + 13 =>
    cases h
    rw [← hk]
    exact ⟨[], rfl, .unknown (by omega)⟩

end Parser

/-! ### Which forms are written -/

namespace Scalar

variable {tag : UInt8} {body : Bytes} {v : Scalar}

theorem plain_of_payload (hflags : tag.toNat < 64) (htag : v.typeId.toNat = tag.toNat % 64)
    (hbody : v.payload = .ok body) : Plain tag body := by
  refine ⟨hflags, fun htruth => ?_, fun htext => ?_⟩
  · have htype : v.typeId.toNat = 1 := htag.trans htruth
    cases v with
    | bool b =>
      cases hbody
      cases b
      · exact .inl rfl
      · exact .inr rfl
    | unsupported k => cases hbody
    | _ => simp [typeId] at htype
  · have htype : v.typeId.toNat = 12 := htag.trans htext
    cases v with
    | text s =>
      obtain ⟨hlt, rfl⟩ := Write.byteString_eq_ok.mp hbody
      have hlength := LittleEndian.length_encode 4 (Utf8.encode s).length
      rw [List.take_left' hlength, List.drop_left' hlength]
      exact ⟨Write.encode_ne_absent hlt, Utf8.isValid_iff.mpr ⟨s, rfl⟩⟩
    | unsupported k => cases hbody
    | _ => simp [typeId] at htype

/-- **A scalar is written as it was read** just if its bytes are plain. -/
theorem Form.encode_eq_iff (h : v.Form tag body) (hknown : tag.toNat % 64 < 13) :
    v.encode = .ok (tag :: body) ↔ Plain tag body := by
  rw [encode_eq_ok]
  cases h with
  | written htag hbody =>
    have hlt := typeId_lt hbody
    constructor
    · rintro ⟨body', hbody', heq⟩
      cases hbody.symm.trans hbody'
      obtain ⟨rfl, -⟩ := List.cons.inj heq
      exact plain_of_payload (by omega) htag hbody
    · intro hplain
      have hflags := hplain.flags
      obtain rfl : tag = v.typeId := UInt8.toNat_inj.mp (by omega)
      exact ⟨body, hbody, rfl⟩
  | @truth b htag hzero hone =>
    constructor
    · rintro ⟨body', hbody', heq⟩
      cases hbody'
      exact absurd (List.cons.inj (List.cons.inj heq).2).1 hone
    · intro hplain
      rcases hplain.truth htag with heq | heq
      · exact absurd (List.cons.inj heq).1 hzero
      · exact absurd (List.cons.inj heq).1 hone
  | absent htag =>
    constructor
    · rintro ⟨body', hbody', heq⟩
      cases hbody'
      exact absurd (List.cons.inj heq).2 (by decide)
    · exact fun hplain => absurd rfl (hplain.text htag).1
  | @foreign bs htag hlt hvalid =>
    have hlength := LittleEndian.length_encode 4 bs.length
    constructor
    · rintro ⟨body', hbody', heq⟩
      obtain ⟨-, rfl⟩ := Write.byteString_eq_ok.mp hbody'
      have hcontent := (List.append_inj (List.cons.inj heq).2 (by simp)).2
      exact absurd (Utf8.encode_decode_iff.mp hcontent.symm) hvalid
    · intro hplain
      have hcontent := (hplain.text htag).2
      rw [List.drop_left' hlength] at hcontent
      exact absurd hcontent hvalid
  | unknown htag => omega

/-- A type is not known just if its number is thirteen or more. -/
theorem Form.eq_unsupported_iff (h : v.Form tag body) {k : UInt8} :
    v = .unsupported k ↔ 13 ≤ tag.toNat % 64 ∧ k.toNat = tag.toNat % 64 := by
  cases h with
  | written htag hbody =>
    have hlt := typeId_lt hbody
    refine ⟨?_, fun h => by omega⟩
    rintro rfl
    cases hbody
  | truth htag => exact ⟨nofun, fun h => by omega⟩
  | absent htag => exact ⟨nofun, fun h => by omega⟩
  | foreign htag => exact ⟨nofun, fun h => by omega⟩
  | unknown htag =>
    have hk : (UInt8.ofNat (tag.toNat % 64)).toNat = tag.toNat % 64 :=
      UInt8.toNat_ofNat_of_lt' (show _ < 256 by omega)
    rw [unsupported.injEq, ← UInt8.toNat_inj, hk, eq_comm]
    exact ⟨fun h => ⟨htag, h⟩, And.right⟩

theorem Form.known (h : v.Form tag body) (hknown : tag.toNat % 64 < 13) : v.Known := by
  intro k hk
  have hlarge := (h.eq_unsupported_iff.mp hk).1
  omega

/-- A text can grow to three times the bytes it was read of, and fits if they are few enough. -/
theorem Form.fits (h : v.Form tag body) (hsize : 3 * body.length < Write.lengthLimit) :
    v.Fits := by
  intro s hs
  cases h with
  | written htag hbody =>
    cases v with
    | text s' =>
      obtain rfl := List.mem_singleton.mp hs
      exact (Write.byteString_eq_ok.mp hbody).1
    | _ => exact absurd hs List.not_mem_nil
  | absent htag =>
    obtain rfl := List.mem_singleton.mp hs
    decide
  | @foreign bs htag hlt hvalid =>
    obtain rfl := List.mem_singleton.mp hs
    have hgrown := Utf8.length_encode_decode_le bs
    rw [List.length_append] at hsize
    omega
  | _ => exact absurd hs List.not_mem_nil

theorem Form.eq_nil (h : v.Form tag body) (hunknown : 13 ≤ tag.toNat % 64) : body = [] := by
  cases h with
  | written htag hbody =>
    have hlt := typeId_lt hbody
    omega
  | unknown => rfl
  | _ => omega

end Scalar

theorem Scalar.form_of_decode {data : Bytes} {v : Scalar} {n : Nat}
    (h : Scalar.decode data = .ok (v, n)) :
    ∃ tag body, data.take n = tag :: body ∧ n = body.length + 1 ∧ v.Form tag body := by
  obtain ⟨used, rest, rfl, rfl, haccepts⟩ :=
    Read.follows_scalar.exists_accepts Parser.laid_scalar h
  obtain ⟨tag, body, hused, hform⟩ := Parser.form_of_scalar (haccepts.whole [] 0)
  rw [List.append_nil, List.append_nil] at hused
  subst hused
  exact ⟨tag, body, List.take_left, rfl, hform⟩

open Scalar in
/-- **Scalars come back, and which bytes do.** A scalar of a known type whose text fits its length
field is written, and is decoded from its bytes, with all of them and whatever follows; only those
of unknown types are not written. From bytes that are decoded a value of an unknown type comes just
if the low six bits of the tag are thirteen or more; it is known by these and takes the tag alone.
Any other value is written again if its text fits, as it does where fewer bytes are read than a
third of what a length field can hold, for a text grows no more than that by replacement characters.
And what is written is what was read if and only if this is plain: the two high bits of the tag are
clear, a truth value is zero or one, and a text is there and is UTF-8. -/
theorem scalar_forms_exact :
    (∀ v : Scalar, v.Fits →
      (v.Known → ∃ bs, v.encode = .ok bs ∧ ∀ rest, decode (bs ++ rest) = .ok (v, bs.length)) ∧
      ((∃ e, v.encode = .error e) ↔ ∃ k, v = .unsupported k)) ∧
    ∀ (data : Bytes) (v : Scalar) (n : Nat), decode data = .ok (v, n) →
      ∃ tag body, data.take n = tag :: body ∧ n = body.length + 1 ∧
        (∀ k, v = .unsupported k ↔ 13 ≤ tag.toNat % 64 ∧ k.toNat = tag.toNat % 64) ∧
        (13 ≤ tag.toNat % 64 → n = 1) ∧
        (tag.toNat % 64 < 13 →
          (v.Fits → ∃ bs, v.encode = .ok bs) ∧ (3 * n < Write.lengthLimit → v.Fits) ∧
            (v.encode = .ok (data.take n) ↔ Plain tag body)) := by
  refine ⟨fun v hfits => ⟨fun hknown => ?_, ?_⟩, fun data v n h => ?_⟩
  · obtain ⟨bs, hbs⟩ := LogRecord.exists_encode_scalar hknown hfits
    exact ⟨bs, hbs, (Read.takes_scalar hbs).decodeWith⟩
  · rw [← not_known_iff]
    constructor
    · rintro ⟨e, he⟩ hknown
      obtain ⟨bs, hbs⟩ := LogRecord.exists_encode_scalar hknown hfits
      cases he.symm.trans hbs
    · intro hunknown
      obtain ⟨k, rfl⟩ := not_known_iff.mp hunknown
      exact ⟨_, rfl⟩
  · obtain ⟨tag, body, htake, hn, hform⟩ := form_of_decode h
    refine ⟨tag, body, htake, hn, fun k => hform.eq_unsupported_iff, fun hunknown => ?_,
      fun hknown => ⟨?_, fun hsize => hform.fits (by omega), ?_⟩⟩
    · rw [hn, hform.eq_nil hunknown]
      rfl
    · exact LogRecord.exists_encode_scalar (hform.known hknown)
    · rw [htake]
      exact hform.encode_eq_iff hknown

open Scalar in
/-- A signalling NaN comes back, with its bits. A text is read beside a flag, and is not written
with it; without the flag it is written as it was read. An unknown type takes its tag alone. -/
theorem scalar_forms_exact_flagged :
    (∃ bs, (double 0x7FF0000000000001).encode = .ok bs ∧
      decode (bs ++ [9]) = .ok (double 0x7FF0000000000001, bs.length)) ∧
    (decode [0x4C, 1, 0, 0, 0, 65, 9] = .ok (.text "A", 6) ∧
      (Scalar.text "A").encode ≠ .ok [0x4C, 1, 0, 0, 0, 65] ∧
      (Scalar.text "A").encode = .ok [0x0C, 1, 0, 0, 0, 65]) ∧
    ∃ n, decode [0x8D, 9] = .ok (.unsupported 13, n) ∧ n = 1 := by
  obtain ⟨hthere, hback⟩ := scalar_forms_exact
  obtain ⟨bs, hbs, hdecode⟩ := (hthere (double 0x7FF0000000000001) nofun).1 nofun
  have hflagged : decode [0x4C, 1, 0, 0, 0, 65, 9] = .ok (.text "A", 6) := rfl
  have hunknown : decode [0x8D, 9] = .ok (.unsupported 13, 1) := rfl
  refine ⟨⟨bs, hbs, hdecode [9]⟩, ⟨hflagged, fun hsame => ?_, rfl⟩, 1, hunknown, ?_⟩
  · obtain ⟨tag, body, htake, -, -, -, hknown⟩ := hback _ _ _ hflagged
    cases htake
    exact absurd ((hknown (by decide)).2.2.mp hsame).flags (by decide)
  · obtain ⟨tag, body, htake, -, -, hone, -⟩ := hback _ _ _ hunknown
    cases htake
    exact hone (by decide)

end LogHistory
