import LogHistory.Proofs.ScalarForms

/-!
# Locales make no difference

The message of a record is a mask, then a locale if the first bit of the mask is set, and then a
text if the second bit is set. A record is written with the second bit alone. Other programs may put
a locale in front of the text, or leave out both, and use the other bits of the mask. Nothing of
this has any effect on the other fields: those before the message stand where they did, and those
after it are read from where the message ends.

## What is proved

* `LogRecord.mask_mod_four` — the bits of a mask beside the first two do not count.
* `Read.takes_message_localized`, `Read.takes_message_empty` — a message with a locale in any form,
  and one without anything.
* `locale_transparent` — an encoded record with another message section in its place.
-/

namespace LogHistory

theorem Write.exists_byteString? {bs? : Option Bytes}
    (h : ∀ bs, bs? = some bs → bs.length < lengthLimit) : ∃ out, byteString? bs? = .ok out := by
  cases bs? with
  | none => exact ⟨_, rfl⟩
  | some bs => exact ⟨_, byteString_eq_ok.mpr ⟨h bs rfl, rfl⟩⟩

theorem LogRecord.mask_mod_four {flags : UInt8} (h : flags &&& 3 = 0) :
    flags.toNat % 4 = 0 ∧ (3 ||| flags).toNat % 4 = 3 := by
  have hclear : flags.toNat % 4 = 0 := by
    rw [← Nat.and_two_pow_sub_one_eq_mod flags.toNat 2]
    exact congrArg UInt8.toNat h
  have hset : (3 ||| flags.toNat) % 4 = 3 % 4 ||| flags.toNat % 4 := Nat.or_mod_two_pow (n := 2)
  rw [UInt8.toNat_or]
  exact ⟨hclear, by rw [hclear] at hset; exact hset⟩

namespace Read

theorem takes_byteString?_option {bs? : Option Bytes} {out : Bytes}
    (h : Write.byteString? bs? = .ok out) : Takes byteString? out bs? := by
  cases bs? with
  | none =>
    cases h
    exact takes_byteString?_absent
  | some bs => exact takes_byteString? h

variable {mask : UInt8}

/-- **A locale is read and dropped**, be it absent, empty, or no UTF-8. -/
theorem takes_message_localized (hmask : mask.toNat % 4 = 3) {locale : Option Bytes}
    {out text : Bytes} {s : String} (hlocale : Write.byteString? locale = .ok out)
    (htext : Write.text s = .ok text) : Takes message (mask :: (out ++ text)) s := by
  have hfirst : mask.toNat % 2 = 1 := by omega
  have hsecond : mask.toNat / 2 % 2 = 1 := by omega
  refine (takes_byte mask).bind ?_
  rw [if_pos hfirst, if_pos hsecond]
  exact ((takes_byteString?_option hlocale).map _).bind (takes_text htext)

theorem takes_message_empty (hmask : mask.toNat % 4 = 0) : Takes message [mask] "" := by
  have hfirst : ¬ mask.toNat % 2 = 1 := by omega
  have hsecond : ¬ mask.toNat / 2 % 2 = 1 := by omega
  refine (takes_byte mask).bind ?_
  rw [if_neg hfirst, if_neg hsecond]
  exact (Takes.pure none).bind (.pure "")

end Read

/-- **Locales make no difference.** The bytes of a record are those of the fields before its
message, the mask 2, the text with its length in front, and the fields after it. If the first bit of
the mask is set too, and any locale is put in front of the text, or one that is absent, then the
same record is decoded, with as many more bytes as were put in; and if neither bit is set and the
text is left out, the same record with an empty message. The other bits of the mask may be any, and
any bytes may follow. -/
theorem locale_transparent (r : LogRecord) (bs : Bytes) (h : r.encode = .ok bs) :
    ∃ front text back, r.encodeFront = .ok front ∧ Write.text r.message = .ok text ∧
      r.encodeBack = .ok back ∧ bs = front ++ LogRecord.textMask :: (text ++ back) ∧
      LogRecord.decode bs = .ok (r.normal, bs.length) ∧
      ∀ flags : UInt8, flags &&& 3 = 0 →
        (∀ locale : Option Bytes, (∀ l, locale = some l → l.length < Write.lengthLimit) →
          ∃ inserted, Write.byteString? locale = .ok inserted ∧ ∀ rest,
            LogRecord.decode (front ++ (3 ||| flags) :: (inserted ++ text ++ back) ++ rest) =
              .ok (r.normal, bs.length + inserted.length)) ∧
        ∀ rest, LogRecord.decode (front ++ flags :: back ++ rest) =
          .ok ({ r.normal with message := "" }, bs.length - text.length) := by
  have hdecode := (Read.takes_logRecord h).decodeWith []
  rw [List.append_nil] at hdecode
  obtain ⟨front, message, back, hfront, hmessage, hback, rfl⟩ := LogRecord.encode_eq_ok.mp h
  obtain ⟨text, htext, hmessage⟩ := Write.bind_eq_ok.mp hmessage
  cases hmessage
  refine ⟨front, text, back, hfront, htext, hback, rfl, hdecode, fun flags hflags => ?_⟩
  obtain ⟨hclear, hset⟩ := LogRecord.mask_mod_four hflags
  refine ⟨fun locale hlocale => ?_, fun rest => ?_⟩
  · obtain ⟨inserted, hinserted⟩ := Write.exists_byteString? hlocale
    refine ⟨inserted, hinserted, fun rest => ?_⟩
    have htakes := Read.takes_logRecord_around hfront
      (Read.takes_message_localized hset hinserted htext) hback
    have hlen : (front ++ ((3 ||| flags) :: (inserted ++ text) ++ back)).length =
        (front ++ (LogRecord.textMask :: text ++ back)).length + inserted.length := by
      simp only [List.length_append, List.length_cons]
      omega
    rw [← hlen]
    exact htakes.decodeWith rest
  · have htakes := Read.takes_logRecord_around hfront (Read.takes_message_empty hclear) hback
    have hlen : (front ++ ([flags] ++ back)).length =
        (front ++ (LogRecord.textMask :: text ++ back)).length - text.length := by
      simp only [List.length_append, List.length_cons, List.length_nil]
      omega
    rw [← hlen]
    exact htakes.decodeWith rest

/-- The record in a leap second, with a locale that is no UTF-8 and all other bits of the mask set,
and without its message. -/
theorem locale_transparent_leapRecord :
    ∃ bs front text back, LogRecord.leapRecord.encode = .ok bs ∧
      bs = front ++ 2 :: (text ++ back) ∧
      LogRecord.decode bs = .ok (LogRecord.leapRecord.normal, bs.length) ∧
      (∀ rest, LogRecord.decode (front ++ 0xFF :: ([1, 0, 0, 0, 0xC3] ++ text ++ back) ++ rest) =
        .ok (LogRecord.leapRecord.normal, bs.length + 5)) ∧
      ∀ rest, LogRecord.decode (front ++ 0x30 :: back ++ rest) =
        .ok ({ LogRecord.leapRecord.normal with message := "" }, bs.length - 6) := by
  obtain ⟨bs, h⟩ : ∃ bs, LogRecord.leapRecord.encode = .ok bs := ⟨_, rfl⟩
  obtain ⟨front, text, back, -, htext, -, hbs, hdecode, hflags⟩ :=
    locale_transparent LogRecord.leapRecord bs h
  obtain ⟨inserted, hinserted, hlocalized⟩ := (hflags 0xFC (by decide)).1 (some [0xC3])
    (fun l hl => by cases hl; decide)
  have hempty := (hflags 0x30 (by decide)).2
  cases hinserted
  cases htext
  exact ⟨bs, front, _, back, h, hbs, hdecode, hlocalized, hempty⟩

end LogHistory
