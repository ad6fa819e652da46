import LogHistory.Proofs.EntryCounts

/-!
# Faults are exact

A fault says where decoding stopped, and what it says can be relied on. An unexpected end names a
read that starts within the bytes and goes past their end, and how many bytes it wants; once these
are there the read succeeds, and what can still go wrong is what comes after it. The one exception
is the read of a length, which may then be found to be malformed, and is reported where it stands.
A malformed length is all there, so no more bytes can mend it.

A fault found in a part of a layout is the fault of the whole, and more bytes change nothing of what
was read before it (`Parser.Delimits.append`). So exactness passes from the two kinds of reads to
the layouts made of them, by induction on the layout.

## What is proved

* `Parser.exact_take`, `Parser.exact_length?` — the two kinds of reads.
* `Parser.Exact.bind` — parsers that are exact are so one after another.
* `Parser.Laid.exact` — every layout is exact.
* `faults_exact` — records, identifiers and scalars.
-/

namespace LogHistory

/-! ### Faults and places -/

namespace DecodeError

/-- Where the read or the length stands that could not be decoded. -/
def offset : DecodeError → Nat
  | unexpectedEnd offset _ => offset
  | invalidLength _ offset => offset

/-- The fault comes later than a read of `needed` bytes at `start` that found too few: it is no
earlier than the read, and if bytes are missing again, then from a read behind these. -/
structure Later (e : DecodeError) (start needed : Nat) : Prop where
  /-- It is no earlier. -/
  le_offset : start ≤ e.offset
  /-- The bytes that were missing are not missing again. -/
  le_of_end : ∀ offset n, e = .unexpectedEnd offset n → start + needed ≤ offset

/-- A fault behind the bytes that were missing comes later. -/
theorem later_of_le {e : DecodeError} {start needed : Nat} (h : start + needed ≤ e.offset) :
    e.Later start needed where
  le_offset := Nat.le_trans (Nat.le_add_right ..) h
  le_of_end := by
    rintro offset n rfl
    exact h

end DecodeError

namespace Place

/-- The same place, with more bytes to come. -/
def append (p : Place) (rest : Bytes) : Place := ⟨p.unread ++ rest, p.offset⟩

/-- The offset at which the bytes end. -/
def finish (p : Place) : Nat := p.offset + p.unread.length

theorem finish_append (p : Place) (rest : Bytes) :
    (p.append rest).finish = p.finish + rest.length := by
  simp only [finish, append, List.length_append, Nat.add_assoc]

/-- The four bytes at an offset. -/
def word (p : Place) (offset : Nat) : Bytes := (p.unread.drop (offset - p.offset)).take 4

end Place

namespace Parser

variable {α β : Type} {q : Parser α} {f : α → Parser β} {here there : Place} {e : DecodeError}

/-! ### More bytes -/

/-- More bytes change nothing of what is read without them. -/
theorem Delimits.append {a : α} (hq : Delimits q) (h : q here = .ok (a, there)) (rest : Bytes) :
    q (here.append rest) = .ok (a, there.append rest) := by
  obtain ⟨used, hunread, hoffset, haccepts⟩ := hq here there a h
  rw [Place.append, Place.append, hunread, hoffset, List.append_assoc]
  exact haccepts.whole (there.unread ++ rest) here.offset

/-- Reading does not move the end of the bytes. -/
theorem Delimits.finish_eq {a : α} (hq : Delimits q) (h : q here = .ok (a, there)) :
    there.finish = here.finish := by
  obtain ⟨used, hunread, hoffset, -⟩ := hq here there a h
  rw [Place.finish, Place.finish, hunread, hoffset, List.length_append, Nat.add_assoc]

/-- Reading does not change what stands behind it. -/
theorem Delimits.word_eq {a : α} (hq : Delimits q) (h : q here = .ok (a, there)) {offset : Nat}
    (hle : there.offset ≤ offset) : there.word offset = here.word offset := by
  obtain ⟨used, hunread, hoffset, -⟩ := hq here there a h
  have hdrop : offset - here.offset = used.length + (offset - there.offset) := by omega
  rw [Place.word, Place.word, hunread, hdrop, List.drop_length_add_append]

/-! ### Exact parsers -/

/-- The parser fails for want of `needed` bytes at `start`, and rightly so. -/
structure Ends (q : Parser α) (here : Place) (start needed : Nat) : Prop where
  /-- The read starts within the bytes. -/
  start_le : start ≤ here.finish
  /-- It goes past their end. -/
  finish_lt : here.finish < start + needed
  /-- With the missing bytes, a value takes them. -/
  value : ∀ rest, start + needed ≤ here.finish + rest.length →
    ∀ a there, q (here.append rest) = .ok (a, there) → start + needed ≤ there.offset
  /-- With the missing bytes, a fault comes later. -/
  fault : ∀ rest, start + needed ≤ here.finish + rest.length →
    ∀ e, q (here.append rest) = .error e → e.Later start needed

/-- The parser fails for the length `z` at `start`, and rightly so. -/
structure Malformed (q : Parser α) (here : Place) (z : Int) (start : Nat) : Prop where
  /-- It is no length, nor does it stand for an absent value. -/
  le : z ≤ -2
  /-- It is all there. -/
  le_finish : start + 4 ≤ here.finish
  /-- It is what the bytes say. -/
  word : ∃ w : Int32, w.toInt = z ∧ here.word start = Write.uint32 w.toUInt32
  /-- More bytes do not mend it. -/
  append : ∀ rest, q (here.append rest) = .error (.invalidLength z start)

/-- Whenever the parser fails, the fault says truly where and why. -/
structure Exact (q : Parser α) : Prop where
  /-- What comes before is not at fault. -/
  le_offset : ∀ {here : Place} {e : DecodeError}, q here = .error e → here.offset ≤ e.offset
  /-- What is missing is missing. -/
  ends : ∀ {here : Place} {start needed : Nat},
    q here = .error (.unexpectedEnd start needed) → Ends q here start needed
  /-- What is malformed is malformed. -/
  malformed : ∀ {here : Place} {z : Int} {start : Nat},
    q here = .error (.invalidLength z start) → Malformed q here z start

theorem Exact.pure (a : α) : Exact (Pure.pure a) where
  le_offset h := nomatch h
  ends h := nomatch h
  malformed h := nomatch h

/-! ### The two kinds of reads -/

theorem take_eq_error {n : Nat} :
    take n here = .error e ↔
      here.unread.length < n ∧ e = .unexpectedEnd here.offset n := by
  rw [← Nat.not_le]
  by_cases hle : n ≤ here.unread.length
  · rw [take_ok hle]
    simp [hle]
  · rw [take_error hle]
    simp [hle, eq_comm]

theorem exact_take (n : Nat) : Exact (take n) where
  le_offset h := by
    obtain ⟨-, rfl⟩ := take_eq_error.mp h
    exact Nat.le_refl _
  ends {here start needed} h := by
    obtain ⟨hlt, he⟩ := take_eq_error.mp h
    cases he
    refine ⟨Nat.le_add_right .., Nat.add_lt_add_left hlt _, fun rest _ a there hok =>
      atLeast_take n (here.append rest) there a hok, fun rest hrest e herror => ?_⟩
    -- With the missing bytes the read does not fail.
    rw [← Place.finish_append] at hrest
    exact absurd (take_eq_error.mp herror).1 (Nat.not_lt.mpr (Nat.le_of_add_le_add_left hrest))
  malformed h := nomatch (take_eq_error.mp h).2

theorem map_eq_error {g : α → β} : (g <$> q) here = .error e ↔ q here = .error e := by
  cases h : q here with
  | error fault => rw [map_error h]; simp
  | ok r => rw [map_ok h]; simp

theorem signed_eq_error {w : Nat} :
    signed w here = .error e ↔ here.unread.length < w ∧ e = .unexpectedEnd here.offset w :=
  map_eq_error.trans (map_eq_error.trans take_eq_error)

/-- A length fails for want of its four bytes, or because it is negative and not -1. -/
theorem length?_eq_error :
    length? here = .error e ↔
      (here.unread.length < 4 ∧ e = .unexpectedEnd here.offset 4) ∨
        ∃ z there, signed 4 here = .ok (z, there) ∧ z ≤ -2 ∧ e = .invalidLength z here.offset := by
  cases hz : signed 4 here with
  | error fault =>
    obtain ⟨hlt, rfl⟩ := signed_eq_error.mp hz
    rw [length?_error hz]
    simp [hlt, eq_comm]
  | ok r =>
    have hle : ¬ here.unread.length < 4 := fun hlt =>
      nomatch (signed_eq_error.mpr ⟨hlt, rfl⟩).symm.trans hz
    rw [length?_ok hz]
    constructor
    · intro h
      split_ifs at h with habsent hneg
      cases h
      exact .inr ⟨r.1, r.2, rfl, by omega, rfl⟩
    · rintro (⟨hlt, -⟩ | ⟨z, there, hr, hz', rfl⟩)
      · exact absurd hlt hle
      · cases hr
        rw [if_neg (by omega), if_pos (by omega)]

theorem exact_length? : Exact length? where
  le_offset h := by
    obtain ⟨-, rfl⟩ | ⟨z, there, -, -, rfl⟩ := length?_eq_error.mp h <;> exact Nat.le_refl _
  ends {here start needed} h := by
    obtain ⟨hlt, he⟩ | ⟨z, there, -, -, he⟩ := length?_eq_error.mp h
    · cases he
      refine ⟨Nat.le_add_right .., Nat.add_lt_add_left hlt _, fun rest _ a there hok =>
        atLeast_length? (here.append rest) there a hok, fun rest hrest e herror => ?_⟩
      rw [← Place.finish_append] at hrest
      obtain ⟨hlt', -⟩ | ⟨z, there, -, -, rfl⟩ := length?_eq_error.mp herror
      · exact absurd hlt' (Nat.not_lt.mpr (Nat.le_of_add_le_add_left hrest))
      · -- The length is there, and malformed: it stands where bytes were missing.
        exact ⟨Nat.le_refl _, fun _ _ h => nomatch h⟩
    · cases he
  malformed {here z start} h := by
    obtain ⟨-, he⟩ | ⟨z, there, hz, hle, he⟩ := length?_eq_error.mp h
    · cases he
    · cases he
      obtain ⟨w, hw, hword⟩ := signed_eq_ok hz
      refine ⟨hle, ?_, ⟨w, hw, ?_⟩, fun rest => ?_⟩
      · -- Its bytes are read, and what is read stands within the bytes.
        have hfour := atLeast_signed 4 here there z hz
        rw [← (laid_signed 4).delimits.finish_eq hz, Place.finish]
        omega
      · rw [Place.word, Nat.sub_self, List.drop_zero, hword]
      · exact length?_eq_error.mpr (.inr ⟨z, _, (laid_signed 4).delimits.append hz rest, hle, rfl⟩)

/-! ### Sequences -/

/-- **Parsers that are exact are so one after another.** -/
theorem Exact.bind (hq : Exact q) (hlaid : Laid q) (hf : ∀ a, Exact (f a))
    (hlaid' : ∀ a, Laid (f a)) : Exact (q >>= f) where
  le_offset {here e} h := by
    cases hfirst : q here with
    | error fault =>
      rw [bind_error hfirst] at h
      cases h
      exact hq.le_offset hfirst
    | ok r =>
      rw [bind_ok hfirst] at h
      exact Nat.le_trans (hlaid.atLeast here r.2 r.1 hfirst) ((hf r.1).le_offset h)
  ends {here start needed} h := by
    cases hfirst : q here with
    | error fault =>
      -- The first part wants the bytes. Once it has them, what follows comes behind them.
      rw [bind_error hfirst] at h
      cases h
      obtain ⟨hle, hlt, hvalue, hfault⟩ := hq.ends hfirst
      refine ⟨hle, hlt, fun rest hrest b there hok => ?_, fun rest hrest e herror => ?_⟩
      · obtain ⟨a, mid, hmid, hlast⟩ := bind_eq_ok.mp hok
        exact Nat.le_trans (hvalue rest hrest a mid hmid) ((hlaid' a).atLeast mid there b hlast)
      · cases hmid : q (here.append rest) with
        | error fault =>
          rw [bind_error hmid] at herror
          cases herror
          exact hfault rest hrest _ hmid
        | ok r =>
          rw [bind_ok hmid] at herror
          exact DecodeError.later_of_le
            (Nat.le_trans (hvalue rest hrest r.1 r.2 hmid) ((hf r.1).le_offset herror))
    | ok r =>
      -- The first part is read as before, and leaves the missing bytes to the second.
      rw [bind_ok hfirst] at h
      obtain ⟨hle, hlt, hvalue, hfault⟩ := (hf r.1).ends h
      rw [hlaid.delimits.finish_eq hfirst] at hle hlt hvalue hfault
      have hnext : ∀ rest, (q >>= f) (here.append rest) = f r.1 (r.2.append rest) := fun rest =>
        bind_ok (hlaid.delimits.append hfirst rest)
      exact ⟨hle, hlt, fun rest hrest => hnext rest ▸ hvalue rest hrest,
        fun rest hrest => hnext rest ▸ hfault rest hrest⟩
  malformed {here z start} h := by
    cases hfirst : q here with
    | error fault =>
      rw [bind_error hfirst] at h
      cases h
      obtain ⟨hle, hfinish, hword, hmore⟩ := hq.malformed hfirst
      exact ⟨hle, hfinish, hword, fun rest => bind_error (hmore rest)⟩
    | ok r =>
      rw [bind_ok hfirst] at h
      obtain ⟨hle, hfinish, hword, hmore⟩ := (hf r.1).malformed h
      rw [hlaid.delimits.finish_eq hfirst] at hfinish
      have hbehind : r.2.offset ≤ start := (hf r.1).le_offset h
      rw [hlaid.delimits.word_eq hfirst hbehind] at hword
      exact ⟨hle, hfinish, hword, fun rest =>
        (bind_ok (hlaid.delimits.append hfirst rest)).trans (hmore rest)⟩

/-- **Every layout is exact.** -/
theorem Laid.exact (hq : Laid q) : Exact q := by
  induction hq with
  | pure a => exact .pure a
  | take n hf ih => exact (exact_take n).bind (laid_take n) ih hf
  | length hf ih => exact exact_length?.bind laid_length? ih hf

theorem parse_eq_error {data : Bytes} : q.parse data = .error e ↔ q ⟨data, 0⟩ = .error e := by
  constructor
  · intro h
    cases hq : q ⟨data, 0⟩ with
    | error fault =>
      rw [parse_error hq] at h
      cases h
      rfl
    | ok r =>
      rw [parse_eq_ok.mpr ⟨r.2, hq, rfl⟩] at h
      cases h
  · exact parse_error

end Parser

/-! ### Decoding -/

/-- Whenever decoding the data fails, the fault says truly where and why. -/
structure ExactFaults {α : Type} (decode : Bytes → Except DecodeError (α × Nat)) (data : Bytes) :
    Prop where
  /-- A read that finds too few bytes starts within the data and goes past their end. -/
  missing : ∀ offset needed, decode data = .error (.unexpectedEnd offset needed) →
    offset ≤ data.length ∧ data.length < offset + needed
  /-- With the missing bytes, whatever they are, the data are decoded or fail later. -/
  progress : ∀ offset needed, decode data = .error (.unexpectedEnd offset needed) →
    ∀ rest, offset + needed ≤ (data ++ rest).length →
      (∃ a n, decode (data ++ rest) = .ok (a, n) ∧ offset + needed ≤ n) ∨
        ∃ e, decode (data ++ rest) = .error e ∧ e.Later offset needed
  /-- A malformed length is below -1, and the data have it, in four bytes at its offset. -/
  malformed : ∀ z offset, decode data = .error (.invalidLength z offset) →
    z ≤ -2 ∧ offset + 4 ≤ data.length ∧
      ∃ w : Int32, w.toInt = z ∧ (data.drop offset).take 4 = Write.uint32 w.toUInt32
  /-- Whatever follows a malformed length, it stays the fault. -/
  final : ∀ z offset, decode data = .error (.invalidLength z offset) →
    ∀ rest, decode (data ++ rest) = .error (.invalidLength z offset)

/-- What is decoded by a read that follows a layout fails exactly. -/
theorem Read.exactFaults_of_follows {α : Type} {p : Read α} {q : Parser α} (hp : p.Follows q id)
    (hq : q.Laid) (data : Bytes) : ExactFaults (decodeWith p) data where
  missing offset needed h := by
    rw [hp.decodeWith, Parser.parse_eq_error] at h
    obtain ⟨hle, hlt, -, -⟩ := hq.exact.ends h
    rw [Place.finish, Nat.zero_add] at hle hlt
    exact ⟨hle, hlt⟩
  progress offset needed h rest hrest := by
    rw [hp.decodeWith, Parser.parse_eq_error] at h
    obtain ⟨-, -, hvalue, hfault⟩ := hq.exact.ends h
    rw [List.length_append] at hrest
    rw [Place.finish, Nat.zero_add] at hvalue hfault
    rw [hp.decodeWith]
    cases hmore : q (Place.append ⟨data, 0⟩ rest) with
    | error e => exact .inr ⟨e, Parser.parse_error hmore, hfault rest hrest e hmore⟩
    | ok r =>
      exact .inl ⟨r.1, r.2.offset, Parser.parse_eq_ok.mpr ⟨r.2, hmore, rfl⟩,
        hvalue rest hrest r.1 r.2 hmore⟩
  malformed z offset h := by
    rw [hp.decodeWith, Parser.parse_eq_error] at h
    obtain ⟨hle, hfinish, hword, -⟩ := hq.exact.malformed h
    rw [Place.finish, Nat.zero_add] at hfinish
    exact ⟨hle, hfinish, hword⟩
  final z offset h rest := by
    rw [hp.decodeWith, Parser.parse_eq_error] at h
    rw [hp.decodeWith]
    exact Parser.parse_error ((hq.exact.malformed h).append rest)

/-- **Faults are exact.** Where a record, an identifier or a scalar is not decoded, an unexpected
end is that of a read that starts within the data and goes past their end, and a malformed length is
what its four bytes in the data say, below -1. No more data mend a malformed length. After an
unexpected end, data with the missing bytes always get on: either a value is decoded, and takes
these bytes, or the fault is no earlier, and behind these bytes if some are missing again. -/
theorem faults_exact (data : Bytes) :
    ExactFaults LogRecord.decode data ∧ ExactFaults NodeId.decode data ∧
      ExactFaults Scalar.decode data :=
  ⟨Read.exactFaults_of_follows Read.follows_logRecord Parser.laid_logRecord data,
    Read.exactFaults_of_follows Read.follows_nodeId Parser.laid_nodeId data,
    Read.exactFaults_of_follows Read.follows_scalar Parser.laid_scalar data⟩

/-- A record that is cut in its trace, and a text that is cut in its length, which is then found to
be -7. -/
theorem faults_exact_cut :
    LogRecord.decode (foreignBytes.take 60) = .error (.unexpectedEnd 56 8) ∧
      (∀ rest, 4 ≤ rest.length → ∀ e,
        LogRecord.decode (foreignBytes.take 60 ++ rest) = .error e → e.Later 56 8) ∧
      (DecodeError.invalidLength (-7) 1).Later 1 4 ∧
      ∀ rest, Scalar.decode ([12, 0xF9, 0xFF, 0xFF, 0xFF] ++ rest) =
        .error (.invalidLength (-7) 1) := by
  have hcut : LogRecord.decode (foreignBytes.take 60) = .error (.unexpectedEnd 56 8) := by
    decide +kernel
  have hsize : (foreignBytes.take 60).length = 60 := rfl
  refine ⟨hcut, fun rest hrest e herror => ?_, ?_,
    fun rest => (faults_exact _).2.2.final (-7) 1 rfl rest⟩
  · have hlen : 56 + 8 ≤ (foreignBytes.take 60 ++ rest).length := by
      rw [List.length_append, hsize]
      omega
    obtain ⟨a, n, hok, -⟩ | ⟨e', herror', hlater⟩ :=
      (faults_exact _).1.progress 56 8 hcut rest hlen
    · cases herror.symm.trans hok
    · cases herror.symm.trans herror'
      exact hlater
  · obtain ⟨a, n, hok, -⟩ | ⟨e, herror, hlater⟩ :=
      (faults_exact [12, 0xF9]).2.2.progress 1 4 rfl [0xFF, 0xFF, 0xFF] (by decide)
    · cases hok
    · cases herror
      exact hlater

end LogHistory
