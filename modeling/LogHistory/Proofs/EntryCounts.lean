import LogHistory.Proofs.AttributeSections
import LogHistory.Proofs.FixedPoints

/-!
# A declared count is paid for

The count in front of the attributes can be any number, whatever follows it. It is not believed:
every entry takes at least five bytes, four for the length of its name and one for the type of its
value, and the first that finds too few is the last that is tried. So the rounds of the loop over
the entries are bounded by the bytes after the count, and a record that is decoded has had five
bytes for every entry that was declared. Its heading and the count have had another 57, and with
them every record that is decoded from a stream leaves less of it.

The loop is counted by a second reading of the record that also counts its rounds
(`Read.countedRecord`). It reads the same record in the same way (`Read.fst_countedRecord`).

## What is proved

* `Parser.AtLeast` — how many bytes a parser takes at least, summed up along sequences.
* `Parser.atLeast_heading`, `Parser.atLeast_entries` — the bytes of a heading and of entries.
* `Read.rounds_countedEntries_le` — the rounds of the loop, by induction on the count.
* `LogRecord.decodeUpTo_eq`, `LogRecord.length_decodeUpTo_le` — reading a stream always gets on.
* `declared_count_bounded` — what a declared count can bring about.
-/

namespace LogHistory

/-! ### The least bytes of a layout -/

namespace Parser

variable {α β : Type} {q : Parser α}

/-- Whenever the parser yields a value, it takes at least `n` bytes. -/
def AtLeast (n : Nat) (q : Parser α) : Prop :=
  ∀ (here there : Place) (a : α), q here = .ok (a, there) → here.offset + n ≤ there.offset

theorem AtLeast.bind {m n : Nat} {f : α → Parser β} (hq : AtLeast m q) (hf : ∀ a, AtLeast n (f a)) :
    AtLeast (m + n) (q >>= f) := by
  intro here there b h
  obtain ⟨a, mid, hfirst, hnext⟩ := bind_eq_ok.mp h
  have hm := hq here mid a hfirst
  have hn := hf a mid there b hnext
  omega

theorem AtLeast.mono {m n : Nat} (h : m ≤ n) (hq : AtLeast n q) : AtLeast m q := by
  intro here there a hok
  have := hq here there a hok
  omega

/-- A layout never goes back. -/
theorem Laid.atLeast (hq : Laid q) : AtLeast 0 q := by
  intro here there a h
  obtain ⟨used, -, hoffset, -⟩ := hq.delimits here there a h
  omega

theorem AtLeast.map {n : Nat} (hq : AtLeast n q) (f : α → β) : AtLeast n (f <$> q) := by
  rw [map_eq_pure_bind]
  exact hq.bind fun a => (Laid.pure (f a)).atLeast

theorem atLeast_take (n : Nat) : AtLeast n (take n) := by
  intro here there bs h
  obtain ⟨-, -, rfl⟩ := take_eq_ok.mp h
  exact Nat.le_refl _

theorem atLeast_number (w : Nat) : AtLeast w (number w) := (atLeast_take w).map _

theorem atLeast_signed (w : Nat) : AtLeast w (signed w) := (atLeast_number w).map _

theorem atLeast_length? : AtLeast 4 length? := by
  intro here there n h
  obtain ⟨z, hz, -⟩ := length?_eq_ok.mp h
  exact atLeast_signed 4 here there z hz

/-- A layout takes what its first part takes: it yields the same value from the bytes it takes
alone, and from them the first part has had its own. -/
theorem AtLeast.of_bind {n : Nat} {f : α → Parser β} (hn : AtLeast n q) (hq : Laid q)
    (hbind : Laid (q >>= f)) : AtLeast n (q >>= f) := by
  intro here there b h
  obtain ⟨used, -, hoffset, haccepts⟩ := hbind.delimits here there b h
  obtain ⟨a, mid, hfirst, -⟩ := bind_eq_ok.mp (haccepts.whole [] here.offset)
  obtain ⟨used', hused, hmid, -⟩ := hq.delimits _ mid a hfirst
  have hleast := hn _ mid a hfirst
  have hlen := congrArg List.length hused
  simp only [List.append_nil, List.length_append] at hlen hmid hleast
  omega

theorem atLeast_text? : AtLeast 4 text? :=
  AtLeast.map (atLeast_length?.of_bind laid_length? laid_byteString?) _

theorem atLeast_nodeId? : AtLeast 1 nodeId? :=
  AtLeast.of_bind ((atLeast_number 1).of_bind (laid_number 1) laid_nodeId) laid_nodeId laid_nodeId?

theorem atLeast_scalar : AtLeast 1 scalar := (atLeast_number 1).of_bind (laid_number 1) laid_scalar

theorem atLeast_message : AtLeast 1 message :=
  (atLeast_number 1).of_bind (laid_number 1) laid_message

theorem atLeast_fixed (n : Nat) : AtLeast n (fixed n) := by
  rw [fixed_eq_map]
  exact (atLeast_take n).map _

theorem atLeast_pure (a : α) : AtLeast 0 (Pure.pure a) := (Laid.pure a).atLeast

theorem atLeast_traceId : AtLeast 16 traceId :=
  (atLeast_fixed 4).bind fun _ => (atLeast_fixed 2).bind fun _ => (atLeast_fixed 2).bind fun _ =>
    (atLeast_fixed 8).bind fun _ => atLeast_pure _

theorem atLeast_traceContext? : AtLeast 36 traceContext? :=
  atLeast_traceId.bind fun _ => (atLeast_number 8).bind fun _ => (atLeast_number 8).bind fun _ =>
    atLeast_text?.bind fun _ => atLeast_pure _

/-- **A heading takes 53 bytes at least**, identifiers that are not represented taking one. -/
theorem atLeast_heading : AtLeast 53 heading :=
  (atLeast_signed 8).bind fun _ => (atLeast_number 2).bind fun _ => atLeast_nodeId?.bind fun _ =>
    atLeast_nodeId?.bind fun _ => atLeast_text?.bind fun _ => atLeast_message.bind fun _ =>
    atLeast_traceContext?.bind fun _ => atLeast_pure _

/-- A name, which may be absent, and a value. -/
def entry : Parser (Option String × Scalar) := do
  let key ← text?
  let value ← scalar
  return (key, value)

theorem laid_entry : Laid entry := laid_text?.bind fun _ => laid_scalar.bind fun _ => .pure _

/-- **An entry takes five bytes at least**, whatever its value. -/
theorem atLeast_entry : AtLeast 5 entry :=
  atLeast_text?.bind fun _ => atLeast_scalar.bind fun _ => atLeast_pure _

theorem entries_succ (n : Nat) :
    entries (n + 1) = entry >>= fun e => entries n >>= fun es => pure (e :: es) := by
  simp only [entries, entry, bind_assoc, pure_bind]

/-- **So many entries take five bytes each.** -/
theorem atLeast_entries (n : Nat) : AtLeast (5 * n) (entries n) := by
  induction n with
  | zero => exact atLeast_pure []
  | succ n ih =>
    rw [entries_succ]
    exact (atLeast_entry.bind fun e => ih.bind fun es => atLeast_pure (e :: es)).mono (by omega)

theorem length_of_entries {n : Nat} : ∀ {here there : Place} {es : List (Option String × Scalar)},
    entries n here = .ok (es, there) → es.length = n := by
  induction n with
  | zero =>
    intro here there es h
    cases h
    rfl
  | succ n ih =>
    intro here there es h
    rw [entries_succ] at h
    obtain ⟨e, mid, -, h⟩ := bind_eq_ok.mp h
    obtain ⟨later, last, hlater, h⟩ := bind_eq_ok.mp h
    cases h
    rw [List.length_cons, ih hlater]

end Parser

/-! ### The rounds of the loop -/

namespace Read

/-- A name, which may be absent, and a value. -/
def entry : Read (Option String × Scalar) := do
  let key ← text?
  let value ← scalar
  return (key, value)

theorem follows_entry : Follows entry Parser.entry id :=
  follows_text?.bind fun _ => follows_scalar.bind fun _ => .pure rfl

/-- The loop over the entries, with the count of its rounds. -/
def countedEntries : Nat → Read (List (Option String × Scalar) × Nat)
  | 0 => return ([], 0)
  | n + 1 => do
    let e ← entry
    if ← faulted then return ([], 1)
    else
      let later ← countedEntries n
      return (e :: later.1, later.2 + 1)

/-- A record, with the count of the rounds of the loop over its entries. -/
def countedRecord : Read (LogRecord × Nat) := do
  let r ← heading
  let count ← int32
  let counted ← countedEntries count.toInt.toNat
  return ({ r with attributes := .ofNamed counted.1 }, counted.2)

theorem fst_countedEntries (n : Nat) : Prod.fst <$> countedEntries n = entries n := by
  induction n with
  | zero => rfl
  | succ n ih =>
    rw [countedEntries, entries, ← ih]
    simp only [entry, map_bind, bind_map_left, bind_assoc, pure_bind]
    refine bind_congr fun key => bind_congr fun value => bind_congr fun fault => ?_
    cases fault with
    | true => rfl
    | false => simp only [Bool.false_eq_true, if_false, map_bind, map_pure]

/-- **Counting does not change what is read.** -/
theorem fst_countedRecord : Prod.fst <$> countedRecord = logRecord := by
  rw [logRecord_eq]
  simp only [countedRecord, attributes, ← fst_countedEntries, map_bind, map_pure, bind_assoc,
    pure_bind, bind_map_left]

variable {unread unread' : Bytes} {offset offset' : Nat} {e : Option String × Scalar}

/-- An entry that is read leaves five bytes less. -/
theorem length_after_entry
    (h : entry ⟨unread, offset, none⟩ = (e, ⟨unread', offset', none⟩)) :
    unread'.length + 5 ≤ unread.length := by
  have hparse : Parser.entry ⟨unread, offset⟩ = .ok (e, ⟨unread', offset'⟩) := by
    rw [← follows_entry.stopped_eq, id_map]
    exact stopped_ok h
  obtain ⟨used, hunread, hoffset, -⟩ := Parser.laid_entry.delimits _ _ e hparse
  have hleast := Parser.atLeast_entry _ _ e hparse
  simp only at hunread hoffset hleast
  rw [hunread, List.length_append]
  omega

/-- **The rounds of the loop** are no more than the entries that were declared, and than the entries
of five bytes that there are bytes for and the one that finds too few. -/
theorem rounds_countedEntries_le (n : Nat) : ∀ (unread : Bytes) (offset : Nat),
    (countedEntries n ⟨unread, offset, none⟩).1.2 ≤ n ∧
      (countedEntries n ⟨unread, offset, none⟩).1.2 ≤ unread.length / 5 + 1 := by
  induction n with
  | zero => exact fun _ _ => ⟨Nat.le_refl 0, Nat.zero_le _⟩
  | succ n ih =>
    intro unread offset
    rcases hentry : entry ⟨unread, offset, none⟩ with ⟨e, unread', offset', _ | fault⟩
    · have hrounds : (countedEntries (n + 1) ⟨unread, offset, none⟩).1.2 =
          (countedEntries n ⟨unread', offset', none⟩).1.2 + 1 := by
        simp only [countedEntries, bind_apply, hentry, faulted_apply]
        rfl
      have hlen := length_after_entry hentry
      obtain ⟨hn, hfive⟩ := ih unread' offset'
      rw [hrounds]
      omega
    · have hrounds : (countedEntries (n + 1) ⟨unread, offset, none⟩).1.2 = 1 := by
        simp only [countedEntries, bind_apply, hentry, faulted_apply]
        rfl
      rw [hrounds]
      omega

end Read

/-- A reader at fault, or without the bytes, reads zero. -/
theorem Read.int32_eq_zero {r : Reader} (h : r.fault.isSome ∨ r.unread.length < 4) :
    (int32 r).1 = 0 := by
  obtain ⟨unread, offset, _ | e⟩ := r
  · have hshort : ¬ 4 ≤ unread.length := Nat.not_le.mpr (h.resolve_left (by simp))
    simp only [int32, uint32, number, bind_apply, pure_apply, take, hshort, if_false]
    rfl
  · rfl

namespace LogRecord

/-- The rounds of the loop over the entries when a record is decoded. -/
def rounds (data : Bytes) : Nat := (Read.countedRecord (Reader.start data)).1.2

/-- The data begin with a heading of `p` bytes and, after it, the count `c`. -/
structure Declares (data : Bytes) (c : Int32) (p : Nat) : Prop where
  /-- The heading is decoded from the first `p` bytes. -/
  heading : ∃ r, decodeWith Read.heading data = .ok (r, p)
  /-- The next four bytes are the count. -/
  count : (data.drop p).take 4 = Write.uint32 c.toUInt32

variable {data : Bytes} {c : Int32} {p : Nat}

/-- Data declare one count at most. -/
theorem Declares.unique {c' : Int32} {p' : Nat} (h : Declares data c p)
    (h' : Declares data c' p') : c = c' ∧ p = p' := by
  obtain ⟨⟨r, hheading⟩, hcount⟩ := h
  obtain ⟨⟨r', hheading'⟩, hcount'⟩ := h'
  cases hheading.symm.trans hheading'
  have hread := Read.takes_int32 c [] 0
  rw [← hcount, hcount', Read.takes_int32 c' [] 0] at hread
  exact ⟨(congrArg Prod.fst hread).symm, rfl⟩

/-- The loop starts after the count, with as many rounds to go as the count says. -/
theorem Declares.rounds_eq (h : Declares data c p) :
    rounds data = (Read.countedEntries c.toInt.toNat ⟨data.drop (p + 4), p + 4, none⟩).1.2 := by
  obtain ⟨⟨r, hheading⟩, hcount⟩ := h
  obtain ⟨hp, htakes⟩ := Read.follows_heading.takes_take Parser.laid_heading hheading
  have hfront : Read.heading (Reader.start data) = (r, ⟨data.drop p, p, none⟩) := by
    have hread := htakes (data.drop p) 0
    rwa [List.take_append_drop, Nat.zero_add, List.length_take_of_le hp] at hread
  have hword : Read.int32 ⟨data.drop p, p, none⟩ = (c, ⟨data.drop (p + 4), p + 4, none⟩) := by
    have hread := Read.takes_int32 c ((data.drop p).drop 4) p
    rwa [← hcount, List.take_append_drop, hcount, Write.uint32, LittleEndian.length_encode,
      List.drop_drop] at hread
  simp only [rounds, Read.countedRecord, Read.bind_apply, Read.pure_apply, hfront, hword]

/-- Without a count there are no rounds, for zero is read in its place. -/
theorem rounds_eq_zero (h : ∀ c p, ¬ Declares data c p) : rounds data = 0 := by
  have hzero : (Read.int32 (Read.heading (Reader.start data)).2).1 = 0 := by
    rcases hheading : Read.heading (Reader.start data) with ⟨r, unread, offset, _ | fault⟩
    · refine Read.int32_eq_zero (.inr (Nat.lt_of_not_le fun hle => ?_))
      have hdecode : decodeWith Read.heading data = .ok (r, offset) := by
        rw [decodeWith, hheading]
      have hread := (Read.follows_heading.takes_take Parser.laid_heading hdecode).2
        (data.drop offset) 0
      rw [List.take_append_drop] at hread
      obtain rfl : data.drop offset = unread :=
        congrArg (fun s : LogRecord × Reader => s.2.unread) (hread.symm.trans hheading)
      have hcount : ∃ z mid, Parser.signed 4 ⟨data.drop offset, offset⟩ = .ok (z, mid) :=
        ⟨_, _, Parser.map_ok (Parser.map_ok (Parser.take_ok hle))⟩
      obtain ⟨z, mid, hcount⟩ := hcount
      obtain ⟨w, -, hword⟩ := Parser.signed_eq_ok hcount
      exact h w offset ⟨⟨r, hdecode⟩, hword⟩
    · exact Read.int32_eq_zero (.inl rfl)
  simp only [rounds, Read.countedRecord, Read.bind_apply, Read.pure_apply, hzero]
  rfl

/-- **A record that is decoded has had its bytes**: 57 for its heading and the count, and five for
each entry that was declared. -/
theorem exists_declares {r : LogRecord} {n : Nat} (h : decode data = .ok (r, n)) :
    n ≤ data.length ∧ ∃ c p, Declares data c p ∧ 57 + 5 * c.toInt.toNat ≤ n ∧
      r.attributes.size ≤ c.toInt.toNat := by
  have hle := (Read.delimited_of_follows Read.follows_logRecord Parser.laid_logRecord h).le
  rw [decode, Read.follows_logRecord.decodeWith, Parser.logRecord_eq] at h
  obtain ⟨there, hparse, rfl⟩ := Parser.parse_eq_ok.mp h
  obtain ⟨front, mid, hheading, hparse⟩ := Parser.bind_eq_ok.mp hparse
  obtain ⟨a, last, hattributes, hparse⟩ := Parser.bind_eq_ok.mp hparse
  cases hparse
  obtain ⟨z, here, hcount, hattributes⟩ := Parser.bind_eq_ok.mp hattributes
  obtain ⟨es, _, hentries, hattributes⟩ := Parser.bind_eq_ok.mp hattributes
  cases hattributes
  obtain ⟨used, hused, hoffset, -⟩ := Parser.laid_heading.delimits _ mid front hheading
  obtain ⟨w, rfl, hword⟩ := Parser.signed_eq_ok hcount
  have hdrop : data.drop mid.offset = mid.unread := by
    simp only [Nat.zero_add] at hused hoffset
    rw [hused, hoffset, List.drop_left]
  have h53 := Parser.atLeast_heading _ mid front hheading
  have h4 := Parser.atLeast_signed 4 mid here _ hcount
  have h5 := Parser.atLeast_entries _ here _ es hentries
  refine ⟨hle, w, mid.offset, ⟨⟨front, ?_⟩, hdrop ▸ hword⟩, by omega, ?_⟩
  · rw [Read.follows_heading.decodeWith]
    exact Parser.parse_eq_ok.mpr ⟨mid, hheading, rfl⟩
  · exact Nat.le_trans (Attributes.size_ofNamed_le es)
      (Nat.le_of_eq (Parser.length_of_entries hentries))

end LogRecord

/-! ### Streams -/

section

variable {α : Type} {read : Bytes → Except DecodeError (α × Nat)} {w : Nat}

/-- If whatever is read takes some bytes, then more turns than there are bytes do nothing more. -/
theorem decodeUpTo_eq (hread : ∀ data a n, read data = .ok (a, n) → 0 < n) (k : Nat) :
    ∀ (m : Nat) (data : Bytes), data.length ≤ k → data.length ≤ m →
      decodeUpTo read k data = decodeUpTo read m data := by
  induction k with
  | zero =>
    intro m data hk _
    obtain rfl := List.eq_nil_of_length_eq_zero (Nat.le_zero.mp hk)
    cases m <;> rfl
  | succ k ih =>
    intro m data hk hm
    cases data with
    | nil => cases m <;> rfl
    | cons b bs =>
      cases m with
      | zero => cases hm
      | succ m =>
        rw [decodeUpTo, decodeUpTo]
        cases hdecode : read (b :: bs) with
        | error e => rfl
        | ok r =>
          have hn := hread _ r.1 r.2 hdecode
          have hlen : ((b :: bs).drop r.2).length = bs.length + 1 - r.2 := List.length_drop
          rw [List.length_cons] at hk hm
          exact congrArg _ (ih m _ (by omega) (by omega))

/-- If whatever is read takes at least `w` bytes, then each result but the last has had as many. -/
theorem length_decodeUpTo_le
    (hread : ∀ data a n, read data = .ok (a, n) → w ≤ n ∧ n ≤ data.length) (k : Nat) :
    ∀ data : Bytes, w * (decodeUpTo read k data).length ≤ data.length + w := by
  induction k with
  | zero => exact fun data => Nat.zero_le _
  | succ k ih =>
    intro data
    cases data with
    | nil => exact Nat.zero_le _
    | cons b bs =>
      rw [decodeUpTo]
      cases hdecode : read (b :: bs) with
      | error e => simp
      | ok r =>
        obtain ⟨hw, hle⟩ := hread _ r.1 r.2 hdecode
        have hrest := ih ((b :: bs).drop r.2)
        rw [List.length_drop] at hrest
        simp only [List.length_cons, Nat.mul_add, Nat.mul_one] at hle hrest ⊢
        omega

end

open LogRecord in
/-- **A declared count is paid for.** Counting the rounds of the loop over the entries changes
nothing of what is read. After a heading and a count there are at most as many rounds as the count
says, and at most one more than entries of five bytes fit into the bytes after the count; without a
count there are none. A record that is decoded has taken 57 bytes at least and has had a count; if
this is positive, five more bytes have been taken for each entry, and there are no more attributes
than were declared. So the results of
decoding a stream are at most one more than records of 57 bytes fit into it, and its end, or a
record that cannot be decoded, is always come to. -/
theorem declared_count_bounded (data : Bytes) :
    Prod.fst <$> Read.countedRecord = Read.logRecord ∧
      (∀ c p, Declares data c p → rounds data ≤ c.toInt.toNat ∧
        rounds data ≤ (data.length - (p + 4)) / 5 + 1) ∧
      ((∀ c p, ¬ Declares data c p) → rounds data = 0) ∧
      (∀ r n, decode data = .ok (r, n) → 57 ≤ n ∧ n ≤ data.length ∧ (∃ c p, Declares data c p) ∧
        ∀ c p, Declares data c p → 0 < c.toInt →
          57 + 5 * c.toInt ≤ n ∧ (r.attributes.size : Int) ≤ c.toInt) ∧
      (decodeAll data).length ≤ data.length / 57 + 1 ∧
      ∀ k, data.length ≤ k → decodeUpTo decode k data = decodeAll data := by
  have htakes : ∀ data r n, decode data = .ok (r, n) → 57 ≤ n ∧ n ≤ data.length := by
    intro data r n h
    obtain ⟨hle, c, p, -, hn, -⟩ := exists_declares h
    omega
  refine ⟨Read.fst_countedRecord, fun c p h => ?_, rounds_eq_zero, fun r n h => ?_, ?_,
    fun k hk => ?_⟩
  · rw [h.rounds_eq, ← List.length_drop]
    exact Read.rounds_countedEntries_le _ _ _
  · obtain ⟨hle, c, p, hdeclares, hn, hsize⟩ := exists_declares h
    refine ⟨by omega, hle, ⟨c, p, hdeclares⟩, fun c' p' hdeclares' hpos => ?_⟩
    obtain ⟨rfl, rfl⟩ := hdeclares.unique hdeclares'
    omega
  · have hlen := length_decodeUpTo_le htakes data.length data
    unfold decodeAll
    omega
  · exact decodeUpTo_eq (fun data r n h => Nat.lt_of_lt_of_le (by decide) (htakes data r n h).1) k _
      data hk (Nat.le_refl _)

/-- Bytes that declare as many entries as there can be and have twelve bytes for them. -/
def boastfulBytes : Bytes :=
  shortestHeading ++ [0xFF, 0xFF, 0xFF, 0x7F] ++ List.replicate 12 0

/-- Bytes that declare one entry and have the shortest there is, without a name or a value. -/
def modestBytes : Bytes := shortestHeading ++ [1, 0, 0, 0] ++ List.replicate 5 0

/-- Two entries and one that finds too few bytes; the shortest record of all; and the shortest with
an entry, which takes five bytes more. -/
theorem declared_count_bounded_boastfulBytes :
    LogRecord.Declares boastfulBytes (.ofNat 2147483647) 53 ∧ LogRecord.rounds boastfulBytes ≤ 3 ∧
      LogRecord.decode (shortestHeading ++ List.replicate 4 0) = .ok (shortestRecord, 57) ∧
      (∃ c p, LogRecord.Declares (shortestHeading ++ List.replicate 4 0) c p) ∧
      ∃ r, LogRecord.decode modestBytes = .ok (r, 62) ∧ LogRecord.Declares modestBytes 1 53 ∧
        57 + 5 * (1 : Int) ≤ 62 ∧ (r.attributes.size : Int) ≤ 1 := by
  have hdeclares : LogRecord.Declares boastfulBytes (.ofNat 2147483647) 53 :=
    ⟨⟨shortestRecord, rfl⟩, by decide +kernel⟩
  have hlen : boastfulBytes.length = 69 := rfl
  have hdecode : LogRecord.decode (shortestHeading ++ List.replicate 4 0) =
      .ok (shortestRecord, 57) := eq_ok_of_toOption (by decide +kernel)
  have hmodest : LogRecord.Declares modestBytes 1 53 :=
    ⟨⟨shortestRecord, rfl⟩, by decide +kernel⟩
  have hdecode' : LogRecord.decode modestBytes =
      .ok ({ shortestRecord with attributes := .ofNamed [(some "", .null)] }, 62) :=
    eq_ok_of_toOption (by decide +kernel)
  obtain ⟨-, hrounds, -⟩ := declared_count_bounded boastfulBytes
  obtain ⟨-, -, -, hrecord, -⟩ := declared_count_bounded (shortestHeading ++ List.replicate 4 0)
  obtain ⟨-, -, -, hrecord', -⟩ := declared_count_bounded modestBytes
  obtain ⟨-, -, hcount, -⟩ := hrecord shortestRecord 57 hdecode
  obtain ⟨-, -, -, hbounds⟩ := hrecord' _ 62 hdecode'
  have hthree := (hrounds _ _ hdeclares).2
  rw [hlen] at hthree
  exact ⟨hdeclares, hthree, hdecode, hcount, _, hdecode', hmodest,
    hbounds 1 53 hmodest (by decide)⟩

end LogHistory
