import LogHistory.Proofs.Layouts

/-!
# Frames

A layout is made of values, and of what decides where the values end. A frame (`Frame`) is a layout
without its values: which bytes are read to decide what comes next, and where contents are passed
over, of the length in front of them. A frame reads no contents, so nothing in it can depend on
them. It goes the same way through all data that differ in contents alone, finds these in the same
places and ends in the same way.

## What is proved

* `Parser.asksFor_take`, `Parser.asksFor_length?` — a read depends on the bytes that it reads, and
  on how many there are after them.
* `Frame.run` — a frame runs from every offset, and its run meets its contents (`Frame.Run`).
* `Frame.Run.length?`, `Frame.Run.within` — contents have their length in front, and none of them
  goes past the end if the run comes to its end.
* `Frame.Run.blind` — a run does not depend on the contents that it meets.
-/

namespace LogHistory

/-! ### Contents -/

/-- So many bytes from an offset on, not all of which need be there. -/
structure Extent where
  /-- The offset of the first of them. -/
  start : Nat
  /-- How many they are. -/
  length : Nat
  deriving DecidableEq, Repr

namespace Extent

/-- The offset is that of a byte of the extent. -/
def Covers (c : Extent) (i : Nat) : Prop := c.start ≤ i ∧ i < c.start + c.length

instance (c : Extent) (i : Nat) : Decidable (c.Covers i) := inferInstanceAs (Decidable (_ ∧ _))

/-- The bytes of the extent. -/
def of (c : Extent) (data : Bytes) : Bytes := (data.drop c.start).take c.length

/-- All bytes of the extent are there. -/
def Within (c : Extent) (data : Bytes) : Prop := c.length ≤ data.length - c.start

instance (c : Extent) (data : Bytes) : Decidable (c.Within data) :=
  inferInstanceAs (Decidable (_ ≤ _))

end Extent

/-- Two byte strings have the same length, and the same bytes outside of the extents. -/
structure AgreeOutside (cs : List Extent) (data data' : Bytes) : Prop where
  /-- They have the same length. -/
  length : data'.length = data.length
  /-- They have the same bytes elsewhere. -/
  get : ∀ i < data.length, (∀ c ∈ cs, ¬ c.Covers i) → data'[i]? = data[i]?

/-- The place at an offset. -/
def placeAt (data : Bytes) (k : Nat) : Place := ⟨data.drop k, k⟩

theorem take_drop_congr {data data' : Bytes} {k n : Nat}
    (h : ∀ i, k ≤ i → i < k + n → data'[i]? = data[i]?) :
    (data'.drop k).take n = (data.drop k).take n := by
  refine List.ext_getElem? fun j => ?_
  rw [List.getElem?_take, List.getElem?_take, List.getElem?_drop, List.getElem?_drop]
  split_ifs with hj
  · exact h (k + j) (Nat.le_add_right ..) (Nat.add_lt_add_left hj k)
  · rfl

namespace Parser

variable {α β : Type} {q : Parser α} {data : Bytes} {k n : Nat}

theorem take_placeAt_eq_ok {bs : Bytes} {there : Place} :
    take n (placeAt data k) = .ok (bs, there) ↔
      n ≤ data.length - k ∧ bs = (data.drop k).take n ∧ there = placeAt data (k + n) := by
  rw [take_eq_ok, placeAt, placeAt, List.length_drop, List.drop_drop]

theorem take_placeAt (h : n ≤ data.length - k) :
    take n (placeAt data k) = .ok ((data.drop k).take n, placeAt data (k + n)) :=
  take_placeAt_eq_ok.mpr ⟨h, rfl, rfl⟩

theorem take_placeAt_error (h : ¬ n ≤ data.length - k) :
    take n (placeAt data k) = .error (.unexpectedEnd k n) := by
  rw [← List.length_drop] at h
  exact take_error h

/-- The parser asks for the next `n` bytes and for nothing else: what it yields depends on no other
bytes, and it ends behind them. -/
def AsksFor (n : Nat) (q : Parser α) : Prop :=
  ∀ (data : Bytes) (k : Nat), ∃ outcome : Except DecodeError α, ∀ data' : Bytes,
    data'.length = data.length → (data'.drop k).take n = (data.drop k).take n →
      q (placeAt data' k) = (fun a => (a, placeAt data' (k + n))) <$> outcome

theorem asksFor_take (n : Nat) : AsksFor n (take n) := by
  intro data k
  by_cases h : n ≤ data.length - k
  · refine ⟨.ok ((data.drop k).take n), fun data' hlen hbytes => ?_⟩
    rw [take_placeAt (hlen ▸ h), hbytes]
    rfl
  · exact ⟨.error (.unexpectedEnd k n), fun data' hlen _ => take_placeAt_error (hlen ▸ h)⟩

theorem AsksFor.map (hq : AsksFor n q) (f : α → β) : AsksFor n (f <$> q) := by
  intro data k
  obtain ⟨outcome, houtcome⟩ := hq data k
  refine ⟨f <$> outcome, fun data' hlen hbytes => ?_⟩
  have h := houtcome data' hlen hbytes
  cases outcome with
  | error e => exact map_error h
  | ok a => exact map_ok h

theorem asksFor_length? : AsksFor 4 length? := by
  intro data k
  obtain ⟨outcome, houtcome⟩ := (((asksFor_take 4).map _).map _ : AsksFor 4 (signed 4)) data k
  cases outcome with
  | error e =>
    exact ⟨.error e, fun data' hlen hbytes => length?_error (houtcome data' hlen hbytes)⟩
  | ok z =>
    refine ⟨if z = -1 then .ok none else if z < 0 then .error (.invalidLength z k)
      else .ok (some z.toNat), fun data' hlen hbytes => ?_⟩
    rw [length?_ok (houtcome data' hlen hbytes)]
    split_ifs <;> rfl

/-- A length that is read takes four bytes. -/
theorem length?_placeAt {n? : Option Nat} {there : Place}
    (h : length? (placeAt data k) = .ok (n?, there)) : there = placeAt data (k + 4) := by
  obtain ⟨outcome, houtcome⟩ := asksFor_length? data k
  have hdata := houtcome data rfl rfl
  cases outcome with
  | error e => cases h.symm.trans hdata
  | ok n? =>
    cases h.symm.trans hdata
    rfl

/-- A length depends on its four bytes alone. -/
theorem length?_congr {data' : Bytes} (hlen : data'.length = data.length)
    (hbytes : (data'.drop k).take 4 = (data.drop k).take 4) :
    length? (placeAt data' k) =
      (fun r : Option Nat × Place => (r.1, placeAt data' (k + 4))) <$> length? (placeAt data k) := by
  obtain ⟨outcome, houtcome⟩ := asksFor_length? data k
  rw [houtcome data' hlen hbytes, houtcome data rfl rfl]
  cases outcome <;> rfl

theorem byteString?_placeAt_present
    (hlength : length? (placeAt data k) = .ok (some n, placeAt data (k + 4)))
    (hfits : n ≤ data.length - (k + 4)) : byteString? (placeAt data k) =
      .ok (some ((data.drop (k + 4)).take n), placeAt data (k + 4 + n)) := by
  rw [byteString?, bind_ok hlength]
  exact map_ok (take_placeAt hfits)

/-- A byte string that is read is absent, or is what comes after its length. -/
theorem byteString?_placeAt {bs? : Option Bytes} {there : Place}
    (h : byteString? (placeAt data k) = .ok (bs?, there)) :
    (bs? = none ∧ length? (placeAt data k) = .ok (none, placeAt data (k + 4)) ∧
        there = placeAt data (k + 4)) ∨
      ∃ n, length? (placeAt data k) = .ok (some n, placeAt data (k + 4)) ∧
        n ≤ data.length - (k + 4) ∧ bs? = some ((data.drop (k + 4)).take n) ∧
        there = placeAt data (k + 4 + n) := by
  obtain ⟨n?, mid, hlength, h⟩ := bind_eq_ok.mp h
  obtain rfl := length?_placeAt hlength
  cases n? with
  | none =>
    cases h
    exact .inl ⟨rfl, hlength, rfl⟩
  | some n =>
    obtain ⟨bs, htake, rfl⟩ := map_eq_ok.mp h
    obtain ⟨hfits, rfl, rfl⟩ := take_placeAt_eq_ok.mp htake
    exact .inr ⟨n, hlength, hfits, rfl, rfl⟩

/-- Where the parser ends, or the fault that stops it. -/
def ends (q : Parser α) (here : Place) : Except DecodeError Nat :=
  (fun r : α × Place => r.2.offset) <$> q here

theorem ends_bind_ok {f : α → Parser β} {here there : Place} {a : α}
    (h : q here = .ok (a, there)) : (q >>= f).ends here = (f a).ends there := by
  rw [ends, bind_ok h, ends]

theorem ends_bind_error {f : α → Parser β} {here : Place} {e : DecodeError}
    (h : q here = .error e) : (q >>= f).ends here = .error e := by
  rw [ends, bind_error h]
  rfl

theorem ends_map (f : α → β) : (f <$> q).ends = q.ends := by
  funext here
  cases h : q here with
  | error e => rw [ends, ends, map_error h, h]; rfl
  | ok r => rw [ends, ends, map_ok h, h]; rfl

end Parser

/-! ### Frames -/

/-- What decides where the values of a layout end. -/
inductive Frame where
  /-- Nothing more is read. -/
  | done
  /-- So many bytes are read, and decide what comes next. -/
  | bytes (n : Nat) (next : Bytes → Frame)
  /-- Contents are passed over, of the length in front of them, if they are there. -/
  | content (next : Frame)

namespace Frame

/-- One frame after the other. -/
def append : Frame → Frame → Frame
  | done, t => t
  | bytes n next, t => bytes n fun bs => (next bs).append t
  | content next, t => content (next.append t)

instance : Append Frame := ⟨append⟩

theorem append_done (t : Frame) : t ++ done = t := by
  induction t with
  | done => rfl
  | bytes n next ih => exact congrArg (bytes n) (funext ih)
  | content next ih => exact congrArg content ih

/-- Passes along the frame. -/
def parser : Frame → Parser Unit
  | done => pure ()
  | bytes n next => do
    let bs ← Parser.take n
    (next bs).parser
  | content next => do
    let _ ← Parser.byteString?
    next.parser

/-- The contents that are met on the way, up to the first fault. The last of them may go past the
end. -/
def contents : Frame → Place → List Extent
  | done, _ => []
  | bytes n next, here =>
    match Parser.take n here with
    | .error _ => []
    | .ok (bs, there) => (next bs).contents there
  | content next, here =>
    match Parser.length? here with
    | .error _ => []
    | .ok (none, there) => next.contents there
    | .ok (some n, there) => ⟨there.offset, n⟩ ::
      match Parser.take n there with
      | .error _ => []
      | .ok (_, there) => next.contents there

section Contents

variable {next : Frame} {next' : Bytes → Frame} {n k : Nat} {here there : Place} {data bs : Bytes}
  {e : DecodeError}

theorem contents_bytes (h : Parser.take n here = .ok (bs, there)) :
    (bytes n next').contents here = (next' bs).contents there := by
  simp only [contents, h]

theorem contents_bytes_error (h : Parser.take n here = .error e) :
    (bytes n next').contents here = [] := by
  simp only [contents, h]

theorem contents_content_error (h : Parser.length? here = .error e) :
    (content next).contents here = [] := by
  simp only [contents, h]

theorem contents_absent (h : Parser.length? here = .ok (none, there)) :
    (content next).contents here = next.contents there := by
  simp only [contents, h]

/-- Contents that are all there. -/
theorem contents_present (h : Parser.length? (placeAt data k) = .ok (some n, placeAt data (k + 4)))
    (hfits : n ≤ data.length - (k + 4)) :
    (content next).contents (placeAt data k) =
      ⟨k + 4, n⟩ :: next.contents (placeAt data (k + 4 + n)) := by
  simp only [contents, h, Parser.take_placeAt hfits]
  rfl

/-- Contents that go past the end. -/
theorem contents_cut (h : Parser.length? (placeAt data k) = .ok (some n, placeAt data (k + 4)))
    (hcut : ¬ n ≤ data.length - (k + 4)) :
    (content next).contents (placeAt data k) = [⟨k + 4, n⟩] := by
  simp only [contents, h, Parser.take_placeAt_error hcut]
  rfl

end Contents

/-! ### Runs -/

/-- `Run data t k cs outcome`: from the offset `k` of the data on, the frame meets the contents `cs`
and ends at an offset or with a fault. -/
inductive Run (data : Bytes) : Frame → Nat → List Extent → Except DecodeError Nat → Prop where
  /-- Nothing is read. -/
  | done {k : Nat} : Run data done k [] (.ok k)
  /-- The bytes are there, and say what comes next. -/
  | bytes {n k : Nat} {next : Bytes → Frame} {cs : List Extent} {outcome : Except DecodeError Nat} :
    n ≤ data.length - k → Run data (next ((data.drop k).take n)) (k + n) cs outcome →
    Run data (bytes n next) k cs outcome
  /-- The bytes are not all there. -/
  | short {n k : Nat} {next : Bytes → Frame} : ¬ n ≤ data.length - k →
    Run data (bytes n next) k [] (.error (.unexpectedEnd k n))
  /-- There is no length. -/
  | malformed {k : Nat} {next : Frame} {e : DecodeError} :
    Parser.length? (placeAt data k) = .error e → Run data (content next) k [] (.error e)
  /-- The contents are absent. -/
  | absent {k : Nat} {next : Frame} {cs : List Extent} {outcome : Except DecodeError Nat} :
    Parser.length? (placeAt data k) = .ok (none, placeAt data (k + 4)) →
    Run data next (k + 4) cs outcome → Run data (content next) k cs outcome
  /-- The contents are there. -/
  | present {n k : Nat} {next : Frame} {cs : List Extent} {outcome : Except DecodeError Nat} :
    Parser.length? (placeAt data k) = .ok (some n, placeAt data (k + 4)) →
    n ≤ data.length - (k + 4) → Run data next (k + 4 + n) cs outcome →
    Run data (content next) k (⟨k + 4, n⟩ :: cs) outcome
  /-- The contents are not all there. -/
  | cut {n k : Nat} {next : Frame} :
    Parser.length? (placeAt data k) = .ok (some n, placeAt data (k + 4)) →
    ¬ n ≤ data.length - (k + 4) →
    Run data (content next) k [⟨k + 4, n⟩] (.error (.unexpectedEnd (k + 4) n))

variable {data data' : Bytes} {t : Frame} {k : Nat} {cs : List Extent}
  {outcome : Except DecodeError Nat}

/-- What a frame with contents does is to read their length, and pass over so many bytes. -/
theorem parser_content (next : Frame) : (content next).parser =
    Parser.length? >>= fun n? => match n? with
      | none => next.parser
      | some n => Parser.take n >>= fun _ => next.parser := by
  rw [parser, Parser.byteString?, bind_assoc]
  congr 1
  funext n?
  cases n? with
  | none => exact pure_bind ..
  | some n => exact bind_map_left ..

/-- Every frame runs from every offset. -/
theorem exists_run (data : Bytes) (t : Frame) : ∀ k, ∃ cs outcome, Run data t k cs outcome := by
  induction t with
  | done => exact fun k => ⟨_, _, .done⟩
  | bytes n next ih =>
    intro k
    by_cases hfits : n ≤ data.length - k
    · obtain ⟨cs, outcome, hrun⟩ := ih ((data.drop k).take n) (k + n)
      exact ⟨cs, outcome, .bytes hfits hrun⟩
    · exact ⟨_, _, .short hfits⟩
  | content next ih =>
    intro k
    cases hlength : Parser.length? (placeAt data k) with
    | error e => exact ⟨_, _, .malformed hlength⟩
    | ok r =>
      obtain ⟨n?, there⟩ := r
      obtain rfl := Parser.length?_placeAt hlength
      cases n? with
      | none =>
        obtain ⟨cs, outcome, hrun⟩ := ih (k + 4)
        exact ⟨cs, outcome, .absent hlength hrun⟩
      | some n =>
        by_cases hfits : n ≤ data.length - (k + 4)
        · obtain ⟨cs, outcome, hrun⟩ := ih (k + 4 + n)
          exact ⟨_, outcome, .present hlength hfits hrun⟩
        · exact ⟨_, _, .cut hlength hfits⟩

/-- A run meets the contents of its frame. -/
theorem Run.contents_eq (h : Run data t k cs outcome) : t.contents (placeAt data k) = cs := by
  induction h with
  | done => rfl
  | bytes hfits _ ih => rw [contents_bytes (Parser.take_placeAt hfits), ih]
  | short hshort => exact contents_bytes_error (Parser.take_placeAt_error hshort)
  | malformed hlength => exact contents_content_error hlength
  | absent hlength _ ih => rw [contents_absent hlength, ih]
  | present hlength hfits _ ih => rw [contents_present hlength hfits, ih]
  | cut hlength hcut => exact contents_cut hlength hcut

/-- A run ends as the frame's parser does. -/
theorem Run.ends_eq (h : Run data t k cs outcome) : t.parser.ends (placeAt data k) = outcome := by
  induction h with
  | done => rfl
  | bytes hfits _ ih => rw [parser, Parser.ends_bind_ok (Parser.take_placeAt hfits), ih]
  | short hshort => exact Parser.ends_bind_error (Parser.take_placeAt_error hshort)
  | malformed hlength => rw [parser_content, Parser.ends_bind_error hlength]
  | absent hlength _ ih => rw [parser_content, Parser.ends_bind_ok hlength, ih]
  | present hlength hfits _ ih =>
    rw [parser_content, Parser.ends_bind_ok hlength,
      Parser.ends_bind_ok (Parser.take_placeAt hfits), ih]
  | cut hlength hcut =>
    rw [parser_content, Parser.ends_bind_ok hlength]
    exact Parser.ends_bind_error (Parser.take_placeAt_error hcut)

/-- The run of a frame from an offset. -/
theorem run (data : Bytes) (t : Frame) (k : Nat) :
    Run data t k (t.contents (placeAt data k)) (t.parser.ends (placeAt data k)) := by
  obtain ⟨cs, outcome, hrun⟩ := exists_run data t k
  rwa [hrun.contents_eq, hrun.ends_eq]

/-- A run meets no contents before the offset that it starts from. -/
theorem Run.le_start (h : Run data t k cs outcome) : ∀ c ∈ cs, k ≤ c.start := by
  induction h with
  | done | short | malformed => exact fun c hc => absurd hc List.not_mem_nil
  | bytes _ _ ih | absent _ _ ih => exact fun c hc => Nat.le_trans (Nat.le_add_right ..) (ih c hc)
  | present _ _ _ ih =>
    refine List.forall_mem_cons.mpr ⟨Nat.le_add_right .., fun c hc => ?_⟩
    have hle := ih c hc
    omega
  | cut => exact List.forall_mem_singleton.mpr (Nat.le_add_right ..)

/-- The contents that a run meets have their length in front. -/
theorem Run.length? (h : Run data t k cs outcome) : ∀ c ∈ cs, ∃ p, c.start = p + 4 ∧
    Parser.length? (placeAt data p) = .ok (some c.length, placeAt data (p + 4)) := by
  induction h with
  | done | short | malformed => exact fun c hc => absurd hc List.not_mem_nil
  | bytes _ _ ih | absent _ _ ih => exact ih
  | present hlength _ _ ih => exact List.forall_mem_cons.mpr ⟨⟨_, rfl, hlength⟩, ih⟩
  | cut hlength _ => exact List.forall_mem_singleton.mpr ⟨_, rfl, hlength⟩

/-- A run that comes to its end has passed over all bytes of its contents. -/
theorem Run.within {m : Nat} (h : Run data t k cs (.ok m)) : ∀ c ∈ cs, c.Within data := by
  generalize hok : Except.ok m = outcome at h
  induction h with
  | done => exact fun c hc => absurd hc List.not_mem_nil
  | bytes _ _ ih | absent _ _ ih => exact ih hok
  | present _ hfits _ ih => exact List.forall_mem_cons.mpr ⟨hfits, ih hok⟩
  | short | malformed | cut => cases hok

/-- Two byte strings agree outside of the contents, and contents come only after so many bytes, so
these are the same. -/
theorem take_eq_of_agree {n : Nat}
    (h : ∀ i, k ≤ i → (∀ c ∈ cs, ¬ c.Covers i) → data'[i]? = data[i]?)
    (hcs : ∀ c ∈ cs, k + n ≤ c.start) : (data'.drop k).take n = (data.drop k).take n :=
  take_drop_congr fun i hi hlt => h i hi fun c hc hcovers =>
    absurd (Nat.lt_of_lt_of_le hlt (hcs c hc)) (Nat.not_lt.mpr hcovers.1)

/-- **Contents decide nothing**: a run goes the same way through every byte string of the same
length that agrees with the data outside of the contents that it meets. -/
theorem Run.blind (hrun : Run data t k cs outcome) (hlen : data'.length = data.length)
    (h : ∀ i, k ≤ i → (∀ c ∈ cs, ¬ c.Covers i) → data'[i]? = data[i]?) :
    Run data' t k cs outcome := by
  induction hrun with
  | done => exact .done
  | bytes hfits hrun ih =>
    have hbytes := take_eq_of_agree h hrun.le_start
    refine .bytes (hlen ▸ hfits) ?_
    rw [hbytes]
    exact ih fun i hi => h i (by omega)
  | short hshort => exact .short (hlen ▸ hshort)
  | malformed hlength =>
    refine .malformed ?_
    rw [Parser.length?_congr hlen (take_eq_of_agree h nofun), hlength]
    rfl
  | absent hlength hrun ih =>
    refine .absent ?_ (ih fun i hi => h i (by omega))
    rw [Parser.length?_congr hlen (take_eq_of_agree h hrun.le_start), hlength]
    rfl
  | @present n k next cs outcome hlength hfits hrun ih =>
    have hstart : ∀ c ∈ Extent.mk (k + 4) n :: cs, k + 4 ≤ c.start :=
      List.forall_mem_cons.mpr ⟨Nat.le_refl _, fun c hc =>
        Nat.le_trans (Nat.le_add_right ..) (hrun.le_start c hc)⟩
    refine .present ?_ (hlen ▸ hfits) (ih fun i hi hcs => h i (by omega) ?_)
    · rw [Parser.length?_congr hlen (take_eq_of_agree h hstart), hlength]
      rfl
    · -- Behind the contents are no bytes of the contents.
      exact List.forall_mem_cons.mpr ⟨fun hcovers => Nat.not_lt.mpr hi hcovers.2, hcs⟩
  | cut hlength hcut =>
    refine .cut ?_ (hlen ▸ hcut)
    rw [Parser.length?_congr hlen (take_eq_of_agree h
      (List.forall_mem_singleton.mpr (Nat.le_refl _))), hlength]
    rfl

end Frame

end LogHistory
