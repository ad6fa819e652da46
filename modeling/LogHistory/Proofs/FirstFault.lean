import LogHistory.LogRecord.FailFast
import LogHistory.Proofs.Takes

/-!
# The first fault decides

A reader at fault carries on, with the values of no bytes at all, and what it makes of these is
dropped at the end. So a read is no more than the parser that stops at the first fault: it moves as
the parser does for as long as the parser goes on, and once at fault it stays where it is
(`Read.Follows`). The relation is closed under sequencing, whatever the read does with a value that
came after a fault; so each layout follows from its parts.

A read and its parser may differ in how they show a value, a parser having plain numbers for words;
`e` takes the one form to the other.

## What is proved

* `Read.Follows.bind` — reads that follow parsers do so one after another.
* `Read.follows_nodeId`, `Read.follows_scalar`, `Read.follows_logRecord` — the layouts.
* `Read.Follows.decodeWith` — what is decoded is what the parser yields, the fault included.
* `decode_eq_parse` — so records, identifiers and scalars are decoded as if nothing were read after
  the first fault.
-/

namespace LogHistory

/-! ### Parsers -/

namespace Parser

variable {α β : Type} {q : Parser α} {f : α → Parser β} {g : α → β} {here there : Place} {a : α}
  {e : DecodeError}

theorem bind_ok (h : q here = .ok (a, there)) : (q >>= f) here = f a there := by
  simp only [bind, StateT.bind, Except.bind, h]

theorem bind_error (h : q here = .error e) : (q >>= f) here = .error e := by
  simp only [bind, StateT.bind, Except.bind, h]

theorem bind_eq_ok {b : β} :
    (q >>= f) here = .ok (b, there) ↔
      ∃ a mid, q here = .ok (a, mid) ∧ f a mid = .ok (b, there) := by
  constructor
  · intro hok
    cases h : q here with
    | error e =>
      rw [bind_error h] at hok
      cases hok
    | ok r =>
      rw [bind_ok h] at hok
      exact ⟨r.1, r.2, rfl, hok⟩
  · rintro ⟨a, mid, h, hok⟩
    rw [bind_ok h, hok]

theorem map_ok (h : q here = .ok (a, there)) : (g <$> q) here = .ok (g a, there) := by
  rw [map_eq_pure_bind, bind_ok h]
  rfl

theorem map_error (h : q here = .error e) : (g <$> q) here = .error e := by
  rw [map_eq_pure_bind, bind_error h]

theorem map_eq_ok {b : β} :
    (g <$> q) here = .ok (b, there) ↔ ∃ a, q here = .ok (a, there) ∧ g a = b := by
  rw [map_eq_pure_bind, bind_eq_ok]
  constructor
  · rintro ⟨a, mid, h, hb⟩
    cases hb
    exact ⟨a, h, rfl⟩
  · rintro ⟨a, h, rfl⟩
    exact ⟨a, there, h, rfl⟩

theorem take_ok {n : Nat} (h : n ≤ here.unread.length) :
    take n here = .ok (here.unread.take n, ⟨here.unread.drop n, here.offset + n⟩) := if_pos h

theorem take_error {n : Nat} (h : ¬ n ≤ here.unread.length) :
    take n here = .error (.unexpectedEnd here.offset n) := if_neg h

theorem take_eq_ok {n : Nat} {bs : Bytes} : take n here = .ok (bs, there) ↔
    n ≤ here.unread.length ∧ bs = here.unread.take n ∧
      there = ⟨here.unread.drop n, here.offset + n⟩ := by
  by_cases hle : n ≤ here.unread.length
  · rw [take_ok hle]
    simp [hle, eq_comm]
  · rw [take_error hle]
    simp [hle]

theorem length?_ok {z : Int} (h : signed 4 here = .ok (z, there)) :
    length? here =
      if z = -1 then .ok (none, there)
      else if z < 0 then .error (.invalidLength z here.offset)
      else .ok (some z.toNat, there) := by
  simp only [length?, h, bind, Except.bind]

theorem length?_error (h : signed 4 here = .error e) : length? here = .error e := by
  simp only [length?, h, bind, Except.bind]

theorem parse_eq_ok {data : Bytes} {n : Nat} :
    q.parse data = .ok (a, n) ↔ ∃ there, q ⟨data, 0⟩ = .ok (a, there) ∧ there.offset = n := by
  unfold parse
  constructor
  · intro h
    cases hq : q ⟨data, 0⟩ with
    | error e =>
      rw [hq] at h
      cases h
    | ok r =>
      rw [hq] at h
      cases h
      exact ⟨r.2, rfl, rfl⟩
  · rintro ⟨there, h, rfl⟩
    rw [h]
    rfl

theorem parse_error {data : Bytes} (h : q ⟨data, 0⟩ = .error e) : q.parse data = .error e := by
  rw [parse, h]
  rfl

/-- Exactly `n` bytes are `n` bytes. -/
theorem fixed_eq_map (n : Nat) :
    fixed n = (fun bs : Bytes => if h : bs.length = n then ⟨bs, h⟩
      else ⟨List.replicate n 0, List.length_replicate⟩) <$> take n := by
  funext here
  by_cases hle : n ≤ here.unread.length
  · rw [map_ok (take_ok hle), fixed, dif_pos hle, dif_pos (List.length_take_of_le hle)]
  · rw [map_error (take_error hle), fixed, dif_neg hle]

end Parser

namespace Read

variable {α β γ δ : Type}

/-! ### Reads and parsers -/

/-- The read, cut off at its first fault. -/
def stopped (p : Read α) : Parser α := fun here =>
  match p ⟨here.unread, here.offset, none⟩ with
  | (_, ⟨_, _, some e⟩) => .error e
  | (a, ⟨unread, offset, none⟩) => .ok (a, ⟨unread, offset⟩)

theorem stopped_ok {p : Read α} {here : Place} {a : α} {unread : Bytes} {offset : Nat}
    (h : p ⟨here.unread, here.offset, none⟩ = (a, ⟨unread, offset, none⟩)) :
    p.stopped here = .ok (a, ⟨unread, offset⟩) := by
  simp only [stopped, h]

theorem stopped_error {p : Read α} {here : Place} {a : α} {unread : Bytes} {offset : Nat}
    {e : DecodeError} (h : p ⟨here.unread, here.offset, none⟩ = (a, ⟨unread, offset, some e⟩)) :
    p.stopped here = .error e := by
  simp only [stopped, h]

/-- The read leaves a reader at fault as it is. -/
def Stays (p : Read α) : Prop := ∀ r : Reader, r.fault.isSome → (p r).2 = r

/-- The read does what the parser does up to the first fault, and nothing after it. The values of
the parser are those of the read under `e`. -/
structure Follows (p : Read α) (q : Parser β) (e : α → β) : Prop where
  /-- After a fault nothing is done. -/
  stays : p.Stays
  /-- Without a fault the two do the same. -/
  stopped_eq : e <$> p.stopped = q

/-- What is decoded is what the parser yields. -/
theorem Follows.decodeWith {p : Read α} {q : Parser α} (h : Follows p q id) (data : Bytes) :
    LogHistory.decodeWith p data = q.parse data := by
  rw [← h.stopped_eq, id_map]
  simp only [LogHistory.decodeWith, Reader.start, Parser.parse, stopped]
  rcases p ⟨data, 0, none⟩ with ⟨a, unread, offset, _ | e⟩ <;> rfl

/-! ### Sequences -/

theorem stopped_bind {p : Read α} {f : α → Read β} (hf : ∀ a, (f a).Stays) :
    (p >>= f).stopped = p.stopped >>= fun a => (f a).stopped := by
  funext here
  simp only [stopped, bind, StateT.bind, Except.bind]
  rcases p ⟨here.unread, here.offset, none⟩ with ⟨a, unread, offset, _ | e⟩
  · rfl
  · -- What follows a fault leaves the fault where it is.
    have hstays := hf a ⟨unread, offset, some e⟩ rfl
    rcases hnext : f a ⟨unread, offset, some e⟩ with ⟨b, r⟩
    rw [hnext] at hstays
    subst hstays
    simp only [hnext]

theorem Follows.pure {a : α} {b : β} {e : α → β} (h : e a = b) :
    Follows (Pure.pure a) (Pure.pure b) e :=
  ⟨fun _ _ => rfl, by rw [← h]; rfl⟩

/-- **Reads that follow parsers do so one after another.** -/
theorem Follows.bind {p : Read α} {q : Parser β} {e : α → β} {f : α → Read γ} {g : β → Parser δ}
    {e' : γ → δ} (hp : Follows p q e) (hf : ∀ a, Follows (f a) (g (e a)) e') :
    Follows (p >>= f) (q >>= g) e' where
  stays r hr := by
    rw [bind_apply, hp.stays r hr]
    exact (hf _).stays r hr
  stopped_eq := by
    rw [stopped_bind fun a => (hf a).stays, map_bind, ← hp.stopped_eq, bind_map_left]
    exact bind_congr fun a => (hf a).stopped_eq

/-- A read whose value is only handed on. -/
theorem Follows.map {p : Read α} {q : Parser β} {e : α → β} (hp : Follows p q e) {f : α → γ}
    {g : β → δ} {e' : γ → δ} (h : ∀ a, e' (f a) = g (e a)) :
    Follows (p >>= fun a => Pure.pure (f a)) (g <$> q) e' := by
  rw [map_eq_pure_bind]
  exact hp.bind fun a => .pure (h a)

/-- A read that goes on unless the reader is at fault follows what it goes on with. -/
theorem Follows.of_not_faulted {p p' : Read α} {q : Parser β} {e : α → β} (hp : Follows p q e)
    (hp' : p'.Stays) : Follows (faulted >>= fun b => if b then p' else p) q e where
  stays r hr := by
    simp only [bind_apply, faulted_apply, hr, if_true]
    exact hp' r hr
  stopped_eq := hp.stopped_eq

/-! ### Numbers -/

/-- A read of `n` bytes follows the parser for them, if the two show `n` bytes alike. -/
theorem follows_take_map {n : Nat} {f : Bytes → α} {g : Bytes → β} {e : α → β}
    (h : ∀ bs : Bytes, bs.length = n → e (f bs) = g bs) :
    Follows (take n >>= fun bs => Pure.pure (f bs)) (g <$> Parser.take n) e where
  stays r hr := by
    obtain ⟨fault, hfault⟩ := Option.isSome_iff_exists.mp hr
    simp only [bind_apply, pure_apply, take, hfault]
  stopped_eq := by
    funext here
    by_cases hle : n ≤ here.unread.length
    · have htake : (take n >>= fun bs => Pure.pure (f bs)) ⟨here.unread, here.offset, none⟩ =
          (f (here.unread.take n), ⟨here.unread.drop n, here.offset + n, none⟩) := by
        simp only [bind_apply, pure_apply, take, hle, if_true]
      rw [Parser.map_ok (stopped_ok htake), Parser.map_ok (Parser.take_ok hle),
        h _ (List.length_take_of_le hle)]
    · have htake : (take n >>= fun bs => Pure.pure (f bs)) ⟨here.unread, here.offset, none⟩ =
          (f [], ⟨here.unread, here.offset, some (.unexpectedEnd here.offset n)⟩) := by
        simp only [bind_apply, pure_apply, take, hle, if_false]
      rw [Parser.map_error (stopped_error htake), Parser.map_error (Parser.take_error hle)]

theorem follows_take (n : Nat) : Follows (take n) (Parser.take n) id := by
  have h := follows_take_map (n := n) (f := id) (g := id) (e := id) fun _ _ => rfl
  rwa [id_map] at h

/-- Bytes that are passed over. -/
theorem Follows.skip {n : Nat} {p : Read α} {q : Parser β} {e : α → β} (h : Follows p q e) :
    Follows (Read.skip n >>= fun _ => p) (Parser.take n >>= fun _ => q) e :=
  show Follows (take n >>= fun _ => p) _ e from (follows_take n).bind fun _ => h

/-- Numbers of `w` bytes, whatever the type that the read gives them. -/
theorem follows_number {w : Nat} {ofNat : Nat → α} {toNat : α → Nat}
    (h : ∀ n < Nat.pow 256 w, toNat (ofNat n) = n) :
    Follows (number w >>= fun n => Pure.pure (ofNat n)) (Parser.number w) toNat :=
  follows_take_map fun bs hbs => h _ (hbs ▸ LittleEndian.decode_lt bs)

/-- A number that is passed over takes as many bytes. -/
theorem Follows.passed {w : Nat} {p : Read α} {toNat : α → Nat}
    (hp : Follows p (Parser.number w) toNat) {f : Read β} {q : Parser γ} {e : β → γ}
    (hf : Follows f q e) : Follows (p >>= fun _ => f) (Parser.take w >>= fun _ => q) e := by
  have hnumber : (Parser.number w >>= fun _ => q) = Parser.take w >>= fun _ => q :=
    bind_map_left ..
  rw [← hnumber]
  exact hp.bind fun _ => hf

theorem follows_byte : Follows byte (Parser.number 1) UInt8.toNat :=
  follows_number fun _ h => UInt8.toNat_ofNat_of_lt' h

theorem follows_uint16 : Follows uint16 (Parser.number 2) UInt16.toNat :=
  follows_number fun _ h => UInt16.toNat_ofNat_of_lt' h

theorem follows_uint32 : Follows uint32 (Parser.number 4) UInt32.toNat :=
  follows_number fun _ h => UInt32.toNat_ofNat_of_lt' h

theorem follows_uint64 : Follows uint64 (Parser.number 8) UInt64.toNat :=
  follows_number fun _ h => UInt64.toNat_ofNat_of_lt' h

theorem follows_int8 : Follows int8 (Parser.signed 1) Int8.toInt :=
  follows_byte.map fun a => BitVec.toInt_eq_toNat_bmod a.toBitVec

theorem follows_int16 : Follows int16 (Parser.signed 2) Int16.toInt :=
  follows_uint16.map fun a => BitVec.toInt_eq_toNat_bmod a.toBitVec

theorem follows_int32 : Follows int32 (Parser.signed 4) Int32.toInt :=
  follows_uint32.map fun a => BitVec.toInt_eq_toNat_bmod a.toBitVec

theorem follows_int64 : Follows int64 (Parser.signed 8) Int64.toInt :=
  follows_uint64.map fun a => BitVec.toInt_eq_toNat_bmod a.toBitVec

/-! ### Lengths, byte strings and texts -/

/-- What the read of a length does, given what the read of its number does. -/
theorem length?_of_int32 {r r' : Reader} {n : Int32} (h : int32 r = (n, r')) :
    length? r =
      if (r'.fault.isSome || decide (n.toInt = -1)) = true then (none, r')
      else if n.toInt < 0 then
        (none, { r' with fault := r'.fault <|> some (.invalidLength n.toInt r.offset) })
      else (some n.toInt.toNat, r') := by
  have hread : length? r =
      (if ((int32 r).2.fault.isSome || decide ((int32 r).1.toInt = -1)) = true then Pure.pure none
      else if (int32 r).1.toInt < 0 then do
        fail (.invalidLength (int32 r).1.toInt r.offset)
        Pure.pure none
      else Pure.pure (some (int32 r).1.toInt.toNat) : Read (Option Nat)) (int32 r).2 := rfl
  rw [hread, h]
  split_ifs <;> rfl

theorem follows_length? : Follows length? Parser.length? id where
  stays r hr := by
    have hstays : int32 r = ((int32 r).1, r) := Prod.ext rfl (follows_int32.stays r hr)
    rw [length?_of_int32 hstays, hr, Bool.true_or, if_pos rfl]
  stopped_eq := by
    rw [id_map]
    funext here
    have hsigned := congrFun follows_int32.stopped_eq here
    rcases hn : int32 ⟨here.unread, here.offset, none⟩ with ⟨n, unread, offset, _ | e⟩
    · rw [Parser.map_ok (stopped_ok hn)] at hsigned
      rw [Parser.length?_ok hsigned.symm, stopped, length?_of_int32 hn]
      by_cases hneg : n.toInt = -1
      · simp [hneg]
      · by_cases hlt : n.toInt < 0 <;> simp [hneg, hlt]
    · rw [Parser.map_error (stopped_error hn)] at hsigned
      rw [Parser.length?_error hsigned.symm, stopped, length?_of_int32 hn]
      rfl

theorem follows_byteString? : Follows byteString? Parser.byteString? id := by
  refine follows_length?.bind fun n => ?_
  cases n with
  | none => exact .pure rfl
  | some n =>
    simp only [id, map_eq_pure_bind]
    exact (follows_take n).bind fun bs => .of_not_faulted (.pure rfl) fun _ _ => rfl

theorem follows_text? : Follows text? Parser.text? id := follows_byteString?.map fun _ => rfl

theorem follows_text : Follows text Parser.text id := follows_text?.map fun _ => rfl

/-! ### Identifiers and scalars -/

theorem follows_nodeId : Follows nodeId Parser.nodeId id := by
  refine follows_byte.bind fun form => ?_
  generalize form.toNat % 16 = k
  match k with
  | 0 => exact follows_byte.bind fun _ => .pure rfl
  | 1 => exact follows_byte.bind fun _ => follows_uint16.bind fun _ => .pure rfl
  | 2 => exact follows_uint16.bind fun ns => follows_uint32.bind fun value => .pure (by simp)
  | 3 => exact follows_uint16.bind fun ns => follows_text.bind fun value => .pure (by simp)
  | 4 => exact follows_uint16.passed (.skip (.pure rfl))
  | 5 => exact follows_uint16.passed (follows_byteString?.bind fun _ => .pure rfl)
  | k + 6 => exact .pure rfl

theorem follows_nodeId? : Follows nodeId? Parser.nodeId? id :=
  follows_nodeId.bind fun id => .pure (by simp [NodeId.isNull])

theorem follows_scalar : Follows scalar Parser.scalar id := by
  refine follows_byte.bind fun tag => ?_
  generalize tag.toNat % 64 = k
  match k with
  | 0 => exact .pure rfl
  | 1 =>
    have hflag : (flag >>= fun v => Pure.pure (Scalar.bool v)) =
        byte >>= fun b => Pure.pure (.bool (b != 0)) := rfl
    rw [hflag]
    refine follows_byte.bind fun b => .pure (congrArg Scalar.bool ?_)
    rw [Bool.eq_iff_iff, bne_iff_ne, decide_eq_true_iff, ne_eq, ← UInt8.toNat_inj]
    rfl
  | 2 => exact follows_int8.bind fun v => .pure (by simp)
  | 3 => exact follows_byte.bind fun v => .pure (by simp)
  | 4 => exact follows_int16.bind fun v => .pure (by simp)
  | 5 => exact follows_uint16.bind fun v => .pure (by simp)
  | 6 => exact follows_int32.bind fun v => .pure (by simp)
  | 7 => exact follows_uint32.bind fun v => .pure (by simp)
  | 8 => exact follows_int64.bind fun v => .pure (by simp)
  | 9 => exact follows_uint64.bind fun v => .pure (by simp)
  | 10 => exact follows_uint32.bind fun v => .pure (by simp)
  | 11 => exact follows_uint64.bind fun v => .pure (by simp)
  | 12 => exact follows_text.bind fun v => .pure rfl
  | k + 13 => exact .pure rfl

/-! ### Records -/

theorem follows_message : Follows message Parser.message id := by
  refine follows_byte.bind fun mask => ?_
  split_ifs
  · exact follows_text?.bind fun _ => follows_text
  · exact follows_text
  · exact follows_text?.bind fun _ => .pure rfl
  · exact .pure rfl

theorem follows_fixed (n : Nat) : Follows (fixed n) (Parser.fixed n) id := by
  rw [Parser.fixed_eq_map]
  exact follows_take_map fun _ _ => rfl

theorem follows_traceId : Follows traceId Parser.traceId id :=
  (follows_fixed 4).bind fun _ => (follows_fixed 2).bind fun _ => (follows_fixed 2).bind fun _ =>
    (follows_fixed 8).bind fun _ => .pure rfl

theorem follows_traceContext? : Follows traceContext? Parser.traceContext? id := by
  refine follows_traceId.bind fun id => follows_uint64.bind fun span =>
    follows_uint64.bind fun parent => follows_text?.bind fun origin => .pure ?_
  have hzero : span = 0 ↔ span.toNat = 0 := by
    rw [← UInt64.toNat_inj]
    rfl
  simp [hzero]

theorem follows_entries (n : Nat) : Follows (entries n) (Parser.entries n) id := by
  induction n with
  | zero => exact .pure rfl
  | succ n ih =>
    refine follows_text?.bind fun key => follows_scalar.bind fun value => ?_
    exact .of_not_faulted (ih.bind fun _ => .pure rfl) fun _ _ => rfl

theorem follows_attributes : Follows attributes Parser.attributes id :=
  follows_int32.bind fun count => (follows_entries count.toInt.toNat).bind fun _ => .pure rfl

/-- **A record is read as its layout says.** -/
theorem follows_logRecord : Follows logRecord Parser.logRecord id :=
  follows_int64.bind fun ticks => follows_uint16.bind fun severity =>
    follows_nodeId?.bind fun eventType => follows_nodeId?.bind fun sourceNode =>
    follows_text?.bind fun sourceName => follows_message.bind fun message =>
    follows_traceContext?.bind fun trace => follows_attributes.bind fun attributes =>
    .pure (by simp)

end Read

/-- **The first fault decides.** From any bytes a record, an identifier and a scalar are decoded as
the grammar of the wire parses them, which stops at the first read that does not fit and at the
first length that cannot be one: with the same value after the same count of bytes, or with the very
fault that the grammar stops at. What a reader makes of the zeros and the empty texts that it gets
after a fault is never part of the answer. -/
theorem decode_eq_parse (data : Bytes) :
    LogRecord.decode data = Parser.logRecord.parse data ∧
      NodeId.decode data = Parser.nodeId.parse data ∧
      Scalar.decode data = Parser.scalar.parse data :=
  ⟨Read.follows_logRecord.decodeWith data, Read.follows_nodeId.decodeWith data,
    Read.follows_scalar.decodeWith data⟩

end LogHistory
