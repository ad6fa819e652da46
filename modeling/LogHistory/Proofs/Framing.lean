import LogHistory.Proofs.Frames
import LogHistory.Proofs.TraceSections
import LogHistory.Proofs.Unwritable

/-!
# Framing does not look at contents

Source names, locales, messages, origins of spans, names and texts of attributes, texts of
identifiers, and opaque identifiers all have their length in front. What stands in the bytes after a
length is not looked at to find out where they end, or what comes next, and it cannot be wrong:
bytes that are no UTF-8 are read with replacement characters. So records that are the same but for
such contents end at the same place, or fail with the same error, even if the contents are names of
attributes and the change makes two names one.

A parser is tied to its frame by `Framed`: it goes where the frame goes, and the value it yields is
made of the contents that the frame passes over.

## What is proved

* `Framed.bind` — parsers after one another have their frames after one another.
* `Framed.forget` — a parser with a frame is the frame's parser, its value forgotten.
* `Framed.yields` — what is true of all contents is true of all texts that a parser yields.
* `Framed.logRecord` — the frame of records.
* `framing_ignores_contents` — records are framed alike whatever their contents, and these are
  their texts.
-/

namespace LogHistory

namespace Frame

/-! ### The frames of the wire -/

/-- Numbers of these widths, and then what comes next. -/
def passed : List Nat → Frame → Frame
  | [], t => t
  | w :: ws, t => bytes w fun _ => passed ws t

/-- A text or a byte string. -/
def text : Frame := content done

/-- An identifier. -/
def nodeId : Frame := bytes 1 fun form =>
  match LittleEndian.decode form % 16 with
  | 0 => passed [1] done
  | 1 => passed [1, 2] done
  | 2 => passed [2, 4] done
  | 3 => passed [2] text
  | 4 => passed [2, 16] done
  | 5 => passed [2] text
  | _ => done

/-- A scalar. -/
def scalar : Frame := bytes 1 fun tag =>
  match LittleEndian.decode tag % 64 with
  | 1 | 2 | 3 => passed [1] done
  | 4 | 5 => passed [2] done
  | 6 | 7 | 10 => passed [4] done
  | 8 | 9 | 11 => passed [8] done
  | 12 => text
  | _ => done

/-- A message: a locale and a text, each if its bit is set in the mask. -/
def message : Frame := bytes 1 fun mask =>
  (if LittleEndian.decode mask % 2 = 1 then text else done) ++
    (if LittleEndian.decode mask / 2 % 2 = 1 then text else done)

/-- A trace context: the four parts of its trace id, its span ids, and a text. -/
def traceContext : Frame := passed [4, 2, 2, 8, 8, 8] text

/-- So many names, each with a scalar. -/
def entries : Nat → Frame
  | 0 => done
  | n + 1 => text ++ (scalar ++ entries n)

/-- The attributes: their count, and as many entries. -/
def attributes : Frame := bytes 4 fun count =>
  entries ((LittleEndian.decode count : Int).bmod (Nat.pow 256 4)).toNat

/-- A record. -/
def logRecord : Frame :=
  passed [8, 2] (nodeId ++ (nodeId ++ (text ++ (message ++ (traceContext ++ attributes)))))

end Frame

/-! ### Parsers and their frames -/

/-- `Framed S P q t`: the parser goes where the frame goes. It yields a value with the property `P`,
if what it reads of contents has the property `S`, decoded as text. -/
inductive Framed (S : String → Prop) {α : Type} (P : α → Prop) : Parser α → Frame → Prop where
  /-- Nothing more is read. -/
  | pure {a : α} : P a → Framed S P (Pure.pure a) .done
  /-- So many bytes come first. -/
  | take (n : Nat) {f : Bytes → Parser α} {next : Bytes → Frame} :
    (∀ bs, Framed S P (f bs) (next bs)) → Framed S P (Parser.take n >>= f) (.bytes n next)
  /-- Contents come first. -/
  | content {f : Option Bytes → Parser α} {next : Frame} :
    (∀ bs?, (∀ bs, bs? = some bs → S (Utf8.decode bs)) → Framed S P (f bs?) next) →
    Framed S P (Parser.byteString? >>= f) (.content next)

namespace Framed

variable {S : String → Prop} {α β : Type} {P : α → Prop} {Q : β → Prop} {q : Parser α}
  {f : α → Parser β} {t u : Frame}

/-- **Parsers after one another have their frames after one another.** -/
theorem bind (hq : Framed S P q t) (hf : ∀ a, P a → Framed S Q (f a) u) :
    Framed S Q (q >>= f) (t ++ u) := by
  induction hq with
  | pure h =>
    rw [pure_bind]
    exact hf _ h
  | take n _ ih =>
    rw [bind_assoc]
    exact .take n ih
  | content _ ih =>
    rw [bind_assoc]
    exact .content ih

/-- What is made of the value needs no bytes. -/
theorem bind_done (hq : Framed S P q t) (hf : ∀ a, P a → Framed S Q (f a) .done) :
    Framed S Q (q >>= f) t := by
  rw [← t.append_done]
  exact hq.bind hf

/-- **A parser with a frame is the frame's parser**, its value forgotten. -/
theorem forget (hq : Framed S P q t) (hS : ∀ s, S s) : (fun _ => ()) <$> q = t.parser := by
  induction hq with
  | pure h => exact map_pure ..
  | take n _ ih =>
    rw [map_bind, Frame.parser]
    exact congrArg _ (funext ih)
  | content _ ih =>
    rw [map_bind, Frame.parser]
    exact congrArg _ (funext fun bs? => ih bs? fun _ _ => hS _)

/-- **What is true of all contents is true of all texts that are yielded.** -/
theorem yields (hq : Framed S P q t) {data : Bytes} : ∀ {k : Nat} {a : α} {there : Place},
    (∀ c ∈ t.contents (placeAt data k), S (Utf8.decode (c.of data))) →
      q (placeAt data k) = .ok (a, there) → P a := by
  induction hq with
  | pure h =>
    intro k a there _ hok
    cases hok
    exact h
  | take n _ ih =>
    intro k a there hS hok
    obtain ⟨bs, mid, htake, hok⟩ := Parser.bind_eq_ok.mp hok
    rw [Frame.contents_bytes htake] at hS
    obtain ⟨-, -, rfl⟩ := Parser.take_placeAt_eq_ok.mp htake
    exact ih _ hS hok
  | content _ ih =>
    intro k a there hS hok
    obtain ⟨bs?, mid, hbs, hok⟩ := Parser.bind_eq_ok.mp hok
    obtain ⟨rfl, hlength, rfl⟩ | ⟨n, hlength, hfits, rfl, rfl⟩ := Parser.byteString?_placeAt hbs
    · rw [Frame.contents_absent hlength] at hS
      exact ih none nofun hS hok
    · rw [Frame.contents_present hlength hfits] at hS
      obtain ⟨hcontent, hS⟩ := List.forall_mem_cons.mp hS
      refine ih _ (fun bs hbs => ?_) hS hok
      cases hbs
      exact hcontent

/-! ### Numbers and texts -/

theorem number (w : Nat) {f : Nat → Parser α} {next : Bytes → Frame}
    (hf : ∀ bs, Framed S P (f (LittleEndian.decode bs)) (next bs)) :
    Framed S P (Parser.number w >>= f) (.bytes w next) := by
  rw [Parser.number, bind_map_left]
  exact .take w hf

theorem signed (w : Nat) {f : Int → Parser α} {next : Bytes → Frame}
    (hf : ∀ bs, Framed S P (f ((LittleEndian.decode bs : Int).bmod (Nat.pow 256 w))) (next bs)) :
    Framed S P (Parser.signed w >>= f) (.bytes w next) := by
  rw [Parser.signed, bind_map_left]
  exact .number w hf

theorem fixed (n : Nat) {f : { bs : Bytes // bs.length = n } → Parser α} {next : Frame}
    (hf : ∀ bs, Framed S P (f bs) next) :
    Framed S P (Parser.fixed n >>= f) (.bytes n fun _ => next) := by
  rw [Parser.fixed_eq_map, bind_map_left]
  exact .take n fun _ => hf _

theorem text? : Framed S (fun s? => ∀ s ∈ s?.toList, S s) Parser.text? .text := by
  rw [Parser.text?, map_eq_pure_bind]
  refine .content fun bs? hbs => .pure fun s hs => ?_
  obtain ⟨bs, rfl, rfl⟩ : ∃ bs, bs? = some bs ∧ Utf8.decode bs = s := by
    simpa [Option.mem_toList] using hs
  exact hbs bs rfl

variable (hS : S "")
include hS

/-- A text that is absent is empty. -/
theorem text : Framed S S Parser.text .text := by
  rw [Parser.text, map_eq_pure_bind]
  refine text?.bind_done fun s? hs => .pure ?_
  cases s? with
  | none => exact hS
  | some s => exact hs s (by simp)

/-! ### Identifiers and scalars -/

theorem nodeId : Framed S (fun id => ∀ s ∈ id.texts, S s) Parser.nodeId .nodeId := by
  refine number 1 fun form => ?_
  generalize LittleEndian.decode form % 16 = form
  match form with
  | 0 => exact number 1 fun _ => .pure nofun
  | 1 => exact number 1 fun _ => number 2 fun _ => .pure nofun
  | 2 => exact number 2 fun _ => number 4 fun _ => .pure nofun
  | 3 =>
    exact number 2 fun _ => (text hS).bind_done fun s hs => .pure (List.forall_mem_singleton.mpr hs)
  | 4 => exact .take 2 fun _ => .take 16 fun _ => .pure nofun
  | 5 => exact .take 2 fun _ => .content fun _ _ => .pure nofun
  | _ + 6 => exact .pure nofun

theorem nodeId? : Framed S (fun id? => ∀ s ∈ id?.toList.flatMap NodeId.texts, S s)
    Parser.nodeId? .nodeId := by
  refine (nodeId hS).bind_done fun id hid => .pure ?_
  split_ifs
  · exact nofun
  · simpa using hid

theorem scalar : Framed S (fun v => ∀ s ∈ v.texts, S s) Parser.scalar .scalar := by
  refine number 1 fun tag => ?_
  generalize LittleEndian.decode tag % 64 = tag
  match tag with
  | 0 => exact .pure nofun
  | 1 | 3 => exact number 1 fun _ => .pure nofun
  | 2 => exact signed 1 fun _ => .pure nofun
  | 4 => exact signed 2 fun _ => .pure nofun
  | 5 => exact number 2 fun _ => .pure nofun
  | 6 => exact signed 4 fun _ => .pure nofun
  | 7 | 10 => exact number 4 fun _ => .pure nofun
  | 8 => exact signed 8 fun _ => .pure nofun
  | 9 | 11 => exact number 8 fun _ => .pure nofun
  | 12 => exact (text hS).bind_done fun s hs => .pure (List.forall_mem_singleton.mpr hs)
  | _ + 13 => exact .pure nofun

/-! ### Records -/

theorem message : Framed S S Parser.message .message := by
  refine number 1 fun mask => ?_
  split_ifs
  · exact text?.bind fun _ _ => text hS
  · exact text?.bind fun _ _ => .pure hS
  · exact text hS
  · exact .pure hS

omit hS in
theorem traceContext? :
    Framed S (fun t? => ∀ s ∈ (t?.bind (·.parentOrigin)).toList, S s) Parser.traceContext?
      .traceContext := by
  rw [Parser.traceContext?, Parser.traceId]
  simp only [bind_assoc, pure_bind]
  refine fixed 4 fun _ => fixed 2 fun _ => fixed 2 fun _ => fixed 8 fun _ => number 8 fun span =>
    number 8 fun _ => text?.bind_done fun origin horigin => .pure ?_
  split_ifs
  · simp
  · exact horigin

theorem entries (n : Nat) : Framed S (fun es => ∀ e ∈ es, (∀ s ∈ e.1.toList, S s) ∧
    ∀ s ∈ e.2.texts, S s) (Parser.entries n) (.entries n) := by
  induction n with
  | zero => exact .pure nofun
  | succ n ih =>
    exact text?.bind fun key hkey => (scalar hS).bind fun v hv => ih.bind_done fun es hes =>
      .pure (List.forall_mem_cons.mpr ⟨⟨hkey, hv⟩, hes⟩)

theorem attributes : Framed S (fun a => ∀ e ∈ a.entries, ∀ s ∈ e.1 :: e.2.texts, S s)
    Parser.attributes .attributes := by
  refine signed 4 fun count => (entries hS _).bind_done fun es hes => .pure fun e he => ?_
  obtain ⟨hname, hvalue⟩ := hes _ (Attributes.mem_entries_ofNamed he)
  exact List.forall_mem_cons.mpr ⟨hname _ (by simp), hvalue⟩

/-- **The frame of records.** -/
theorem logRecord : Framed S (fun r => ∀ s ∈ r.texts, S s) Parser.logRecord .logRecord := by
  refine signed 8 fun _ => number 2 fun _ => (nodeId? hS).bind fun eventType heventType =>
    (nodeId? hS).bind fun sourceNode hsourceNode => text?.bind fun sourceName hsourceName =>
    (message hS).bind fun message hmessage => traceContext?.bind fun trace htrace =>
    (attributes hS).bind_done fun attributes hattributes => .pure ?_
  simp only [LogRecord.texts, List.forall_mem_append, List.forall_mem_flatMap,
    List.forall_mem_singleton] at heventType hsourceNode ⊢
  exact ⟨⟨⟨⟨⟨heventType, hsourceNode⟩, hsourceName⟩, hmessage⟩, htrace⟩, hattributes⟩

end Framed

/-! ### Records -/

namespace LogRecord

variable {data data' : Bytes}

/-- The contents that are met when a record is decoded, up to the first fault: those of the texts of
its identifiers and of opaque identifiers, of its source name, the locale and the message, the
origin of its parent span, and the names and texts of its attributes. -/
def contents (data : Bytes) : List Extent := Frame.logRecord.contents (placeAt data 0)

/-- Decoding ends where the frame of records does. -/
theorem snd_decode (data : Bytes) :
    Prod.snd <$> decode data = Frame.logRecord.parser.ends (placeAt data 0) := by
  have hframed := Framed.logRecord (S := fun _ => True) trivial
  rw [← hframed.forget fun _ => trivial, Parser.ends_map, decode, Read.follows_logRecord.decodeWith,
    Parser.parse, Parser.ends, placeAt, List.drop_zero]
  cases Parser.logRecord ⟨data, 0⟩ <;> rfl

theorem contents_run (data : Bytes) : Frame.Run data .logRecord 0 (contents data)
    (Prod.snd <$> decode data) := by
  rw [snd_decode]
  exact Frame.run data .logRecord 0

/-- Contents that are all there are read as a text, after their length. -/
theorem decode_content {c : Extent} (hc : c ∈ contents data) (hwithin : c.Within data) :
    4 ≤ c.start ∧ decodeWith Read.text? (data.drop (c.start - 4)) =
      .ok (some (Utf8.decode (c.of data)), 4 + c.length) := by
  obtain ⟨start, n⟩ := c
  obtain ⟨p, rfl, hlength⟩ := (contents_run data).length? _ hc
  have htext := Parser.map_ok (g := Option.map Utf8.decode)
    (Parser.byteString?_placeAt_present hlength hwithin)
  obtain ⟨k, hdecode, -, hk⟩ := Read.follows_text?.decodeWith_unread Parser.laid_text? htext
  obtain rfl : 4 + n = k := by
    simp only [placeAt] at hk
    omega
  exact ⟨Nat.le_add_left .., hdecode⟩

/-- **The texts of a record are contents**, decoded, or empty. -/
theorem texts_eq_contents {r : LogRecord} {n : Nat} (h : decode data = .ok (r, n)) :
    ∀ s ∈ r.texts, s = "" ∨
      ∃ c ∈ contents data, c.Within data ∧ s = Utf8.decode (c.of data) := by
  have hrun := contents_run data
  rw [h] at hrun
  rw [decode, Read.follows_logRecord.decodeWith] at h
  obtain ⟨there, hparse, -⟩ := Parser.parse_eq_ok.mp h
  have hparse : Parser.logRecord (placeAt data 0) = .ok (r, there) := hparse
  exact (Framed.logRecord (.inl rfl)).yields
    (fun c hc => .inr ⟨c, hc, Frame.Run.within hrun c hc, rfl⟩) hparse

/-- **Contents are not looked at**: data that differ in contents alone have them in the same places,
and decoding them ends in the same way. -/
theorem snd_decode_eq_of_agree (h : AgreeOutside (contents data) data data') :
    Prod.snd <$> decode data' = Prod.snd <$> decode data ∧ contents data' = contents data := by
  have hrun := (contents_run data).blind h.length fun i _ hi => by
    by_cases hlt : i < data.length
    · exact h.get i hlt hi
    · rw [List.getElem?_eq_none (Nat.not_lt.mp hlt),
        List.getElem?_eq_none (h.length ▸ Nat.not_lt.mp hlt)]
  rw [snd_decode data']
  exact ⟨hrun.ends_eq, hrun.contents_eq⟩

/-- The data with a byte that is no part of any UTF-8 in place of each byte of its contents. -/
def garbled (data : Bytes) : Bytes :=
  data.mapIdx fun i b => if ∃ c ∈ contents data, c.Covers i then 0xFF else b

theorem agreeOutside_garbled (data : Bytes) : AgreeOutside (contents data) data (garbled data) where
  length := List.length_mapIdx
  get i hi houtside := by
    have hnot : ¬ ∃ c ∈ contents data, c.Covers i := fun ⟨c, hc, hcovers⟩ =>
      houtside c hc hcovers
    rw [garbled, List.getElem?_mapIdx]
    simp only [hnot, if_false, Option.map_id']

end LogRecord

/-- **Framing does not look at contents.** Let a byte string differ from the data in contents of
texts and byte strings alone, where decoding the data finds these. Then it is decoded to the same
number of bytes, or with the same error, and has its contents in the same places. Contents that are
all there are read as a text, and if they are UTF-8 they are just the bytes of this text. And each
text of a record is that of such contents, or empty. -/
theorem framing_ignores_contents (data : Bytes) :
    (∀ data', AgreeOutside (LogRecord.contents data) data data' →
      Prod.snd <$> LogRecord.decode data' = Prod.snd <$> LogRecord.decode data ∧
        LogRecord.contents data' = LogRecord.contents data) ∧
      (∀ c ∈ LogRecord.contents data, c.Within data →
        4 ≤ c.start ∧ decodeWith Read.text? (data.drop (c.start - 4)) =
          .ok (some (Utf8.decode (c.of data)), 4 + c.length) ∧
        (Utf8.IsValid (c.of data) → Utf8.encode (Utf8.decode (c.of data)) = c.of data)) ∧
      ∀ r n, LogRecord.decode data = .ok (r, n) → ∀ s ∈ r.texts,
        s = "" ∨
          ∃ c ∈ LogRecord.contents data, c.Within data ∧ s = Utf8.decode (c.of data) := by
  refine ⟨fun data' h => LogRecord.snd_decode_eq_of_agree h, fun c hc hwithin => ?_,
    fun r n h => LogRecord.texts_eq_contents h⟩
  obtain ⟨hle, hdecode⟩ := LogRecord.decode_content hc hwithin
  exact ⟨hle, hdecode, Utf8.encode_decode_iff.mpr⟩

/-- A record with contents of every kind: the text of its event type, the opaque identifier of its
source node, its source name, the locale and text of its message, the origin of its parent span, and
two names, one of them with a text. -/
def textedBytes : Bytes :=
  List.replicate 8 0 ++ [0xF4, 1] ++ [3, 0, 0, 2, 0, 0, 0, 97, 98] ++ [5, 0, 0, 1, 0, 0, 0, 7] ++
    [1, 0, 0, 0, 112] ++ [3, 2, 0, 0, 0, 101, 110, 2, 0, 0, 0, 104, 105] ++
    (List.replicate 16 0 ++ [1] ++ List.replicate 15 0 ++ [1, 0, 0, 0, 103]) ++
    ([2, 0, 0, 0] ++ [1, 0, 0, 0, 107, 12, 1, 0, 0, 0, 118] ++ [1, 0, 0, 0, 106, 0])

/-- When all contents are garbled, the two names become one, and the record ends where it did. -/
theorem framing_ignores_contents_textedBytes :
    LogRecord.contents textedBytes =
        [⟨17, 2⟩, ⟨26, 1⟩, ⟨31, 1⟩, ⟨37, 2⟩, ⟨43, 2⟩, ⟨81, 1⟩, ⟨90, 1⟩, ⟨96, 1⟩, ⟨101, 1⟩] ∧
      (∃ r, LogRecord.decode textedBytes = .ok (r, 103) ∧ r.attributes.size = 2 ∧
        ∀ s ∈ r.texts, s = "" ∨ ∃ c ∈ LogRecord.contents textedBytes,
          c.Within textedBytes ∧ s = Utf8.decode (c.of textedBytes)) ∧
      (∃ r, LogRecord.decode (LogRecord.garbled textedBytes) = .ok (r, 103) ∧
        r.attributes.size = 1) ∧
      Utf8.encode (Utf8.decode [97, 98]) = [97, 98] := by
  obtain ⟨hblind, hcontents, htexts⟩ := framing_ignores_contents textedBytes
  have hfound : LogRecord.contents textedBytes =
      [⟨17, 2⟩, ⟨26, 1⟩, ⟨31, 1⟩, ⟨37, 2⟩, ⟨43, 2⟩, ⟨81, 1⟩, ⟨90, 1⟩, ⟨96, 1⟩, ⟨101, 1⟩] := by
    decide +kernel
  have hdecode : ((LogRecord.decode textedBytes).toOption.map
      fun r => (r.2, r.1.attributes.size)) = some (103, 2) := by decide +kernel
  have hgarbled : ((LogRecord.decode (LogRecord.garbled textedBytes)).toOption.map
      fun r => r.1.attributes.size) = some 1 := by decide +kernel
  obtain ⟨⟨r, n⟩, hr, hsize⟩ := Option.map_eq_some_iff.mp hdecode
  obtain ⟨⟨r', n'⟩, hr', hsize'⟩ := Option.map_eq_some_iff.mp hgarbled
  obtain ⟨rfl, hsize⟩ := Prod.mk.inj hsize
  have hr := eq_ok_of_toOption hr
  have hr' := eq_ok_of_toOption hr'
  -- The record ends where it did, because only its contents are garbled.
  obtain ⟨hends, -⟩ := hblind _ (LogRecord.agreeOutside_garbled textedBytes)
  rw [hr, hr'] at hends
  cases hends
  obtain ⟨-, -, hvalid⟩ := hcontents ⟨17, 2⟩ (hfound ▸ List.mem_cons_self) (by decide)
  exact ⟨hfound, ⟨r, hr, hsize, htexts r 103 hr⟩, ⟨r', hr', hsize'⟩,
    hvalid (Utf8.isValid_iff.mpr ⟨"ab", rfl⟩)⟩

end LogHistory
