import LogHistory.DecoderTable
import LogHistory.Proofs.SelfDelimiting
import Mathlib.Data.List.Induction

/-!
# What a decoder table answers

A table starts with no type or with the standard one, and decoders are registered for types one
after another, for a type also more than once. Of all this only two things count for a payload: the
decoder that was registered last for just its type (`lastFor`), and whether its type is the standard
one. A decoder may be any function; it can add to what is accepted but take nothing away, since
bytes that it refuses are tried as a plain log record.

## What is proved

* `kind?_registerAll` — what a table knows of a type after any registrations.
* `decodeRaw_of_accepted`, `decodeRaw_of_refused` — the answer for bytes that are a plain log
  record, and for bytes that are none.
* `decode_registered` — the answer for every payload.
-/

namespace LogHistory

/-- A decoder with the type that it is registered for. -/
structure Registration where
  /-- The type. -/
  typeId : NodeId
  /-- The decoder. -/
  decoder : Decoder

/-- The decoder that was registered last for a type. -/
def lastFor (typeId : NodeId) (regs : List Registration) : Option Decoder :=
  (regs.filter (·.typeId = typeId)).getLast?.map Registration.decoder

namespace DecoderTable

/-- The table that registrations start from. It may know the standard type. -/
def start (standard : Bool) : DecoderTable := if standard then default else empty

/-- The table after registrations, made in the order of the list. -/
def registerAll (t : DecoderTable) (regs : List Registration) : DecoderTable :=
  regs.foldl (fun t reg => t.register reg.typeId reg.decoder) t

/-! ### What is known of a type -/

theorem kind?_register (t : DecoderTable) (typeId other : NodeId) (decoder : Decoder) :
    (t.register other decoder).kind? typeId =
      if other = typeId then some (.custom decoder) else t.kind? typeId := by
  rw [kind?, register, List.lookup_cons]
  by_cases h : other = typeId
  · rw [if_pos h, h, beq_self_eq_true]
  · rw [if_neg h, beq_false_of_ne (Ne.symm h), kind?]

theorem lastFor_concat (typeId : NodeId) (regs : List Registration) (reg : Registration) :
    lastFor typeId (regs ++ [reg]) =
      if reg.typeId = typeId then some reg.decoder else lastFor typeId regs := by
  by_cases h : reg.typeId = typeId
  · simp [lastFor, List.filter_append, h]
  · simp [lastFor, List.filter_append, h]

/-- **What a table knows of a type** after registrations: the decoder registered last for it, and if
there is none what was known before. -/
theorem kind?_registerAll (t : DecoderTable) (typeId : NodeId) (regs : List Registration) :
    (t.registerAll regs).kind? typeId =
      ((lastFor typeId regs).map DecoderKind.custom).or (t.kind? typeId) := by
  induction regs using List.reverseRecOn with
  | nil => rfl
  | append_singleton regs reg ih =>
    rw [registerAll, List.foldl_append, List.foldl_cons, List.foldl_nil, kind?_register,
      lastFor_concat]
    split_ifs with h
    · rfl
    · exact ih

theorem kind?_start (standard : Bool) (typeId : NodeId) :
    (start standard).kind? typeId =
      if standard ∧ typeId = .logRecordType then some .standard else none := by
  cases standard with
  | false => rfl
  | true =>
    by_cases h : typeId = .logRecordType
    · rw [if_pos ⟨rfl, h⟩, h]
      rfl
    · rw [if_neg fun hboth => h hboth.2, start, if_pos rfl, kind?, default, List.lookup_cons,
        beq_false_of_ne h]
      rfl

/-! ### Answers -/

variable {t : DecoderTable} {typeId : NodeId} {data : Bytes}

theorem decode_raw (hdata : data ≠ []) :
    t.decode ⟨typeId, .raw data⟩ = t.decodeRaw typeId data := by
  cases data with
  | nil => exact absurd rfl hdata
  | cons b bs => rfl

theorem decode_congr {t' : DecoderTable} {p : Payload} (h : t.kind? p.typeId = t'.kind? p.typeId) :
    t.decode p = t'.decode p := by
  unfold decode decodeRaw
  rw [h]

/-- **Bytes that are a plain log record are accepted**, whatever the table knows. The record is that
of the decoder for just this type, if there is one that accepts them too. -/
theorem decodeRaw_of_accepted {r : LogRecord} {n : Nat} (h : LogRecord.decode data = .ok (r, n)) :
    t.decodeRaw typeId data = .ok (match t.kind? typeId with
      | some (.custom decoder) => (decoder data).toOption.getD r
      | _ => r) := by
  have hstandard : standardDecoder data = .ok r := by
    rw [standardDecoder, h]
    rfl
  cases hkind : t.kind? typeId with
  | none => simp [decodeRaw, hkind, hstandard, Except.mapError]
  | some kind =>
    cases kind with
    | standard => simp [decodeRaw, hkind, hstandard, Except.mapError]
    | custom decoder =>
      cases hown : decoder data with
      | ok record => simp [decodeRaw, hkind, hown, Except.toOption]
      | error own => simp [decodeRaw, hkind, hstandard, hown, Except.mapError, Except.toOption]

/-- **Bytes that are no plain log record** are accepted only by a decoder for just their type. Its
own error is reported if there is one, and else that of the plain log record. -/
theorem decodeRaw_of_refused {e : DecodeError} (h : LogRecord.decode data = .error e) :
    t.decodeRaw typeId data = match t.kind? typeId with
      | some (.custom decoder) => (decoder data).mapError (.decode typeId)
      | some .standard => .error (.decode typeId e)
      | none => .error (.unrecognizedType typeId e) := by
  have hstandard : standardDecoder data = .error e := by
    rw [standardDecoder, h]
    rfl
  cases hkind : t.kind? typeId with
  | none => simp [decodeRaw, hkind, hstandard, Except.mapError]
  | some kind =>
    cases kind with
    | standard => simp [decodeRaw, hkind, hstandard, Except.mapError]
    | custom decoder =>
      cases hown : decoder data with
      | ok record => simp [decodeRaw, hkind, hown, Except.mapError]
      | error own => simp [decodeRaw, hkind, hstandard, hown, Except.mapError]

/-- **The answer for every payload**, after any registrations in a table that knows no type or the
standard one. A record is handed on as it is, and nothing is answered with an error that says so.
Bytes that are a plain log record are never refused; the record is that of the decoder registered
last for just their type, if there is one and it accepts them, and the plain one otherwise. Bytes
that are none are left to such a decoder and its errors; without one it depends on whether the
standard type is known which error has the cause why they are none. Registrations for other types,
wherever they stand, change nothing. -/
theorem decode_registered (standard : Bool) (regs : List Registration) (typeId : NodeId) :
    let t := (start standard).registerAll regs
    (∀ r, t.decode ⟨typeId, .structured r⟩ = .ok r) ∧
      t.decode ⟨typeId, .empty⟩ = .error (.empty typeId) ∧
      t.decode ⟨typeId, .raw []⟩ = .error (.empty typeId) ∧
      (∀ data r n, data ≠ [] → LogRecord.decode data = .ok (r, n) →
        t.decode ⟨typeId, .raw data⟩ = .ok (match lastFor typeId regs with
          | some decoder => (decoder data).toOption.getD r
          | none => r)) ∧
      (∀ data e, data ≠ [] → LogRecord.decode data = .error e →
        t.decode ⟨typeId, .raw data⟩ = match lastFor typeId regs with
          | some decoder => (decoder data).mapError (.decode typeId)
          | none =>
            if standard ∧ typeId = .logRecordType then .error (.decode typeId e)
            else .error (.unrecognizedType typeId e)) ∧
      ∀ regs' : List Registration,
        regs'.filter (·.typeId = typeId) = regs.filter (·.typeId = typeId) →
          ∀ body, ((start standard).registerAll regs').decode ⟨typeId, body⟩ =
            t.decode ⟨typeId, body⟩ := by
  intro t
  have hkind := kind?_registerAll (start standard) typeId regs
  rw [kind?_start] at hkind
  refine ⟨fun r => rfl, rfl, rfl, fun data r n hdata h => ?_, fun data e hdata h => ?_,
    fun regs' h body => ?_⟩
  · rw [decode_raw hdata, decodeRaw_of_accepted h, hkind]
    cases lastFor typeId regs with
    | some decoder => rfl
    | none =>
      rw [Option.map_none, Option.none_or]
      split_ifs
      · rfl
      · rfl
  · rw [decode_raw hdata, decodeRaw_of_refused h, hkind]
    cases lastFor typeId regs with
    | some decoder => rfl
    | none =>
      rw [Option.map_none, Option.none_or]
      split_ifs
      · rfl
      · rfl
  · apply decode_congr
    rw [hkind, kind?_registerAll, kind?_start, lastFor, lastFor, h]

/-- A decoder that refuses everything. -/
def refusing : Decoder := fun _ => .error (.unexpectedEnd 3 7)

/-- Registrations of which the last but one is for a type in another namespace, and the last takes
the place of the first. -/
def replacing : List Registration :=
  [⟨.logRecordType, fun _ => .ok foreignRecord⟩, ⟨.numeric 1 5001, standardDecoder⟩,
    ⟨.logRecordType, refusing⟩]

/-- The decoder that was replaced accepts nothing any more, the one in its place takes nothing away
but has its error reported, and that of the other namespace might as well not be there. -/
theorem decode_registered_replacing :
    (foreignBytes ++ [9] ≠ [] ∧ LogRecord.decode (foreignBytes ++ [9]) = .ok (foreignRecord, 111) ∧
      ((start true).registerAll replacing).decode ⟨.logRecordType, .raw (foreignBytes ++ [9])⟩ =
        .ok foreignRecord) ∧
    ([1] ≠ ([] : Bytes) ∧ LogRecord.decode [1] = .error (.unexpectedEnd 0 8) ∧
      ((start true).registerAll replacing).decode ⟨.logRecordType, .raw [1]⟩ =
        .error (.decode .logRecordType (.unexpectedEnd 3 7))) ∧
    ([⟨.logRecordType, fun _ => .ok foreignRecord⟩, ⟨.logRecordType, refusing⟩] :
        List Registration).filter (·.typeId = .logRecordType) =
      replacing.filter (·.typeId = .logRecordType) ∧
    ((start true).registerAll [⟨.logRecordType, fun _ => .ok foreignRecord⟩,
        ⟨.logRecordType, refusing⟩]).decode ⟨.logRecordType, .raw [1]⟩ =
      ((start true).registerAll replacing).decode ⟨.logRecordType, .raw [1]⟩ := by
  obtain ⟨-, -, -, haccepted, hrefused, hothers⟩ := decode_registered true replacing .logRecordType
  have hne : foreignBytes ++ [9] ≠ [] := by decide
  have hlast : lastFor .logRecordType replacing = some refusing := by
    simp [lastFor, replacing, NodeId.logRecordType]
  rw [hlast] at haccepted hrefused
  have hshort : LogRecord.decode [1] = .error (.unexpectedEnd 0 8) := by
    rw [LogRecord.decode, Read.follows_logRecord.decodeWith]
    exact Parser.parse_error (Parser.bind_error (Parser.map_error (Parser.map_error
      (Parser.take_error (by decide)))))
  refine ⟨⟨hne, decode_foreignBytes, haccepted _ _ _ hne decode_foreignBytes⟩,
    ⟨by decide, hshort, hrefused [1] _ (by decide) hshort⟩, ?_⟩
  have hfilter : ([⟨.logRecordType, fun _ => .ok foreignRecord⟩, ⟨.logRecordType, refusing⟩] :
      List Registration).filter (·.typeId = .logRecordType) =
        replacing.filter (·.typeId = .logRecordType) := by
    simp [replacing, NodeId.logRecordType]
  exact ⟨hfilter, hothers _ hfilter (.raw [1])⟩

end DecoderTable

end LogHistory
