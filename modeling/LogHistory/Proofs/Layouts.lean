import LogHistory.Proofs.FirstFault

/-!
# Layouts

Every parser of the wire is a tree of two kinds of reads: so many bytes, and a length. Which read
comes next, and what value comes out, may depend on what has been read. But nothing else can be
asked of the bytes, neither how many there are nor where they stand (`Parser.Laid`). What is true of
all such trees is true of identifiers, scalars and records, and is proved by induction on the tree.

## What is proved

* `Laid.bind` — a layout after a layout is a layout.
* `laid_nodeId`, `laid_scalar`, `laid_logRecord` — the parsers of the wire are layouts.
-/

namespace LogHistory.Parser

/-- A parser that reads so many bytes, or a length, and goes on as a layout with what it has
read. -/
inductive Laid {α : Type} : Parser α → Prop where
  /-- Nothing more is read. -/
  | pure (a : α) : Laid (Pure.pure a)
  /-- So many bytes come first. -/
  | take (n : Nat) {f : Bytes → Parser α} (hf : ∀ bs, Laid (f bs)) : Laid (Parser.take n >>= f)
  /-- A length comes first. -/
  | length {f : Option Nat → Parser α} (hf : ∀ n, Laid (f n)) : Laid (Parser.length? >>= f)

variable {α β : Type}

/-- **A layout after a layout is a layout.** -/
theorem Laid.bind {q : Parser α} (hq : Laid q) {f : α → Parser β} (hf : ∀ a, Laid (f a)) :
    Laid (q >>= f) := by
  induction hq with
  | pure a =>
    rw [pure_bind]
    exact hf a
  | take n _ ih =>
    rw [bind_assoc]
    exact .take n ih
  | length _ ih =>
    rw [bind_assoc]
    exact .length ih

theorem Laid.map {q : Parser α} (hq : Laid q) (f : α → β) : Laid (f <$> q) := by
  rw [map_eq_pure_bind]
  exact hq.bind fun a => .pure (f a)

theorem laid_take (n : Nat) : Laid (take n) := by
  rw [← bind_pure (take n)]
  exact .take n .pure

theorem laid_length? : Laid length? := by
  rw [← bind_pure length?]
  exact .length .pure

/-! ### Numbers and texts -/

theorem laid_number (w : Nat) : Laid (number w) := (laid_take w).map _

theorem laid_signed (w : Nat) : Laid (signed w) := (laid_number w).map _

theorem laid_byteString? : Laid byteString? := by
  refine laid_length?.bind fun n => ?_
  cases n with
  | none => exact .pure none
  | some n => exact (laid_take n).map some

theorem laid_text? : Laid text? := laid_byteString?.map _

theorem laid_text : Laid text := laid_text?.map _

/-! ### Identifiers and scalars -/

theorem laid_nodeId : Laid nodeId := by
  refine (laid_number 1).bind fun form => ?_
  split
  · exact (laid_number 1).bind fun _ => .pure _
  · exact (laid_number 1).bind fun _ => (laid_number 2).bind fun _ => .pure _
  · exact (laid_number 2).bind fun _ => (laid_number 4).bind fun _ => .pure _
  · exact (laid_number 2).bind fun _ => laid_text.bind fun _ => .pure _
  · exact .take 2 fun _ => .take 16 fun _ => .pure _
  · exact .take 2 fun _ => laid_byteString?.bind fun _ => .pure _
  · exact .pure _

theorem laid_nodeId? : Laid nodeId? := laid_nodeId.bind fun _ => .pure _

theorem laid_scalar : Laid scalar := by
  refine (laid_number 1).bind fun tag => ?_
  split
  · exact .pure _
  · exact (laid_number 1).bind fun _ => .pure _
  · exact (laid_signed 1).bind fun _ => .pure _
  · exact (laid_number 1).bind fun _ => .pure _
  · exact (laid_signed 2).bind fun _ => .pure _
  · exact (laid_number 2).bind fun _ => .pure _
  · exact (laid_signed 4).bind fun _ => .pure _
  · exact (laid_number 4).bind fun _ => .pure _
  · exact (laid_signed 8).bind fun _ => .pure _
  · exact (laid_number 8).bind fun _ => .pure _
  · exact (laid_number 4).bind fun _ => .pure _
  · exact (laid_number 8).bind fun _ => .pure _
  · exact laid_text.bind fun _ => .pure _
  · exact .pure _

/-! ### Records -/

theorem laid_message : Laid message := by
  refine (laid_number 1).bind fun mask => ?_
  split_ifs
  · exact laid_text?.bind fun _ => laid_text
  · exact laid_text?.bind fun _ => .pure _
  · exact laid_text
  · exact .pure _

theorem laid_fixed (n : Nat) : Laid (fixed n) := by
  rw [fixed_eq_map]
  exact (laid_take n).map _

theorem laid_traceId : Laid traceId :=
  (laid_fixed 4).bind fun _ => (laid_fixed 2).bind fun _ => (laid_fixed 2).bind fun _ =>
    (laid_fixed 8).bind fun _ => .pure _

theorem laid_traceContext? : Laid traceContext? :=
  laid_traceId.bind fun _ => (laid_number 8).bind fun _ => (laid_number 8).bind fun _ =>
    laid_text?.bind fun _ => .pure _

theorem laid_entries (n : Nat) : Laid (entries n) := by
  induction n with
  | zero => exact .pure []
  | succ n ih =>
    exact laid_text?.bind fun _ => laid_scalar.bind fun _ => ih.bind fun _ => .pure _

theorem laid_attributes : Laid attributes :=
  (laid_signed 4).bind fun count => (laid_entries count.toNat).bind fun _ => .pure _

/-- **The layout of records.** -/
theorem laid_logRecord : Laid logRecord :=
  (laid_signed 8).bind fun _ => (laid_number 2).bind fun _ => laid_nodeId?.bind fun _ =>
    laid_nodeId?.bind fun _ => laid_text?.bind fun _ => laid_message.bind fun _ =>
    laid_traceContext?.bind fun _ => laid_attributes.bind fun _ => .pure _

end LogHistory.Parser
