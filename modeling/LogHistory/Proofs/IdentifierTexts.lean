import LogHistory.NodeId.Grammar
import Mathlib.Data.List.Basic

/-!
# Identifiers come back from their text

The text of an identifier ends with its number or its own text as it is, with nothing put around it
or in place of any character of it. That is no loss, for nothing in front of it can be taken for
something else: a namespace is a numeral, which has no semicolon, so the first semicolon after `ns=`
ends it, whatever stands behind; and without a namespace a text starts with `i=` or `s=`, never with
`ns=`. So what is read is the identifier that was written, also where its text holds semicolons,
equals signs or the start of another identifier.

Reading is taken in two steps, by the grammar of identifiers: what is written is a text of the
grammar (`NodeId.spells_toText`), and a text of the grammar is read as what it spells
(`NodeId.parse_of_spells`).

## What is proved

* `Numeral.parse?_of_spells`, `Numeral.spells_toDigits` — numerals are read as their value, and the
  decimal digits of a number are a numeral with this value.
* `NodeId.parse_of_spells` — texts of the grammar are read as what they spell.
* `NodeId.parse_toText` — the text of an identifier is read as this identifier.
* `NodeId.toText_injective` — so no two identifiers have the same text.
-/

namespace LogHistory

/-! ### Numerals -/

namespace Numeral

variable {bound n : Nat} {cs ds : List Char}

theorem valueFrom_digits (h : ∀ d ∈ ds, '0' ≤ d ∧ d ≤ '9') (n : Nat) :
    valueFrom n ds = some (Nat.ofDigitChars 10 ds n) := by
  induction ds generalizing n with
  | nil => rfl
  | cons d ds ih =>
    obtain ⟨hd, hds⟩ := List.forall_mem_cons.mp h
    rw [valueFrom, digit?, if_pos hd, Option.bind_some, ih hds, Nat.ofDigitChars_cons]
    rfl

theorem value?_digits (hne : ds ≠ []) (h : ∀ d ∈ ds, '0' ≤ d ∧ d ≤ '9') :
    value? ds = some (digitsValue ds) := by
  cases ds with
  | nil => exact absurd rfl hne
  | cons d ds => exact valueFrom_digits h 0

theorem unsigned_digits (h : ∀ d ∈ ds, '0' ≤ d ∧ d ≤ '9') : unsigned ds = ds := by
  cases ds with
  | nil => rfl
  | cons d ds =>
    have hd : d ≠ '+' := by
      rintro rfl
      exact absurd (List.forall_mem_cons.mp h).1 (by decide)
    unfold unsigned
    split
    · next heq => exact absurd (List.cons_eq_cons.mp heq).1 hd
    · rfl

/-- **A numeral is read as its value**, with or without a sign. -/
theorem parse?_of_spells (h : Spells bound cs n) : parse? bound cs = some n := by
  cases h with
  | plain hne hdigits hlt =>
    rw [parse?, unsigned_digits hdigits, value?_digits hne hdigits]
    simp [Option.filter, hlt]
  | signed hne hdigits hlt =>
    rw [parse?, unsigned, value?_digits hne hdigits]
    simp [Option.filter, hlt]

theorem semicolon_notMem_of_spells (h : Spells bound cs n) : ';' ∉ cs := by
  have hdigit : ∀ {ds : List Char}, (∀ d ∈ ds, '0' ≤ d ∧ d ≤ '9') → ';' ∉ ds :=
    fun hdigits hmem => absurd (hdigits _ hmem) (by decide)
  cases h with
  | plain _ hdigits _ => exact hdigit hdigits
  | signed _ hdigits _ =>
    rw [List.mem_cons, not_or]
    exact ⟨by decide, hdigit hdigits⟩

theorem digitsValue_toDigits (n : Nat) : digitsValue (Nat.toDigits 10 n) = n :=
  Nat.ofDigitChars_ten_toDigits

/-- **The decimal digits of a number are a numeral** with this value. -/
theorem spells_toDigits (h : n < bound) : Spells bound (Nat.toDigits 10 n) n := by
  have hdigits : ∀ d ∈ Nat.toDigits 10 n, '0' ≤ d ∧ d ≤ '9' := fun d hd => by
    have hdigit := Nat.isDigit_of_mem_toDigits (by decide) (by decide) hd
    rw [Char.isDigit, Bool.and_eq_true, decide_eq_true_iff, decide_eq_true_iff] at hdigit
    exact hdigit
  have hplain : Spells bound (Nat.toDigits 10 n) (digitsValue (Nat.toDigits 10 n)) :=
    .plain Nat.toDigits_ne_nil hdigits (by rwa [digitsValue_toDigits])
  rwa [digitsValue_toDigits] at hplain

end Numeral

namespace NodeId

variable {ns : UInt16} {cs : List Char} {id : NodeId} {s : String}

/-! ### Texts of the grammar -/

theorem splitSemicolon?_append {before : List Char} (h : ';' ∉ before) (after : List Char) :
    splitSemicolon? (before ++ ';' :: after) = some (before, after) := by
  induction before with
  | nil => rfl
  | cons c cs ih =>
    have hc : c ≠ ';' := fun hc => h (hc ▸ List.mem_cons_self)
    rw [List.cons_append, splitSemicolon?, if_neg hc, ih fun hcs => h (List.mem_cons_of_mem c hcs)]
    rfl

theorem parseValue_of_spells (whole : String) (h : SpellsValue ns cs id) :
    parseValue whole ns cs = .ok id := by
  cases h with
  | numeric hnumeral => rw [parseValue, Numeral.parse?_of_spells hnumeral]
  | text => rfl

theorem parseChars_of_spells (whole : String) (h : Spells cs id) :
    parseChars whole cs = .ok id := by
  rcases h with h | @⟨ds, value, n, id, hns, h⟩
  · -- What starts with `i=` or `s=` is not taken for a namespace.
    rw [← parseValue_of_spells whole h]
    cases h <;> rfl
  · have hsplit := splitSemicolon?_append (Numeral.semicolon_notMem_of_spells hns) value
    rw [parseChars, hsplit]
    simp only [Numeral.parse?_of_spells hns]
    exact parseValue_of_spells whole h

/-- **A text of the grammar is read as what it spells.** -/
theorem parse_of_spells (h : Spells s.toList id) : parse s = .ok id :=
  parseChars_of_spells s h

/-! ### Texts that are written -/

/-- What stands before the number or text. -/
def nsChars (id : NodeId) : List Char :=
  if id.ns = 0 then [] else 'n' :: 's' :: '=' :: (Nat.toDigits 10 id.ns.toNat ++ [';'])

/-- The number or text, and which of them it is. -/
def valueChars : NodeId → List Char
  | numeric _ value => 'i' :: '=' :: Nat.toDigits 10 value.toNat
  | text _ value => 's' :: '=' :: value.toList

theorem toList_toText (id : NodeId) : id.toText.toList = id.nsChars ++ id.valueChars := by
  have hns : (if id.ns = 0 then "" else "ns=" ++ toString id.ns.toNat ++ ";").toList =
      id.nsChars := by
    unfold nsChars
    split_ifs
    · rfl
    · simp [Nat.toString_eq_repr]
  cases id with
  | numeric ns value =>
    rw [toText, String.toList_append, hns]
    simp [valueChars, Nat.toString_eq_repr]
  | text ns value =>
    rw [toText, String.toList_append, hns]
    simp [valueChars]

theorem spellsValue_valueChars (id : NodeId) : SpellsValue id.ns id.valueChars id := by
  cases id with
  | numeric ns value =>
    have hvalue : SpellsValue ns ('i' :: '=' :: Nat.toDigits 10 value.toNat)
        (numeric ns (.ofNat value.toNat)) := .numeric (Numeral.spells_toDigits value.toNat_lt)
    rwa [UInt32.ofNat_toNat] at hvalue
  | text ns value =>
    have hvalue : SpellsValue ns ('s' :: '=' :: value.toList) (text ns (.ofList value.toList)) :=
      .text
    rwa [String.ofList_toList] at hvalue

/-- Within a namespace an identifier is told by its number or text. -/
theorem valueChars_inj {a b : NodeId} (hns : a.ns = b.ns) (h : a.valueChars = b.valueChars) :
    a = b := by
  have ha := parseValue_of_spells "" (spellsValue_valueChars a)
  have hb := parseValue_of_spells "" (spellsValue_valueChars b)
  rw [hns, h, hb] at ha
  exact (Except.ok.inj ha).symm

/-- **The text of an identifier is a text of the grammar** that spells it. -/
theorem spells_toText (id : NodeId) : Spells id.toText.toList id := by
  have hvalue := spellsValue_valueChars id
  rw [toList_toText, nsChars]
  split_ifs with hns
  · rw [hns] at hvalue
    exact .bare hvalue
  · rw [← UInt16.ofNat_toNat (x := id.ns)] at hvalue
    have hscoped := Spells.scoped (Numeral.spells_toDigits id.ns.toNat_lt) hvalue
    simpa only [List.cons_append, List.append_assoc, List.nil_append] using hscoped

/-- **The text of an identifier is read as this identifier.** -/
theorem parse_toText (id : NodeId) : parse id.toText = .ok id :=
  parse_of_spells (spells_toText id)

/-- **No two identifiers have the same text**, since each is read as what it is the text of. -/
theorem toText_injective : Function.Injective toText := by
  intro a b h
  have hparse := (parse_toText a).symm.trans (h ▸ parse_toText b)
  exact Except.ok.inj hparse

end NodeId

open NodeId in
/-- **Identifiers come back from their text.** The text of an identifier, whatever its namespace,
number or own text, is a text of the grammar that spells it and is read as it. So the text tells all
identifiers apart, numbers from texts and namespaces from each other. -/
theorem identifier_texts_come_back :
    (∀ id : NodeId, Spells id.toText.toList id ∧ parse id.toText = .ok id) ∧
      Function.Injective toText :=
  ⟨fun id => ⟨spells_toText id, parse_toText id⟩, toText_injective⟩

/-- A text that is itself written like an identifier with a namespace, and the empty text beside the
number of the same namespace. -/
theorem identifier_texts_come_back_lookalikes :
    (NodeId.text 2 "ns=3;i=4").toText = "ns=2;s=ns=3;i=4" ∧
      NodeId.parse "ns=2;s=ns=3;i=4" = .ok (.text 2 "ns=3;i=4") ∧
      NodeId.parse (NodeId.text 0 "ns=3;i=4").toText = .ok (.text 0 "ns=3;i=4") ∧
      NodeId.parse (NodeId.text 65535 "").toText = .ok (.text 65535 "") ∧
      (NodeId.numeric 0 5).toText ≠ (NodeId.text 0 "5").toText := by
  obtain ⟨hback, hinj⟩ := identifier_texts_come_back
  have htext : (NodeId.text 2 "ns=3;i=4").toText = "ns=2;s=ns=3;i=4" := by decide
  exact ⟨htext, htext ▸ (hback _).2, (hback _).2, (hback _).2, fun h => nomatch hinj h⟩

end LogHistory
