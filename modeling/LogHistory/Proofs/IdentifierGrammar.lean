import LogHistory.Proofs.IdentifierTexts

/-!
# Which texts are identifiers

The texts that are read as identifiers are those of the grammar, and no others: whatever is read is
spelled by the text it was read from. A text that is not of the grammar has a fault, and the faults
are looked for in order. First a namespace has to have an end; then it has to be a numeral, and if
it is not, nothing behind its semicolon counts; then the number has to be one, or else neither a
number nor a text stands there (`NodeId.Misspells`). Numerals are read as their value however many
zeros they start with, so a numeral is refused only for its characters, for having no digit, or for
a value that is too great.

Every text spells an identifier or has one of the faults. That is a fact about the grammar alone;
what the reader does with texts of either sort makes it exact.

## What is proved

* `Numeral.parse?_eq_some_iff`, `Numeral.parse?_eq_none_iff` — what is read as a numeral is one.
* `NodeId.spells_or_misspells` — every text spells an identifier or has a fault.
* `NodeId.parse_of_misspells` — the fault is what is reported.
* `identifiers_read_exactly` — so what is read is what is spelled, and what is reported is what is
  at fault.
-/

namespace LogHistory

/-! ### Numerals -/

namespace Numeral

variable {bound n : Nat} {cs ds : List Char}

theorem digits_of_valueFrom {m : Nat} (h : valueFrom n ds = some m) :
    ∀ d ∈ ds, '0' ≤ d ∧ d ≤ '9' := by
  induction ds generalizing n with
  | nil => exact nofun
  | cons d ds ih =>
    obtain ⟨v, hv, hlater⟩ := Option.bind_eq_some_iff.mp h
    rw [digit?] at hv
    split_ifs at hv with hd
    exact List.forall_mem_cons.mpr ⟨hd, ih hlater⟩

/-- One or more digits have a value, and nothing else has. -/
theorem value?_eq_some_iff :
    value? ds = some n ↔ ds ≠ [] ∧ (∀ d ∈ ds, '0' ≤ d ∧ d ≤ '9') ∧ digitsValue ds = n := by
  constructor
  · intro h
    have hne : ds ≠ [] := by
      rintro rfl
      cases h
    have hdigits : ∀ d ∈ ds, '0' ≤ d ∧ d ≤ '9' := by
      cases ds with
      | nil => exact absurd rfl hne
      | cons d ds => exact digits_of_valueFrom h
    rw [value?_digits hne hdigits] at h
    exact ⟨hne, hdigits, Option.some.inj h⟩
  · rintro ⟨hne, hdigits, rfl⟩
    exact value?_digits hne hdigits

theorem eq_cons_or_unsigned_eq (cs : List Char) : cs = '+' :: unsigned cs ∨ unsigned cs = cs := by
  unfold unsigned
  split
  · exact .inl rfl
  · exact .inr rfl

/-- **What is read as a numeral is a numeral** with this value, and the other way round. -/
theorem parse?_eq_some_iff : parse? bound cs = some n ↔ Spells bound cs n := by
  refine ⟨fun h => ?_, parse?_of_spells⟩
  obtain ⟨hvalue, hlt⟩ := Option.filter_eq_some_iff.mp h
  obtain ⟨hne, hdigits, rfl⟩ := value?_eq_some_iff.mp hvalue
  have hlt := of_decide_eq_true hlt
  rcases eq_cons_or_unsigned_eq cs with hsigned | hplain
  · have hspells := Spells.signed hne hdigits hlt
    rwa [← hsigned] at hspells
  · rw [hplain] at hne hdigits hlt ⊢
    exact .plain hne hdigits hlt

theorem parse?_eq_none_iff : parse? bound cs = none ↔ ∀ n, ¬ Spells bound cs n := by
  simp only [← parse?_eq_some_iff, Option.eq_none_iff_forall_ne_some, ne_eq]

end Numeral

namespace NodeId

/-! ### Faults -/

/-- `MisspellsValue cs e`: the characters spell no identifier within a namespace, which is reported
as `e`. -/
inductive MisspellsValue : List Char → (String → ParseError) → Prop where
  /-- What should be the number is no numeral. -/
  | number {ds : List Char} : (∀ n, ¬ Numeral.Spells UInt32.size ds n) →
      MisspellsValue ('i' :: '=' :: ds) .invalidNumeric
  /-- There is neither a number nor a text. -/
  | neither {cs : List Char} : ¬ ['i', '='] <+: cs → ¬ ['s', '='] <+: cs →
      MisspellsValue cs .unsupportedFormat

/-- `Misspells cs e`: the characters spell no identifier, which is reported as `e`. -/
inductive Misspells : List Char → (String → ParseError) → Prop where
  /-- A namespace has no end. -/
  | endless {cs : List Char} : ';' ∉ cs →
      Misspells ('n' :: 's' :: '=' :: cs) .unsupportedFormat
  /-- What stands before the first semicolon is no numeral, whatever follows it. -/
  | ns {before after : List Char} : ';' ∉ before →
      (∀ n, ¬ Numeral.Spells UInt16.size before n) →
      Misspells ('n' :: 's' :: '=' :: (before ++ ';' :: after)) .invalidNamespace
  /-- The fault is behind a namespace. -/
  | within {ds cs : List Char} {n : Nat} {e : String → ParseError} :
      Numeral.Spells UInt16.size ds n → MisspellsValue cs e →
      Misspells ('n' :: 's' :: '=' :: (ds ++ ';' :: cs)) e
  /-- There is no namespace, and the rest is at fault. -/
  | bare {cs : List Char} {e : String → ParseError} : ¬ ['n', 's', '='] <+: cs →
      MisspellsValue cs e → Misspells cs e

variable {cs : List Char} {id : NodeId} {e : String → ParseError} {s : String}

theorem spellsValue_or_misspellsValue (ns : UInt16) (cs : List Char) :
    (∃ id, SpellsValue ns cs id) ∨ ∃ e, MisspellsValue cs e := by
  by_cases hnumber : ['i', '='] <+: cs
  · obtain ⟨ds, rfl⟩ := hnumber
    by_cases hds : ∃ n, Numeral.Spells UInt32.size ds n
    · obtain ⟨n, hn⟩ := hds
      exact .inl ⟨_, .numeric hn⟩
    · exact .inr ⟨_, .number fun n hn => hds ⟨n, hn⟩⟩
  · by_cases htext : ['s', '='] <+: cs
    · obtain ⟨value, rfl⟩ := htext
      exact .inl ⟨_, .text⟩
    · exact .inr ⟨_, .neither hnumber htext⟩

/-- **Every text spells an identifier or has a fault.** -/
theorem spells_or_misspells (cs : List Char) :
    (∃ id, Spells cs id) ∨ ∃ e, Misspells cs e := by
  by_cases hns : ['n', 's', '='] <+: cs
  · obtain ⟨cs, rfl⟩ := hns
    by_cases hend : ';' ∈ cs
    · obtain ⟨before, after, rfl, hbefore⟩ := List.eq_append_cons_of_mem hend
      by_cases hnumeral : ∃ n, Numeral.Spells UInt16.size before n
      · obtain ⟨n, hn⟩ := hnumeral
        rcases spellsValue_or_misspellsValue (.ofNat n) after with ⟨id, h⟩ | ⟨e, h⟩
        · exact .inl ⟨id, .scoped hn h⟩
        · exact .inr ⟨e, .within hn h⟩
      · exact .inr ⟨_, .ns hbefore fun n hn => hnumeral ⟨n, hn⟩⟩
    · exact .inr ⟨_, .endless hend⟩
  · rcases spellsValue_or_misspellsValue 0 cs with ⟨id, h⟩ | ⟨e, h⟩
    · exact .inl ⟨id, .bare h⟩
    · exact .inr ⟨e, .bare hns h⟩

/-! ### What is reported -/

theorem splitSemicolon?_of_notMem (h : ';' ∉ cs) : splitSemicolon? cs = none := by
  induction cs with
  | nil => rfl
  | cons c cs ih =>
    rw [List.mem_cons, not_or] at h
    rw [splitSemicolon?, if_neg (Ne.symm h.1), ih h.2]
    rfl

theorem parseValue_of_misspellsValue (whole : String) (ns : UInt16) (h : MisspellsValue cs e) :
    parseValue whole ns cs = .error (e whole) := by
  cases h with
  | number hds => rw [parseValue, Numeral.parse?_eq_none_iff.mpr hds]
  | neither hnumber htext =>
    unfold parseValue
    split
    · next ds => exact absurd ⟨ds, rfl⟩ hnumber
    · next value => exact absurd ⟨value, rfl⟩ htext
    · rfl

theorem parseChars_of_misspells (whole : String) (h : Misspells cs e) :
    parseChars whole cs = .error (e whole) := by
  cases h with
  | endless hend => rw [parseChars, splitSemicolon?_of_notMem hend]
  | ns hbefore hnumeral =>
    rw [parseChars, splitSemicolon?_append hbefore]
    simp only [Numeral.parse?_eq_none_iff.mpr hnumeral]
  | within hns hvalue =>
    rw [parseChars, splitSemicolon?_append (Numeral.semicolon_notMem_of_spells hns)]
    simp only [Numeral.parse?_of_spells hns]
    exact parseValue_of_misspellsValue whole _ hvalue
  | bare hns hvalue =>
    unfold parseChars
    split
    · next rest => exact absurd ⟨rest, rfl⟩ hns
    · exact parseValue_of_misspellsValue whole 0 hvalue

/-- **The fault of a text is what is reported**, with the whole text. -/
theorem parse_of_misspells (h : Misspells s.toList e) : parse s = .error (e s) :=
  parseChars_of_misspells s h

end NodeId

open NodeId in
/-- **Identifiers are read exactly.** A text is read as an identifier if and only if it is a text of
the grammar that spells it; and it is refused with an error if and only if it has the fault that the
error reports, with the whole text. -/
theorem identifiers_read_exactly (s : String) :
    (∀ id, parse s = .ok id ↔ Spells s.toList id) ∧
      ∀ error, parse s = .error error ↔ ∃ e, Misspells s.toList e ∧ error = e s := by
  refine ⟨fun id => ⟨fun h => ?_, parse_of_spells⟩, fun error => ⟨fun h => ?_, ?_⟩⟩
  · rcases spells_or_misspells s.toList with ⟨id', hid'⟩ | ⟨e, he⟩
    · cases h.symm.trans (parse_of_spells hid')
      exact hid'
    · cases h.symm.trans (parse_of_misspells he)
  · rcases spells_or_misspells s.toList with ⟨id, hid⟩ | ⟨e, he⟩
    · cases h.symm.trans (parse_of_spells hid)
    · cases h.symm.trans (parse_of_misspells he)
      exact ⟨e, he, rfl⟩
  · rintro ⟨e, he, rfl⟩
    exact parse_of_misspells he

-- Zeros in front do not make a numeral too long, and of two faults the namespace comes first.
example : NodeId.parse "ns=+0000007;i=4294967295" = .ok (.numeric 7 4294967295) := by decide
example : NodeId.parse "ns=65536;i=" = .error (.invalidNamespace "ns=65536;i=") := by decide

end LogHistory
