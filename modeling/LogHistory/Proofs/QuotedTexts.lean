import LogHistory.Proofs.Spellings

/-!
# Quoted texts

What stands between quotes can be told from what stands around it. A quote in a text is written with
a backslash in front, and so is a backslash; every other backslash starts an escape that ends by
itself, a code point at its closing brace. So the first quote that no escape contains ends the text,
whatever follows, and one character after the other is read back (`Quoted.unescape?_escape`).

Nor does a quoted text hold a character that has to be hidden. Escapes are written in ASCII, all of
which is printable from the space to the tilde: the tables of hidden characters leave it out.

## What is proved

* `Printable.isPrintable_of_ascii`, `Printable.not_disturbs_of_isPrintable` — what is printable, and
  what is not.
* `Quoted.isPrintable_of_mem_ofString` — quoted texts are printable.
* `Quoted.ofString_append_inj` — a quoted text ends where it says, and tells the text.
-/

namespace LogHistory

/-! ### Printable characters -/

namespace Printable

variable {c : Char}

theorem isIn_eq_false {ranges : List (Nat × Nat)}
    (h : ∀ r ∈ ranges, r.2 < c.toNat ∨ c.toNat < r.1) : isIn ranges c = false := by
  rw [isIn, List.any_eq_false]
  intro r hr
  have hout := h r hr
  simp only [Bool.and_eq_true, decide_eq_true_eq]
  omega

/-- **ASCII is printable** from the space to the tilde. -/
theorem isPrintable_of_ascii (hl : 0x20 ≤ c.toNat) (hu : c.toNat < 0x7F) :
    isPrintable c = true := by
  by_cases hspace : c = ' '
  · rw [isPrintable, hspace]
    rfl
  · have hne : c.toNat ≠ 0x20 := fun h => hspace (Char.toNat_inj.mp h)
    -- No table begins before the delete character, except for those of controls and separators.
    have habove : ∀ {ranges : List (Nat × Nat)}, (∀ r ∈ ranges, 0x7F ≤ r.1) →
        isIn ranges c = false := fun h => isIn_eq_false fun r hr => by
      have := h r hr
      omega
    have hcontrol : isControl c = false := isIn_eq_false (by simp [controlRanges]; omega)
    have hseparator : isIn separatorRanges c = false :=
      isIn_eq_false (by simp [separatorRanges]; omega)
    have hformat : isIn formatRanges c = false := habove (by decide)
    have hfiller : isIn fillerRanges c = false := habove (by decide)
    have hprivate : isIn privateUseRanges c = false := habove (by decide)
    have hunassigned : isIn Unassigned.ranges c = false := habove (by decide +kernel)
    have hcombining : isIn Combining.ranges c = false := habove (by decide +kernel)
    simp only [isPrintable, isHidden, hcontrol, hseparator, hformat, hfiller, hprivate, hunassigned,
      hcombining, Bool.or_false, Bool.not_false, Bool.or_true]

theorem isPrintable_of_all {cs : List Char}
    (hall : (cs.all fun d => 0x20 ≤ d.toNat && d.toNat < 0x7F) = true) (h : c ∈ cs) :
    isPrintable c = true := by
  have hc := List.all_eq_true.mp hall c h
  rw [Bool.and_eq_true, decide_eq_true_iff, decide_eq_true_iff] at hc
  exact isPrintable_of_ascii hc.1 hc.2

/-- A character that controls the display or breaks the line. -/
def Disturbs (c : Char) : Prop :=
  c.toNat < 0x20 ∨ (0x7F ≤ c.toNat ∧ c.toNat ≤ 0x9F) ∨ c = '\u2028' ∨ c = '\u2029'

instance : DecidablePred Disturbs := fun _ => inferInstanceAs (Decidable (_ ∨ _ ∨ _ ∨ _))

theorem isHidden_of_disturbs (h : Disturbs c) : isHidden c = true := by
  have hcontrol : ∀ r ∈ controlRanges, r.1 ≤ c.toNat → c.toNat ≤ r.2 → isControl c = true :=
    fun r hr hl hu => List.any_eq_true.mpr ⟨r, hr, by simp [hl, hu]⟩
  rcases h with h | h | rfl | rfl
  · simp [isHidden, hcontrol (0x0, 0x1F) (by decide) (Nat.zero_le _) (by omega)]
  · simp [isHidden, hcontrol (0x7F, 0x9F) (by decide) h.1 h.2]
  · have hseparator : isIn separatorRanges '\u2028' = true := by decide
    simp [isHidden, hseparator]
  · have hseparator : isIn separatorRanges '\u2029' = true := by decide
    simp [isHidden, hseparator]

/-- **What is printable does not disturb**: there is no control character and no line break. -/
theorem not_disturbs_of_isPrintable (h : isPrintable c = true) : ¬ Disturbs c := by
  intro hdisturbs
  rw [isPrintable, isHidden_of_disturbs hdisturbs, Bool.not_true, Bool.or_false,
    decide_eq_true_iff] at h
  subst h
  revert hdisturbs
  decide

end Printable

/-! ### Hexadecimal digits -/

namespace Quoted

variable {c : Char} {n : Nat} {ds cs : List Char}

/-- The value of a lowercase hexadecimal digit. -/
def hexValue (c : Char) : Nat := if c.toNat < 58 then c.toNat - 48 else c.toNat - 87

/-- The value of a list of hexadecimal digits that follow a number already read. -/
def hexValueFrom (n : Nat) (ds : List Char) : Nat := ds.foldl (fun n d => 16 * n + hexValue d) n

theorem isDigit_of_mem_toDigits (n : Nat) : ∀ d ∈ Nat.toDigits 16 n, Hex.IsDigit d := by
  have hdigit : ∀ k < 16, Hex.IsDigit k.digitChar := by decide
  induction n using Nat.strongRecOn with
  | _ n ih =>
    by_cases hn : n < 16
    · rw [Nat.toDigits_of_lt_base hn]
      simpa using hdigit n hn
    · rw [Nat.toDigits_of_base_le (by decide) (Nat.le_of_not_lt hn), List.forall_mem_append]
      refine ⟨ih (n / 16) (by omega), ?_⟩
      simpa using hdigit (n % 16) (Nat.mod_lt n (by decide))

/-- **The digits of a number have its value.** -/
theorem hexValueFrom_toDigits (n : Nat) : hexValueFrom 0 (Nat.toDigits 16 n) = n := by
  have hvalue : ∀ k < 16, hexValue k.digitChar = k := by decide
  induction n using Nat.strongRecOn with
  | _ n ih =>
    by_cases hn : n < 16
    · rw [Nat.toDigits_of_lt_base hn, hexValueFrom, List.foldl_cons, List.foldl_nil, hvalue n hn]
      omega
    · have hfront := ih (n / 16) (by omega)
      rw [hexValueFrom] at hfront
      rw [Nat.toDigits_of_base_le (by decide) (Nat.le_of_not_lt hn), hexValueFrom,
        List.foldl_append, hfront, List.foldl_cons, List.foldl_nil,
        hvalue (n % 16) (Nat.mod_lt n (by decide))]
      omega

/-! ### Reading back -/

/-- Reads hexadecimal digits up to a closing brace, after a number already read. -/
def codePoint? : Nat → List Char → Option (Nat × List Char)
  | _, [] => none
  | n, d :: cs => if d = '\x7d' then some (n, cs) else codePoint? (16 * n + hexValue d) cs

/-- Reads one character between double quotes. The closing quote is none. -/
def unescape? : List Char → Option (Char × List Char)
  | '\\' :: '0' :: cs => some ('\x00', cs)
  | '\\' :: 't' :: cs => some ('\t', cs)
  | '\\' :: 'r' :: cs => some ('\r', cs)
  | '\\' :: 'n' :: cs => some ('\n', cs)
  | '\\' :: 'u' :: '\x7b' :: cs => (codePoint? 0 cs).map fun r => (Char.ofNat r.1, r.2)
  | '\\' :: c :: cs => some (c, cs)
  | c :: cs => if c = '"' then none else some (c, cs)
  | [] => none

theorem codePoint?_append (h : ∀ d ∈ ds, Hex.IsDigit d) (n : Nat) (cs : List Char) :
    codePoint? n (ds ++ '\x7d' :: cs) = some (hexValueFrom n ds, cs) := by
  induction ds generalizing n with
  | nil => rfl
  | cons d ds ih =>
    obtain ⟨hd, hds⟩ := List.forall_mem_cons.mp h
    have hbrace : d ≠ '\x7d' := by
      rintro rfl
      exact absurd hd (by decide)
    rw [List.cons_append, codePoint?, if_neg hbrace, ih hds]
    rfl

theorem unescape?_codePoint (c : Char) (cs : List Char) :
    unescape? (codePoint c ++ cs) = some (c, cs) := by
  have hread := codePoint?_append (isDigit_of_mem_toDigits c.toNat) 0 cs
  rw [hexValueFrom_toDigits] at hread
  rw [codePoint, List.append_assoc, List.append_assoc]
  simp only [List.cons_append, List.nil_append, unescape?, hread, Option.map_some,
    Char.ofNat_toNat]

theorem unescape?_cons (hslash : c ≠ '\\') (hquote : c ≠ '"') (cs : List Char) :
    unescape? (c :: cs) = some (c, cs) := by
  unfold unescape?
  split <;> simp_all

/-- **A character is read back**, whatever follows it. -/
theorem unescape?_escape (c : Char) (cs : List Char) :
    unescape? (escape '"' c ++ cs) = some (c, cs) := by
  unfold escape
  split_ifs with hnull htab hreturn hfeed hslash hquote
  · rw [hnull]; rfl
  · rw [htab]; rfl
  · rw [hreturn]; rfl
  · rw [hfeed]; rfl
  · rw [hslash]; rfl
  · rw [hquote]; rfl
  · exact unescape?_cons hslash hquote cs
  · exact unescape?_codePoint c cs

theorem flatMap_escape_append_inj {x y : List Char} : ∀ {as bs : List Char},
    as.flatMap (escape '"') ++ '"' :: x = bs.flatMap (escape '"') ++ '"' :: y → as = bs ∧ x = y
  | [], [], h => ⟨rfl, (List.cons_eq_cons.mp h).2⟩
  | [], b :: bs, h => by
    rw [List.flatMap_cons, List.append_assoc] at h
    cases (congrArg unescape? h).trans (unescape?_escape b _)
  | a :: as, [], h => by
    rw [List.flatMap_cons, List.append_assoc] at h
    cases (congrArg unescape? h).symm.trans (unescape?_escape a _)
  | a :: as, b :: bs, h => by
    rw [List.flatMap_cons, List.flatMap_cons, List.append_assoc, List.append_assoc] at h
    have hread := congrArg unescape? h
    rw [unescape?_escape, unescape?_escape, Option.some.injEq, Prod.mk.injEq] at hread
    obtain ⟨rfl, hlater⟩ := hread
    obtain ⟨rfl, hrest⟩ := flatMap_escape_append_inj hlater
    exact ⟨rfl, hrest⟩

/-- **A quoted text ends where it says, and tells the text**, whatever stands behind it. -/
theorem ofString_append_inj {s t : String} {x y : List Char}
    (h : (ofString s).toList ++ x = (ofString t).toList ++ y) : s = t ∧ x = y := by
  simp only [ofString, String.toList_ofList, List.cons_append, List.append_assoc,
    List.nil_append] at h
  obtain ⟨hs, hrest⟩ := flatMap_escape_append_inj (List.cons_eq_cons.mp h).2
  exact ⟨String.toList_inj.mp hs, hrest⟩

/-! ### What is written -/

theorem isPrintable_of_isDigit (h : Hex.IsDigit c) : Printable.isPrintable c = true := by
  have hcodes : (48 ≤ c.toNat ∧ c.toNat ≤ 57) ∨ (97 ≤ c.toNat ∧ c.toNat ≤ 102) := h
  exact Printable.isPrintable_of_ascii (by omega) (by omega)

theorem isPrintable_of_mem_escape {d : Char} (h : c ∈ escape '"' d) :
    Printable.isPrintable c = true := by
  unfold escape at h
  split_ifs at h with _ _ _ _ _ _ hshown
  iterate 6 exact Printable.isPrintable_of_all (by decide) h
  · rwa [List.mem_singleton.mp h]
  · rw [codePoint, List.mem_append, List.mem_append] at h
    rcases h with (h | h) | h
    · exact Printable.isPrintable_of_all (by decide) h
    · exact isPrintable_of_isDigit (isDigit_of_mem_toDigits _ c h)
    · exact Printable.isPrintable_of_all (by decide) h

/-- **Quoted texts are printable.** -/
theorem isPrintable_of_mem_ofString {s : String} (h : c ∈ (ofString s).toList) :
    Printable.isPrintable c = true := by
  rw [ofString, String.toList_ofList, List.mem_cons, List.mem_append, List.mem_flatMap] at h
  rcases h with h | ⟨d, -, h⟩ | h
  · exact Printable.isPrintable_of_all (by decide) (List.mem_singleton.mpr h)
  · exact isPrintable_of_mem_escape h
  · exact Printable.isPrintable_of_all (by decide) h

end Quoted

end LogHistory
