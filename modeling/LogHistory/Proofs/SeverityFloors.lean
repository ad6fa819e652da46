import LogHistory.Proofs.Tokens

/-!
# Severity floors

Settings name the least tier that is asked for. The name is brought to lowercase, by the mappings of
all of Unicode, and looked up among twelve names; what goes out with every call is the least
severity of the tier. A log object compares this number with the severities of its records, whereas
records are told apart by their tiers. So the numbers have to divide the severities just as the
tiers do.

Lowercase leads from a text outside of ASCII into ASCII for one character only: the Kelvin sign
becomes a `k`, which is in no name. The dotted capital I becomes an `i`, but with a combining dot
behind it, and neither form of the capital sigma is in ASCII. So the names are matched as if only
the capitals of ASCII had small letters.

## What is proved

* `Lowercase.ofChars_eq_iff` — what becomes a text of small ASCII letters without a `k`.
* `Tier.ofName?_eq_some_iff` — the texts that name a tier.
* `Tier.least_le_iff` — the severities from the least one of a tier on are those of this tier and
  the tiers above it.
* `severity_floors_exact` — names, floors, tiers and levels together.
-/

namespace LogHistory

/-! ### Lowercase -/

namespace Lowercase

variable {c : Char} {cs t : List Char}

/-- No run of capitals has its small letters in ASCII, but for the one of the Kelvin sign. -/
theorem shift_of_mem_runs : ∀ r ∈ runs, r = ⟨0x212A, 0x212A, 1, -8383⟩ ∨
    0x80 ≤ r.first + r.shift ∧ (r.last + r.shift < 0xD800 ∨
      0xE000 ≤ r.first + r.shift ∧ r.last + r.shift < 0x110000) := by
  decide +kernel

theorem ofWide_eq_or (h : 0x80 ≤ c.toNat) :
    ofWide c = ['k'] ∨ ∃ d ∈ ofWide c, 0x80 ≤ d.toNat := by
  unfold ofWide
  split
  · exact .inr ⟨'\u0307', by simp, by decide⟩
  · split
    · next r hr =>
      have hcovers := List.find?_some hr
      simp only [Run.covers, Bool.and_eq_true, decide_eq_true_eq] at hcovers
      obtain ⟨⟨hfirst, hlast⟩, -⟩ := hcovers
      rcases shift_of_mem_runs r (List.mem_of_find?_eq_some hr) with rfl | ⟨hlow, hvalid⟩
      · have hc : c.toNat = 0x212A := Nat.le_antisymm hlast hfirst
        rw [hc]
        exact .inl rfl
      · refine .inr ⟨_, List.mem_singleton.mpr rfl, ?_⟩
        have hn : (c.toNat + r.shift).toNat.isValidChar := by
          unfold Nat.isValidChar
          omega
        have hsmall : (Char.ofNat (c.toNat + r.shift).toNat).toNat = (c.toNat + r.shift).toNat := by
          rw [Char.ofNat, dif_pos hn]
          rfl
        omega
    · exact .inr ⟨c, List.mem_singleton.mpr rfl, h⟩

theorem toLower_of_wide (h : 0x80 ≤ c.toNat) : c.toLower = c := by
  unfold Char.toLower
  rw [dif_neg]
  rintro ⟨-, hle⟩
  have hz : c.toNat ≤ 90 := hle
  omega

theorem ofCharIn_eq_or {before after : List Char} (h : 0x80 ≤ c.toNat) :
    ofCharIn before c after = ['k'] ∨ ∃ d ∈ ofCharIn before c after, 0x80 ≤ d.toNat := by
  unfold ofCharIn
  split
  · exact .inr ⟨'\u03C2', List.mem_singleton.mpr rfl, by decide⟩
  · rw [ofChar, if_neg (Nat.not_lt.mpr h)]
    exact ofWide_eq_or h

/-- What comes from outside of ASCII is seen in the lowercase form. -/
theorem ascii_of_ofChars {before : List Char}
    (h : ∀ d ∈ ofChars before cs, d.toNat < 0x80 ∧ d ≠ 'k') : ∀ c ∈ cs, c.toNat < 0x80 := by
  induction cs generalizing before with
  | nil => exact fun _ hc => nomatch hc
  | cons c cs ih =>
    intro d hd
    cases hd with
    | head =>
      by_contra hwide
      have hall : ∀ d ∈ ofCharIn before c cs, d.toNat < 0x80 ∧ d ≠ 'k' := fun d hd =>
        h d (List.mem_append_left _ hd)
      rcases ofCharIn_eq_or (Nat.le_of_not_lt hwide) with hk | ⟨d, hd, hdwide⟩
      · exact (hall 'k' (hk ▸ List.mem_singleton_self _)).2 rfl
      · exact absurd (hall d hd).1 (Nat.not_lt.mpr hdwide)
    | tail _ hd => exact ih (fun d hd => h d (List.mem_append_right _ hd)) d hd

/-- **What becomes a text of small letters**: if these are of ASCII and none is a `k`, it is a text
of ASCII, with some of the letters as capitals. -/
theorem ofChars_eq_iff {before : List Char} (ht : ∀ d ∈ t, d.toNat < 0x80 ∧ d ≠ 'k') :
    ofChars before cs = t ↔ cs.map Char.toLower = t := by
  constructor
  · rintro rfl
    exact (ofChars_of_ascii (ascii_of_ofChars ht)).symm
  · rintro rfl
    refine ofChars_of_ascii fun c hc => ?_
    by_contra hwide
    have hsmall := (ht c.toLower (List.mem_map_of_mem hc)).1
    rw [toLower_of_wide (Nat.le_of_not_lt hwide)] at hsmall
    exact hwide hsmall

end Lowercase

/-! ### Names -/

/-- The texts are the same but for the case of ASCII letters. -/
def EqIgnoringCase (s t : String) : Prop := s.toList.map Char.toLower = t.toList.map Char.toLower

instance (s t : String) : Decidable (EqIgnoringCase s t) :=
  inferInstanceAs (Decidable (_ = _))

namespace Tier

variable {s name : String} {t u : Tier} {v w : Int}

/-- The names of the tier. -/
def aliases : Tier → List String
  | unspecified => []
  | debug => ["trace", "debug"]
  | information => ["info", "information"]
  | notice => ["notice"]
  | warning => ["warn", "warning"]
  | error => ["error"]
  | critical => ["critical"]
  | alert => ["alert"]
  | emergency => ["fatal", "emergency"]

theorem mem_names_iff : (name, t) ∈ names ↔ name ∈ t.aliases := by
  cases t <;> simp [names, aliases]

theorem map_toLower_of_mem_names : ∀ e ∈ names, e.1.toList.map Char.toLower = e.1.toList := by
  decide

theorem ascii_of_mem_names : ∀ e ∈ names, ∀ d ∈ e.1.toList, d.toNat < 0x80 ∧ d ≠ 'k' := by
  have hall : ∀ e ∈ names, e.1.toList.all fun d => d.toNat < 0x80 ∧ d ≠ 'k' := by decide
  intro e he d hd
  exact of_decide_eq_true (List.all_eq_true.mp (hall e he) d hd)

theorem lookup_names_eq_some_iff : names.lookup name = some t ↔ (name, t) ∈ names := by
  have hfirst : ∀ e ∈ names, names.lookup e.1 = some e.2 := by decide
  constructor
  · intro h
    obtain ⟨before, after, hnames, -⟩ := List.lookup_eq_some_iff.mp h
    rw [hnames]
    exact List.mem_append_right _ List.mem_cons_self
  · exact fun h => hfirst _ h

/-- The lowercase form of a text is a name if the text is this name but for its case. -/
theorem lowercase_eq_iff {e : String × Tier} (he : e ∈ names) :
    Lowercase.ofString s = e.1 ↔ EqIgnoringCase s e.1 := by
  rw [EqIgnoringCase, map_toLower_of_mem_names e he,
    ← Lowercase.ofChars_eq_iff (ascii_of_mem_names e he), Lowercase.ofString,
    ← String.toList_inj, String.toList_ofList]

/-- **The texts that name a tier** are its names in whatever case. -/
theorem ofName?_eq_some_iff : ofName? s = some t ↔ ∃ name ∈ t.aliases, EqIgnoringCase s name := by
  rw [ofName?, lookup_names_eq_some_iff]
  constructor
  · intro h
    exact ⟨_, mem_names_iff.mp h, (lowercase_eq_iff h).mp rfl⟩
  · rintro ⟨name, hname, heq⟩
    have hmem := mem_names_iff.mpr hname
    rwa [(lowercase_eq_iff hmem).mpr heq]

theorem ascii_of_ofName? (h : ofName? s = some t) : ∀ c ∈ s.toList, c.toNat < 0x80 := by
  obtain ⟨name, hname, heq⟩ := ofName?_eq_some_iff.mp h
  have hmem := mem_names_iff.mpr hname
  intro c hc
  by_contra hwide
  have hsmall : c.toLower ∈ name.toList := by
    rw [← map_toLower_of_mem_names _ hmem, ← heq]
    exact List.mem_map_of_mem hc
  rw [Lowercase.toLower_of_wide (Nat.le_of_not_lt hwide)] at hsmall
  exact hwide (ascii_of_mem_names _ hmem c hsmall).1

theorem ne_unspecified_of_ofName? (h : ofName? s = some t) : t ≠ unspecified := by
  rintro rfl
  obtain ⟨name, hname, -⟩ := ofName?_eq_some_iff.mp h
  cases hname

/-! ### Bands -/

theorem le_def : t ≤ u ↔ t.rank ≤ u.rank := Iff.rfl

/-- The greatest severity of the tier. -/
def greatest : Tier → Nat
  | unspecified => 0
  | debug => 50
  | information => 100
  | notice => 150
  | warning => 200
  | error => 250
  | critical => 300
  | alert => 400
  | emergency => 1000

theorem ofSeverity_bounds (hl : 1 ≤ v) (hu : v ≤ 1000) :
    (ofSeverity v).least.toNat ≤ v ∧ v ≤ (ofSeverity v).greatest := by
  unfold ofSeverity
  split_ifs
  all_goals
    simp only [least, greatest, UInt16.reduceToNat]
    omega

theorem ofSeverity_eq_unspecified_iff : ofSeverity v = unspecified ↔ v < 1 ∨ 1000 < v := by
  unfold ofSeverity
  split_ifs
  all_goals
    simp only [true_iff, false_iff]
    omega

theorem least_le_least (h : t ≤ u) : t.least.toNat ≤ u.least.toNat := by
  revert h
  cases t <;> cases u <;> decide

theorem greatest_lt_least (h : ¬ u ≤ t) : t.greatest < u.least.toNat := by
  revert h
  cases t <;> cases u <;> decide

/-- **The severities from the least one of a tier on**, up to the greatest there is, are those of
this tier and the tiers above it. -/
theorem least_le_iff (ht : t ≠ unspecified) (v : Int) :
    t.least.toNat ≤ v ∧ v ≤ 1000 ↔ t ≤ ofSeverity v := by
  constructor
  · rintro ⟨hle, hu⟩
    by_contra hbelow
    have hpos : 1 ≤ t.least.toNat := by cases t <;> decide
    have hgreatest := (ofSeverity_bounds (by omega) hu).2
    have hbetween := greatest_lt_least hbelow
    omega
  · intro h
    have htier : ofSeverity v ≠ unspecified := fun hnone => by
      rw [hnone] at h
      revert ht h
      cases t <;> decide
    have hrange : 1 ≤ v ∧ v ≤ 1000 := by
      rw [Ne, ofSeverity_eq_unspecified_iff] at htier
      omega
    have hleast := (ofSeverity_bounds hrange.1 hrange.2).1
    have hbetween := least_le_least h
    omega

/-- A greater severity has no lower tier: the floor of the lesser one's tier is passed by both. -/
theorem ofSeverity_le_ofSeverity (hv : 1 ≤ v) (hvw : v ≤ w) (hw : w ≤ 1000) :
    ofSeverity v ≤ ofSeverity w := by
  have htier : ofSeverity v ≠ unspecified := fun h => by
    have := ofSeverity_eq_unspecified_iff.mp h
    omega
  have hfloor := ((least_le_iff htier v).mpr (Nat.le_refl _)).1
  exact (least_le_iff htier w).mp ⟨hfloor.trans hvw, hw⟩

theorem number_level_le (h : t ≤ u) : t.level.number ≤ u.level.number := by
  revert h
  cases t <;> cases u <;> decide

end Tier

/-! ### Floors -/

theorem Settings.floor_eq_ok_iff {s : Settings} {n : UInt16} :
    s.floor = .ok n ↔ ∃ t, Tier.ofName? s.minSeverity = some t ∧ t.least = n := by
  unfold floor
  cases Tier.ofName? s.minSeverity <;> simp

/-- **Every call of a collection sends the floor** that the settings name. -/
theorem Collector.arguments_floor {σ : Type} (serve : Service σ) (c : Collector)
    {sources : List NodeId} {start stop : Instant} {link : Link σ} {x : Exchange}
    (hx : x ∈ (c.collect serve sources start stop link).1.exchanges) :
    x.request.arguments[3]? = some (.uint16 c.floor) := by
  obtain ⟨v, hv, hx⟩ := List.mem_flatMap.mp hx
  obtain ⟨-, n, harguments⟩ := (c.disciplined_of_mem serve hv).arguments x hx
  rw [harguments]
  rfl

/-- **Severity floors are exact.** A text names a tier if and only if it is one of the names of the
tier but for the case of ASCII letters; so it is ASCII, and the tier is never the one of numbers out
of range. The settings of a collector name a tier, and every call sends the least severity of this
tier. The severities from there up to 1000 are just those whose tier is this one or above it. Within
the range a greater severity has neither a lower tier nor a lower level; out of the range there is
no tier, and the level is 0. -/
theorem severity_floors_exact :
    (∀ (s : String) (t : Tier),
      Tier.ofName? s = some t ↔ ∃ name ∈ t.aliases, EqIgnoringCase s name) ∧
    (∀ (s : String) (t : Tier), Tier.ofName? s = some t →
      (∀ c ∈ s.toList, c.toNat < 0x80) ∧ t ≠ .unspecified ∧
      ∀ v : Int, t.least.toNat ≤ v ∧ v ≤ 1000 ↔ t ≤ .ofSeverity v) ∧
    (∀ c : Collector, ∃ t, Tier.ofName? c.settings.minSeverity = some t ∧
      ∀ (σ : Type) (serve : Service σ) (sources : List NodeId) (start stop : Instant)
        (link : Link σ), ∀ x ∈ (c.collect serve sources start stop link).1.exchanges,
        x.request.arguments[3]? = some (.uint16 t.least)) ∧
    (∀ v w : Int, 1 ≤ v → v ≤ w → w ≤ 1000 → Tier.ofSeverity v ≤ .ofSeverity w ∧
      (Tier.ofSeverity v).level.number ≤ (Tier.ofSeverity w).level.number) ∧
    ∀ v : Int, v < 1 ∨ 1000 < v →
      Tier.ofSeverity v = .unspecified ∧ (Tier.ofSeverity v).level.number = 0 := by
  refine ⟨fun s t => Tier.ofName?_eq_some_iff, fun s t h => ?_, fun c => ?_,
    fun v w hv hvw hw => ?_, fun v hv => ?_⟩
  · have htier := Tier.ne_unspecified_of_ofName? h
    exact ⟨Tier.ascii_of_ofName? h, htier, Tier.least_le_iff htier⟩
  · obtain ⟨t, ht, hleast⟩ := Settings.floor_eq_ok_iff.mp c.floor_eq
    refine ⟨t, ht, fun σ serve sources start stop link x hx => ?_⟩
    rw [hleast]
    exact c.arguments_floor serve hx
  · have htier := Tier.ofSeverity_le_ofSeverity hv hvw hw
    exact ⟨htier, Tier.number_level_le htier⟩
  · have htier := Tier.ofSeverity_eq_unspecified_iff.mpr hv
    exact ⟨htier, congrArg (·.level.number) htier⟩

/-- Settings that ask for `FATAL` ask for severities from 401 on. A text whose capital I has a dot
names no tier, although it looks like a name. -/
theorem severity_floors_exact_fatal :
    Tier.ofName? "FATAL" = some .emergency ∧
      (¬ Tier.emergency ≤ .ofSeverity 400) ∧ Tier.emergency ≤ .ofSeverity 401 ∧
      Tier.ofSeverity 400 ≤ .ofSeverity 401 ∧ Tier.ofSeverity 65535 = .unspecified ∧
      ∀ t, Tier.ofName? "\u0130nfo" ≠ some t := by
  obtain ⟨hnames, hfloors, -, hmono, hout⟩ := severity_floors_exact
  have hfatal : Tier.ofName? "FATAL" = some .emergency :=
    (hnames _ _).mpr ⟨"fatal", by decide, by decide⟩
  obtain ⟨-, -, hfloor⟩ := hfloors _ _ hfatal
  refine ⟨hfatal, fun h => ?_, (hfloor 401).mp (by decide), (hmono 400 401 (by decide) (by decide)
    (by decide)).1, (hout 65535 (by decide)).1, fun t h => ?_⟩
  · exact absurd ((hfloor 400).mpr h) (by decide)
  · exact absurd ((hfloors _ _ h).1 '\u0130' (by decide)) (by decide)

end LogHistory
