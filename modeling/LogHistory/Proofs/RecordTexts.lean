import LogHistory.LogRecord.Basic
import LogHistory.Proofs.QuotedTexts

/-!
# Records on one line

A record is shown on one line, field by field. Three of the fields hold texts that whoever made the
record was free to choose, and one of these could be made to look like the end of its field and the
fields behind it. It cannot be taken for them, since it is quoted. The time and the numbers are not
quoted; they are plain, that is graphic ASCII without a comma, so that the comma behind each of them
is the first one from its start on. The span has a fixed width, and the last number has only the
closing brace behind it.

So the line is read from its left end to its right end in one way only, and two records with the
same line show the same. What the line leaves out can differ: the type of event, the parent of the
span, the names and values of the attributes, and whether a text that is empty is there at all.

## What is proved

* `isPlain_rfc3339` — instants are plain, whatever their year.
* `LogRecord.isShown_toText` — a line has only printable characters.
* `LogRecord.showsAs_of_toText` — two records with the same line show the same.
* `lines_unforgeable` — both of these.
-/

namespace LogHistory

/-! ### Plain texts -/

/-- Whether a text has only graphic characters of ASCII, and no comma. -/
def isPlain (s : String) : Bool :=
  s.toList.all fun c => 0x20 < c.toNat && c.toNat < 0x7F && c != ','

variable {s t : String}

theorem isPlain_append : isPlain (s ++ t) = (isPlain s && isPlain t) := by
  rw [isPlain, String.toList_append, List.all_append]
  rfl

/-- Digits are plain. -/
theorem isPlain_of_isDigit (h : ∀ c ∈ s.toList, Hex.IsDigit c) : isPlain s = true := by
  rw [isPlain, List.all_eq_true]
  intro c hc
  have hcodes : (48 ≤ c.toNat ∧ c.toNat ≤ 57) ∨ (97 ≤ c.toNat ∧ c.toNat ≤ 102) := h c hc
  have hcomma : c ≠ ',' := by
    rintro rfl
    exact absurd hcodes (by decide)
  rw [Bool.and_eq_true, Bool.and_eq_true, decide_eq_true_iff, decide_eq_true_iff, bne_iff_ne]
  exact ⟨⟨by omega, by omega⟩, hcomma⟩

theorem isDigit_of_mem_toDigits_ten {n : Nat} {c : Char} (h : c ∈ Nat.toDigits 10 n) :
    Hex.IsDigit c := by
  have hdigit := Nat.isDigit_of_mem_toDigits (by decide) (by decide) h
  rw [Char.isDigit, Bool.and_eq_true, decide_eq_true_iff, decide_eq_true_iff] at hdigit
  exact .inl hdigit

theorem isPlain_toString (n : Nat) : isPlain (toString n) = true := by
  refine isPlain_of_isDigit fun c hc => ?_
  rw [Nat.toString_eq_repr, Nat.toList_repr] at hc
  exact isDigit_of_mem_toDigits_ten hc

theorem isPlain_padded (width n : Nat) : isPlain (Numeral.padded width n) = true := by
  refine isPlain_of_isDigit fun c hc => ?_
  rw [Numeral.padded, String.toList_ofList, Numeral.padLeft, List.mem_append] at hc
  rcases hc with hc | hc
  · rw [(List.mem_replicate.mp hc).2]
    decide
  · exact isDigit_of_mem_toDigits_ten hc

theorem isPlain_ofNat (w n : Nat) : isPlain (Hex.ofNat w n) = true :=
  isPlain_of_isDigit (Hex.isText_ofNat w n).digits

/-- What is plain is printable, and no comma. -/
theorem isPrintable_of_isPlain {c : Char} (h : isPlain s = true) (hc : c ∈ s.toList) :
    Printable.isPrintable c = true ∧ c ≠ ',' := by
  have hplain := List.all_eq_true.mp h c hc
  rw [Bool.and_eq_true, Bool.and_eq_true, decide_eq_true_iff, decide_eq_true_iff,
    bne_iff_ne] at hplain
  obtain ⟨⟨hl, hu⟩, hcomma⟩ := hplain
  exact ⟨Printable.isPrintable_of_ascii (Nat.le_of_lt hl) hu, hcomma⟩

/-- All characters of the text are printable. -/
def IsShown (s : String) : Prop := ∀ c ∈ s.toList, Printable.isPrintable c = true

theorem IsShown.append (hs : IsShown s) (ht : IsShown t) : IsShown (s ++ t) := by
  intro c hc
  rw [String.toList_append, List.mem_append] at hc
  exact hc.elim (hs c) (ht c)

theorem isShown_of_isPlain (h : isPlain s = true) : IsShown s := fun _ hc =>
  (isPrintable_of_isPlain h hc).1

theorem isShown_of_ascii (h : (s.toList.all fun d => 0x20 ≤ d.toNat && d.toNat < 0x7F) = true) :
    IsShown s := fun _ => Printable.isPrintable_of_all h

theorem isShown_ofString (s : String) : IsShown (Quoted.ofString s) := fun _ =>
  Quoted.isPrintable_of_mem_ofString

/-- What has no comma ends at the first comma. -/
theorem append_comma_inj {x y : List Char} : ∀ {as bs : List Char}, ',' ∉ as → ',' ∉ bs →
    as ++ ',' :: x = bs ++ ',' :: y → as = bs ∧ x = y
  | [], [], _, _, h => ⟨rfl, (List.cons_eq_cons.mp h).2⟩
  | [], b :: bs, _, hb, h => absurd (List.cons_eq_cons.mp h).1 (List.ne_of_not_mem_cons hb)
  | a :: as, [], ha, _, h => absurd (List.cons_eq_cons.mp h).1.symm (List.ne_of_not_mem_cons ha)
  | a :: as, b :: bs, ha, hb, h => by
    obtain ⟨rfl, hlater⟩ := List.cons_eq_cons.mp h
    obtain ⟨rfl, hrest⟩ := append_comma_inj (List.not_mem_of_not_mem_cons ha)
      (List.not_mem_of_not_mem_cons hb) hlater
    exact ⟨rfl, hrest⟩

/-- **A plain text ends at the first comma.** -/
theorem plain_append_inj {x y : List Char} (hs : isPlain s = true) (ht : isPlain t = true)
    (h : s.toList ++ ',' :: x = t.toList ++ ',' :: y) : s = t ∧ x = y := by
  have hcomma : ∀ {s : String}, isPlain s = true → ',' ∉ s.toList := fun hs hc =>
    (isPrintable_of_isPlain hs hc).2 rfl
  obtain ⟨heq, hrest⟩ := append_comma_inj (hcomma hs) (hcomma ht) h
  exact ⟨String.toList_inj.mp heq, hrest⟩

/-! ### Instants -/

theorem isPlain_yearText (year : Int) : isPlain (Date.yearText year) = true := by
  rw [Date.yearText]
  split_ifs
  · exact isPlain_padded _ _
  all_goals
    rw [isPlain_append, isPlain_padded]
    rfl

theorem isPlain_fractionText (nanos : Nat) : isPlain (Instant.fractionText nanos) = true := by
  rw [Instant.fractionText]
  split_ifs
  · rfl
  all_goals
    rw [isPlain_append, isPlain_padded]
    rfl

/-- **Instants are plain**, whatever their year. -/
theorem isPlain_rfc3339 (i : Instant) : isPlain i.rfc3339 = true := by
  have hcolon : isPlain ":" = true := rfl
  have hhyphen : isPlain "-" = true := rfl
  have hmarks : isPlain "T" = true ∧ isPlain "Z" = true := ⟨rfl, rfl⟩
  simp only [Instant.rfc3339, Date.text, Instant.timeText, isPlain_append, isPlain_padded,
    isPlain_yearText, isPlain_fractionText, hcolon, hhyphen, hmarks, Bool.and_self]

/-! ### Lines -/

namespace LogRecord

/-- The time as it is shown, empty if it is not known. -/
def timeText (r : LogRecord) : String := (r.time.map Instant.rfc3339).getD ""

/-- The node as it is shown, empty if there is none. -/
def nodeText (r : LogRecord) : String := (r.sourceNode.map NodeId.toText).getD ""

/-- The span, zero if there is none. -/
def span (r : LogRecord) : UInt64 := (r.trace.map (·.spanId)).getD 0

theorem toText_eq (r : LogRecord) : r.toText =
    "LogRecord\x7bTime: " ++ r.timeText ++ ", Severity: " ++ toString r.severity.toNat
      ++ ", Message: " ++ Quoted.ofString r.message
      ++ ", SourceName: " ++ Quoted.ofString (r.sourceName.getD "")
      ++ ", SourceNode: " ++ Quoted.ofString r.nodeText
      ++ ", TraceID: " ++ Quoted.ofString r.traceHex ++ ", SpanID: " ++ Hex.ofNat 8 r.span.toNat
      ++ ", AdditionalData: " ++ toString r.attributes.size ++ "\x7d" := by
  have hspan : (r.trace.map (·.spanId.toNat)).getD 0 = r.span.toNat := by
    unfold span
    cases r.trace <;> rfl
  unfold toText timeText nodeText
  rw [hspan]

/-- The line from its left end on, each part in front of all that follows it. -/
theorem toList_toText (r : LogRecord) : r.toText.toList =
    "LogRecord\x7bTime: ".toList ++ (r.timeText.toList ++ ',' :: (" Severity: ".toList ++
    ((toString r.severity.toNat).toList ++ ',' :: (" Message: ".toList ++
    ((Quoted.ofString r.message).toList ++ (", SourceName: ".toList ++
    ((Quoted.ofString (r.sourceName.getD "")).toList ++ (", SourceNode: ".toList ++
    ((Quoted.ofString r.nodeText).toList ++ (", TraceID: ".toList ++
    ((Quoted.ofString r.traceHex).toList ++ (", SpanID: ".toList ++
    ((Hex.ofNat 8 r.span.toNat).toList ++ (", AdditionalData: ".toList ++
    ((toString r.attributes.size).toList ++ "\x7d".toList))))))))))))))) := by
  have htime : ", Severity: ".toList = ',' :: " Severity: ".toList := rfl
  have hseverity : ", Message: ".toList = ',' :: " Message: ".toList := rfl
  simp only [toText_eq, String.toList_append, List.append_assoc, List.cons_append, htime,
    hseverity]

theorem isPlain_timeText (r : LogRecord) : isPlain r.timeText = true := by
  rw [timeText]
  cases r.time with
  | none => rfl
  | some i => exact isPlain_rfc3339 i

/-- **A line can be shown**, whatever the texts of the record are. -/
theorem isShown_toText (r : LogRecord) : IsShown r.toText := by
  rw [toText_eq]
  exact isShown_of_ascii rfl
    |>.append (isShown_of_isPlain r.isPlain_timeText)
    |>.append (isShown_of_ascii rfl) |>.append (isShown_of_isPlain (isPlain_toString _))
    |>.append (isShown_of_ascii rfl) |>.append (isShown_ofString _)
    |>.append (isShown_of_ascii rfl) |>.append (isShown_ofString _)
    |>.append (isShown_of_ascii rfl) |>.append (isShown_ofString _)
    |>.append (isShown_of_ascii rfl) |>.append (isShown_ofString _)
    |>.append (isShown_of_ascii rfl) |>.append (isShown_of_isPlain (isPlain_ofNat _ _))
    |>.append (isShown_of_ascii rfl) |>.append (isShown_of_isPlain (isPlain_toString _))
    |>.append (isShown_of_ascii rfl)

/-- The records show the same: what is absent shows as empty, or as zero. -/
structure ShowsAs (a b : LogRecord) : Prop where
  /-- The time. -/
  time : a.timeText = b.timeText
  /-- The severity. -/
  severity : a.severity = b.severity
  /-- The message. -/
  message : a.message = b.message
  /-- The name of the source. -/
  sourceName : a.sourceName.getD "" = b.sourceName.getD ""
  /-- The text of the node. -/
  sourceNode : a.nodeText = b.nodeText
  /-- The text of the trace id. -/
  traceId : a.traceHex = b.traceHex
  /-- The span. -/
  span : a.span = b.span
  /-- The number of attributes. -/
  size : a.attributes.size = b.attributes.size

variable {a b : LogRecord}

theorem ShowsAs.toText_eq (h : a.ShowsAs b) : a.toText = b.toText := by
  rw [LogRecord.toText_eq, LogRecord.toText_eq, h.time, h.severity, h.message, h.sourceName,
    h.sourceNode, h.traceId, h.span, h.size]

/-- Records with the same line show the same, field by field from the left. -/
theorem showsAs_of_toText (h : a.toText = b.toText) : a.ShowsAs b := by
  have hnumber : ∀ {m n : Nat}, toString m = toString n → m = n := fun {m n} h => by
    have hdigits := congrArg String.toList h
    rw [Nat.toString_eq_repr, Nat.toString_eq_repr, Nat.toList_repr, Nat.toList_repr] at hdigits
    have hvalue := congrArg Numeral.digitsValue hdigits
    rwa [Numeral.digitsValue_toDigits, Numeral.digitsValue_toDigits] at hvalue
  have hwidth : ∀ r : LogRecord, (Hex.ofNat 8 r.span.toNat).toList.length = 16 := fun r =>
    (Hex.isText_ofNat 8 r.span.toNat).length
  have h := congrArg String.toList h
  rw [toList_toText, toList_toText, List.append_right_inj] at h
  obtain ⟨htime, h⟩ := plain_append_inj a.isPlain_timeText b.isPlain_timeText h
  rw [List.append_right_inj] at h
  obtain ⟨hseverity, h⟩ := plain_append_inj (isPlain_toString _) (isPlain_toString _) h
  rw [List.append_right_inj] at h
  obtain ⟨hmessage, h⟩ := Quoted.ofString_append_inj h
  rw [List.append_right_inj] at h
  obtain ⟨hname, h⟩ := Quoted.ofString_append_inj h
  rw [List.append_right_inj] at h
  obtain ⟨hnode, h⟩ := Quoted.ofString_append_inj h
  rw [List.append_right_inj] at h
  obtain ⟨htrace, h⟩ := Quoted.ofString_append_inj h
  rw [List.append_right_inj] at h
  obtain ⟨hspan, h⟩ := List.append_inj h ((hwidth a).trans (hwidth b).symm)
  rw [List.append_right_inj, List.append_left_inj] at h
  exact {
    time := htime
    severity := UInt16.toNat_inj.mp (hnumber hseverity)
    message := hmessage
    sourceName := hname
    sourceNode := hnode
    traceId := htrace
    span := SpanId.ofNat_toNat_inj (String.toList_inj.mp hspan)
    size := hnumber (String.toList_inj.mp h) }

end LogRecord

/-- **Lines cannot be forged.** Whatever texts a record holds, its line has printable characters
only: none controls the display and none breaks the line. And the line tells all that it shows: two
records have the same line if and only if they show the same time, severity, message, name of the
source, node, trace id, span and number of attributes, where what is absent shows as empty or zero.
-/
theorem lines_unforgeable :
    (∀ r : LogRecord, ∀ c ∈ r.toText.toList,
      Printable.isPrintable c = true ∧ ¬ Printable.Disturbs c) ∧
    ∀ a b : LogRecord, a.toText = b.toText ↔ a.ShowsAs b := by
  refine ⟨fun r c hc => ?_, fun a b => ⟨LogRecord.showsAs_of_toText, LogRecord.ShowsAs.toText_eq⟩⟩
  have hprintable := r.isShown_toText c hc
  exact ⟨hprintable, Printable.not_disturbs_of_isPrintable hprintable⟩

/-- A message that is made to look like the end of its field and the name of a source, with a line
feed behind it. -/
def forgedRecord : LogRecord := .make .epoch 300 "stop\", SourceName: \"Boiler\n"

/-- The forged record does not have the line of the record that it imitates, and its line feed does
not break the line. A record with an empty name has the line of one without a name. -/
theorem lines_unforgeable_forgedRecord :
    forgedRecord.toText ≠ { LogRecord.make .epoch 300 "stop" with sourceName := "Boiler" }.toText ∧
      '\n' ∉ forgedRecord.toText.toList ∧
      { forgedRecord with sourceName := some "" }.toText = forgedRecord.toText := by
  obtain ⟨hshown, htold⟩ := lines_unforgeable
  refine ⟨fun h => ?_, fun hfeed => ?_, (htold _ _).mpr ⟨rfl, rfl, rfl, rfl, rfl, rfl, rfl, rfl⟩⟩
  · exact absurd ((htold _ _).mp h).message (by decide)
  · exact (hshown _ _ hfeed).2 (by decide)

end LogHistory
