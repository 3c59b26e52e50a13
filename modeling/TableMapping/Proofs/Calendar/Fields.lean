import TableMapping.Calendar.Reader
import TableMapping.Proofs.Number.DigitRuns

/-!
# Fields of dates and times

A date and a time are runs of digits with single characters between them.  A field takes a run of digits
that is not too long, and stops at the first character that is no digit.  So a text in such fields is
read as the date or the time of its numbers, whatever stands behind the date.

## Main definitions

* `DenotesDate`, `DenotesClock` : the texts that are read as a date and as a time.

## Main results

* `readUpTo_append` : a run of digits as a field.
* `DenotesDate.of_fields`, `DenotesClock.of_fields` : dates and times in fields.
-/

namespace TableMapping

open Text (isBlank trimStart)

/-! ### Fields -/

section Fields

variable {digits rest : List Char}

/-- A run of digits as a field of at most `most` digits. -/
theorem readUpTo_append {most : Nat} (h : IsRun digits) (hmost : digits.length ≤ most)
    (hrest : NoDigitAhead rest) :
    readUpTo most (digits ++ rest) = some (runValue digits, rest) := by
  have htaken : NoDigitAhead (rest.take (most - digits.length)) := by
    intro c hc
    rw [List.head?_take] at hc
    split at hc
    · cases hc
    · exact hrest c hc
  have hfield : ((digits ++ rest).take most).takeWhile Char.isDigit = digits := by
    rw [List.take_append, List.take_of_length_le hmost, takeWhile_isDigit_append h htaken]
  have hne : digits.isEmpty = false := by simpa using h.ne_nil
  simp only [readUpTo, hfield, hne, Bool.false_eq_true, if_false, List.drop_left, runValue]

theorem readField_append (h : IsRun digits) (hlength : digits.length ≤ 2)
    (hrest : NoDigitAhead rest) : readField (digits ++ rest) = some (runValue digits, rest) := by
  rw [readField, trimStart_run_append h, readUpTo_append h hlength hrest]

/-- A field does not start with a character that is neither a digit nor a blank. -/
theorem readField_cons_eq_none {c : Char} {s : List Char} (hdigit : c.isDigit = false)
    (hblank : isBlank c = false) : readField (c :: s) = none := by
  have htrim : trimStart (c :: s) = c :: s :=
    Text.trimStart_eq_self fun d hd => by rwa [← Option.some.inj hd]
  have hnone : ((c :: s).take 2).takeWhile Char.isDigit = [] := by
    rw [List.take_succ_cons, List.takeWhile_cons_of_neg (by simp [hdigit])]
  rw [readField, htrim, readUpTo, hnone]
  rfl

@[simp]
theorem readChar_cons_self (c : Char) (s : List Char) : readChar c (c :: s) = some s := if_pos rfl

/-- A year without a sign. -/
theorem readYear_append (h : IsRun digits) (hlength : digits.length ≤ 4)
    (hrest : NoDigitAhead rest) :
    readYear (digits ++ rest) = some ((runValue digits : Int), rest) := by
  have hread : readUpTo 4 (digits ++ rest) = some (runValue digits, rest) :=
    readUpTo_append h hlength hrest
  rw [readYear, trimStart_run_append h]
  obtain ⟨c, cs, rfl, hc⟩ := h.exists_cons
  split
  case h_1 heq | h_2 heq =>
    rw [List.cons_append, List.cons.injEq] at heq
    rw [heq.1] at hc
    exact absurd hc (by decide)
  case h_3 => rw [hread, Option.map_some]

/-- A year behind a sign. -/
theorem readYear_signed_append (h : IsRun digits) (hrest : NoDigitAhead rest) :
    readYear ('-' :: (digits ++ rest)) = some (-(runValue digits : Int), rest) ∧
      readYear ('+' :: (digits ++ rest)) = some ((runValue digits : Int), rest) := by
  have hread : readUpTo (digits ++ rest).length (digits ++ rest) = some (runValue digits, rest) :=
    readUpTo_append h (by simp) hrest
  constructor <;>
  · rw [readYear, Text.trimStart_eq_self fun c hc => by rw [← Option.some.inj hc]; decide]
    simp only [hread, Option.map_some]

end Fields

/-! ### Dates -/

/-- A text that is read as a date if no digit follows. -/
def DenotesDate (s : List Char) (d : Date) : Prop :=
  ∀ rest, NoDigitAhead rest → readDatePart (s ++ rest) = some (d, rest)

/-- A year, a month and a day with hyphens between them. -/
theorem DenotesDate.of_fields {year month day : List Char} {y : Int} {d : Date}
    (hyear : ∀ rest, NoDigitAhead rest → readYear (year ++ rest) = some (y, rest))
    (hmonth : IsRun month) (hmonth' : month.length ≤ 2) (hday : IsRun day)
    (hday' : day.length ≤ 2) (hdate : Date.of? y (runValue month) (runValue day) = some d) :
    DenotesDate (year ++ '-' :: (month ++ '-' :: day)) d := by
  intro rest hrest
  have hhyphen : ∀ s, NoDigitAhead ('-' :: s) := fun _ => noDigitAhead_cons (by decide)
  simp only [readDatePart, List.append_assoc, List.cons_append, hyear _ (hhyphen _),
    readField_append hmonth hmonth' (hhyphen _), readField_append hday hday' hrest, hdate,
    readChar_cons_self, Option.bind_eq_bind, Option.bind_some, Option.pure_def]

/-! ### Times of day -/

/-- The characters of a time of day. -/
def IsClockChar (c : Char) : Prop := c.isDigit = true ∨ c = ':' ∨ c = '.'

/-- A text that is read as a time of day, from its first digit on. -/
structure DenotesClock (s : List Char) (c : Clock) : Prop where
  read : readFullClock? s = some c
  head : ∃ first rest, s = first :: rest ∧ first.isDigit = true
  chars : ∀ c ∈ s, IsClockChar c

/-- The texts that are read as a fraction of a second with its point, or as none. -/
structure DenotesFraction (s : List Char) (nano : Nat) : Prop where
  read : readOptionalFraction s = some (nano, [])
  noDigitAhead : NoDigitAhead s
  chars : ∀ c ∈ s, IsClockChar c

theorem denotesFraction_nil : DenotesFraction [] 0 :=
  ⟨rfl, noDigitAhead_nil, fun _ hc => absurd hc List.not_mem_nil⟩

/-- Digits behind a point, of which nine count. -/
theorem denotesFraction_cons {digits : List Char} (h : IsRun digits) :
    DenotesFraction ('.' :: digits)
      (runValue (digits.take 9) * tenPow (9 - (digits.take 9).length)) where
  read := by
    have htake : digits.takeWhile Char.isDigit = digits := by
      simpa using takeWhile_isDigit_append h noDigitAhead_nil
    have hdrop : digits.dropWhile Char.isDigit = [] := by
      simpa using dropWhile_isDigit_append h noDigitAhead_nil
    have hne : digits.isEmpty = false := by simpa using h.ne_nil
    simp only [readOptionalFraction, readFraction, htake, hdrop, hne, Bool.false_eq_true, if_false,
      runValue]
  noDigitAhead := noDigitAhead_cons (by decide)
  chars c hc := by
    rcases List.mem_cons.mp hc with rfl | hc
    · exact .inr (.inr rfl)
    · exact .inl (h.isDigit c hc)

/-- An hour, a minute and a second with colons between them, and a fraction behind. -/
theorem DenotesClock.of_fields {hour minute second fraction : List Char} {nano : Nat} {c : Clock}
    (hhour : IsRun hour) (hhour' : hour.length ≤ 2) (hminute : IsRun minute)
    (hminute' : minute.length ≤ 2) (hsecond : IsRun second) (hsecond' : second.length ≤ 2)
    (hfraction : DenotesFraction fraction nano)
    (hclock : clockOf? (runValue hour) (runValue minute) (runValue second) nano = some c) :
    DenotesClock (hour ++ ':' :: (minute ++ ':' :: (second ++ fraction))) c where
  read := by
    have hcolon : ∀ s, NoDigitAhead (':' :: s) := fun _ => noDigitAhead_cons (by decide)
    simp only [readFullClock?, readField_append hhour hhour' (hcolon _),
      readField_append hminute hminute' (hcolon _),
      readField_append hsecond hsecond' hfraction.noDigitAhead, hfraction.read, hclock,
      readChar_cons_self, Option.bind_eq_bind, Option.bind_some, List.isEmpty_nil, if_true]
  head := by
    obtain ⟨first, rest, rfl, hfirst⟩ := hhour.exists_cons
    exact ⟨first, _, rfl, hfirst⟩
  chars ch hch := by
    simp only [List.mem_append, List.mem_cons] at hch
    rcases hch with hch | rfl | hch | rfl | hch | hch
    · exact .inl (hhour.isDigit ch hch)
    · exact .inr (.inl rfl)
    · exact .inl (hminute.isDigit ch hch)
    · exact .inr (.inl rfl)
    · exact .inl (hsecond.isDigit ch hch)
    · exact hfraction.chars ch hch

end TableMapping
