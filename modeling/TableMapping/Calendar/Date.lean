/-!
# Calendar dates

Dates of the proleptic Gregorian calendar, in a range of about half a million years around the
present.  Years before the first are zero and below.

## Main definitions

* `Date` : the dates, with `Date.of?` for a year, a month and a day.
* `Date.dayNumber` : the days since the first of January 1970.
* `Date.ofDayNumber?` : the date of a day number.
-/

namespace TableMapping

/-- Every fourth year has a leap day, except for three centuries out of four. -/
def isLeapYear (year : Int) : Bool := year % 4 == 0 && (year % 100 != 0 || year % 400 == 0)

/-- The number of days in a month. -/
def daysInMonth (year : Int) (month : Nat) : Nat :=
  if month = 2 then (if isLeapYear year then 29 else 28)
  else if month = 4 ∨ month = 6 ∨ month = 9 ∨ month = 11 then 30
  else 31

/-- The first and the last year of the calendar. -/
def yearRange : Int × Int := (-262143, 262142)

/-- What makes a year, a month and a day a date. -/
def IsDate (year : Int) (month day : Nat) : Prop :=
  yearRange.1 ≤ year ∧ year ≤ yearRange.2 ∧ 1 ≤ month ∧ month ≤ 12 ∧ 1 ≤ day ∧
    day ≤ daysInMonth year month

instance (year : Int) (month day : Nat) : Decidable (IsDate year month day) :=
  inferInstanceAs (Decidable (_ ∧ _))

/-- A date of the proleptic Gregorian calendar. -/
structure Date where
  year : Int
  month : Nat
  day : Nat
  valid : IsDate year month day
deriving DecidableEq

namespace Date

/-- The date of a year, a month and a day, if there is one. -/
def of? (year : Int) (month day : Nat) : Option Date :=
  if h : IsDate year month day then some ⟨year, month, day, h⟩ else none

/-- The days of a year before the first of a month. -/
def daysBeforeMonth (year : Int) : Nat → Nat
  | 0 => 0
  | 1 => 0
  | month + 1 => daysBeforeMonth year month + daysInMonth year month

/-- The days from the first of January of the year 1 to the first of January of another year. -/
def daysBeforeYear (year : Int) : Int :=
  let past := year - 1
  365 * past + past / 4 - past / 100 + past / 400

/-- The day number of the first of January 1970, from the first of January of the year 1. -/
def epochDays : Int := 719162

/-- The days since the first of January 1970. -/
def dayNumber (d : Date) : Int :=
  daysBeforeYear d.year - epochDays + daysBeforeMonth d.year d.month + (d.day - 1 : Nat)

/-- The date of a day number: the calendar repeats every 400 years, and within them a year is
counted from March, so that the leap day comes last. -/
def ofDayNumber? (days : Int) : Option Date :=
  let shifted := days + epochDays + 306
  let era := shifted / 146097
  let inEra := (shifted % 146097).toNat
  let yearOfEra := (inEra - inEra / 1460 + inEra / 36524 - inEra / 146096) / 365
  let dayOfYear := inEra - (365 * yearOfEra + yearOfEra / 4 - yearOfEra / 100)
  let fromMarch := (5 * dayOfYear + 2) / 153
  let day := dayOfYear - (153 * fromMarch + 2) / 5 + 1
  let month := if fromMarch < 10 then fromMarch + 3 else fromMarch - 9
  of? (era * 400 + yearOfEra + if month ≤ 2 then 1 else 0) month day

end Date

end TableMapping
