import TableMapping.Calendar.Instant
import TableMapping.Number.Layout

/-!
# Written forms of dates and times

A year from 0 to 9999 takes four digits; any other year has a sign and four digits or more.  The
fraction of a second takes no digits, three, six or nine, as many as it needs.

## Main definitions

* `Date.text` : year, month and day, as in `2024-02-29`.
* `Clock.text` : hour, minute and second, as in `08:05:03.120`.
* `Instant.text` : both with a `T` between them and a `Z` after them.
* `Instant.plainText` : both with a blank between them.
-/

namespace TableMapping

/-- The decimal digits of a number, with zeros in front up to a width. -/
def paddedText (width n : Nat) : List Char :=
  let digits := natText n
  List.replicate (width - digits.length) '0' ++ digits

/-- A year. -/
def yearText (year : Int) : List Char :=
  let digits := paddedText 4 year.natAbs
  if 0 ≤ year ∧ year ≤ 9999 then digits else (if year < 0 then '-' else '+') :: digits

/-- A date as year, month and day. -/
def Date.text (d : Date) : List Char :=
  yearText d.year ++ '-' :: (paddedText 2 d.month ++ '-' :: paddedText 2 d.day)

/-- The digits of a fraction of a second after its point, in groups of three. -/
def fractionText (nano : Nat) : List Char :=
  if nano = 0 then []
  else if nano % 1000000 = 0 then '.' :: paddedText 3 (nano / 1000000)
  else if nano % 1000 = 0 then '.' :: paddedText 6 (nano / 1000)
  else '.' :: paddedText 9 nano

/-- A time of day; a leap second is the second 60. -/
def Clock.text (c : Clock) : List Char :=
  paddedText 2 c.hour ++ ':' :: (paddedText 2 c.minute ++
    ':' :: (paddedText 2 (c.second + c.nano / nanosPerSecond) ++
      fractionText (c.nano % nanosPerSecond)))

/-- An instant as a date, a `T`, a time, and a `Z` for UTC. -/
def Instant.text (i : Instant) : List Char := i.date.text ++ 'T' :: (i.clock.text ++ ['Z'])

/-- An instant as a date and a time without a mark for UTC. -/
def Instant.plainText (i : Instant) : List Char := i.date.text ++ ' ' :: i.clock.text

end TableMapping
