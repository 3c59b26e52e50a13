import TableMapping.Calendar.Date
import TableMapping.Calendar.Clock

/-!
# Instants

An instant is a date and a time of day in UTC.

## Main definitions

* `Instant` : the instants.
* `Instant.ofDate` : the midnight at which a date begins.
* `Instant.unixSeconds`, `Instant.ofUnix?` : instants as seconds since the epoch.
* `Instant.ofMillis?` : instants as milliseconds since the epoch.
* `Instant.minusMinutes?` : the instant of a local time that is ahead by some minutes.
-/

namespace TableMapping

/-- An instant, as date and time of day in UTC. -/
structure Instant where
  date : Date
  clock : Clock
deriving DecidableEq

namespace Instant

/-- The midnight at which a date begins. -/
def ofDate (d : Date) : Instant := ⟨d, .midnight⟩

/-- The seconds of a day. -/
def secondsPerDay : Int := 86400

/-- The seconds since the first of January 1970. -/
def unixSeconds (i : Instant) : Int := i.date.dayNumber * secondsPerDay + i.clock.secondOfDay

/-- The instant some seconds and nanoseconds after the first of January 1970. -/
def ofUnix? (seconds : Int) (nano : Nat) : Option Instant := do
  let date ← Date.ofDayNumber? (seconds / secondsPerDay)
  let clock ← Clock.ofSecondOfDay? (seconds % secondsPerDay).toNat nano
  return ⟨date, clock⟩

/-- The instant some milliseconds after the first of January 1970. -/
def ofMillis? (millis : Int) : Option Instant :=
  ofUnix? (millis / 1000) ((millis % 1000).toNat * 1000000)

/-- The instant some minutes earlier; a leap second stays one. -/
def minusMinutes? (minutes : Int) (i : Instant) : Option Instant := do
  let seconds := (i.clock.secondOfDay : Int) - minutes * 60
  let clock := i.clock.atSecondOfDay (seconds % secondsPerDay).toNat
  let days := seconds / secondsPerDay
  if days = 0 then return ⟨i.date, clock⟩
  else
    let date ← Date.ofDayNumber? (i.date.dayNumber + days)
    return ⟨date, clock⟩

end Instant

end TableMapping
