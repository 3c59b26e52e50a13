/-!
# Times of day

A time of day counts hours, minutes, seconds and nanoseconds.  A leap second is a second with a thousand
million nanoseconds or more.  It ends a minute in every time that is made of its parts.  Within a minute
there can be one as well, when other nanoseconds are put into a time.

## Main definitions

* `Clock` : the times of day, with `Clock.of?` for its parts.
* `LeapsAtMinuteEnd` : a leap second, if any, is the last one of a minute.
* `Clock.secondOfDay`, `Clock.ofSecondOfDay?`, `Clock.atSecondOfDay` : times as seconds from midnight.
* `Clock.midnight` : the first time of the day.
-/

namespace TableMapping

/-- The nanoseconds of a second. -/
def nanosPerSecond : Nat := 1000000000

/-- What makes an hour, a minute, a second and nanoseconds a time of day. -/
def IsClock (hour minute second nano : Nat) : Prop :=
  hour < 24 ∧ minute < 60 ∧ second < 60 ∧ nano < 2 * nanosPerSecond

instance (hour minute second nano : Nat) : Decidable (IsClock hour minute second nano) :=
  inferInstanceAs (Decidable (_ ∧ _))

/-- If a second with its nanoseconds is a leap second, then it is the last one of a minute. -/
def LeapsAtMinuteEnd (second nano : Nat) : Prop := second = 59 ∨ nano < nanosPerSecond

instance (second nano : Nat) : Decidable (LeapsAtMinuteEnd second nano) :=
  inferInstanceAs (Decidable (_ ∨ _))

/-- A time of day. -/
structure Clock where
  hour : Nat
  minute : Nat
  second : Nat
  nano : Nat
  valid : IsClock hour minute second nano
deriving DecidableEq

namespace Clock

/-- The time of an hour, a minute, a second and nanoseconds, if there is one; leap seconds are accepted
at the end of a minute only. -/
def of? (hour minute second nano : Nat) : Option Clock :=
  if h : IsClock hour minute second nano ∧ LeapsAtMinuteEnd second nano then
    some ⟨hour, minute, second, nano, h.1⟩
  else none

/-- The first time of the day. -/
def midnight : Clock := ⟨0, 0, 0, 0, by decide⟩

/-- The seconds from midnight. -/
def secondOfDay (c : Clock) : Nat := c.hour * 3600 + c.minute * 60 + c.second

/-- The time at a second of the day, with nanoseconds. -/
def ofSecondOfDay? (seconds nano : Nat) : Option Clock :=
  of? (seconds / 3600) (seconds / 60 % 60) (seconds % 60) nano

/-- The time at another second of the day, with the nanoseconds of a time. -/
def atSecondOfDay (c : Clock) (seconds : Nat) : Clock where
  hour := seconds / 3600 % 24
  minute := seconds / 60 % 60
  second := seconds % 60
  nano := c.nano
  valid := ⟨Nat.mod_lt _ (by decide), Nat.mod_lt _ (by decide), Nat.mod_lt _ (by decide),
    c.valid.2.2.2⟩

end Clock

end TableMapping
