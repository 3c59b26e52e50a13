import TableMapping.Proofs.Calendar.LooseNotation

/-!
# The strict notation

A text in the strict notation is a date, a mark, a time and an offset.  If the offset is a `Z`, then
what stands before it is the same instant in the loose notation, unless the mark is a small letter.  If
the offset has a sign, then the text is not in the loose notation, and with a `Z` behind it in neither
of the two.

## Main definitions

* `IsOffset`, `IsSigned` : the offsets from UTC, and those of them with a sign.
* `StrictText` : the parts of a text in the strict notation.

## Main results

* `exists_of_readStrict?` : the parts of a text that is read in the strict notation.
* `eq_of_readStrict?_append_marker` : both notations agree about a text and the text with a `Z`.
* `readUtc?_append_marker` : a `Z` behind a text in the loose notation does not change its instant.
* `readUtc?_append_marker_of_not_endsInDigit`, `readUtc?_append_marker_of_isSigned` : the texts that cannot
  be read with a `Z` behind them.
-/

namespace TableMapping

open Text (isBlank trim trimStart trimEnd)

/-! ### Texts in the strict notation -/

section Strict

variable {s rest : List Char} {n : Nat}

theorem exists_of_readExactly {width : Nat} (hwidth : 0 < width)
    (h : readExactly width s = some (n, rest)) :
    ∃ digits, s = digits ++ rest ∧ IsRun digits ∧ digits.length = width ∧ n = runValue digits := by
  rw [readExactly] at h
  split at h
  case isTrue => cases h
  case isFalse hlong =>
    obtain ⟨rfl, rfl⟩ := Prod.mk.inj (Option.some.inj h)
    have hprefix : (s.take width).takeWhile Char.isDigit <+: s.take width := List.takeWhile_prefix _
    have hle : (s.take width).length ≤ width := List.length_take_le width s
    -- As many digits as characters: all that is taken are digits.
    have htake : (s.take width).takeWhile Char.isDigit = s.take width :=
      hprefix.eq_of_length_le (by omega)
    have hlength : (s.take width).length = width := by
      rw [htake] at hlong
      omega
    refine ⟨s.take width, (List.take_append_drop width s).symm, ?_, hlength, by rw [htake, runValue]⟩
    rw [← htake]
    refine isRun_takeWhile fun hempty => ?_
    rw [htake, List.isEmpty_iff] at hempty
    rw [hempty] at hlength
    exact absurd hlength (Nat.ne_of_lt hwidth)

/-- The signs of offsets. -/
def IsOffsetSign (c : Char) : Prop := c = '+' ∨ c = '-' ∨ c = '\u2212'

/-- A sign stands neither in a time nor behind the `T` in front of it. -/
theorem IsOffsetSign.not_looseClockChar {sign : Char} (h : IsOffsetSign sign) :
    ¬ (sign = 'T' ∨ IsLooseClockChar sign) := by
  simp only [IsLooseClockChar, IsClockChar]
  rcases h with rfl | rfl | rfl <;> decide

/-- The texts of offsets from UTC, with the minutes by which a local time is ahead. -/
inductive IsOffset : List Char → Int → Prop
  | utc : IsOffset ['Z'] 0
  | smallUtc : IsOffset ['z'] 0
  | signed {sign : Char} {rest : List Char} (ahead : Int) (hsign : IsOffsetSign sign)
      (hchars : ∀ c ∈ rest, c.isDigit = true ∨ c = ':') (hends : EndsInDigit rest) :
      IsOffset (sign :: rest) ahead

/-- What is known of an offset with a sign. -/
structure IsSigned (offset : List Char) (sign : Char) : Prop where
  isSign : IsOffsetSign sign
  mem : sign ∈ offset
  chars : ∀ c ∈ offset, c = sign ∨ c.isDigit = true ∨ c = ':'
  ends : EndsInDigit offset

theorem IsOffset.ne_nil {offset : List Char} {ahead : Int} (h : IsOffset offset ahead) :
    offset ≠ [] := by
  cases h <;> exact List.cons_ne_nil _ _

/-- An offset that ends in a capital `Z` is nothing else. -/
theorem IsOffset.eq_utc {offset : List Char} {ahead : Int} (h : IsOffset offset ahead)
    (hlast : offset.getLast? = some 'Z') : offset = ['Z'] ∧ ahead = 0 := by
  cases h with
  | utc => exact ⟨rfl, rfl⟩
  | smallUtc => cases hlast
  | signed ahead hsign hchars hends =>
    obtain ⟨c, hc, hdigit⟩ := hends.cons _
    rw [hlast] at hc
    rw [← Option.some.inj hc] at hdigit
    exact absurd hdigit (by decide)

/-- An offset that does not end in a `Z` has a sign. -/
theorem IsOffset.exists_isSigned {offset : List Char} {ahead : Int} (h : IsOffset offset ahead)
    (hlast : ∀ c ∈ offset.getLast?, ¬ (c = 'Z' ∨ c = 'z')) : ∃ sign, IsSigned offset sign := by
  cases h with
  | utc => exact absurd (.inl rfl) (hlast 'Z' rfl)
  | smallUtc => exact absurd (.inr rfl) (hlast 'z' rfl)
  | @signed sign rest ahead hsign hchars hends =>
    refine ⟨sign, hsign, List.mem_cons_self, fun c hc => ?_, hends.cons sign⟩
    exact (List.mem_cons.mp hc).imp_right (hchars c)

theorem exists_of_readOffsetSign {behind : Bool} (h : readOffsetSign s = some (behind, rest)) :
    ∃ sign, s = sign :: rest ∧ IsOffsetSign sign := by
  rw [readOffsetSign.eq_def] at h
  split at h
  case h_1 => cases h
  case h_2 c s =>
    split_ifs at h with hplus hminus
    · obtain ⟨-, rfl⟩ := Prod.mk.inj (Option.some.inj h)
      exact ⟨c, rfl, .inl hplus⟩
    · obtain ⟨-, rfl⟩ := Prod.mk.inj (Option.some.inj h)
      refine ⟨c, rfl, .inr (hminus.imp_right fun hc => ?_)⟩
      exact Char.toNat_inj.mp hc

theorem isOffset_of_readOffset {ahead : Int} (h : readOffset s = some (ahead, [])) :
    IsOffset s ahead := by
  rw [readOffset.eq_def] at h
  split at h
  case h_1 =>
    obtain ⟨rfl, rfl⟩ := Prod.mk.inj (Option.some.inj h)
    exact .utc
  case h_2 =>
    obtain ⟨rfl, rfl⟩ := Prod.mk.inj (Option.some.inj h)
    exact .smallUtc
  case h_3 =>
    simp only [Option.bind_eq_bind, Option.bind_eq_some_iff, Prod.exists, readChar_eq_some_iff,
      Option.ite_none_right_eq_some, Option.some.injEq, Prod.mk.injEq] at h
    obtain ⟨behind, _, hsign, hours, _, hhours, _, rfl, minutes, _, hminutes, -, -, rfl⟩ := h
    obtain ⟨sign, rfl, hsign'⟩ := exists_of_readOffsetSign hsign
    obtain ⟨hh, rfl, hhrun, -⟩ := exists_of_readExactly (by decide) hhours
    obtain ⟨mm, rfl, hmrun, -⟩ := exists_of_readExactly (by decide) hminutes
    rw [List.append_nil]
    refine .signed ahead hsign' (fun c hc => ?_) ((hmrun.endsInDigit.cons ':').append_left hh)
    rcases List.mem_append.mp hc with hc | hc
    · exact .inl (hhrun.isDigit c hc)
    · exact (List.mem_cons.mp hc).elim .inr fun hc => .inl (hmrun.isDigit c hc)

/-- The parts of a text in the strict notation. -/
structure StrictText where
  day : List Char
  mark : Char
  time : List Char
  offset : List Char
  date : Date
  clock : Clock
  ahead : Int
  denotesDate : DenotesDate day date
  length_day : day.length = 10
  isMark : mark = 'T' ∨ mark = 't' ∨ mark = ' '
  denotesClock : DenotesClock time clock
  isOffset : IsOffset offset ahead

/-- The text of the parts. -/
def StrictText.text (p : StrictText) : List Char := p.day ++ p.mark :: (p.time ++ p.offset)

/-- The instant of the parts. -/
def StrictText.instant? (p : StrictText) : Option Instant :=
  Instant.minusMinutes? p.ahead ⟨p.date, p.clock⟩

theorem readTimeMark_eq_some (h : readTimeMark s = some rest) :
    ∃ mark, s = mark :: rest ∧ (mark = 'T' ∨ mark = 't' ∨ mark = ' ') := by
  rw [readTimeMark.eq_def] at h
  split at h
  case h_1 => cases h
  case h_2 c s =>
    obtain ⟨hc, hs⟩ := Option.ite_none_right_eq_some.mp h
    exact ⟨c, by rw [Option.some.inj hs], hc⟩

/-- **A text that is read in the strict notation has the parts of that notation.** -/
theorem exists_of_readStrict? {i : Instant} (h : readStrict? s = some i) :
    ∃ p : StrictText, p.text = s ∧ p.instant? = some i := by
  rw [readStrict?] at h
  obtain ⟨⟨year, _⟩, hyear, h⟩ := Option.bind_eq_some_iff.mp h
  obtain ⟨_, hdash, h⟩ := Option.bind_eq_some_iff.mp h
  obtain ⟨⟨month, _⟩, hmonth, h⟩ := Option.bind_eq_some_iff.mp h
  obtain ⟨_, hdash', h⟩ := Option.bind_eq_some_iff.mp h
  obtain ⟨⟨day, _⟩, hday, h⟩ := Option.bind_eq_some_iff.mp h
  obtain ⟨_, hmark, h⟩ := Option.bind_eq_some_iff.mp h
  obtain ⟨⟨hour, _⟩, hhour, h⟩ := Option.bind_eq_some_iff.mp h
  obtain ⟨_, hcolon, h⟩ := Option.bind_eq_some_iff.mp h
  obtain ⟨⟨minute, _⟩, hminute, h⟩ := Option.bind_eq_some_iff.mp h
  obtain ⟨_, hcolon', h⟩ := Option.bind_eq_some_iff.mp h
  obtain ⟨⟨second, _⟩, hsecond, h⟩ := Option.bind_eq_some_iff.mp h
  obtain ⟨⟨nano, offset⟩, hnano, h⟩ := Option.bind_eq_some_iff.mp h
  obtain ⟨⟨ahead, rest⟩, hoffset, h⟩ := Option.bind_eq_some_iff.mp h
  obtain ⟨date, hdate, h⟩ := Option.bind_eq_some_iff.mp h
  obtain ⟨clock, hclock, h⟩ := Option.bind_eq_some_iff.mp h
  obtain ⟨hempty, hinstant⟩ := Option.ite_none_right_eq_some.mp h
  obtain rfl : rest = [] := List.isEmpty_iff.mp hempty
  rw [readChar_eq_some_iff] at hdash hdash' hcolon hcolon'
  subst hdash hdash' hcolon hcolon'
  obtain ⟨yyyy, rfl, hyyyy, hlength, rfl⟩ := exists_of_readExactly (by decide) hyear
  obtain ⟨mm, rfl, hmm, hlength', rfl⟩ := exists_of_readExactly (by decide) hmonth
  obtain ⟨dd, rfl, hdd, hlength'', rfl⟩ := exists_of_readExactly (by decide) hday
  obtain ⟨mark, rfl, hisMark⟩ := readTimeMark_eq_some hmark
  obtain ⟨hrs, rfl, hhrs, hhlength, rfl⟩ := exists_of_readExactly (by decide) hhour
  obtain ⟨min, rfl, hmin, hmlength, rfl⟩ := exists_of_readExactly (by decide) hminute
  obtain ⟨sec, rfl, hsec, hslength, rfl⟩ := exists_of_readExactly (by decide) hsecond
  obtain ⟨fraction, rfl, hfraction, -⟩ := exists_of_readOptionalFraction hnano
  have hdate : Date.of? (runValue yyyy) (runValue mm) (runValue dd) = some date := hdate
  have hclock : clockOf? (runValue hrs) (runValue min) (runValue sec) nano = some clock := hclock
  refine ⟨{
    day := yyyy ++ '-' :: (mm ++ '-' :: dd)
    mark := mark
    time := hrs ++ ':' :: (min ++ ':' :: (sec ++ fraction))
    offset := offset
    date := date
    clock := clock
    ahead := ahead
    denotesDate := .of_fields (fun _ => readYear_append hyyyy (by omega)) hmm (by omega) hdd (by omega)
      hdate
    length_day := by simp [hlength, hlength', hlength'']
    isMark := hisMark
    denotesClock := .of_fields hhrs (by omega) hmin (by omega) hsec (by omega) hfraction hclock
    isOffset := isOffset_of_readOffset hoffset }, ?_, hinstant⟩
  simp only [StrictText.text, List.append_assoc, List.cons_append]

end Strict

/-! ### Readings in both notations -/

/-- A time that is ahead by nothing is in UTC already. -/
theorem Instant.minusMinutes?_zero (i : Instant) : i.minusMinutes? 0 = some i := by
  obtain ⟨date, clock⟩ := i
  obtain ⟨hhour, hminute, hsecond, -⟩ := clock.valid
  have hlt : (clock.secondOfDay : Int) < 86400 := by
    rw [Clock.secondOfDay]
    omega
  have hclock : clock.atSecondOfDay clock.secondOfDay = clock := by
    have hh : clock.secondOfDay / 3600 % 24 = clock.hour := by rw [Clock.secondOfDay]; omega
    have hm : clock.secondOfDay / 60 % 60 = clock.minute := by rw [Clock.secondOfDay]; omega
    have hs : clock.secondOfDay % 60 = clock.second := by rw [Clock.secondOfDay]; omega
    simp only [Clock.atSecondOfDay, hh, hm, hs]
  have hmod : ((clock.secondOfDay : Int) % 86400).toNat = clock.secondOfDay := by omega
  have hdiv : (clock.secondOfDay : Int) / 86400 = 0 := by omega
  simp only [minusMinutes?, Int.zero_mul, Int.sub_zero, secondsPerDay, hmod, hdiv, hclock, if_true,
    Option.pure_def]

namespace StrictText

variable {p : StrictText} {s : List Char}

theorem text_eq (p : StrictText) : p.text = (p.day ++ p.mark :: p.time) ++ p.offset := by
  rw [text, List.append_assoc, List.cons_append]

theorem noDigitAhead_mark (p : StrictText) (rest : List Char) : NoDigitAhead (p.mark :: rest) := by
  refine noDigitAhead_cons ?_
  rcases p.isMark with h | h | h <;> rw [h] <;> decide

/-- A text ends as its offset does. -/
theorem getLast?_text (p : StrictText) : p.text.getLast? = p.offset.getLast? := by
  rw [text_eq, List.getLast?_append_of_ne_nil _ p.isOffset.ne_nil]

/-- If a `Z` stands at the end of a text, then the time stands before it, in UTC. -/
theorem eq_of_text_eq_append_marker (h : p.text = s ++ ['Z']) :
    s = p.day ++ p.mark :: p.time ∧ p.ahead = 0 := by
  have hlast : p.offset.getLast? = some 'Z' := by rw [← getLast?_text, h, List.getLast?_concat]
  obtain ⟨hoffset, hahead⟩ := p.isOffset.eq_utc hlast
  rw [text_eq, hoffset] at h
  exact ⟨(List.append_cancel_right h).symm, hahead⟩

theorem endsInDigit_time (p : StrictText) : EndsInDigit (p.day ++ p.mark :: p.time) :=
  ((takes_of_readFullClock? p.denotesClock.read).endsInDigit.cons p.mark).append_left p.day

/-- A date and a time with a small letter between them are not in the loose notation. -/
theorem readLoose?_of_small (p : StrictText) (hmark : p.mark = 't') :
    readLoose? (p.day ++ p.mark :: p.time) = none := by
  rw [p.denotesDate.readLoose?_append (p.noDigitAhead_mark _), hmark, readTimePart?_small,
    Option.map_none]

/-- With another mark they are in the loose notation as well. -/
theorem readLoose?_of_ne_small (p : StrictText) (hmark : p.mark ≠ 't') :
    readLoose? (p.day ++ p.mark :: p.time) = some ⟨p.date, p.clock⟩ := by
  have htime : readTimePart? (p.mark :: p.time) = some p.clock := by
    rcases p.isMark with h | h | h
    · rw [h, readTimePart?_mark p.denotesClock]
    · exact absurd h hmark
    · rw [h, readTimePart?_blank p.denotesClock]
  rw [p.denotesDate.readLoose?_append (p.noDigitAhead_mark _), htime, Option.map_some]

/-- An offset with a sign is not in the loose notation. -/
theorem readLoose?_text_of_isSigned {sign : Char} (h : IsSigned p.offset sign) :
    readLoose? p.text = none := by
  have htime : readTimePart? (p.mark :: (p.time ++ p.offset)) = none := by
    refine Option.eq_none_iff_forall_ne_some.mpr fun c htime => ?_
    rcases takes_of_readTimePart? htime with hempty | htaken
    · cases hempty
    · have hmem : sign ∈ p.mark :: (p.time ++ p.offset) :=
        List.mem_cons_of_mem _ (List.mem_append_right _ h.mem)
      exact h.isSign.not_looseClockChar (htaken.forall_mem sign hmem)
  rw [text, p.denotesDate.readLoose?_append (p.noDigitAhead_mark _), htime, Option.map_none]

end StrictText

/-- If a text is in the loose notation, and with a `Z` behind it in the strict one, then it is the same
instant in both. -/
theorem eq_of_readStrict?_append_marker {s : List Char} {i j : Instant} (hloose : readLoose? s = some i)
    (hstrict : readStrict? (s ++ ['Z']) = some j) : j = i := by
  obtain ⟨p, htext, hinstant⟩ := exists_of_readStrict? hstrict
  obtain ⟨rfl, hahead⟩ := StrictText.eq_of_text_eq_append_marker htext
  by_cases hmark : p.mark = 't'
  · rw [p.readLoose?_of_small hmark] at hloose
    cases hloose
  · rw [p.readLoose?_of_ne_small hmark] at hloose
    rw [StrictText.instant?, hahead, Instant.minusMinutes?_zero, hloose] at hinstant
    exact (Option.some.inj hinstant).symm

/-! ### Marks of UTC -/

section Marks

variable {s : List Char} {i : Instant}

/-- A blank at the start of a text is taken off also when a `Z` stands at its end. -/
theorem trim_append_marker (s : List Char) : trim (s ++ ['Z']) = trimStart s ++ ['Z'] := by
  have hstart : trimStart (s ++ ['Z']) = trimStart s ++ ['Z'] := by
    rw [trimStart, List.dropWhile_append]
    split
    case isTrue h =>
      rw [trimStart, List.isEmpty_iff.mp h]
      rfl
    case isFalse => rfl
  rw [trim, hstart, trimEnd, List.reverse_append, List.reverse_singleton, List.singleton_append,
    Text.trimStart_eq_self fun c hc => by rw [← Option.some.inj hc]; decide]
  simp

theorem withoutMarker_append_marker (s : List Char) : withoutMarker (s ++ ['Z']) = s := by
  rw [withoutMarker, List.getLast?_concat]
  simp

theorem readUtc?_append_marker_eq (s : List Char) :
    readUtc? (s ++ ['Z']) = (readStrict? (trimStart s ++ ['Z'])).or (readLoose? (trimStart s)) := by
  rw [readUtc?, trim_append_marker, withoutMarker_append_marker, Option.orElse_eq_orElse,
    Option.orElse_eq_or]

/-- **A `Z` behind a text in the loose notation does not change its instant.** -/
theorem readUtc?_append_marker (hloose : readLoose? (trimStart s) = some i) :
    readUtc? (s ++ ['Z']) = some i := by
  rw [readUtc?_append_marker_eq, hloose]
  cases hstrict : readStrict? (trimStart s ++ ['Z']) with
  | none => rfl
  | some j =>
    rw [eq_of_readStrict?_append_marker hloose hstrict]
    rfl

/-- A text that does not end in a digit cannot be read with a `Z` behind it. -/
theorem readUtc?_append_marker_of_not_endsInDigit (h : ¬ EndsInDigit (trimStart s)) :
    readUtc? (s ++ ['Z']) = none := by
  have hstrict : readStrict? (trimStart s ++ ['Z']) = none := by
    refine Option.eq_none_iff_forall_ne_some.mpr fun i hread => h ?_
    obtain ⟨p, htext, -⟩ := exists_of_readStrict? hread
    rw [(StrictText.eq_of_text_eq_append_marker htext).1]
    exact p.endsInDigit_time
  have hloose : readLoose? (trimStart s) = none :=
    Option.eq_none_iff_forall_ne_some.mpr fun i hread => h (endsInDigit_of_readLoose? hread)
  rw [readUtc?_append_marker_eq, hstrict, hloose, Option.or_none]

/-- Neither can a text with a signed offset. -/
theorem readUtc?_append_marker_of_isSigned {p : StrictText} {sign : Char}
    (htext : p.text = trimStart s) (h : IsSigned p.offset sign) : readUtc? (s ++ ['Z']) = none := by
  have hstrict : readStrict? (trimStart s ++ ['Z']) = none := by
    refine Option.eq_none_iff_forall_ne_some.mpr fun i hread => ?_
    obtain ⟨q, hq, -⟩ := exists_of_readStrict? hread
    -- The first ten characters are the date in both readings, so the sign would be part of a time.
    have heq : p.day ++ p.mark :: (p.time ++ p.offset) = q.day ++ q.mark :: q.time := by
      rw [← (StrictText.eq_of_text_eq_append_marker hq).1, ← htext, StrictText.text]
    obtain ⟨-, hrest⟩ := List.append_inj heq (p.length_day.trans q.length_day.symm)
    obtain ⟨-, htime⟩ := List.cons.inj hrest
    have hchar : IsClockChar sign :=
      q.denotesClock.chars sign (htime ▸ List.mem_append_right p.time h.mem)
    exact h.isSign.not_looseClockChar (.inr (.inr hchar))
  rw [readUtc?_append_marker_eq, hstrict, ← htext, StrictText.readLoose?_text_of_isSigned h,
    Option.or_none]

end Marks

end TableMapping
