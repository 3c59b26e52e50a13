import TableMapping.Proofs.Calendar.Fields

/-!
# The loose notation

A text in the loose notation is a date and what follows it: a time, with its seconds or without them,
behind blanks or a `T`, or nothing at all.  Each field takes characters up to a digit, so a text in the
loose notation ends in a digit, and behind its date there are no characters but those of a time.

## Main definitions

* `readTimePart?` : what follows a date.
* `EndsInDigit` : the texts whose last character is a digit.
* `Takes` : what a reader takes of a text.

## Main results

* `readLoose?_eq`, `DenotesDate.readLoose?_append` : the loose notation as a date and what follows it.
* `takes_of_readTimePart?` : the characters behind a date.
* `endsInDigit_of_readLoose?` : how a text in the loose notation ends.
-/

namespace TableMapping

open Text (isBlank trimStart)

/-! ### A date and what follows it -/

section Loose

variable {s day time : List Char} {d : Date} {c : Clock}

/-- What follows a date in the loose notation: a time behind blanks or a `T`, with its seconds or
without them, or nothing at all. -/
def readTimePart? (rest : List Char) : Option Clock :=
  readFullClock? (trimStart rest) <|> (readChar 'T' rest).bind readFullClock? <|>
    readShortClock? (trimStart rest) <|> (readChar 'T' rest).bind readShortClock? <|>
    if rest.isEmpty then some .midnight else none

/-- Every form of the loose notation is a date and what follows it. -/
theorem readLoose?_eq (s : List Char) :
    readLoose? s = (readDatePart s).bind fun (d, rest) => (readTimePart? rest).map (⟨d, ·⟩) := by
  simp only [readLoose?, readParts?, separateByBlanks, readDate?]
  cases readDatePart s with
  | none => rfl
  | some found =>
    obtain ⟨d, rest⟩ := found
    simp only [readTimePart?, Option.bind_eq_bind, Option.bind_some, Option.pure_def]
    have hmidnight : (if rest.isEmpty then some d else none).map Instant.ofDate =
        (if rest.isEmpty then some Clock.midnight else none).map (Instant.mk d) := by
      split <;> rfl
    simp only [Option.orElse_eq_orElse, Option.orElse_eq_or, Option.map_or, hmidnight]
    simp only [Option.map_eq_bind, Option.bind_assoc, Function.comp_def]

/-- A date in the loose notation, and what follows it. -/
theorem DenotesDate.readLoose?_append (h : DenotesDate day d) {rest : List Char}
    (hrest : NoDigitAhead rest) : readLoose? (day ++ rest) = (readTimePart? rest).map (⟨d, ·⟩) := by
  rw [readLoose?_eq, h rest hrest, Option.bind_some]

/-- No time starts with a character that is neither a digit nor a blank. -/
theorem readClocks_cons_eq_none {ch : Char} {rest : List Char} (hdigit : ch.isDigit = false)
    (hblank : isBlank ch = false) :
    readFullClock? (trimStart (ch :: rest)) = none ∧
      readShortClock? (trimStart (ch :: rest)) = none := by
  rw [Text.trimStart_eq_self fun d hd => by rwa [← Option.some.inj hd], readFullClock?,
    readShortClock?, readField_cons_eq_none hdigit hblank]
  exact ⟨rfl, rfl⟩

theorem readTimePart?_blank (h : DenotesClock time c) : readTimePart? (' ' :: time) = some c := by
  obtain ⟨first, rest, rfl, hfirst⟩ := h.head
  have htrim : trimStart (' ' :: first :: rest) = first :: rest := by
    rw [trimStart, List.dropWhile_cons_of_pos (by decide)]
    exact List.dropWhile_cons_of_neg (by simp [Text.isBlank_of_isDigit hfirst])
  rw [readTimePart?, htrim, h.read]
  rfl

theorem readTimePart?_mark (h : DenotesClock time c) : readTimePart? ('T' :: time) = some c := by
  rw [readTimePart?, (readClocks_cons_eq_none (by decide) (by decide)).1, readChar_cons_self,
    Option.bind_some, h.read]
  rfl

/-- In the loose notation a time does not follow a small letter. -/
theorem readTimePart?_small (rest : List Char) : readTimePart? ('t' :: rest) = none := by
  have hclocks : readFullClock? (trimStart ('t' :: rest)) = none ∧
      readShortClock? (trimStart ('t' :: rest)) = none :=
    readClocks_cons_eq_none (by decide) (by decide)
  rw [readTimePart?, hclocks.1, hclocks.2]
  rfl

end Loose

/-! ### Ends of texts -/

/-- The last character of the text is a digit. -/
def EndsInDigit (s : List Char) : Prop := ∃ c ∈ s.getLast?, c.isDigit = true

theorem EndsInDigit.append_left {s : List Char} (h : EndsInDigit s) (before : List Char) :
    EndsInDigit (before ++ s) := by
  obtain ⟨c, hc, hdigit⟩ := h
  exact ⟨c, by rw [List.getLast?_append, hc]; rfl, hdigit⟩

theorem EndsInDigit.cons {s : List Char} (h : EndsInDigit s) (c : Char) : EndsInDigit (c :: s) :=
  h.append_left [c]

theorem IsRun.endsInDigit {digits : List Char} (h : IsRun digits) : EndsInDigit digits := by
  have hlast : digits.getLast? = some (digits.getLast h.ne_nil) := List.getLast?_eq_some_getLast h.ne_nil
  exact ⟨_, hlast, h.isDigit _ (List.getLast_mem h.ne_nil)⟩

/-- The digits at the start of a text are a run, if there are any. -/
theorem isRun_takeWhile {s : List Char} (h : ¬ (s.takeWhile Char.isDigit).isEmpty = true) :
    IsRun (s.takeWhile Char.isDigit) :=
  ⟨by simpa using h, List.all_eq_true.mp List.all_takeWhile⟩

/-- A reader has taken a part of a text that ends in a digit, and left the rest. -/
def Takes (p : Char → Prop) (s rest : List Char) : Prop :=
  ∃ before, s = before ++ rest ∧ (∀ c ∈ before, p c) ∧ EndsInDigit before

section Takes

variable {p q : Char → Prop} {s rest : List Char}

theorem Takes.mono (h : Takes p s rest) (hpq : ∀ c, p c → q c) : Takes q s rest := by
  obtain ⟨before, hs, hall, hends⟩ := h
  exact ⟨before, hs, fun c hc => hpq c (hall c hc), hends⟩

/-- A reader goes on behind what another one has taken. -/
theorem Takes.trans {middle : List Char} (h : Takes p s middle) (hrest : Takes p middle rest) :
    Takes p s rest := by
  obtain ⟨before, rfl, hall, -⟩ := h
  obtain ⟨next, rfl, hall', hends⟩ := hrest
  refine ⟨before ++ next, (List.append_assoc ..).symm, fun c hc => ?_, hends.append_left before⟩
  exact (List.mem_append.mp hc).elim (hall c) (hall' c)

theorem Takes.cons {c : Char} (hc : p c) (h : Takes p s rest) : Takes p (c :: s) rest := by
  obtain ⟨before, rfl, hall, hends⟩ := h
  exact ⟨c :: before, rfl, List.forall_mem_cons.mpr ⟨hc, hall⟩, hends.cons c⟩

theorem Takes.endsInDigit (h : Takes p s []) : EndsInDigit s := by
  obtain ⟨before, rfl, -, hends⟩ := h
  rwa [List.append_nil]

theorem Takes.forall_mem (h : Takes p s []) : ∀ c ∈ s, p c := by
  obtain ⟨before, rfl, hall, -⟩ := h
  rwa [List.append_nil]

end Takes

/-! ### What the readers take -/

section Readers

variable {s rest : List Char} {n : Nat}

theorem takes_of_readUpTo {most : Nat} (h : readUpTo most s = some (n, rest)) :
    Takes (fun c => c.isDigit = true) s rest := by
  rw [readUpTo] at h
  split at h
  case isTrue => cases h
  case isFalse hne =>
    obtain ⟨-, rfl⟩ := Prod.mk.inj (Option.some.inj h)
    have hrun : IsRun ((s.take most).takeWhile Char.isDigit) := isRun_takeWhile hne
    have hprefix : (s.take most).takeWhile Char.isDigit <+: s :=
      (List.takeWhile_prefix _).trans (List.take_prefix most s)
    exact ⟨_, (List.prefix_iff_eq_append.mp hprefix).symm, hrun.isDigit, hrun.endsInDigit⟩

theorem Takes.of_trimStart {p : Char → Prop} (hp : ∀ c, isBlank c = true → p c)
    (h : Takes p (trimStart s) rest) : Takes p s rest := by
  obtain ⟨before, hs, hall, hends⟩ := h
  refine ⟨s.takeWhile isBlank ++ before, ?_, fun c hc => ?_, hends.append_left _⟩
  · rw [List.append_assoc, ← hs, trimStart, List.takeWhile_append_dropWhile]
  · exact (List.mem_append.mp hc).elim (fun hc => hp c (List.all_eq_true.mp List.all_takeWhile c hc))
      (hall c)

/-- The characters of a time and of the blanks in front of its fields. -/
def IsLooseClockChar (c : Char) : Prop := isBlank c = true ∨ IsClockChar c

theorem takes_of_readField (h : readField s = some (n, rest)) : Takes IsLooseClockChar s rest :=
  .of_trimStart (fun _ => .inl) ((takes_of_readUpTo h).mono fun _ hc => .inr (.inl hc))

theorem takes_of_readYear {year : Int} (h : readYear s = some (year, rest)) :
    Takes (fun _ => True) s rest := by
  refine .of_trimStart (fun _ _ => trivial) ?_
  rw [readYear] at h
  split at h
  case h_1 heq | h_2 heq =>
    obtain ⟨⟨n, r⟩, hread, heq'⟩ := Option.map_eq_some_iff.mp h
    obtain ⟨-, rfl⟩ := Prod.mk.inj heq'
    rw [heq]
    exact .cons trivial ((takes_of_readUpTo hread).mono fun _ _ => trivial)
  case h_3 =>
    obtain ⟨⟨n, r⟩, hread, heq'⟩ := Option.map_eq_some_iff.mp h
    obtain ⟨-, rfl⟩ := Prod.mk.inj heq'
    exact (takes_of_readUpTo hread).mono fun _ _ => trivial

theorem readChar_eq_some_iff {c : Char} : readChar c s = some rest ↔ s = c :: rest := by
  cases s with
  | nil => simp [readChar]
  | cons d s => simp [readChar]

theorem takes_of_readDatePart {d : Date} (h : readDatePart s = some (d, rest)) :
    Takes (fun _ => True) s rest := by
  simp only [readDatePart, Option.bind_eq_bind, Option.bind_eq_some_iff, Prod.exists,
    readChar_eq_some_iff, Option.pure_def, Option.some.injEq, Prod.mk.injEq] at h
  obtain ⟨year, _, hyear, _, rfl, month, _, hmonth, _, rfl, day, _, hday, _, -, -, rfl⟩ := h
  exact (takes_of_readYear hyear).trans
    (.cons trivial (((takes_of_readField hmonth).mono fun _ _ => trivial).trans
      (.cons trivial ((takes_of_readField hday).mono fun _ _ => trivial))))

/-- What an optional fraction takes is a fraction that ends in a digit, or nothing. -/
theorem exists_of_readOptionalFraction {nano : Nat}
    (h : readOptionalFraction s = some (nano, rest)) :
    ∃ fraction, s = fraction ++ rest ∧ DenotesFraction fraction nano ∧
      (fraction = [] ∨ EndsInDigit fraction) := by
  rw [readOptionalFraction.eq_def] at h
  split at h
  case h_1 s =>
    rw [readFraction] at h
    split at h
    case isTrue => cases h
    case isFalse hne =>
      obtain ⟨rfl, rfl⟩ := Prod.mk.inj (Option.some.inj h)
      have hrun : IsRun (s.takeWhile Char.isDigit) := isRun_takeWhile hne
      refine ⟨'.' :: s.takeWhile Char.isDigit, ?_, denotesFraction_cons hrun,
        .inr (hrun.endsInDigit.cons '.')⟩
      rw [List.cons_append, List.takeWhile_append_dropWhile]
  case h_2 =>
    obtain ⟨rfl, rfl⟩ := Prod.mk.inj (Option.some.inj h)
    exact ⟨[], rfl, denotesFraction_nil, .inl rfl⟩

/-- A time in the loose notation is taken as a whole. -/
theorem takes_of_readFullClock? {c : Clock} (h : readFullClock? s = some c) :
    Takes IsLooseClockChar s [] := by
  simp only [readFullClock?, Option.bind_eq_bind, Option.bind_eq_some_iff, Prod.exists,
    readChar_eq_some_iff, Option.ite_none_right_eq_some, List.isEmpty_iff] at h
  obtain ⟨hour, _, hhour, _, rfl, minute, _, hminute, _, rfl, second, r, hsecond, nano, _, hnano, rfl,
    -⟩ := h
  obtain ⟨fraction, rfl, hfraction, hends⟩ := exists_of_readOptionalFraction hnano
  have hcolon : IsLooseClockChar ':' := .inr (.inr (.inl rfl))
  have htaken := (takes_of_readField hhour).trans (.cons hcolon ((takes_of_readField hminute).trans
    (.cons hcolon (takes_of_readField hsecond))))
  rw [List.append_nil] at htaken
  rcases hends with rfl | hends
  · exact htaken
  · exact htaken.trans ⟨fraction, (List.append_nil _).symm, fun c hc => .inr (hfraction.chars c hc), hends⟩

theorem takes_of_readShortClock? {c : Clock} (h : readShortClock? s = some c) :
    Takes IsLooseClockChar s [] := by
  simp only [readShortClock?, Option.bind_eq_bind, Option.bind_eq_some_iff, Prod.exists,
    readChar_eq_some_iff, Option.ite_none_right_eq_some, List.isEmpty_iff] at h
  obtain ⟨hour, _, hhour, _, rfl, minute, _, hminute, rfl, -⟩ := h
  exact (takes_of_readField hhour).trans (.cons (.inr (.inr (.inl rfl))) (takes_of_readField hminute))

/-- What follows a date in the loose notation is nothing, or characters of a time behind a `T` or
without one. -/
theorem takes_of_readTimePart? {c : Clock} (h : readTimePart? rest = some c) :
    rest = [] ∨ Takes (fun ch => ch = 'T' ∨ IsLooseClockChar ch) rest [] := by
  have hmark : ∀ {time : List Char}, Takes IsLooseClockChar time [] → rest = 'T' :: time →
      Takes (fun ch => ch = 'T' ∨ IsLooseClockChar ch) rest [] := fun htime hrest =>
    hrest ▸ .cons (.inl rfl) (htime.mono fun _ => .inr)
  have hblank : Takes IsLooseClockChar (trimStart rest) [] →
      Takes (fun ch => ch = 'T' ∨ IsLooseClockChar ch) rest [] := fun htime =>
    (Takes.of_trimStart (fun _ => .inl) htime).mono fun _ => .inr
  simp only [readTimePart?, Option.orElse_eq_orElse, Option.orElse_eq_or, Option.or_eq_some_iff,
    Option.bind_eq_some_iff, readChar_eq_some_iff, Option.ite_none_right_eq_some,
    List.isEmpty_iff] at h
  rcases h with h | ⟨-, ⟨time, hrest, h⟩ | ⟨-, h | ⟨-, ⟨time, hrest, h⟩ | ⟨-, hrest, -⟩⟩⟩⟩
  · exact .inr (hblank (takes_of_readFullClock? h))
  · exact .inr (hmark (takes_of_readFullClock? h) hrest)
  · exact .inr (hblank (takes_of_readShortClock? h))
  · exact .inr (hmark (takes_of_readShortClock? h) hrest)
  · exact .inl hrest

/-- **A text in the loose notation ends in a digit.** -/
theorem endsInDigit_of_readLoose? {i : Instant} (h : readLoose? s = some i) : EndsInDigit s := by
  rw [readLoose?_eq, Option.bind_eq_some_iff] at h
  obtain ⟨⟨d, rest⟩, hdate, htime⟩ := h
  obtain ⟨c, htime, -⟩ := Option.map_eq_some_iff.mp htime
  have hdate : Takes (fun _ => True) s rest := takes_of_readDatePart hdate
  rcases takes_of_readTimePart? htime with rfl | htime
  · exact hdate.endsInDigit
  · exact (hdate.trans (htime.mono fun _ _ => trivial)).endsInDigit

end Readers

end TableMapping
