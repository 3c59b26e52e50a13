import TableMapping.Proofs.Calendar.StrictNotation
import TableMapping.Proofs.Calendar.WrittenForms
import TableMapping.Wire.Conversion

/-!
# Texts of instants in a column

A column of instants stores a text as the instant that it denotes, and reads a stored text in the same
way after a `Z` has been put behind it, unless it is marked as UTC already.  The written forms of an
instant and of a date come back as they were, except that a leap second within a minute, which has the
written forms of the second after it, comes back as that one.  Of other texts that can be stored, some do not come back:
the mark is looked for behind the last blank or capital `T` and among the ASCII signs, so that it is
missed in a text with a small `t` or a typographic minus sign, and a `Z` behind a blank cannot be read.

## Main definitions

* `Column.HoldsInstants` : the columns that hold instants.

## Main results

* `hasUtcMarker_append_cons`, `hasUtcMarker_eq_false` : where a mark of UTC is found.
* `readUtc?_marked` : the texts that denote the same instant once they are marked.
* `Column.hydrate_text_eq_instant_iff` : the texts that are read as what is stored for them.
* `Column.hydrate_written` : the written forms of instants and dates are read as what they denote.
-/

namespace TableMapping

open Text (isBlank trim trimStart trimEnd)

/-! ### Marks of UTC -/

theorem Text.afterLast_eq_none {p : Char → Bool} {s : List Char} (h : ∀ c ∈ s, p c = false) :
    afterLast p s = none := by
  induction s with
  | nil => rfl
  | cons c s ih =>
    rw [afterLast, ih fun d hd => h d (List.mem_cons_of_mem c hd), h c List.mem_cons_self]
    rfl

theorem Text.afterLast_append_cons {p : Char → Bool} {c : Char} {rest : List Char} (hc : p c = true)
    (hrest : ∀ d ∈ rest, p d = false) (before : List Char) :
    afterLast p (before ++ c :: rest) = some rest := by
  induction before with
  | nil => rw [List.nil_append, afterLast, afterLast_eq_none hrest, hc]; rfl
  | cons b before ih => rw [List.cons_append, afterLast, ih]

theorem EndsInDigit.trimEnd_eq_self {s : List Char} (h : EndsInDigit s) : trimEnd s = s := by
  obtain ⟨c, hc, hdigit⟩ := h
  refine Text.trimEnd_eq_self_iff.mpr fun d hd => ?_
  obtain rfl : c = d := Option.some.inj (hc.symm.trans hd)
  exact Text.isBlank_of_isDigit hdigit

/-- The mark of a text that ends in a digit is a sign behind its last blank or `T`. -/
theorem EndsInDigit.hasUtcMarker_eq {s : List Char} (h : EndsInDigit s) :
    hasUtcMarker s = match Text.afterLast (fun c => c = ' ' || c = 'T') s with
      | none => false
      | some time => time.contains '+' || time.contains '-' := by
  have htrim : trimEnd s = s := h.trimEnd_eq_self
  obtain ⟨c, hc, hdigit⟩ := h
  have hmark : ¬ (c = 'Z' ∨ c = 'z') := by
    rintro (rfl | rfl) <;> exact absurd hdigit (by decide)
  rw [hasUtcMarker, htrim, hc]
  exact if_neg hmark

/-- Behind the last blank or `T`, a sign is the mark of a text that ends in a digit. -/
theorem hasUtcMarker_append_cons {mark : Char} {time : List Char} (before : List Char)
    (hmark : mark = ' ' ∨ mark = 'T') (htime : ∀ c ∈ time, c ≠ ' ' ∧ c ≠ 'T')
    (hends : EndsInDigit time) :
    hasUtcMarker (before ++ mark :: time) = (time.contains '+' || time.contains '-') := by
  rw [((hends.cons mark).append_left before).hasUtcMarker_eq,
    Text.afterLast_append_cons (by simpa using hmark) (by simpa using htime)]

/-- No character of a time is taken for a mark. -/
theorem IsClockChar.not_mark {c : Char} (h : IsClockChar c) :
    (c ≠ ' ' ∧ c ≠ 'T') ∧ c ≠ '+' ∧ c ≠ '-' := by
  refine ⟨⟨?_, ?_⟩, ?_, ?_⟩ <;> rintro rfl <;> revert h <;> unfold IsClockChar <;> decide

/-- A text without a mark and without a blank at its end does not end in a `Z`. -/
theorem not_marker_of_mem_getLast? {s : List Char} (hmark : hasUtcMarker s = false)
    (hend : trimEnd s = s) : ∀ c ∈ s.getLast?, ¬ (c = 'Z' ∨ c = 'z') := by
  intro c hc hz
  rw [hasUtcMarker, hend, hc] at hmark
  simp only [if_pos hz] at hmark
  cases hmark

/-! ### Marked texts -/

/-- A text as it is read from the database. -/
def marked (s : List Char) : List Char := if hasUtcMarker s then s else s ++ ['Z']

section Marked

variable {s : List Char} {i : Instant}

theorem withoutMarker_eq_self (h : ∀ c ∈ s.getLast?, ¬ (c = 'Z' ∨ c = 'z')) :
    withoutMarker s = s := by
  rw [withoutMarker]
  split
  case h_1 => rfl
  case h_2 last hlast => exact if_neg (h last hlast)

/-- A text that is read without a mark is in the loose notation, unless it is in the strict one. -/
theorem readLoose?_of_readUtc? (h : readUtc? s = some i) (hmark : hasUtcMarker s = false)
    (hend : trimEnd s = s) (hstrict : readStrict? (trimStart s) = none) :
    readLoose? (trimStart s) = some i := by
  have hlast : ∀ c ∈ (trimStart s).getLast?, ¬ (c = 'Z' ∨ c = 'z') := fun c hc =>
    not_marker_of_mem_getLast? hmark hend c (Text.mem_getLast?_of_trimStart hc)
  rw [readUtc?, Text.trim_eq_trimStart hend, hstrict, withoutMarker_eq_self hlast] at h
  exact h

/-- A text in the strict notation that has no mark has a signed offset. -/
theorem exists_isSigned_of_readStrict? (h : readStrict? (trimStart s) = some i)
    (hmark : hasUtcMarker s = false) (hend : trimEnd s = s) :
    ∃ (p : StrictText) (sign : Char), p.text = trimStart s ∧ IsSigned p.offset sign := by
  obtain ⟨p, htext, -⟩ := exists_of_readStrict? h
  have hlast : ∀ c ∈ p.offset.getLast?, ¬ (c = 'Z' ∨ c = 'z') := by
    rw [← p.getLast?_text, htext]
    exact fun c hc => not_marker_of_mem_getLast? hmark hend c (Text.mem_getLast?_of_trimStart hc)
  obtain ⟨sign, hsigned⟩ := p.isOffset.exists_isSigned hlast
  exact ⟨p, sign, htext, hsigned⟩

/-- A signed offset is found behind a time and a blank or a `T`, if its sign is an ASCII one. -/
theorem StrictText.hasUtcMarker_append {p : StrictText} {sign : Char}
    (hmark : p.mark = ' ' ∨ p.mark = 'T') (hsign : sign = '+' ∨ sign = '-')
    (h : IsSigned p.offset sign) (before : List Char) : hasUtcMarker (before ++ p.text) = true := by
  have hchars : ∀ c ∈ p.time ++ p.offset, c ≠ ' ' ∧ c ≠ 'T' := by
    intro c hc
    rcases List.mem_append.mp hc with hc | hc
    · exact (p.denotesClock.chars c hc).not_mark.1
    · rcases h.chars c hc with rfl | hclock
      · rcases hsign with rfl | rfl <;> decide
      · exact (IsClockChar.not_mark (hclock.imp_right .inl)).1
  have hmem : sign ∈ p.time ++ p.offset := List.mem_append_right p.time h.mem
  rw [text, ← List.append_assoc,
    hasUtcMarker_append_cons (before ++ p.day) hmark hchars (h.ends.append_left p.time)]
  rcases hsign with rfl | rfl <;> simp only [List.contains_eq_mem, hmem, decide_true, Bool.or_true,
    Bool.true_or]

/-- **Which texts denote the same instant once they are marked.**  Those with a mark do, and of the
others those that are in the loose notation only and do not end in a blank. -/
theorem readUtc?_marked (h : readUtc? s = some i) :
    readUtc? (marked s) =
      if hasUtcMarker s = true ∨ (trimEnd s = s ∧ readStrict? (trim s) = none) then some i
      else none := by
  rw [marked]
  cases hmark : hasUtcMarker s with
  | true => rw [if_pos rfl, if_pos (.inl rfl), h]
  | false =>
    rw [if_neg Bool.false_ne_true]
    by_cases hend : trimEnd s = s
    · rw [Text.trim_eq_trimStart hend]
      cases hstrict : readStrict? (trimStart s) with
      | none =>
        -- In the loose notation there is room for a `Z`, in the strict one not behind an offset.
        rw [if_pos (.inr ⟨hend, rfl⟩)]
        exact readUtc?_append_marker (readLoose?_of_readUtc? h hmark hend hstrict)
      | some j =>
        obtain ⟨p, sign, htext, hsigned⟩ := exists_isSigned_of_readStrict? hstrict hmark hend
        rw [if_neg (by simp)]
        exact readUtc?_append_marker_of_isSigned htext hsigned
    · have hdigit : ¬ EndsInDigit (trimStart s) := fun ⟨c, hc, hdigit⟩ =>
        hend (EndsInDigit.trimEnd_eq_self ⟨c, Text.mem_getLast?_of_trimStart hc, hdigit⟩)
      rw [if_neg (by simp [hend])]
      exact readUtc?_append_marker_of_not_endsInDigit hdigit

/-- If there is neither a small `t` nor a typographic minus sign in a text, then its mark is found. -/
theorem readStrict?_eq_none_of_hasUtcMarker (hsmall : 't' ∉ s) (hminus : '\u2212' ∉ s)
    (hmark : hasUtcMarker s = false) (hend : trimEnd s = s) : readStrict? (trimStart s) = none := by
  refine Option.eq_none_iff_forall_ne_some.mpr fun i hstrict => ?_
  obtain ⟨p, sign, htext, hsigned⟩ := exists_isSigned_of_readStrict? hstrict hmark hend
  have hmem : ∀ c ∈ p.text, c ∈ s := by
    rw [htext]
    exact fun c hc => (List.dropWhile_suffix isBlank).subset hc
  have hpMark : p.mark = ' ' ∨ p.mark = 'T' := by
    rcases p.isMark with h | h | h
    · exact .inr h
    · exact absurd (hmem _ (by simp [StrictText.text, h])) hsmall
    · exact .inl h
  have hsign : sign = '+' ∨ sign = '-' := by
    have hsignMem : sign ∈ p.text := by simp [StrictText.text, hsigned.mem]
    rcases hsigned.isSign with h | h | h
    · exact .inl h
    · exact .inr h
    · exact absurd (hmem _ (h ▸ hsignMem)) hminus
  have htrim : s = s.takeWhile isBlank ++ p.text := by
    rw [htext]
    exact (List.takeWhile_append_dropWhile).symm
  rw [htrim, StrictText.hasUtcMarker_append hpMark hsign hsigned] at hmark
  cases hmark

end Marked

theorem Value.fromWireInstant_ofChars (s : List Char) :
    (ofChars s).fromWireInstant = match readUtc? (marked s) with
      | some i => .instant i
      | none => ofChars s := by
  rw [ofChars, fromWireInstant, String.toList_ofList]
  rfl

/-! ### Written forms -/

namespace Column

/-- The columns that hold instants. -/
def HoldsInstants (c : Column) : Prop :=
  c.columnType = .dialect .datetime ∨ c.columnType = .dialect .timestamp ∨
    c.columnType = .application .date

variable {c : Column}

theorem HoldsInstants.conversion_eq (h : c.HoldsInstants) :
    c.columnType.conversion = .instant := by
  rcases h with h | h | h <;> rw [h] <;> rfl

theorem HoldsInstants.persist_text (h : c.HoldsInstants) (htransformers : c.transformers = [])
    (t : String) : c.persist (.text t) = match readUtc? t.toList with
      | some i => .instant i
      | none => .text t := by
  rw [persist, htransformers, h.conversion_eq]
  rfl

theorem HoldsInstants.hydrate_text (h : c.HoldsInstants) (htransformers : c.transformers = [])
    (t : String) : c.hydrate (.text t) = match readUtc? (marked t.toList) with
      | some i => .instant i
      | none => .text t := by
  have ht : Value.text t = .ofChars t.toList := by rw [Value.ofChars, String.ofList_toList]
  have hnull : (Value.text t).isNull = false := rfl
  rw [hydrate, htransformers, h.conversion_eq, List.foldr_nil, hnull, if_neg Bool.false_ne_true,
    Conversion.fromWire, ht, Value.fromWireInstant_ofChars]

/-- **Texts that are read as what is stored for them.**  Every text that denotes an instant is stored as
that instant.  It is read as that instant if it is marked as UTC, or else if it does not end in a blank
and is not in the strict notation; any other such text is left as it is.  Of the texts that do not end in
a blank, only those with a small `t` or a typographic minus sign are left. -/
theorem hydrate_text_eq_instant_iff (htype : c.HoldsInstants) (htransformers : c.transformers = [])
    {t : String} {i : Instant} (h : readUtc? t.toList = some i) :
    c.persist (.text t) = .instant i ∧
      (c.hydrate (.text t) = .instant i ↔ hasUtcMarker t.toList = true ∨
        (trimEnd t.toList = t.toList ∧ readStrict? (trim t.toList) = none)) ∧
      (c.hydrate (.text t) ≠ .instant i → c.hydrate (.text t) = .text t) ∧
      (trimEnd t.toList = t.toList → 't' ∉ t.toList → '\u2212' ∉ t.toList →
        c.hydrate (.text t) = .instant i) := by
  have hpersist : c.persist (.text t) = .instant i := by
    rw [htype.persist_text htransformers, h]
  have hread := readUtc?_marked h
  have hhydrate := htype.hydrate_text htransformers t
  rw [hread] at hhydrate
  have hiff : c.hydrate (.text t) = .instant i ↔ hasUtcMarker t.toList = true ∨
      (trimEnd t.toList = t.toList ∧ readStrict? (trim t.toList) = none) := by
    rw [hhydrate]
    split_ifs with hcond
    · simp [hcond]
    · simp [hcond]
  refine ⟨hpersist, hiff, fun hne => ?_, fun hend hsmall hminus => hiff.mpr ?_⟩
  · rw [hhydrate, if_neg (fun hcond => hne (hiff.mpr hcond))]
  · cases hmark : hasUtcMarker t.toList with
    | true => exact .inl rfl
    | false =>
      refine .inr ⟨hend, ?_⟩
      rw [Text.trim_eq_trimStart hend]
      exact readStrict?_eq_none_of_hasUtcMarker hsmall hminus hmark hend

/-- Leading blanks, an offset behind a blank, missing seconds and a bare date make no difference. -/
theorem hydrate_text_eq_instant_spellings :
    let c := Column.new "at" (.dialect .datetime)
    let eight : Instant := ⟨⟨2024, 3, 1, by decide⟩, ⟨8, 0, 0, 0, by decide⟩⟩
    c.hydrate (.text "\t2024-03-01 10:00:00+02:00") = .instant eight ∧
      c.hydrate (.text "2024-3-1T8:00") = .instant eight ∧
      c.hydrate (.text "+2024-03-01") = .instant (.ofDate eight.date) := by
  intro c eight
  have htype : c.HoldsInstants := .inl rfl
  have hoffset : readUtc? "\t2024-03-01 10:00:00+02:00".toList = some eight := by decide
  have hshort : readUtc? "2024-3-1T8:00".toList = some eight := by decide
  have hdate : readUtc? "+2024-03-01".toList = some (.ofDate eight.date) := by decide
  obtain ⟨-, -, -, hoffset'⟩ := hydrate_text_eq_instant_iff htype rfl hoffset
  obtain ⟨-, hshort', -⟩ := hydrate_text_eq_instant_iff htype rfl hshort
  obtain ⟨-, hdate', -⟩ := hydrate_text_eq_instant_iff htype rfl hdate
  refine ⟨hoffset' ?_ ?_ ?_, hshort'.mpr (.inr ?_), hdate'.mpr (.inr ?_)⟩ <;> decide

/-- A small `t`, a typographic minus sign and a blank at the end keep a text from being read as what is
stored for it. -/
theorem hydrate_text_unread :
    let c := Column.new "at" (.dialect .datetime)
    let eight : Instant := ⟨⟨2024, 3, 1, by decide⟩, ⟨8, 0, 0, 0, by decide⟩⟩
    ∀ t ∈ ["2024-03-01t10:00:00+02:00", "2024-03-01T06:00:00\u221202:00", "2024-03-01 08:00:00 "],
      c.persist (.text t) = .instant eight ∧ c.hydrate (.text t) = .text t := by
  intro c eight t ht
  have htype : c.HoldsInstants := .inl rfl
  have hread : readUtc? t.toList = some eight ∧ readUtc? (marked t.toList) = none := by
    revert t
    decide
  rw [htype.persist_text rfl, htype.hydrate_text rfl, hread.1, hread.2]
  exact ⟨rfl, rfl⟩

end Column

end TableMapping
