import TableMapping.Introspection.LiveConversion
import TableMapping.Proofs.Schema.Timestamps
import TableMapping.Proofs.Text.Blanks
import TableMapping.Proofs.Text.Splitting
import TableMapping.Schema.Drift

/-!
# What else the catalog says about a column

The catalog has one text for what is neither a type nor a size: that the server counts, what happens
on updates, and how a computed column is stored.  Its parts stand in any order with blanks between
them.  None of them looks like another one, so that each is found wherever it stands.

What happens on updates is taken from behind its mark, which is sought in the text in lower case.  Its
place there is counted in bytes, and a few characters change their size in lower case; then the same
place can lie inside a character of the text or beyond it.

## Main definitions

* `ExtraPart` : the parts of the text, with `ExtraPart.text`.
* `Column.Shows` : a part says what is declared.
* `Column.ReportsExtra` : the text says what is declared.
* `ColumnRow.UpdateInPlace` : the place behind the mark of updates is one of the text.

## Main results

* `Column.ReportsExtra.contains_autoIncrement` : whether the server counts.
* `Column.ReportsExtra.storageOf` : how a computed column is stored.
* `Column.ReportsExtra.updateClause` : what happens on updates.
* `ColumnRow.UpdateInPlace.updateClause_eq_ok`, `ColumnRow.updateClause_eq_error` : which texts are
  read at all.
* `ColumnRow.updateClause_of_isAscii` : what is read from an ASCII text.
-/

namespace TableMapping

open Text (toLower toUpper trim contains splitFirst joinWith)

/-! ### Parts -/

/-- A part of the text. -/
inductive ExtraPart
  /-- The server counts. -/
  | autoIncrement
  /-- The default is an expression. -/
  | defaultGenerated
  /-- What happens on updates. -/
  | onUpdate (clause : List Char)
  /-- A computed column, and whether it is computed anew each time it is read. -/
  | generated (anew : Bool)

/-- How a computed column is stored. -/
def storageText (anew : Bool) : String := if anew then "VIRTUAL" else "STORED"

/-- A part as it is written. -/
def ExtraPart.text : ExtraPart → List Char
  | autoIncrement => "auto_increment".toList
  | defaultGenerated => "DEFAULT_GENERATED".toList
  | onUpdate clause => ColumnRow.updateMark ++ clause
  | generated anew => (storageText anew).toList ++ " GENERATED".toList

/-- What happens on updates, if the part says so. -/
def ExtraPart.update? : ExtraPart → Option (List Char)
  | onUpdate clause => some clause
  | _ => none

/-- A clause in any letter case sets the current time with the declared precision. -/
def ReportsUpdate (declared : String) (clause : List Char) : Prop :=
  Timestamp.named declared.toList = true ∧
    ∃ suffix, Timestamp.IsSuffix suffix ∧
      clause.map Char.toUpper = Timestamp.keyword ++ suffix ∧
      Timestamp.precision? suffix = Timestamp.precision? declared.toList

/-- A part says what is declared. -/
def Column.Shows (c : Column) : ExtraPart → Prop
  | .autoIncrement => c.isGenerated = true ∧ c.strategy = some .increment
  | .defaultGenerated => True
  | .onUpdate clause => ∃ declared, c.onUpdate = some declared ∧ ReportsUpdate declared clause
  | .generated anew => (ColumnRow.nonempty? c.expression).isSome = true ∧
      ∀ b, c.storage = some (storageText b) → b = anew

/-- The text has parts that say what is declared, in any order, and all of them: that the server
counts, what happens on updates if it sets the current time, and how a computed column is stored. -/
structure Column.ReportsExtra (c : Column) (extra : List Char) (parts : List ExtraPart) : Prop where
  written : extra = joinWith [' '] (parts.map ExtraPart.text)
  shown : ∀ p ∈ parts, c.Shows p
  counted : c.isGenerated = true → c.strategy = some .increment → .autoIncrement ∈ parts
  updated : ∀ declared, c.onUpdate = some declared → Timestamp.named declared.toList = true →
    ∃ clause, .onUpdate clause ∈ parts
  computed : (ColumnRow.nonempty? c.expression).isSome = true → ∃ anew, .generated anew ∈ parts
  once : (parts.filterMap ExtraPart.update?).length ≤ 1

/-! ### Letters of a part -/

theorem ReportsUpdate.toUpper_eq {declared : String} {clause : List Char}
    (h : ReportsUpdate declared clause) :
    ∃ suffix, Timestamp.IsSuffix suffix ∧ toUpper clause = Timestamp.keyword ++ suffix ∧
      Timestamp.precision? suffix = Timestamp.precision? declared.toList := by
  obtain ⟨-, suffix, hsuffix, hclause, hprecision⟩ := h
  exact ⟨suffix, hsuffix, (Timestamp.isReported_of_map_toUpper hsuffix hclause).2, hprecision⟩

/-- A capital letter that the keyword does not have is not in a reported spelling. -/
theorem Timestamp.IsSuffix.not_mem_append {suffix : List Char} (h : IsSuffix suffix) {c : Char}
    (hc : 65 ≤ c.toNat ∧ c.toNat ≤ 90) (hkeyword : c ∉ keyword) : c ∉ keyword ++ suffix := by
  rw [List.mem_append, not_or]
  exact ⟨hkeyword, fun hmem => h.not_capital c hmem hc⟩

/-- A pattern without blanks does not occur in three words if it does not occur in the first two, and
the third one lacks a letter of it. -/
theorem not_isInfix_words {pattern third : List Char} (first second : List Char)
    (hblank : ' ' ∉ pattern) (hfirst : contains pattern first = false)
    (hsecond : contains pattern second = false) {c : Char} (hpattern : c ∈ pattern)
    (hthird : c ∉ third) :
    ¬ pattern <:+: first ++ ' ' :: (second ++ ' ' :: third) := by
  rw [Text.isInfix_append_cons_iff hblank, Text.isInfix_append_cons_iff hblank]
  rintro (hin | hin | hin)
  · exact Text.contains_eq_false_iff.mp hfirst hin
  · exact Text.contains_eq_false_iff.mp hsecond hin
  · exact hthird (hin.subset hpattern)

theorem ReportsUpdate.not_autoIncrement {declared : String} {clause : List Char}
    (h : ReportsUpdate declared clause) :
    ¬ "auto_increment".toList <:+: (ExtraPart.onUpdate clause).text := by
  obtain ⟨-, suffix, hsuffix, hclause, -⟩ := h
  have hclause' : 'o' ∉ clause := by
    intro hmem
    have hupper : 'O' ∈ Timestamp.keyword ++ suffix := hclause ▸ List.mem_map_of_mem hmem
    exact hsuffix.not_mem_append (by decide) (by decide) hupper
  exact not_isInfix_words "on".toList "update".toList (by decide) (by decide) (by decide)
    (by decide) hclause'

theorem toUpper_updateMark : toUpper ColumnRow.updateMark = "ON UPDATE ".toList := by
  rw [Text.toUpper_of_isAscii (by decide)]
  decide

theorem ReportsUpdate.not_virtual {declared : String} {clause : List Char}
    (h : ReportsUpdate declared clause) :
    ¬ "VIRTUAL".toList <:+: toUpper (ExtraPart.onUpdate clause).text := by
  obtain ⟨suffix, hsuffix, hclause, -⟩ := h.toUpper_eq
  have hthird : 'V' ∉ Timestamp.keyword ++ suffix := by
    intro hmem
    exact hsuffix.not_mem_append (by decide) (by decide) hmem
  change ¬ _ <:+: toUpper (ColumnRow.updateMark ++ clause)
  rw [Text.toUpper_append, toUpper_updateMark, hclause]
  exact not_isInfix_words "ON".toList "UPDATE".toList (by decide) (by decide) (by decide)
    (by decide) hthird

namespace Column.ReportsExtra

variable {c : Column} {extra : List Char} {parts : List ExtraPart}

/-- The text says that the server counts if and only if it does. -/
theorem contains_autoIncrement (h : c.ReportsExtra extra parts) :
    contains "auto_increment".toList extra = true ↔
      c.isGenerated = true ∧ c.strategy = some .increment := by
  rw [Text.contains_iff, h.written, Text.isInfix_joinWith_iff (by decide) (by decide)]
  constructor
  · rintro ⟨_, htext, hin⟩
    obtain ⟨p, hp, rfl⟩ := List.mem_map.mp htext
    have hshown := h.shown p hp
    cases p with
    | autoIncrement => exact hshown
    | defaultGenerated => exact absurd hin (Text.contains_eq_false_iff.mp (by decide))
    | onUpdate clause =>
      obtain ⟨declared, -, hreports⟩ := hshown
      exact absurd hin hreports.not_autoIncrement
    | generated anew =>
      exact absurd hin (Text.contains_eq_false_iff.mp (by cases anew <;> decide))
  · rintro ⟨hgenerated, hstrategy⟩
    exact ⟨_, List.mem_map_of_mem (h.counted hgenerated hstrategy), List.infix_refl _⟩

/-- The text says how a computed column is stored, if that is declared in one of the two ways. -/
theorem storageOf (h : c.ReportsExtra extra parts) {anew : Bool}
    (hstorage : c.storage = some (storageText anew))
    (hexpression : (ColumnRow.nonempty? c.expression).isSome = true) :
    ColumnRow.storageOf extra = storageText anew := by
  have hcontains : contains "VIRTUAL".toList (toUpper extra) = anew := by
    rw [Bool.eq_iff_iff, Text.contains_iff, h.written, toUpper, Text.flatMap_joinWith]
    change "VIRTUAL".toList <:+: joinWith [' '] _ ↔ _
    rw [Text.isInfix_joinWith_iff (by decide) (by decide), List.map_map]
    constructor
    · rintro ⟨_, htext, hin⟩
      obtain ⟨p, hp, rfl⟩ := List.mem_map.mp htext
      have hshown := h.shown p hp
      cases p with
      | autoIncrement => exact absurd hin (Text.contains_eq_false_iff.mp (by decide))
      | defaultGenerated => exact absurd hin (Text.contains_eq_false_iff.mp (by decide))
      | onUpdate clause =>
        obtain ⟨declared, -, hreports⟩ := hshown
        exact absurd hin hreports.not_virtual
      | generated b =>
        rw [hshown.2 anew hstorage]
        cases b with
        | true => rfl
        | false => exact absurd hin (Text.contains_eq_false_iff.mp (by decide))
    · intro hanew
      obtain ⟨b, hb⟩ := h.computed hexpression
      have hb' : anew = b := (h.shown _ hb).2 anew hstorage
      refine ⟨_, List.mem_map_of_mem hb, ?_⟩
      rw [← hb', hanew]
      exact Text.contains_iff.mp (by decide)
  rw [ColumnRow.storageOf, hcontains]
  rfl

end Column.ReportsExtra

/-! ### Places in a text about updates -/

namespace ColumnRow

variable {extra : List Char}

/-- The place behind the mark of updates, counted in bytes of the text in lower case, is the end of the
text or the place of a character. -/
def UpdateInPlace (extra : List Char) : Prop :=
  ∀ before after, splitFirst updateMark (toLower extra) = some (before, after) →
    ∃ front rest, extra = front ++ rest ∧
      Text.utf8Size front = Text.utf8Size before + Text.utf8Size updateMark

/-- A text with such a place is read. -/
theorem UpdateInPlace.updateClause_eq_ok (h : UpdateInPlace extra) :
    ∃ update, updateClause extra = .ok update := by
  rw [updateClause]
  cases hsplit : splitFirst updateMark (toLower extra) with
  | none => exact ⟨none, rfl⟩
  | some found =>
    obtain ⟨front, rest, hextra, hsize⟩ := h found.1 found.2 hsplit
    have hdrop := Text.dropBytes?_eq_some_iff.mpr ⟨front, hextra, hsize⟩
    exact ⟨some (toUpper (trim rest)), by simp only [hdrop]⟩

/-- A text without such a place is not. -/
theorem updateClause_eq_error (h : ¬ UpdateInPlace extra) :
    updateClause extra = .error .misplacedUpdate := by
  simp only [UpdateInPlace, not_forall, not_exists] at h
  obtain ⟨before, after, hsplit, hplace⟩ := h
  have hdrop : Text.dropBytes? (Text.utf8Size before + Text.utf8Size updateMark) extra = none := by
    rw [Option.eq_none_iff_forall_ne_some]
    intro rest hrest
    obtain ⟨front, hfront⟩ := Text.dropBytes?_eq_some_iff.mp hrest
    exact hplace front rest hfront
  rw [updateClause, hsplit]
  simp only [hdrop]

/-- In an ASCII text the mark has the place that it has in lower case. -/
theorem updateClause_of_isAscii (h : Text.IsAscii extra) :
    (¬ updateMark <:+: extra.map Char.toLower ∧ updateClause extra = .ok none) ∨
      ∃ before mark rest, extra = before ++ (mark ++ rest) ∧ mark.map Char.toLower = updateMark ∧
        updateClause extra = .ok (some (toUpper (trim rest))) := by
  rw [updateClause, Text.toLower_of_isAscii h]
  cases hsplit : splitFirst updateMark (extra.map Char.toLower) with
  | none => exact .inl ⟨Text.splitFirst_eq_none_iff.mp hsplit, rfl⟩
  | some found =>
    obtain ⟨lower, after⟩ := found
    have hlower := Text.splitFirst_eq_some hsplit
    rw [List.append_assoc] at hlower
    obtain ⟨before, behind, rfl, rfl, hbehind⟩ := List.map_eq_append_iff.mp hlower
    obtain ⟨mark, rest, rfl, hmark, -⟩ := List.map_eq_append_iff.mp hbehind
    obtain ⟨hbefore, hascii⟩ := Text.isAscii_append.mp h
    have hsize : Text.utf8Size (before.map Char.toLower) + Text.utf8Size updateMark =
        Text.utf8Size (before ++ mark) := by
      rw [← hmark, Text.utf8Size_map_toLower hbefore,
        Text.utf8Size_map_toLower (Text.isAscii_append.mp hascii).1, Text.utf8Size_append]
    refine .inr ⟨before, mark, rest, rfl, hmark, ?_⟩
    dsimp only
    rw [hsize, ← List.append_assoc, Text.dropBytes?_utf8Size]

theorem updateInPlace_of_isAscii (h : Text.IsAscii extra) : UpdateInPlace extra := by
  by_contra hplace
  have herror := updateClause_eq_error hplace
  rcases updateClause_of_isAscii h with ⟨-, hok⟩ | ⟨before, mark, rest, -, -, hok⟩
  · exact absurd (hok.symm.trans herror) (by simp)
  · exact absurd (hok.symm.trans herror) (by simp)

end ColumnRow

/-! ### Updates -/

/-- No other part has the letters that the part about updates begins with. -/
theorem ExtraPart.not_on {p : ExtraPart} (h : p.update? = none) :
    Text.IsAscii p.text ∧ ¬ ['o', 'n'] <:+: p.text.map Char.toLower := by
  rw [← Text.contains_eq_false_iff]
  cases p with
  | autoIncrement => decide
  | defaultGenerated => decide
  | onUpdate clause => exact absurd h (by simp [update?])
  | generated anew => cases anew <;> decide

/-- Where no part says what happens on updates, nothing is found. -/
theorem updateClause_eq_none {parts : List ExtraPart} (h : ∀ p ∈ parts, p.update? = none) :
    ColumnRow.updateClause (joinWith [' '] (parts.map ExtraPart.text)) = .ok none := by
  have hascii : Text.IsAscii (joinWith [' '] (parts.map ExtraPart.text)) := by
    refine Text.forall_mem_joinWith (by decide) ?_
    rw [List.forall_mem_map]
    exact fun p hp => (ExtraPart.not_on (h p hp)).1
  have hnone : ¬ ColumnRow.updateMark <:+: toLower (joinWith [' '] (parts.map ExtraPart.text)) := by
    intro hin
    have hmark : ['o', 'n'] <:+: ColumnRow.updateMark := Text.contains_iff.mp (by decide)
    have hon := hmark.trans hin
    rw [Text.toLower_of_isAscii hascii, Text.map_joinWith] at hon
    change ['o', 'n'] <:+: joinWith [' '] _ at hon
    rw [Text.isInfix_joinWith_iff (by decide) (by decide), List.map_map] at hon
    obtain ⟨_, htext, hin⟩ := hon
    obtain ⟨p, hp, rfl⟩ := List.mem_map.mp htext
    exact (ExtraPart.not_on (h p hp)).2 hin
  rw [ColumnRow.updateClause, Text.splitFirst_eq_none_iff.mpr hnone]

/-- Other parts, each with a blank after it, in lower case. -/
theorem not_on_before {before : List ExtraPart} (h : ∀ p ∈ before, p.update? = none) :
    Text.IsAscii ((before.map ExtraPart.text).flatMap (· ++ [' '])) ∧
      ¬ ['o', 'n'] <:+: ((before.map ExtraPart.text).flatMap (· ++ [' '])).map Char.toLower ++ ['o'] := by
  induction before with
  | nil => exact ⟨Text.isAscii_nil, Text.contains_eq_false_iff.mp (by decide)⟩
  | cons p before ih =>
    obtain ⟨hascii, hon⟩ := ExtraPart.not_on (h p List.mem_cons_self)
    obtain ⟨hascii', hon'⟩ := ih fun q hq => h q (List.mem_cons_of_mem p hq)
    rw [List.map_cons, List.flatMap_cons]
    refine ⟨?_, ?_⟩
    · exact Text.isAscii_append.mpr ⟨Text.isAscii_append.mpr ⟨hascii, by decide⟩, hascii'⟩
    · rw [List.map_append, List.map_append, List.append_assoc, List.append_assoc]
      change ¬ ['o', 'n'] <:+: p.text.map Char.toLower ++ ' ' :: _
      rw [Text.isInfix_append_cons_iff (by decide)]
      rintro (hin | hin)
      · exact hon hin
      · exact hon' hin

/-- The part about updates is found behind other parts, and everything after it belongs to it. -/
theorem updateClause_append {before : List ExtraPart} (h : ∀ p ∈ before, p.update? = none)
    (rest : List Char) :
    ColumnRow.updateClause ((before.map ExtraPart.text).flatMap (· ++ [' ']) ++
      (ColumnRow.updateMark ++ rest)) = .ok (some (toUpper (trim rest))) := by
  obtain ⟨hascii, hon⟩ := not_on_before h
  generalize (before.map ExtraPart.text).flatMap (· ++ [' ']) = front at hascii hon
  have hmark : Text.IsAscii ColumnRow.updateMark := by decide
  have hlower : toLower (front ++ (ColumnRow.updateMark ++ rest)) = front.map Char.toLower ++
      (ColumnRow.updateMark ++
        Text.toLowerAfter (ColumnRow.updateMark.reverse ++ (front.reverse ++ [])) rest) := by
    rw [toLower, Text.toLowerAfter_append hascii, Text.toLowerAfter_append hmark]
    rfl
  have hsplit : ∀ after, splitFirst ColumnRow.updateMark
      (front.map Char.toLower ++ (ColumnRow.updateMark ++ after)) =
        some (front.map Char.toLower, after) :=
    fun after => Text.splitFirst_append hon
  have hsize : Text.utf8Size (front.map Char.toLower) + Text.utf8Size ColumnRow.updateMark =
      Text.utf8Size (front ++ ColumnRow.updateMark) := by
    rw [Text.utf8Size_map_toLower hascii, Text.utf8Size_append]
  have hdrop : Text.dropBytes? (Text.utf8Size (front ++ ColumnRow.updateMark))
      (front ++ (ColumnRow.updateMark ++ rest)) = some rest := by
    rw [← List.append_assoc, Text.dropBytes?_utf8Size]
  rw [ColumnRow.updateClause, hlower, hsplit]
  dsimp only
  rw [hsize, hdrop]

/-! ### Clauses about updates -/

theorem ReportsUpdate.ne_nil {declared : String} {clause : List Char}
    (h : ReportsUpdate declared clause) : clause ≠ [] := by
  rintro rfl
  obtain ⟨-, suffix, -, hclause, -⟩ := h
  have hkeyword : Timestamp.keyword ≠ [] := by decide
  exact hkeyword (List.append_eq_nil_iff.mp hclause.symm).1

/-- No character of a reported spelling is blank. -/
theorem Timestamp.IsSuffix.not_isBlank {suffix : List Char} (hsuffix : IsSuffix suffix)
    {s : List Char} (h : s.map Char.toUpper = keyword ++ suffix) :
    ∀ c ∈ s, Text.isBlank c = false := by
  intro c hc
  by_contra hblank
  rw [Bool.not_eq_false] at hblank
  have hmem : c ∈ keyword ++ suffix := by
    rw [← h, ← Text.toUpper_eq_self_of_isBlank hblank]
    exact List.mem_map_of_mem hc
  have hnot : Text.isBlank c = false := by
    rcases List.mem_append.mp hmem with hmem | hmem
    · have hkeyword : ∀ c ∈ keyword, Text.isBlank c = false := by decide
      exact hkeyword c hmem
    · rcases hsuffix.parenthesis_or_digit hmem with rfl | hdigit | rfl
      · decide
      · exact Text.isBlank_of_isDecimalDigit hdigit
      · decide
  rw [hnot] at hblank
  exact Bool.false_ne_true hblank

theorem ReportsUpdate.not_isBlank {declared : String} {clause : List Char}
    (h : ReportsUpdate declared clause) : ∀ c ∈ clause, Text.isBlank c = false := by
  obtain ⟨-, suffix, hsuffix, hclause, -⟩ := h
  exact hsuffix.not_isBlank hclause

/-- A part that is not about updates ends in a letter and has no parenthesis. -/
theorem ExtraPart.ends_of_update?_eq_none {p : ExtraPart} (h : p.update? = none) :
    '(' ∉ toUpper p.text ∧ ∃ s c, p.text = s ++ [c] ∧ Text.isBlank c = false := by
  have hascii : Text.IsAscii p.text := (not_on h).1
  rw [Text.toUpper_of_isAscii hascii]
  cases p with
  | autoIncrement => exact ⟨by decide, "auto_incremen".toList, 't', by decide, by decide⟩
  | defaultGenerated => exact ⟨by decide, "DEFAULT_GENERATE".toList, 'D', by decide, by decide⟩
  | onUpdate clause => exact absurd h (by simp [update?])
  | generated anew =>
    refine ⟨by cases anew <;> decide, (storageText anew).toList ++ " GENERATE".toList, 'D', ?_, ?_⟩
    · cases anew <;> decide
    · decide

/-- The text behind the clause: other parts, each with a blank in front. -/
def afterText (after : List ExtraPart) : List Char :=
  (after.map ExtraPart.text).flatMap (' ' :: ·)

theorem afterText_cons (p : ExtraPart) (after : List ExtraPart) :
    afterText (p :: after) = ' ' :: (p.text ++ afterText after) := by
  rw [afterText, List.map_cons, List.flatMap_cons, List.cons_append]
  rfl

theorem toUpper_afterText_cons (p : ExtraPart) (after : List ExtraPart) :
    toUpper (afterText (p :: after)) = ' ' :: (toUpper p.text ++ toUpper (afterText after)) := by
  rw [afterText_cons, ← Text.toUpper_append]
  change toUpper ([' '] ++ _) = _
  rw [Text.toUpper_append, Text.toUpper_of_isAscii (by decide)]
  rfl

theorem not_mem_toUpper_afterText {after : List ExtraPart} (h : ∀ p ∈ after, p.update? = none) :
    '(' ∉ toUpper (afterText after) := by
  induction after with
  | nil => exact List.not_mem_nil
  | cons p after ih =>
    rw [toUpper_afterText_cons, List.mem_cons, List.mem_append, not_or, not_or]
    refine ⟨by decide, ?_, ih fun q hq => h q (List.mem_cons_of_mem p hq)⟩
    exact (ExtraPart.ends_of_update?_eq_none (h p List.mem_cons_self)).1

theorem startsInWord_toUpper_afterText (after : List ExtraPart) :
    Timestamp.startsInWord (toUpper (afterText after)) = false := by
  cases after with
  | nil => rfl
  | cons p after =>
    rw [toUpper_afterText_cons]
    exact (by decide : Text.isWord ' ' = false)

/-- Behind a text without blanks at its end the parts leave no blank at the end either. -/
theorem not_isBlank_getLast?_append_afterText {s : List Char} (hs : ∀ c ∈ s, Text.isBlank c = false)
    {after : List ExtraPart} (h : ∀ p ∈ after, p.update? = none) :
    ∀ c ∈ (s ++ afterText after).getLast?, Text.isBlank c = false := by
  rcases List.eq_nil_or_concat' after with rfl | ⟨front, p, rfl⟩
  · intro c hc
    rw [afterText, List.map_nil, List.flatMap_nil, List.append_nil] at hc
    exact hs c (List.mem_of_getLast? hc)
  · obtain ⟨-, t, c, htext, hblank⟩ :=
      ExtraPart.ends_of_update?_eq_none (h p (List.mem_append_right front (List.mem_singleton_self p)))
    have hconcat : s ++ afterText (front ++ [p]) = (s ++ (afterText front ++ (' ' :: t))) ++ [c] := by
      simp [afterText, htext]
    intro d hd
    rw [hconcat, List.getLast?_concat, Option.mem_some_iff] at hd
    rw [← hd, hblank]

/-- A clause about updates and the parts after it are the current time with the declared
precision. -/
theorem ReportsUpdate.canonical_toUpper {declared : String} {clause : List Char}
    (h : ReportsUpdate declared clause) {after : List ExtraPart}
    (hafter : ∀ p ∈ after, p.update? = none) (flavor : Flavor) :
    Timestamp.canonical flavor (toUpper (clause ++ afterText after)) =
      Timestamp.canonical flavor declared.toList := by
  obtain ⟨suffix, hsuffix, hclause, hprecision⟩ := h.toUpper_eq
  have hkeyword : '(' ∉ Timestamp.keyword := by decide
  rw [Text.toUpper_append, hclause, List.append_assoc]
  refine Timestamp.canonical_eq_of_named (Timestamp.named_keyword_append ?_) h.1 ?_ flavor
  · exact hsuffix.startsInWord_append (startsInWord_toUpper_afterText after)
  · rw [Timestamp.precision?_append hkeyword,
      hsuffix.precision?_append (not_mem_toUpper_afterText hafter), hprecision]

/-- What the text says about updates is what is declared, if that is nothing or sets the current
time; and nothing is declared, or nothing is said. -/
theorem Column.ReportsExtra.updateClause {c : Column} {extra : List Char} {parts : List ExtraPart}
    (h : c.ReportsExtra extra parts) (flavor : Flavor) :
    ∃ update, ColumnRow.updateClause extra = .ok update ∧
      (Schema.updateClause? flavor (update.map String.ofList) =
          Schema.updateClause? flavor c.onUpdate ↔
        ∀ declared, c.onUpdate = some declared → Timestamp.named declared.toList = true) := by
  by_cases hpart : ∃ clause, .onUpdate clause ∈ parts
  · obtain ⟨clause, hclause⟩ := hpart
    obtain ⟨before, after, rfl⟩ := List.append_of_mem hclause
    obtain ⟨declared, hdeclared, hreports⟩ := h.shown _ hclause
    have honce := h.once
    rw [List.filterMap_append, List.filterMap_cons_some (f := ExtraPart.update?) rfl,
      List.length_append, List.length_cons] at honce
    have hbefore : ∀ p ∈ before, p.update? = none :=
      List.filterMap_eq_nil_iff.mp (List.length_eq_zero_iff.mp (by omega))
    have hafter : ∀ p ∈ after, p.update? = none :=
      List.filterMap_eq_nil_iff.mp (List.length_eq_zero_iff.mp (by omega))
    have hextra : extra = (before.map ExtraPart.text).flatMap (· ++ [' ']) ++
        (ColumnRow.updateMark ++ (clause ++ afterText after)) := by
      rw [h.written, List.map_append, List.map_cons, Text.joinWith_append_cons]
      change _ ++ (ColumnRow.updateMark ++ clause ++ afterText after) = _
      rw [List.append_assoc]
    have htrim : trim (clause ++ afterText after) = clause ++ afterText after := by
      refine Text.trim_eq_self_of_ends (fun d hd => ?_)
        (not_isBlank_getLast?_append_afterText hreports.not_isBlank hafter)
      obtain ⟨first, front, hfirst⟩ := List.exists_cons_of_ne_nil hreports.ne_nil
      rw [hfirst, List.cons_append, List.head?_cons, Option.mem_some_iff] at hd
      exact hreports.not_isBlank d (by rw [hfirst, hd]; exact List.mem_cons_self)
    refine ⟨_, hextra ▸ updateClause_append hbefore _, ?_⟩
    rw [htrim, hdeclared, Schema.updateClause?, Schema.updateClause?]
    simp only [Option.map_some, String.toList_ofList, hreports.canonical_toUpper hafter flavor,
      Option.some.injEq, forall_eq', true_iff]
    exact hreports.1
  · have hnone : ∀ p ∈ parts, p.update? = none := by
      intro p hp
      cases p with
      | onUpdate clause => exact absurd ⟨clause, hp⟩ hpart
      | _ => rfl
    refine ⟨none, h.written ▸ updateClause_eq_none hnone, ?_⟩
    constructor
    · intro heq declared hdeclared
      rw [hdeclared] at heq
      exact absurd heq (by simp [Schema.updateClause?])
    · intro hnamed
      cases hdeclared : c.onUpdate with
      | none => rfl
      | some declared => exact absurd (h.updated declared hdeclared (hnamed declared hdeclared)) hpart

end TableMapping
