import Mathlib.Data.List.Infix
import TableMapping.Proofs.Introspection.AttributeWords
import TableMapping.Proofs.Introspection.ExtraTexts
import TableMapping.Proofs.Introspection.LiteralDefaults
import TableMapping.Proofs.Number.DigitRuns

/-!
# Precisions of the current time

A declared current time has one of four keywords, a reported one always the same, and both are written
in any letter case.  They are brought to one spelling, in which only the precision is left, and so are
taken for each other if and only if they have the same one or neither has any.  This is so for a
default, and for what happens on updates, which stands in a text about other things as well.

## Main definitions

* `Timestamp.Spells` : the spellings of the current time with a given precision.
* `Timestamp.Reports` : those among them that a flavor reports.
* `ColumnRow.behindMarks` : what stands behind the words about updates in a text.
* `ColumnRow.SaysUpdate` : the texts that say what happens on updates once, and nothing after it.

## Main results

* `Timestamp.Spells.canonical_eq` : the one spelling keeps the precision only.
* `ColumnRow.SaysUpdate.updateClause_eq` : what such a text says is found.
* `Timestamp.Spells.same_iff_precision` : a declared and a reported current time are taken for each
  other if and only if they have one precision.
-/

namespace TableMapping

open Text (toLower toUpper trim splitFirst)

namespace Timestamp

/-! ### Spellings with a precision -/

/-- A precision between parentheses. -/
def parenthesized (p : List Char) : List Char := '(' :: (p ++ [')'])

/-- What stands behind a keyword: nothing or empty parentheses without a precision, and the precision
in parentheses otherwise. -/
inductive Follows : Option (List Char) → List Char → Prop
  | bare : Follows none []
  | empty : Follows none ['(', ')']
  | digits {p : List Char} (h : IsRun p) : Follows (some p) (parenthesized p)

/-- A keyword in any letter case with a precision or without one. -/
def Spells (s : List Char) (p : Option (List Char)) : Prop :=
  ∃ word rest, s = word ++ rest ∧ word.map Char.toUpper ∈ keywords ∧ Follows p rest

/-- What a flavor writes behind the keyword. -/
def suffixOf (flavor : Flavor) : Option (List Char) → List Char
  | some p => parenthesized p
  | none => match flavor with
    | .mysql => []
    | .mariadb => ['(', ')']

/-- The keyword in any letter case with what a flavor writes behind it. -/
structure Reports (flavor : Flavor) (s : List Char) (q : Option (List Char)) : Prop where
  written : ∃ word, s = word ++ suffixOf flavor q ∧ word.map Char.toUpper = keyword
  isRun : ∀ p ∈ q, IsRun p

variable {flavor : Flavor} {s rest word : List Char} {p q : Option (List Char)}

theorem follows_suffixOf (flavor : Flavor) (hq : ∀ p ∈ q, IsRun p) :
    Follows q (suffixOf flavor q) := by
  cases q with
  | some p => exact .digits (hq p rfl)
  | none => cases flavor with
    | mysql => exact .bare
    | mariadb => exact .empty

namespace Follows

theorem isSuffix (h : Follows p rest) : IsSuffix rest := by
  cases h with
  | bare => exact .inl rfl
  | empty => exact .inr ⟨[], rfl, by simp⟩
  | digits hp => exact .inr ⟨_, rfl, fun c hc => Text.isDecimalDigit_of_isDigit (hp.isDigit c hc)⟩

/-- The precision is found with its parentheses. -/
theorem precision?_eq (h : Follows p rest) : precision? rest = p.map parenthesized := by
  cases h with
  | bare => rfl
  | empty => decide
  | @digits p hp =>
    have hdigits : ∀ c ∈ p, Text.isDecimalDigit c = true :=
      fun c hc => Text.isDecimalDigit_of_isDigit (hp.isDigit c hc)
    rw [parenthesized, precision?, precisionHere?_digits hdigits [], if_neg hp.ne_nil]
    rfl

end Follows

/-- A flavor writes different precisions in different ways. -/
theorem suffixOf_inj (hp : ∀ d ∈ p, IsRun d) (hq : ∀ d ∈ q, IsRun d) :
    suffixOf flavor p = suffixOf flavor q ↔ p = q := by
  refine ⟨fun h => ?_, congrArg (suffixOf flavor)⟩
  -- The precision is read back from what is written.
  have hread : p.map parenthesized = q.map parenthesized := by
    rw [← (follows_suffixOf flavor hp).precision?_eq, h, (follows_suffixOf flavor hq).precision?_eq]
  refine Option.map_injective (fun a b hab => ?_) hread
  exact List.append_cancel_right (List.cons.inj hab).2

/-- What a flavor reports has no quotes to take off. -/
theorem stripQuotes_keyword_append_suffixOf (flavor : Flavor) (hq : ∀ p ∈ q, IsRun p) :
    stripQuotes (keyword ++ suffixOf flavor q) = keyword ++ suffixOf flavor q :=
  stripQuotes_of_isReported (isReported_keyword_append (follows_suffixOf flavor hq).isSuffix)

/-! ### The one spelling -/

theorem Spells.isRun (h : Spells s p) : ∀ d ∈ p, IsRun d := by
  obtain ⟨_, _, _, _, hrest⟩ := h
  cases hrest with
  | digits hp =>
    rintro d ⟨⟩
    exact hp
  | _ => exact fun d hd => absurd hd (Option.not_mem_none d)

/-- No keyword has a parenthesis. -/
theorem parenthesis_not_mem_word (h : word.map Char.toUpper ∈ keywords) : '(' ∉ word := by
  intro hmem
  have hkeywords : ∀ k ∈ keywords, '(' ∉ k := by decide
  exact hkeywords _ h (List.mem_map_of_mem (f := Char.toUpper) hmem)

/-- **One spelling.**  Of a spelling of the current time only the precision is kept. -/
theorem Spells.canonical_eq (h : Spells s p) (flavor : Flavor) :
    canonical flavor s = keyword ++ suffixOf flavor p := by
  obtain ⟨word, rest, rfl, hword, hrest⟩ := h
  have hprecision : precision? (word ++ rest) = p.map parenthesized := by
    rw [precision?_append (parenthesis_not_mem_word hword), hrest.precision?_eq]
  have hnamed : named (word ++ rest) = true := named_append hword hrest.isSuffix.startsInWord_eq
  simp only [canonical, hnamed, hprecision, if_true]
  cases p with
  | some p => rfl
  | none => cases flavor with
    | mysql => exact (List.append_nil keyword).symm
    | mariadb => rfl

namespace Reports

theorem isSuffix (h : Reports flavor s q) : IsSuffix (suffixOf flavor q) :=
  (follows_suffixOf flavor h.isRun).isSuffix

theorem map_toUpper (h : Reports flavor s q) :
    s.map Char.toUpper = keyword ++ suffixOf flavor q := by
  obtain ⟨word, rfl, hword⟩ := h.written
  rw [List.map_append, hword, h.isSuffix.map_toUpper]

theorem isReported (h : Reports flavor s q) : isReported s = true :=
  (isReported_of_map_toUpper h.isSuffix h.map_toUpper).1

theorem toUpper_eq (h : Reports flavor s q) : toUpper s = keyword ++ suffixOf flavor q :=
  (isReported_of_map_toUpper h.isSuffix h.map_toUpper).2

/-- A report in upper case is a spelling with the same precision. -/
theorem spells_toUpper (h : Reports flavor s q) : Spells (toUpper s) q :=
  ⟨keyword, _, h.toUpper_eq, by decide, follows_suffixOf flavor h.isRun⟩

end Reports

end Timestamp

/-! ### Defaults -/

theorem Column.defaultClause_computed {c : Column} {sql : String}
    (h : c.default = some (.computed sql)) (ht : c.columnType.isEnum = false) (flavor : Flavor) :
    c.defaultClause flavor = .ok (some (Timestamp.canonical flavor sql.toList)) := by
  rw [defaultClause, h]
  dsimp only
  rw [ht, if_neg Bool.false_ne_true]

/-! ### Updates -/

namespace ColumnRow

/-- What stands behind the words about updates at the start of a text, in any letter case. -/
def behindMark? (s : List Char) : Option (List Char) :=
  if (s.take updateMark.length).map Char.toLower = updateMark then some (s.drop updateMark.length)
  else none

/-- What stands behind the words about updates, wherever they occur in a text. -/
def behindMarks (s : List Char) : List (List Char) := s.tails.filterMap behindMark?

theorem behindMark?_eq_some_iff {s rest : List Char} :
    behindMark? s = some rest ↔ ∃ mark, s = mark ++ rest ∧ mark.map Char.toLower = updateMark := by
  rw [behindMark?, Option.ite_none_right_eq_some, Option.some.injEq]
  constructor
  · rintro ⟨hmark, rfl⟩
    exact ⟨_, (List.take_append_drop _ s).symm, hmark⟩
  · rintro ⟨mark, rfl, hmark⟩
    have hlength : updateMark.length = mark.length := by rw [← hmark, List.length_map]
    rw [hlength, List.take_left, List.drop_left]
    exact ⟨hmark, rfl⟩

theorem mem_behindMarks_iff {s rest : List Char} :
    rest ∈ behindMarks s ↔ ∃ before mark, s = before ++ (mark ++ rest) ∧
      mark.map Char.toLower = updateMark := by
  rw [behindMarks, List.mem_filterMap]
  constructor
  · rintro ⟨t, ht, hrest⟩
    obtain ⟨before, rfl⟩ := (List.mem_tails t s).mp ht
    obtain ⟨mark, rfl, hmark⟩ := behindMark?_eq_some_iff.mp hrest
    exact ⟨before, mark, rfl, hmark⟩
  · rintro ⟨before, mark, rfl, hmark⟩
    exact ⟨mark ++ rest, (List.mem_tails _ _).mpr (List.suffix_append before _),
      behindMark?_eq_some_iff.mpr ⟨mark, rfl, hmark⟩⟩

/-- An ASCII text in which the words about updates occur once, in any letter case, with nothing but a
clause behind them. -/
structure SaysUpdate (extra clause : List Char) : Prop where
  isAscii : Text.IsAscii extra
  behindMarks_eq : behindMarks extra = [clause]

/-- What such a text says is found: the place of the words in lower case is that in the text. -/
theorem SaysUpdate.updateClause_eq {extra clause : List Char} (h : SaysUpdate extra clause) :
    updateClause extra = .ok (some (toUpper (trim clause))) := by
  have hmem : ∀ rest, rest ∈ behindMarks extra ↔ rest = clause := fun rest => by
    rw [h.behindMarks_eq, List.mem_singleton]
  rcases updateClause_of_isAscii h.isAscii with ⟨hnone, -⟩ | ⟨before, mark, rest, rfl, hmark, hok⟩
  · obtain ⟨before, mark, rfl, hmark⟩ := mem_behindMarks_iff.mp ((hmem clause).mpr rfl)
    refine absurd ?_ hnone
    rw [List.map_append, List.map_append, hmark]
    exact ⟨_, _, List.append_assoc ..⟩
  · obtain rfl := (hmem rest).mp (mem_behindMarks_iff.mpr ⟨before, mark, rfl, hmark⟩)
    exact hok

/-- The members of the type can be read, if it has any. -/
def HasReadableMembers (r : ColumnRow) : Prop :=
  memberTypes.contains (String.ofList (toLower r.dataType.toList)) = true →
    ∃ members, MemberList.ofType r.columnType.toList = some members

/-- A row that says that the current time is set on updates is turned into a live column that says so
in upper case. -/
theorem toLive_onUpdate {r : ColumnRow} {flavor : Flavor} {server : List Char}
    {q : Option (List Char)} (hserver : Timestamp.Reports flavor server q)
    (hextra : SaysUpdate r.extra.toList server) (hmembers : r.HasReadableMembers)
    (unique : List String) :
    ∃ l, r.toLive unique flavor = .ok l ∧ l.onUpdate = some (String.ofList (toUpper server)) := by
  have hupdate : updateClause r.extra.toList = .ok (some (toUpper server)) := by
    rw [hextra.updateClause_eq,
      Text.trim_eq_self (hserver.isSuffix.not_isBlank hserver.map_toUpper)]
  obtain ⟨l, hl, honUpdate, -⟩ :=
    toLive_ok String.toList_ofList.symm hupdate hmembers unique flavor
  exact ⟨l, hl, honUpdate⟩

end ColumnRow

/-! ### Both -/

/-- **Only the precision counts.**  A declared current time in any spelling is taken for a reported one
if and only if both have one precision or neither has any: as the default of a column that is no
enumeration, and as what happens on updates, if the catalog says that once and nothing after it. -/
theorem Timestamp.Spells.same_iff_precision {flavor : Flavor} {declared server : String}
    {p q : Option (List Char)} (hdeclared : Spells declared.toList p)
    (hserver : Reports flavor server.toList q) :
    (∀ c : Column, c.default = some (.computed declared) → c.columnType.isEnum = false →
      c.comparesDefault flavor (some server) = .ok (decide (p = q))) ∧
    ∀ (r : ColumnRow) (c : Column) (unique : List String),
      ColumnRow.SaysUpdate r.extra.toList server.toList → r.HasReadableMembers →
      c.onUpdate = some declared →
      ∃ l, r.toLive unique flavor = .ok l ∧ ∀ agree e clause,
        (Schema.differs flavor agree e c l clause .onUpdate = false ↔ p = q) := by
  have hsame : keyword ++ suffixOf flavor p = keyword ++ suffixOf flavor q ↔ p = q := by
    rw [List.append_cancel_left_eq, suffixOf_inj hdeclared.isRun hserver.isRun]
  refine ⟨fun c hdefault ht => ?_, fun r c unique hextra hmembers hupdate => ?_⟩
  · rw [Column.comparesDefault_eq (Column.defaultClause_computed hdefault ht flavor)
      (liveDefault?_of_isReported flavor hserver.isReported), hserver.toUpper_eq,
      hdeclared.canonical_eq,
      stripQuotes_keyword_append_suffixOf flavor hdeclared.isRun,
      stripQuotes_keyword_append_suffixOf flavor hserver.isRun]
    simp only [hsame]
  · obtain ⟨l, hl, honUpdate⟩ := ColumnRow.toLive_onUpdate hserver hextra hmembers unique
    refine ⟨l, hl, fun agree e clause => ?_⟩
    rw [Schema.differs, bne_eq_false_iff_eq, Schema.updateClause?, Schema.updateClause?, honUpdate,
      hupdate, Option.map_some, Option.map_some, Option.some.injEq, String.toList_ofList,
      hserver.spells_toUpper.canonical_eq, hdeclared.canonical_eq, eq_comm, hsame]

/-- Without a precision one flavor reports empty parentheses for a time that is declared without any; with
three digits behind the point of its seconds it is not the one with six. -/
theorem Timestamp.Spells.same_iff_precision_at :
    let a := { Column.new "at" (.dialect .datetime) with
      default := some (.computed "localTimeStamp") }
    let c := { Column.new "at" (.dialect .datetime) with
      default := some (.computed "Now(3)"), onUpdate := some "Now(3)" }
    let r : ColumnRow :=
      { columnName := "at", dataType := "datetime", columnType := "datetime(6)", isNullable := "NO"
        columnDefault := some "Current_Timestamp(6)", columnKey := ""
        extra := "DEFAULT_GENERATED On Update Current_Timestamp(6)", characterMaximumLength := none
        numericPrecision := none, numericScale := none, datetimePrecision := some 6
        columnComment := none, generationExpression := none }
    a.comparesDefault .mariadb (some "current_timestamp()") = .ok true ∧
      c.comparesDefault .mysql r.columnDefault = .ok false ∧
      ∃ l, r.toLive [] .mysql = .ok l ∧
        Schema.differs .mysql .strict (Entity.new "t") c l none .onUpdate = true := by
  intro a c r
  have hrun : ∀ d : Char, d.isDigit = true → IsRun [d] :=
    fun d hd => ⟨by simp, by simpa using hd⟩
  have hnow : Spells "Now(3)".toList (some ['3']) :=
    ⟨"Now".toList, _, by decide, by decide, .digits (hrun '3' (by decide))⟩
  have hreport : Reports .mysql "Current_Timestamp(6)".toList (some ['6']) :=
    ⟨⟨"Current_Timestamp".toList, by decide, by decide⟩, by
      rintro d ⟨⟩
      exact hrun '6' (by decide)⟩
  have hextra : ColumnRow.SaysUpdate r.extra.toList "Current_Timestamp(6)".toList :=
    ⟨by decide, by decide⟩
  have hmembers : r.HasReadableMembers := fun h => absurd h (by decide)
  have hlocal : Spells "localTimeStamp".toList none :=
    ⟨"localTimeStamp".toList, _, by decide, by decide, .bare⟩
  have hempty : Reports .mariadb "current_timestamp()".toList none :=
    ⟨⟨"current_timestamp".toList, by decide, by decide⟩, fun d hd => absurd hd (Option.not_mem_none d)⟩
  obtain ⟨hdefault, hupdate⟩ := same_iff_precision hnow hreport
  obtain ⟨l, hl, hdiffers⟩ := hupdate r c [] hextra hmembers rfl
  refine ⟨(same_iff_precision hlocal hempty).1 a rfl rfl, hdefault c rfl rfl, l, hl, ?_⟩
  rw [← Bool.not_eq_false, hdiffers .strict (Entity.new "t") none]
  decide

end TableMapping
