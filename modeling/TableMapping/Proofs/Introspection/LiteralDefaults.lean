import TableMapping.Proofs.Introspection.ReportedDefaults
import TableMapping.Proofs.Number.Numerals

/-!
# Literal defaults

A declared text is compared between quotes, and so is a reported one: one flavor puts them around it
itself, and for the other one they are put there when it is read.  One layer is taken off both sides, so
a text is taken for the declared one if and only if it is the same text, whatever quotes it has of its
own.  An integer stands without quotes, with as many zeros behind the point as its column has decimals.

## Main definitions

* `Column.comparesDefault` : whether a reported default counts as the declared one.
* `Column.DeclaresText` : the declared default is a text.
* `reportOfLiteral` : what a flavor reports for a literal.

## Main results

* `Column.comparesDefault_literal` : a literal counts as the declared default if and only if it is the
  same.
-/

namespace TableMapping

open Text (toUpper)

/-- Whether a reported default counts as the declared one, unless that one cannot be written. -/
def Column.comparesDefault (flavor : Flavor) (c : Column) (reported : Option String) :
    Except TooManyDecimals Bool :=
  (c.defaultClause flavor).map fun clause =>
    sameDefault clause ((liveDefault? flavor reported).map String.toList)

theorem Column.comparesDefault_eq {flavor : Flavor} {c : Column} {reported : Option String}
    {clause live : List Char} (hclause : c.defaultClause flavor = .ok (some clause))
    (hlive : (liveDefault? flavor reported).map String.toList = some live) :
    c.comparesDefault flavor reported = .ok (decide (stripQuotes clause = stripQuotes live)) := by
  rw [comparesDefault, hclause, hlive, Except.map, sameDefault]
  congr 1
  exact Bool.eq_iff_iff.mpr (by simp)

/-! ### Texts -/

/-- The declared default is a text, or on a set the items of a list with commas between them. -/
inductive Column.DeclaresText (c : Column) : List Char → Prop
  | text {t : String} (h : c.default = some (.text t)) : c.DeclaresText t.toList
  | items {items : List String} (ht : c.columnType = .dialect .set)
    (h : c.default = some (.list items)) : c.DeclaresText (DefaultValue.joinItems items)

/-- The text is compared between quotes. -/
theorem Column.DeclaresText.defaultClause_eq {c : Column} {t : List Char} (h : c.DeclaresText t)
    (flavor : Flavor) : c.defaultClause flavor = .ok (some (singleQuoted t)) := by
  cases h with
  | text h =>
    rw [defaultClause, h]
    dsimp only
    split <;> rfl
  | items ht h =>
    rw [defaultClause, h, ht]
    rfl

/-- What a flavor reports for a literal: the bare text, or the text between quotes. -/
def reportOfLiteral (flavor : Flavor) (d : String) : String :=
  match flavor with
  | .mysql => d
  | .mariadb => String.ofList (singleQuoted d.toList)

/-- A text that begins with a character that is no letter of the keyword is no current time. -/
theorem Timestamp.isReported_cons_of_not_agrees {c : Char} (h : agrees 'C' c = false)
    (s : List Char) : isReported (c :: s) = false := by
  have hkeyword : keyword = 'C' :: keyword.tail := by decide
  have hafter : afterKeyword? keyword (c :: s) = none := by
    rw [hkeyword, afterKeyword?, h, if_neg Bool.false_ne_true]
  rw [isReported, hafter]

/-- The report of a literal is read as that text between quotes. -/
theorem liveDefault?_reportOfLiteral {flavor : Flavor} {d : String}
    (h : flavor = .mysql → Timestamp.isReported d.toList = false) :
    (liveDefault? flavor (some (reportOfLiteral flavor d))).map String.toList =
      some (singleQuoted d.toList) := by
  rw [liveDefault?_some]
  cases flavor with
  | mysql => simp [reportOfLiteral, h rfl]
  | mariadb =>
    have hnull : singleQuoted d.toList ≠ "NULL".toList := fun heq =>
      absurd (List.head_eq_of_cons_eq heq) (by decide)
    have hreported : Timestamp.isReported (singleQuoted d.toList) = false :=
      Timestamp.isReported_cons_of_not_agrees (by decide) _
    rw [reportOfLiteral, String.toList_ofList, if_neg fun h => hnull h.2, hreported,
      if_neg Bool.false_ne_true]

/-! ### Integers -/

/-- A point and as many zeros as a column has decimals, if it has any. -/
def zeroDecimals (scale : Option UInt32) : List Char :=
  match scale with
  | some places => if 0 < places then '.' :: List.replicate places.toNat '0' else []
  | none => []

theorem integerClause_eq (scale : Option UInt32) (n : Int64) :
    DefaultValue.integerClause scale n = intText n.toInt ++ zeroDecimals scale := by
  cases scale with
  | none => exact (List.append_nil _).symm
  | some places =>
    rw [DefaultValue.integerClause, zeroDecimals]
    split
    · rfl
    · exact (List.append_nil _).symm

theorem defaultClause_integer {c : Column} {n : Int64} (h : c.default = some (.integer n))
    (ht : c.columnType.isEnum = false) (flavor : Flavor) :
    c.defaultClause flavor = .ok (some (intText n.toInt ++ zeroDecimals c.scale)) := by
  rw [Column.defaultClause, h]
  dsimp only
  rw [ht, if_neg Bool.false_ne_true, integerClause_eq]

/-- The clause of an integer begins with a digit or a minus sign. -/
theorem exists_integerClause_eq_cons (n : Int) (scale : Option UInt32) :
    ∃ c s, intText n ++ zeroDecimals scale = c :: s ∧ Timestamp.agrees 'C' c = false := by
  have hdigit : ∀ {c : Char}, c.isDigit = true → Timestamp.agrees 'C' c = false := by
    intro c hc
    have hrange : 48 ≤ c.toNat ∧ c.toNat ≤ 57 := Char.isDigit_iff_toNat.mp hc
    have hascii : ∀ n < 128, 48 ≤ n ∧ n ≤ 57 → Timestamp.agrees 'C' (Char.ofNat n) = false := by
      decide
    have hagrees := hascii c.toNat (by omega) hrange
    rwa [Char.ofNat_toNat] at hagrees
  rw [intText]
  split
  case isTrue => exact ⟨'-', _, rfl, by decide⟩
  case isFalse =>
    obtain ⟨c, cs, hcons, hc⟩ := natText_eq_cons n.natAbs
    exact ⟨c, cs ++ zeroDecimals scale, by rw [hcons, List.cons_append], hdigit hc⟩

/-- There is no quote in the clause of an integer. -/
theorem quote_not_mem_integerClause (n : Int64) (scale : Option UInt32) :
    '\x27' ∉ intText n.toInt ++ zeroDecimals scale := by
  have hzeros : '\x27' ∉ zeroDecimals scale := by
    unfold zeroDecimals
    split
    · split
      · simp
      · exact List.not_mem_nil
    · exact List.not_mem_nil
  rw [List.mem_append, not_or]
  exact ⟨fun hmem => (mem_intText hmem).elim (by decide) (by decide), hzeros⟩

theorem stripQuotes_of_not_mem {s : List Char} (h : '\x27' ∉ s) : stripQuotes s = s :=
  stripQuotes_eq_self (fun hhead => h (List.mem_of_head? hhead))
    fun hlast => h (List.mem_of_getLast? hlast)

/-- A report without quotes is read as it stands, or in upper case as a current time. -/
theorem stripQuotes_liveDefault? (flavor : Flavor) {d : String} (hquote : '\x27' ∉ d.toList)
    (hnull : d ≠ "NULL") :
    ∃ live, (liveDefault? flavor (some d)).map String.toList = some live ∧
      stripQuotes live = if Timestamp.isReported d.toList then toUpper d.toList else d.toList := by
  by_cases hreported : Timestamp.isReported d.toList = true
  · rw [liveDefault?_of_isReported flavor hreported, if_pos hreported]
    exact ⟨_, rfl, Timestamp.stripQuotes_of_isReported (Timestamp.isReported_toUpper hreported)⟩
  · have hnull' : ¬ (flavor = .mariadb ∧ d.toList = "NULL".toList) := fun h =>
      hnull (String.toList_inj.mp h.2)
    rw [liveDefault?_some, if_neg hnull', if_neg hreported, if_neg hreported]
    cases flavor with
    | mysql => exact ⟨_, rfl, stripQuotes_singleQuoted _⟩
    | mariadb => exact ⟨_, rfl, stripQuotes_of_not_mem hquote⟩

/-- An integer is no spelling of the current time, so only its own numeral is read as it. -/
theorem integerClause_eq_liveText_iff (n : Int) (scale : Option UInt32) (d : List Char) :
    (intText n ++ zeroDecimals scale =
      if Timestamp.isReported d then toUpper d else d) ↔ d = intText n ++ zeroDecimals scale := by
  obtain ⟨c, s, hcons, hc⟩ := exists_integerClause_eq_cons n scale
  have hclause : Timestamp.isReported (intText n ++ zeroDecimals scale) = false := by
    rw [hcons]
    exact Timestamp.isReported_cons_of_not_agrees hc s
  split
  case isTrue hreported =>
    refine iff_of_false (fun heq => ?_) (fun heq => ?_)
    · rw [heq, Timestamp.isReported_toUpper hreported] at hclause
      cases hclause
    · rw [heq, hclause] at hreported
      cases hreported
  case isFalse => exact eq_comm

/-! ### Literals -/

/-- **Literal defaults.**  A declared text and the report of a literal count as the same default if and
only if they are the same text, provided that the flavor which reports literals bare does not take this
one for a current time.  A declared integer and a report without quotes count as the same if and only if
the report is the numeral of the integer with the decimals of the column, unless it names the absent
default. -/
theorem Column.comparesDefault_literal :
    (∀ (flavor : Flavor) (c : Column) (t : List Char) (d : String), c.DeclaresText t →
      (flavor = .mysql → Timestamp.isReported d.toList = false) →
      c.comparesDefault flavor (some (reportOfLiteral flavor d)) = .ok (decide (t = d.toList))) ∧
    ∀ (flavor : Flavor) (c : Column) (n : Int64) (d : String), c.default = some (.integer n) →
      c.columnType.isEnum = false → '\x27' ∉ d.toList → d ≠ "NULL" →
      c.comparesDefault flavor (some d) =
        .ok (decide (d.toList = intText n.toInt ++ zeroDecimals c.scale)) := by
  refine ⟨fun flavor c t d ht hd => ?_, fun flavor c n d hn ht hquote hnull => ?_⟩
  · rw [comparesDefault_eq (ht.defaultClause_eq flavor) (liveDefault?_reportOfLiteral hd)]
    simp only [stripQuotes_singleQuoted]
  · obtain ⟨live, hlive, hstrip⟩ := stripQuotes_liveDefault? flavor hquote hnull
    rw [comparesDefault_eq (defaultClause_integer hn ht flavor) hlive, hstrip,
      stripQuotes_of_not_mem (quote_not_mem_integerClause n c.scale)]
    simp only [integerClause_eq_liveText_iff]

/-- A text with a quote in front is not the one without it, and an integer has all the zeros of its
column. -/
theorem Column.comparesDefault_literal_quotes :
    let note := { Column.new "note" (.dialect .varchar) with default := some (.text "'NULL") }
    let amount := { Column.new "amount" (.dialect .decimal) with
      scale := some 2, default := some (.integer (-5)) }
    note.DeclaresText "'NULL".toList ∧
      note.comparesDefault .mysql (some "'NULL") = .ok true ∧
      note.comparesDefault .mysql (some "NULL") = .ok false ∧
      note.comparesDefault .mariadb (some "''NULL'") = .ok true ∧
      amount.comparesDefault .mariadb (some "-5.00") = .ok true ∧
      amount.comparesDefault .mysql (some "-5.0") = .ok false := by
  intro note amount
  have hnote : note.DeclaresText "'NULL".toList := .text rfl
  have htext := comparesDefault_literal.1
  have hinteger := comparesDefault_literal.2
  exact ⟨hnote, htext .mysql note _ "'NULL" hnote (fun _ => by decide),
    htext .mysql note _ "NULL" hnote (fun _ => by decide),
    htext .mariadb note _ "'NULL" hnote (by decide),
    hinteger .mariadb amount (-5) "-5.00" rfl rfl (by decide) (by decide),
    hinteger .mysql amount (-5) "-5.0" rfl rfl (by decide) (by decide)⟩

end TableMapping
