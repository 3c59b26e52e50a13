import TableMapping.Introspection.LiveConversion
import TableMapping.Proofs.Schema.Timestamps
import TableMapping.Schema.DefaultClause

/-!
# Reported defaults

What a server reports for a default clause: one flavor reports the bare text of a literal, the other
one the clause as it is, and both the current time in any letter case.  The report counts as the same
default, unless the flavor reads it as something else: as an absent default, as a current time in
other letters, or with a quote too few.

## Main definitions

* `bareText` : a clause without the quotes around it.
* `ReportsDefault` : what a flavor reports for a clause.
* `ComparableDefault` : the clauses whose report counts as the same default.

## Main results

* `sameDefault_liveDefault?_iff` : the report of a clause counts as the same default if and only if
  the clause is comparable.
-/

namespace TableMapping

open Text (toUpper)

/-! ### Quotes -/

/-- A clause without the quotes around it, if there are any. -/
def bareText : List Char → List Char
  | '\x27' :: s => if s.getLast? = some '\x27' then s.dropLast else '\x27' :: s
  | s => s

/-- A clause is a text between quotes, or it is its own bare text. -/
theorem singleQuoted_or_bareText_eq (k : List Char) :
    k = singleQuoted (bareText k) ∨ bareText k = k := by
  unfold bareText
  split
  case h_1 s =>
    split
    case isTrue h =>
      obtain ⟨t, rfl⟩ := List.getLast?_eq_some_iff.mp h
      left
      rw [List.dropLast_concat, singleQuoted]
    case isFalse => exact .inr rfl
  case h_2 => exact .inr rfl

theorem stripQuotes_singleQuoted (s : List Char) : stripQuotes (singleQuoted s) = s := by
  change (if (s ++ ['\x27']).getLast? = some '\x27' then (s ++ ['\x27']).dropLast else _) = s
  rw [if_pos List.getLast?_concat, List.dropLast_concat]

/-- Nothing is taken off a text without a quote at either end. -/
theorem stripQuotes_eq_self {s : List Char} (hhead : s.head? ≠ some '\x27')
    (hlast : s.getLast? ≠ some '\x27') : stripQuotes s = s := by
  cases s with
  | nil => rfl
  | cons c cs =>
    have hc : c ≠ '\x27' := by simpa using hhead
    simp [stripQuotes, hc, hlast]

/-- Taking quotes off a clause gives its bare text, except where there is one at one end only. -/
theorem stripQuotes_eq_bareText_iff {k : List Char} :
    stripQuotes k = bareText k ↔ (bareText k = k → stripQuotes k = k) := by
  constructor
  · intro h hbare
    rw [h, hbare]
  · intro h
    rcases singleQuoted_or_bareText_eq k with hquoted | hbare
    · conv_lhs => rw [hquoted, stripQuotes_singleQuoted]
    · rw [h hbare, hbare]

/-! ### Reported timestamps -/

namespace Timestamp

theorem IsSuffix.getLast?_append {suffix : List Char} (h : IsSuffix suffix) :
    (keyword ++ suffix).getLast? ≠ some '\x27' := by
  rcases h with rfl | ⟨digits, rfl, -⟩
  · decide
  · rw [← List.cons_append, ← List.append_assoc, List.getLast?_concat]
    decide

theorem head?_keyword_append (suffix : List Char) : (keyword ++ suffix).head? = some 'C' := by
  have hkeyword : keyword.head? = some 'C' := by decide
  rw [List.head?_append, hkeyword]
  rfl

/-- A reported spelling has no quote at either end. -/
theorem stripQuotes_of_isReported {s : List Char} (h : isReported s = true) :
    stripQuotes s = s := by
  obtain ⟨suffix, hsuffix, hupper⟩ := toUpper_of_isReported h
  refine stripQuotes_eq_self ?_ ?_
  · intro hhead
    obtain ⟨t, rfl⟩ := List.head?_eq_some_iff.mp hhead
    rw [toUpper, List.flatMap_cons, Text.upperChar_of_ascii (by decide)] at hupper
    have hquote := congrArg List.head? hupper
    rw [head?_keyword_append] at hquote
    exact absurd (Option.some.inj hquote) (by decide)
  · intro hlast
    obtain ⟨t, rfl⟩ := List.getLast?_eq_some_iff.mp hlast
    refine hsuffix.getLast?_append ?_
    rw [← hupper, Text.toUpper_append]
    exact List.getLast?_concat

theorem isReported_toUpper {s : List Char} (h : isReported s = true) :
    isReported (toUpper s) = true := by
  obtain ⟨suffix, hsuffix, hupper⟩ := toUpper_of_isReported h
  rw [hupper]
  exact isReported_keyword_append hsuffix

theorem toUpper_keyword_append {suffix : List Char} (h : IsSuffix suffix) :
    toUpper (keyword ++ suffix) = keyword ++ suffix := by
  rw [Text.toUpper_append, toUpper_of_isSuffix h]
  rfl

end Timestamp

/-! ### Reports -/

/-- The text in which a flavor reports the literal of a clause. -/
def literalText (flavor : Flavor) (clause : List Char) : List Char :=
  match flavor with
  | .mysql => bareText clause
  | .mariadb => clause

/-- What a flavor reports for a default clause. -/
inductive ReportsDefault (flavor : Flavor) : Option (List Char) → Option String → Prop
  /-- Without a clause there is no default. -/
  | absent : ReportsDefault flavor none none
  /-- One flavor can name the absent default. -/
  | null (h : flavor = .mariadb) : ReportsDefault flavor none (some "NULL")
  /-- A literal, between quotes or bare. -/
  | literal {clause : List Char} {reported : String}
      (h : reported.toList = literalText flavor clause) :
      ReportsDefault flavor (some clause) (some reported)
  /-- The current time in any letter case. -/
  | timestamp {suffix : List Char} {reported : String} (hsuffix : Timestamp.IsSuffix suffix)
      (h : reported.toList.map Char.toUpper = Timestamp.keyword ++ suffix) :
      ReportsDefault flavor (some (Timestamp.keyword ++ suffix)) (some reported)

/-- The clauses whose report counts as the same default: it is not read as an absent default, if it
is read as a current time it is one in upper case, and a clause without quotes around it does not
lose a quote at one end. -/
structure ComparableDefault (flavor : Flavor) (clause : List Char) : Prop where
  present : flavor = .mariadb → clause ≠ "NULL".toList
  upper : Timestamp.isReported (literalText flavor clause) = true →
    toUpper (literalText flavor clause) = literalText flavor clause
  closed : flavor = .mysql → bareText clause = clause → stripQuotes clause = clause

theorem liveDefault?_some (flavor : Flavor) (reported : String) :
    (liveDefault? flavor (some reported)).map String.toList =
      if flavor = .mariadb ∧ reported.toList = "NULL".toList then none
      else if Timestamp.isReported reported.toList then some (toUpper reported.toList)
      else match flavor with
        | .mariadb => some reported.toList
        | .mysql => some (singleQuoted reported.toList) := by
  simp only [liveDefault?, String.toList_inj]
  split
  · rfl
  · split
    · rw [Option.map_some, String.toList_ofList]
    · cases flavor with
      | mysql => simp [singleQuoted]
      | mariadb => rfl

/-- A current time is compared in upper case: it is no name of the absent default. -/
theorem liveDefault?_of_isReported (flavor : Flavor) {reported : String}
    (h : Timestamp.isReported reported.toList = true) :
    (liveDefault? flavor (some reported)).map String.toList = some (toUpper reported.toList) := by
  have hnull : ¬ (flavor = .mariadb ∧ reported.toList = "NULL".toList) := by
    rintro ⟨-, hnull⟩
    rw [hnull] at h
    exact absurd h (by decide)
  rw [liveDefault?_some, if_neg hnull, if_pos h]

theorem sameDefault_some (clause live : List Char) :
    sameDefault (some clause) (some live) = true ↔ stripQuotes clause = stripQuotes live := by
  rw [sameDefault, beq_iff_eq]

theorem comparableDefault_keyword_append (flavor : Flavor) {suffix : List Char}
    (h : Timestamp.IsSuffix suffix) : ComparableDefault flavor (Timestamp.keyword ++ suffix) := by
  have hliteral : literalText flavor (Timestamp.keyword ++ suffix) =
      Timestamp.keyword ++ suffix := by
    cases flavor <;> rfl
  refine ⟨fun _ hnull => ?_, fun _ => ?_, fun _ _ => ?_⟩
  · have hhead := congrArg List.head? hnull
    rw [Timestamp.head?_keyword_append] at hhead
    exact absurd hhead (by decide)
  · rw [hliteral, Timestamp.toUpper_keyword_append h]
  · exact Timestamp.stripQuotes_of_isReported (Timestamp.isReported_keyword_append h)

/-- The report of a literal in quotes counts as the same default. -/
theorem sameDefault_mysql_literal {clause : List Char} {reported : String}
    (h : reported.toList = bareText clause) :
    sameDefault (some clause) ((liveDefault? .mysql (some reported)).map String.toList) = true ↔
      ComparableDefault .mysql clause := by
  rw [liveDefault?_some, if_neg (by simp), h]
  split
  case isTrue hreported =>
    have hstrip : stripQuotes clause = bareText clause := by
      rw [stripQuotes_eq_bareText_iff]
      intro hbare
      exact Timestamp.stripQuotes_of_isReported (hbare ▸ hreported)
    rw [sameDefault_some, hstrip,
      Timestamp.stripQuotes_of_isReported (Timestamp.isReported_toUpper hreported)]
    constructor
    · intro hupper
      exact ⟨by simp, fun _ => hupper.symm, fun _ => stripQuotes_eq_bareText_iff.mp hstrip⟩
    · intro hcomparable
      exact (hcomparable.upper hreported).symm
  case isFalse hliteral =>
    dsimp only
    rw [sameDefault_some, stripQuotes_singleQuoted, stripQuotes_eq_bareText_iff]
    constructor
    · intro hclosed
      exact ⟨by simp, fun hreported => absurd hreported hliteral, fun _ => hclosed⟩
    · intro hcomparable
      exact hcomparable.closed rfl

theorem sameDefault_mariadb_literal {clause : List Char} {reported : String}
    (h : reported.toList = clause) :
    sameDefault (some clause) ((liveDefault? .mariadb (some reported)).map String.toList) = true ↔
      ComparableDefault .mariadb clause := by
  rw [liveDefault?_some, h]
  split
  case isTrue hnull =>
    constructor
    · intro hsame
      exact absurd hsame (by simp [sameDefault])
    · intro hcomparable
      exact absurd hnull.2 (hcomparable.present rfl)
  case isFalse hpresent =>
    have hpresent' : clause ≠ "NULL".toList := fun hnull => hpresent ⟨rfl, hnull⟩
    split
    case isTrue hreported =>
      rw [sameDefault_some, Timestamp.stripQuotes_of_isReported hreported,
        Timestamp.stripQuotes_of_isReported (Timestamp.isReported_toUpper hreported)]
      constructor
      · intro hupper
        exact ⟨fun _ => hpresent', fun _ => hupper.symm, by simp⟩
      · intro hcomparable
        exact (hcomparable.upper hreported).symm
    case isFalse hliteral =>
      refine iff_of_true (by rw [sameDefault_some]) ?_
      exact ⟨fun _ => hpresent', fun hreported => absurd hreported hliteral, by simp⟩

/-- **Reported defaults.**  What a flavor reports for a clause counts as the same default if and only
if there is no clause or the clause is comparable. -/
theorem sameDefault_liveDefault?_iff {flavor : Flavor} {clause : Option (List Char)}
    {reported : Option String} (h : ReportsDefault flavor clause reported) :
    sameDefault clause ((liveDefault? flavor reported).map String.toList) = true ↔
      ∀ k, clause = some k → ComparableDefault flavor k := by
  cases h with
  | absent => exact iff_of_true rfl (by simp)
  | null hflavor =>
    subst hflavor
    exact iff_of_true rfl (by simp)
  | @literal clause reported hliteral =>
    simp only [Option.some.injEq, forall_eq']
    cases flavor with
    | mysql => exact sameDefault_mysql_literal hliteral
    | mariadb => exact sameDefault_mariadb_literal hliteral
  | @timestamp suffix reported hsuffix hreported =>
    obtain ⟨hspelling, hupper⟩ := Timestamp.isReported_of_map_toUpper hsuffix hreported
    rw [liveDefault?_of_isReported flavor hspelling, hupper]
    refine iff_of_true (by rw [sameDefault_some]) ?_
    rintro k ⟨⟩
    exact comparableDefault_keyword_append flavor hsuffix

end TableMapping
