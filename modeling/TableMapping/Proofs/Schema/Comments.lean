import TableMapping.Introspection.LiveConversion
import TableMapping.Schema.Drift

/-!
# Stored comments

The server stores a comment without its null characters, and an empty comment is none.  A comment is
taken as empty before its null characters are dropped, though, so that one of null characters only
is stored as an empty text.  What is stored is then no longer what is stored for it, and the
declared column never agrees with its report.  All other comments are stored once and for all.

## Main definitions

* `OnlyNulls` : a comment that is not empty and has null characters only.

## Main results

* `storedComment?_storedComment?` : storing a stored comment drops an empty one, and nothing else.
* `Schema.comment_agrees_iff` : a comment agrees with its report if it is not of null characters only.
-/

namespace TableMapping

/-! ### Storing once -/

/-- An empty comment is none. -/
theorem storedComment?_nonempty? (comment : Option String) :
    storedComment? (ColumnRow.nonempty? comment) = storedComment? comment := by
  cases comment with
  | none => rfl
  | some s =>
    by_cases hs : s = ""
    · subst hs
      rfl
    · simp [ColumnRow.nonempty?, Option.filter_some, hs]

/-- A stored comment has no null characters left. -/
theorem storedComment?_filter {comment : Option String} {s : List Char}
    (h : storedComment? comment = some s) : s.filter (·.toNat != 0) = s := by
  cases comment with
  | none => exact absurd h (by simp [storedComment?])
  | some t =>
    rw [storedComment?] at h
    split at h
    · exact absurd h (by simp)
    · rw [← Option.some.inj h, List.filter_filter]
      simp only [Bool.and_self]

/-- A comment that is not empty and has null characters only. -/
def OnlyNulls : Option String → Prop
  | none => False
  | some s => s ≠ "" ∧ ∀ c ∈ s.toList, c.toNat = 0

/-- What is stored is empty if and only if the comment has null characters only. -/
theorem storedComment?_eq_some_nil_iff (comment : Option String) :
    storedComment? comment = some [] ↔ OnlyNulls comment := by
  cases comment with
  | none => simp [storedComment?, OnlyNulls]
  | some s =>
    rw [storedComment?, OnlyNulls]
    by_cases hs : s = ""
    · simp [hs]
    · simp [hs, List.filter_eq_nil_iff]

/-! ### Storing again -/

/-- Storing a stored comment drops an empty one, and nothing else. -/
theorem storedComment?_storedComment? (comment : Option String) :
    storedComment? ((storedComment? comment).map String.ofList) =
      (storedComment? comment).filter fun s => !s.isEmpty := by
  cases hstored : storedComment? comment with
  | none => rfl
  | some s =>
    rw [Option.map_some, storedComment?, String.toList_ofList, storedComment?_filter hstored,
      Option.filter_some]
    cases s <;> rfl

theorem storedComment?_idem_iff (comment : Option String) :
    storedComment? ((storedComment? comment).map String.ofList) = storedComment? comment ↔
      ¬OnlyNulls comment := by
  rw [storedComment?_storedComment?, ← storedComment?_eq_some_nil_iff]
  cases storedComment? comment with
  | none => simp
  | some s => simp [Option.filter_some]

/-! ### Both sides of the comparison -/

/-- **Stored comments converge**, if they are not of null characters only: what is stored for such a
comment is stored for itself again and not empty, and a declared column with the comment agrees with
the live column that reports it.  With a comment of null characters only, none of this holds. -/
theorem Schema.comment_agrees_iff (comment : Option String) :
    (storedComment? ((storedComment? comment).map String.ofList) = storedComment? comment ↔
      ¬OnlyNulls comment) ∧
    (storedComment? comment ≠ some [] ↔ ¬OnlyNulls comment) ∧
    ∀ (flavor : Flavor) (agree : Nullability) (e : Entity) (c : Column) (l : LiveColumn)
      (clause : Option (List Char)),
      Schema.differs flavor agree e { c with comment := comment }
        { l with comment := ColumnRow.nonempty? ((storedComment? comment).map String.ofList) }
        clause .comment = false ↔ ¬OnlyNulls comment := by
  refine ⟨storedComment?_idem_iff comment, ?_, fun flavor agree e c l clause => ?_⟩
  · rw [Ne, storedComment?_eq_some_nil_iff]
  · rw [Schema.differs, bne_eq_false_iff_eq]
    dsimp only
    rw [storedComment?_nonempty?, storedComment?_idem_iff]

/-- A comment of one null character is stored as an empty text, for which none is stored, and its
column drifts from a live column that reports no comment. -/
theorem Schema.drift_comment_null :
    let c := { Column.new "n" (.dialect .int) with isNullable := true, comment := some "\x00" }
    let l : LiveColumn :=
      { LiveColumn.new "n" "int" with comment := ColumnRow.nonempty? (some "") }
    storedComment? c.comment = some [] ∧ storedComment? (some "") = none ∧
      Schema.drift .mysql .strict (Entity.new "t") c l = .ok (some .comment) :=
  ⟨by decide, rfl, rfl⟩

end TableMapping
