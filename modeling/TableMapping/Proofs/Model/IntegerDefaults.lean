import TableMapping.Model.ColumnFile
import TableMapping.Proofs.Document.RecordEntries
import TableMapping.Proofs.Introspection.LiteralDefaults
import TableMapping.Proofs.Number.NearestIntegers

/-!
# Integer defaults in model files

An integer that stands for a default in a model file is read as an integer if it fits 64 bits with a
sign.  A greater one is read as a double, although the file can hold it, and so the default that the
server is taken to report has the digits of the nearest multiple of 2048.  Then a column whose
default is what was declared drifts for ever, unless the declared integer is such a multiple itself.

## Main definitions

* `reportedInteger` : the integer whose digits are written for a declared one.
* `KeepsDigits` : the integers that are written with their own digits.

## Main results

* `Column.decoder_insert_default` : a column is read with the default that one entry gives.
* `Column.decoder_integer_default` : what a column with an integer for its default reports, and when
  that counts as the integer.
-/

namespace TableMapping

/-! ### Reading a default -/

theorem Column.updatesApart_default (d : Option DefaultValue) :
    Decoder.UpdatesApart recordFields "default" fun c => { c with default := d } := by
  have hself : "default" ≠ "default" → ∀ (a : Option DefaultValue) (c : Column),
      { c with default := a } = { c with default := d } := fun h => absurd rfl h
  exact .cons (fun _ _ _ => rfl) <| .cons (fun _ _ _ => rfl) <| .cons (fun _ _ _ => rfl) <|
    .cons (fun _ _ _ => rfl) <| .cons (fun _ _ _ => rfl) <| .cons (fun _ _ _ => rfl) <|
    .cons (fun _ _ _ => rfl) <| .cons (fun _ _ _ => rfl) <| .cons (fun _ _ _ => rfl) <|
    .cons (fun _ _ _ => rfl) <| .cons (fun _ _ _ => rfl) <| .cons hself <|
    .cons (fun _ _ _ => rfl) <| .cons (fun _ _ _ => rfl) <| .cons (fun _ _ _ => rfl) <|
    .cons (fun _ _ _ => rfl) <| .cons (fun _ _ _ => rfl) <| .cons (fun _ _ _ => rfl) <|
    .cons (fun _ _ _ => rfl) <| .cons (fun _ _ _ => rfl) <| .cons (fun _ _ _ => rfl) .nil

/-- **A column is read with the default that one entry gives**, wherever that entry stands, and is
otherwise the column that is read without the entry. -/
theorem Column.decoder_insert_default {limit : Nat} {before after : List (FieldName × Outline)}
    {tail : Option Failure} {c : Column} {o : Outline} {d : Option DefaultValue}
    (hread : decoder limit (.object (before ++ after) tail) = .ok c)
    (hother : ∀ entry ∈ before ++ after, entry.1 ≠ .text (some "default"))
    (hdefault : ∀ limit, Decoder.option DefaultValue.decoder limit o = .ok d) :
    decoder limit (.object (before ++ (.text (some "default"), o) :: after) tail) =
      .ok { c with default := d } := by
  cases limit with
  | zero => cases hread
  | succ limit =>
    have hoptional : ∀ f ∈ recordFields, f.presence = .optional := by decide
    have hupdate : (RecordField.of .optional "default" (.option DefaultValue.decoder)
        fun a (c : Column) => { c with default := a }).read limit o =
          .ok fun c => { c with default := d } := congrArg (Except.map _) (hdefault limit)
    exact Decoder.record_insert (updatesApart_default d) hoptional hother rfl hupdate hread

/-! ### Writing an integer default -/

/-- The integer whose digits are written for a declared one: the integer itself if it fits 64 bits
with a sign, and the nearest multiple of 2048 otherwise. -/
def reportedInteger (n : WideInt) : Int :=
  if FitsInt64 n.val then n.val else (Binary64.roundHalfEven n.val.toNat 2048 * 2048 : ℕ)

/-- The integers that are written with their own digits. -/
def KeepsDigits (n : Int) : Prop := n < 9223372036854775808 ∨ 2048 ∣ n

instance (n : Int) : Decidable (KeepsDigits n) :=
  inferInstanceAs (Decidable (n < 9223372036854775808 ∨ 2048 ∣ n))

theorem reportedInteger_eq_iff (n : WideInt) : reportedInteger n = n.val ↔ KeepsDigits n.val := by
  obtain ⟨n, hlower, hupper⟩ := n
  rw [reportedInteger, KeepsDigits]
  dsimp only
  by_cases hn : FitsInt64 n
  · simp only [if_pos hn, hn.2, true_or]
  · have hmultiple := Binary64.roundHalfEven_mul_eq_iff (m := n.toNat) (n := 2048) (by decide)
    rw [if_neg hn]
    omega

/-- What the integer of a file is read as and written for. -/
theorem Column.defaultClause_ofDocument {c : Column} (ht : c.columnType.isEnum = false)
    (hscale : c.scale = none) (n : WideInt) :
    ∃ d, DefaultValue.ofDocument (.number (.integer n)) = .ok d ∧
      ∀ flavor, Column.defaultClause flavor { c with default := some d } =
        .ok (some (intText (reportedInteger n))) := by
  rw [reportedInteger, DefaultValue.ofDocument, WideInt.toInt64?]
  by_cases hn : FitsInt64 n.val
  · have hvalue : (Int64.ofInt n.val).toInt = n.val := Int64.toInt_ofInt_of_le hn.1 hn.2
    rw [int64?, if_pos hn, if_pos hn]
    refine ⟨_, rfl, fun flavor => ?_⟩
    rw [defaultClause_integer (c := { c with default := some _ }) rfl ht]
    dsimp only
    rw [hscale, hvalue, zeroDecimals, List.append_nil]
  · obtain ⟨k, hk⟩ : ∃ k : ℕ, n.val = k := ⟨n.val.toNat, by have := n.lower; omega⟩
    have hlow : twoPow (52 + 11) ≤ k := by
      have h63 : twoPow (52 + 11) = 9223372036854775808 := rfl
      have := n.lower
      omega
    have hhigh : k < twoPow (53 + 11) := by
      have h64 : twoPow (53 + 11) = 18446744073709551616 := rfl
      have := n.upper
      omega
    have hfixed := Binary64.fixedText_ofInt hlow hhigh (by decide)
    have hunit : twoPow 11 = 2048 := rfl
    rw [int64?, if_neg hn, if_neg hn, hk, Int.toNat_natCast]
    refine ⟨_, rfl, fun flavor => ?_⟩
    rw [defaultClause]
    dsimp only
    rw [ht, if_neg Bool.false_ne_true, hscale, DefaultValue.floatClause]
    change Except.map some (Except.ok ((Binary64.ofInt k).fixedText 0)) = _
    rw [hfixed, hunit, intText_natCast]
    rfl

/-- A written integer counts as a reported one if and only if they are the same. -/
theorem Column.comparesDefault_intText {c : Column} {flavor : Flavor} {m : Int}
    (h : c.defaultClause flavor = .ok (some (intText m))) (n : Int) :
    c.comparesDefault flavor (some (String.ofList (intText n))) = .ok (decide (m = n)) := by
  have hquote : ∀ k : Int, '\x27' ∉ intText k := fun k hmem =>
    (mem_intText hmem).elim (by decide) (by decide)
  have hnull : String.ofList (intText n) ≠ "NULL" := by
    intro heq
    have hmem : 'N' ∈ intText n := by
      rw [← String.toList_ofList (l := intText n), heq]
      decide
    exact (mem_intText hmem).elim (by decide) (by decide)
  have hlive := stripQuotes_liveDefault? flavor (d := String.ofList (intText n))
    (by rw [String.toList_ofList]; exact hquote n) hnull
  have hsame := integerClause_eq_liveText_iff m none (intText n)
  rw [zeroDecimals, List.append_nil, intText_inj, eq_comm (a := n)] at hsame
  obtain ⟨live, hlive, hstrip⟩ := hlive
  rw [String.toList_ofList] at hstrip
  rw [comparesDefault_eq h hlive, hstrip, stripQuotes_of_not_mem (hquote m)]
  simp only [hsame]

/-! ### Both -/

/-- **Integer defaults.**  If an entry with an integer for a default is put into what is read as a
column without one, which is no enumeration and has no decimals, it is read as that column with a
default.  The default is written with the digits of the integer if and only if the integer fits 64
bits with a sign or is a multiple of 2048, and with those of the nearest such multiple otherwise.
The reported integer counts as the default in the same cases. -/
theorem Column.decoder_integer_default {limit : Nat} {before after : List (FieldName × Outline)}
    {tail : Option Failure} {c : Column}
    (hread : decoder limit (.object (before ++ after) tail) = .ok c)
    (hother : ∀ entry ∈ before ++ after, entry.1 ≠ .text (some "default"))
    (ht : c.columnType.isEnum = false) (hscale : c.scale = none) (n : WideInt) :
    ∃ d, decoder limit (.object (before ++
          (.text (some "default"), .number (some (.integer n))) :: after) tail) =
        .ok { c with default := some d } ∧
      ∀ flavor,
        Column.defaultClause flavor { c with default := some d } =
          .ok (some (intText (reportedInteger n))) ∧
        (Column.defaultClause flavor { c with default := some d } = .ok (some (intText n.val)) ↔
          KeepsDigits n.val) ∧
        Column.comparesDefault flavor { c with default := some d }
          (some (String.ofList (intText n.val))) = .ok (decide (KeepsDigits n.val)) := by
  obtain ⟨d, hd, hclause⟩ := defaultClause_ofDocument ht hscale n
  have hdefault : ∀ limit, Decoder.option DefaultValue.decoder limit (.number (some (.integer n))) =
      .ok (some d) := by
    intro limit
    exact congrArg (Except.map some) hd
  refine ⟨d, decoder_insert_default hread hother hdefault, fun flavor => ⟨hclause flavor, ?_, ?_⟩⟩
  · rw [hclause, Except.ok.injEq, Option.some.injEq, intText_inj, reportedInteger_eq_iff]
  · rw [comparesDefault_intText (hclause flavor)]
    simp only [reportedInteger_eq_iff]

/-- The greatest multiple of 2048 below `2 ^ 64`, the default of a column without a sign, keeps its
digits. -/
theorem Column.decoder_integer_default_bigint :
    let before : List (FieldName × Outline) := [(.text (some "type"), .text (some "bigint"))]
    let after : List (FieldName × Outline) := [(.text (some "unsigned"), .bool true)]
    let c := { blank with columnType := .dialect .bigint, unsigned := true }
    let n : WideInt := ⟨18446744073709549568, by decide, by decide⟩
    decoder 1 (.object (before ++ after) none) = .ok c ∧
      ∃ d, decoder 1 (.object (before ++
            (.text (some "default"), .number (some (.integer n))) :: after) none) =
          .ok { c with default := some d } ∧
        Column.defaultClause .mysql { c with default := some d } =
          .ok (some "18446744073709549568".toList) ∧
        Column.comparesDefault .mysql { c with default := some d } (some "18446744073709549568") =
          .ok true := by
  intro before after c n
  have hread : decoder 1 (.object (before ++ after) none) = .ok c := rfl
  have hother : ∀ entry ∈ before ++ after, entry.1 ≠ .text (some "default") := by
    intro entry hentry
    simp only [before, after, List.mem_append, List.mem_singleton] at hentry
    rcases hentry with rfl | rfl <;> simp
  have htext : intText n.val = "18446744073709549568".toList := by decide
  obtain ⟨d, hd, hreport⟩ := decoder_integer_default hread hother rfl rfl n
  obtain ⟨-, hclause, hcompares⟩ := hreport .mysql
  rw [htext] at hclause hcompares
  exact ⟨hread, d, hd, hclause.mpr (by decide), hcompares⟩

/-- The greatest integer of 64 bits without a sign is reported with other digits, and what the
server reports for it counts as another default. -/
theorem Column.decoder_default_greatest :
    let n : WideInt := ⟨18446744073709551615, by decide, by decide⟩
    let o : Outline := .object [(.text (some "type"), .text (some "bigint")),
      (.text (some "default"), .number (some (.integer n)))] none
    let c := { blank with
      columnType := .dialect .bigint, default := some (.float (Binary64.ofInt n.val)) }
    decoder 1 o = .ok c ∧ c.columnType.isEnum = false ∧ c.scale = none ∧
      c.defaultClause .mysql = .ok (some "18446744073709551616".toList) ∧
      c.comparesDefault .mysql (some "18446744073709551615") = .ok false := by
  intro n o c
  exact ⟨rfl, rfl, rfl, by decide +kernel, by decide +kernel⟩

end TableMapping
