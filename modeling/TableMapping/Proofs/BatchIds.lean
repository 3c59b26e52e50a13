import TableMapping.Proofs.Quantities
import TableMapping.Proofs.ReturnedColumns

/-!
# Ids of a batch

For an insert of many rows the server tells the first number that it counted, and the rows get the
numbers from there on.  The first number comes as an integer of either kind, as a text or as a double.
A row whose number would not fit 64 bits gets the null, so that no number ever wraps around and no two
rows get the same one.

## Main definitions

* `InsertResult.DenotesId` : the values that denote a first number.
* `Column.IsCounted` : the columns whose values the server counts.
* `Entity.countedValues` : the run of the ids of a row.

## Main results

* `InsertResult.DenotesId.idNumber?_eq` : a value is read as the number that it denotes.
* `Entity.generatedMap_firstId` : the ids of the rows of a batch.
-/

namespace TableMapping

/-! ### First numbers -/

/-- A finite double that is a natural number. -/
structure Binary64.IsNatural (x : Binary64) (k : Nat) : Prop where
  isFinite : x.isFinite = true
  not_isNegative : x.isNegative = false
  numerator_eq : x.numerator = k * x.denominator

theorem Binary64.IsNatural.truncated_eq {x : Binary64} {k : Nat} (h : x.IsNatural k) :
    x.truncated = some (k : Int) := by
  have hden : 0 < x.denominator := Nat.pow_pos (by decide)
  simp only [truncated, h.isFinite, h.not_isNegative, h.numerator_eq, if_true, Bool.false_eq_true,
    if_false, Nat.mul_div_cancel k hden]

theorem uint64?_of_lt {k : Nat} (h : k < 18446744073709551616) :
    uint64? k = some (UInt64.ofNat k) := by
  rw [uint64?, if_pos ⟨by omega, by omega⟩, Int.toNat_natCast]

theorem uint64?_of_ge {k : Nat} (h : 18446744073709551616 ≤ k) : uint64? k = none :=
  if_neg fun hfits => by omega

namespace InsertResult

/-- A value denotes a natural number: it is that integer, with a sign or without one, a numeral of it
between blanks, or a double that is no fraction. -/
inductive DenotesId : Value → Nat → Prop
  | int {n : Int64} {k : Nat} (h : n.toInt = k) : DenotesId (.int n) k
  | uint (n : UInt64) : DenotesId (.uint n) n.toNat
  | text {s : String} {numeral : List Char} {k : Nat} (hpads : Text.Pads s.toList numeral)
    (h : DenotesInt numeral k) : DenotesId (.text s) k
  | float {x : Binary64} {k : Nat} (h : x.IsNatural k) : DenotesId (.float x) k

theorem idNumber?_int (n : Int64) : idNumber? (.int n) = (uint64? n.toInt).filter (· != 0) := by
  rw [idNumber?.eq_def]
  dsimp only
  rw [Option.bind_some]

theorem idNumber?_uint (n : UInt64) : idNumber? (.uint n) = (uint64? n.toNat).filter (· != 0) := by
  rw [idNumber?.eq_def]
  dsimp only
  rw [Option.bind_some]

theorem idNumber?_float (x : Binary64) :
    idNumber? (.float x) = (x.truncated.bind uint64?).filter (· != 0) := by
  rw [idNumber?.eq_def]

/-- A text is read like its quantity. -/
theorem idNumber?_text {s : String} {q : Quantity} (h : Quantity.parse? s.toList = some q) :
    idNumber? (.text s) = idNumber? q.toValue := by
  rw [idNumber?.eq_def]
  dsimp only
  rw [h]
  cases q with
  | int n => rw [Quantity.toValue, idNumber?_int, Option.bind_some]
  | uint n => rw [Quantity.toValue, idNumber?_uint, Option.bind_some]
  | float x => rw [Quantity.toValue, idNumber?_float]

/-- A value is read as the number that it denotes. -/
theorem DenotesId.idNumber?_eq {id : Value} {k : Nat} (h : DenotesId id k) (hpos : 1 ≤ k)
    (hlt : k < 18446744073709551616) : idNumber? id = some (UInt64.ofNat k) := by
  have hne : UInt64.ofNat k ≠ 0 := by
    intro hzero
    have htoNat := congrArg UInt64.toNat hzero
    rw [UInt64.toNat_ofNat_of_lt' hlt, UInt64.toNat_zero] at htoNat
    omega
  have hfound : (uint64? k).filter (· != 0) = some (UInt64.ofNat k) := by
    rw [uint64?_of_lt hlt]
    exact Option.filter_some_pos (by simpa using hne)
  cases h with
  | int h => rw [idNumber?_int, h, hfound]
  | uint n => rw [idNumber?_uint, hfound]
  | float h => rw [idNumber?_float, h.truncated_eq, Option.bind_some, hfound]
  | text hpads h =>
    by_cases hsigned : k < 9223372036854775808
    · have htoInt : (Int64.ofInt k).toInt = k := Int64.toInt_ofInt_of_le (by omega) (by omega)
      rw [idNumber?_text (Quantity.parse?_eq_int hpads h ⟨by omega, by omega⟩), Quantity.toValue,
        idNumber?_int, htoInt, hfound]
    · have htoNat : (UInt64.ofNat k).toNat = k := UInt64.toNat_ofNat_of_lt' hlt
      rw [idNumber?_text (Quantity.parse?_eq_uint hpads h (by omega) (by omega)), Quantity.toValue,
        idNumber?_uint, Int.toNat_natCast, htoNat, hfound]

end InsertResult

/-! ### Ids of rows -/

/-- The server counts the values of the column. -/
def Column.IsCounted (c : Column) : Prop := c.isGenerated = true ∧ c.strategy = some .increment

instance (c : Column) : Decidable c.IsCounted :=
  inferInstanceAs (Decidable (c.isGenerated = true ∧ c.strategy = some .increment))

namespace Entity

/-- The id of a row is the first number and the position of the row, unless that does not fit. -/
theorem rowId_ofNat {k : Nat} (hk : k < 18446744073709551616) (index : Nat) :
    rowId (UInt64.ofNat k) index =
      if k + index < 18446744073709551616 then .uint (UInt64.ofNat (k + index)) else .null := by
  rw [rowId, UInt64.toNat_ofNat_of_lt' hk, ← Int.natCast_add]
  split
  case isTrue hfits => rw [uint64?_of_lt hfits, Option.elim_some]
  case isFalse hover => rw [uint64?_of_ge (by omega), Option.elim_none]

variable {e : Entity} {columns : List Column}

/-- The ids of a row, in the order of the columns. -/
def countedValues (first : UInt64) (index : Nat) (columns : List Column) : List (Column × Value) :=
  (columns.filter fun c => c.strategy = some .increment).map fun c => (c, rowId first index)

/-- If all columns have a strategy, the ids are merged in one after the other. -/
theorem countedMap_eq (first : UInt64) (index : Nat) (h : ∀ c ∈ columns, c.strategy ≠ none)
    (m : GeneratedMap) :
    countedMap first index columns m = .ok
      ((countedValues first index columns).foldl (fun m pair => m.merge (.ofColumn pair.1 pair.2)) m) := by
  induction columns generalizing m with
  | nil => rfl
  | cons c rest ih =>
    have hrest := ih fun d hd => h d (List.mem_cons_of_mem c hd)
    rw [countedMap]
    split
    case h_1 hnone => exact absurd hnone (h c List.mem_cons_self)
    case h_2 hcounted =>
      rw [hrest, countedValues, countedValues, List.filter_cons_of_pos (by simpa using hcounted),
        List.map_cons, List.foldl_cons]
    case h_3 huuid =>
      rw [hrest, countedValues, countedValues, List.filter_cons_of_neg (by simp [huuid])]

theorem generatedMap_firstId_eq {id : Value} {first : UInt64}
    (hid : InsertResult.idNumber? id = some first)
    (h : ∀ c ∈ e.columns, c.isGenerated = true → c.strategy ≠ none) (index : Nat) :
    e.generatedMap (some (.firstId id)) index =
      .ok (GeneratedMap.ofValues? (countedValues first index e.generatedColumns)) := by
  have hstrategy : ∀ c ∈ e.generatedColumns, c.strategy ≠ none := by
    intro c hc
    obtain ⟨hmem, hgenerated⟩ := List.mem_filter.mp hc
    exact h c hmem hgenerated
  simp only [generatedMap, hid, countedMap_eq first index hstrategy]
  rfl

theorem mem_countedValues_iff {first : UInt64} {index : Nat} {c : Column} {v : Value} :
    (c, v) ∈ countedValues first index e.generatedColumns ↔
      c ∈ e.columns ∧ c.IsCounted ∧ v = rowId first index := by
  simp only [countedValues, generatedColumns, List.mem_map, List.mem_filter, Prod.mk.injEq,
    decide_eq_true_eq, Column.IsCounted]
  constructor
  · rintro ⟨d, ⟨⟨hmem, hgenerated⟩, hstrategy⟩, rfl, hvalue⟩
    exact ⟨hmem, ⟨hgenerated, hstrategy⟩, hvalue.symm⟩
  · rintro ⟨hmem, ⟨hgenerated, hstrategy⟩, hvalue⟩
    exact ⟨c, ⟨⟨hmem, hgenerated⟩, hstrategy⟩, rfl, hvalue.symm⟩

theorem HasApartPaths.apart_countedValues (h : e.HasApartPaths) (first : UInt64) (index : Nat) :
    GeneratedMap.Apart (countedValues first index e.generatedColumns) := by
  rw [GeneratedMap.Apart, countedValues, List.pairwise_map]
  exact (h.filter _).filter _

/-- The id of a row stands at the paths of the counted columns, and there alone. -/
theorem HasApartPaths.getPath?_countedValues (h : e.HasApartPaths) {first : UInt64} {index : Nat}
    {path : List String} {v : Value} :
    (GeneratedMap.ofValues (countedValues first index e.generatedColumns)).getPath? path = some v ↔
      (∃ c ∈ e.columns, c.IsCounted ∧ c.path = path) ∧ v = rowId first index := by
  simp only [(h.apart_countedValues first index).getPath?_eq_some_iff, mem_countedValues_iff]
  constructor
  · rintro ⟨c, ⟨hc, hcounted, hv⟩, hpath⟩
    exact ⟨⟨c, hc, hcounted, hpath⟩, hv⟩
  · rintro ⟨⟨c, hc, hcounted, hpath⟩, hv⟩
    exact ⟨c, ⟨hc, hcounted, hv⟩, hpath⟩

theorem countedValues_eq_nil_iff {first : UInt64} {index : Nat} :
    countedValues first index e.generatedColumns = [] ↔ ∀ c ∈ e.columns, ¬ c.IsCounted := by
  rw [List.eq_nil_iff_forall_not_mem]
  constructor
  · intro h c hc hcounted
    exact h (c, rowId first index) (mem_countedValues_iff.mpr ⟨hc, hcounted, rfl⟩)
  · rintro h ⟨c, v⟩ hmem
    obtain ⟨hc, hcounted, -⟩ := mem_countedValues_iff.mp hmem
    exact h c hc hcounted

/-- **Ids of a batch.**  The generated columns of an entity have a strategy and the paths of its columns
are apart, and a value denotes a first number of 64 bits.  Then every row has a map unless the server
counts no column.  At the path of each counted column is the first number and the position of the row,
or the null if that does not fit 64 bits, and there is no value at any other path.  So numbers of two
rows are as far apart as the rows. -/
theorem generatedMap_firstId (hstrategy : ∀ c ∈ e.columns, c.isGenerated = true → c.strategy ≠ none)
    (hpaths : e.HasApartPaths) {id : Value} {k : Nat} (hid : InsertResult.DenotesId id k)
    (hpos : 1 ≤ k) (hlt : k < 18446744073709551616) :
    (∀ index, ∃ result, e.generatedMap (some (.firstId id)) index = .ok result ∧
      (result = none ↔ ∀ c ∈ e.columns, ¬ c.IsCounted) ∧
      ∀ m, result = some m →
        (∀ c ∈ e.columns, c.IsCounted → m.getPath? c.path = some
          (if k + index < 18446744073709551616 then .uint (UInt64.ofNat (k + index)) else .null)) ∧
        ∀ path, (∀ c ∈ e.columns, c.IsCounted → c.path ≠ path) → m.getPath? path = none) ∧
    ∀ i j m m', e.generatedMap (some (.firstId id)) i = .ok (some m) →
      e.generatedMap (some (.firstId id)) j = .ok (some m') →
      ∀ path a b, m.getPath? path = some (.uint a) → m'.getPath? path = some (.uint b) →
        (b.toNat : Int) - a.toNat = j - i := by
  have hmap := generatedMap_firstId_eq (hid.idNumber?_eq hpos hlt) hstrategy
  refine ⟨fun index => ⟨_, hmap index, ?_, fun m hm => ?_⟩, fun i j m m' hi hj path a b ha hb => ?_⟩
  · rw [GeneratedMap.ofValues?_eq_none_iff, countedValues_eq_nil_iff]
  · obtain rfl := GeneratedMap.ofValues?_eq_some hm
    refine ⟨fun c hc hcounted => ?_, fun path hpath => ?_⟩
    · rw [hpaths.getPath?_countedValues, rowId_ofNat hlt]
      exact ⟨⟨c, hc, hcounted, rfl⟩, rfl⟩
    · refine Option.eq_none_iff_forall_ne_some.mpr fun v hv => ?_
      obtain ⟨⟨c, hc, hcounted, heq⟩, -⟩ := hpaths.getPath?_countedValues.mp hv
      exact hpath c hc hcounted heq
  · have hnumber : ∀ {index : Nat} {n : GeneratedMap} {x : UInt64},
        e.generatedMap (some (.firstId id)) index = .ok (some n) →
        n.getPath? path = some (.uint x) → x.toNat = k + index := by
      intro index n x hn hx
      rw [hmap, Except.ok.injEq] at hn
      obtain rfl := GeneratedMap.ofValues?_eq_some hn
      obtain ⟨-, hid⟩ := hpaths.getPath?_countedValues.mp hx
      rw [rowId_ofNat hlt] at hid
      split at hid
      case isTrue hfits => rw [Value.uint.inj hid, UInt64.toNat_ofNat_of_lt' hfits]
      case isFalse => cases hid
    rw [hnumber hi ha, hnumber hj hb]
    omega

/-- The second row of a batch gets the greatest number, and the third one gets none. -/
theorem generatedMap_firstId_greatest :
    let token := (Column.new "token" (.dialect .varchar)).generated .uuid
    let number := ((Column.new "number" (.dialect .bigint)).generated .increment).embeddedIn ["revision"]
    let id := (Column.new "id" (.dialect .bigint)).generated .increment
    let e := { Entity.new "orders" with columns := [token, number, id] }
    let first := Value.text "\t+0018446744073709551614 "
    (∀ c ∈ e.columns, c.isGenerated = true → c.strategy ≠ none) ∧ e.HasApartPaths ∧
      InsertResult.DenotesId first 18446744073709551614 ∧
      ∃ second third, e.generatedMap (some (.firstId first)) 1 = .ok (some second) ∧
        second.getPath? ["id"] = some (.uint 18446744073709551615) ∧
        second.getPath? ["revision", "number"] = some (.uint 18446744073709551615) ∧
        second.getPath? ["token"] = none ∧
        e.generatedMap (some (.firstId first)) 2 = .ok (some third) ∧
        third.getPath? ["id"] = some .null := by
  intro token number id e first
  have hstrategy : ∀ c ∈ e.columns, c.isGenerated = true → c.strategy ≠ none := by
    simp [e, token, number, id, Column.generated, Column.embeddedIn]
  have hpaths : e.HasApartPaths := by decide
  have hfirst : InsertResult.DenotesId first 18446744073709551614 := by
    have hrun : IsRun "0018446744073709551614".toList := ⟨by decide, by decide⟩
    exact .text ⟨['\t'], [' '], rfl, by decide, by decide⟩ (.plus hrun)
  have hid : id ∈ e.columns ∧ id.IsCounted := ⟨by simp [e], by decide⟩
  have hnumber : number ∈ e.columns ∧ number.IsCounted := ⟨by simp [e], by decide⟩
  obtain ⟨hrows, -⟩ := generatedMap_firstId hstrategy hpaths hfirst (by decide) (by decide)
  have hsome : ∀ result : Option GeneratedMap,
      (result = none ↔ ∀ c ∈ e.columns, ¬ c.IsCounted) → ∃ m, result = some m :=
    fun _ h => Option.ne_none_iff_exists'.mp fun hnone => h.mp hnone id hid.1 hid.2
  obtain ⟨_, hsecond, hnone, hvalues⟩ := hrows 1
  obtain ⟨second, rfl⟩ := hsome _ hnone
  obtain ⟨_, hthird, hnone, hvalues'⟩ := hrows 2
  obtain ⟨third, rfl⟩ := hsome _ hnone
  obtain ⟨hcounted, hothers⟩ := hvalues second rfl
  exact ⟨hstrategy, hpaths, hfirst, second, third, hsecond, hcounted id hid.1 hid.2,
    hcounted number hnumber.1 hnumber.2, hothers ["token"] (by decide), hthird,
    (hvalues' third rfl).1 id hid.1 hid.2⟩

end Entity

end TableMapping
