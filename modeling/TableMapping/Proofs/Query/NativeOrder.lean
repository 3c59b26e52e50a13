import Mathlib.Data.Prod.Lex
import Mathlib.Data.String.Basic
import Mathlib.Order.WithBot
import TableMapping.Proofs.Number.Numerals
import TableMapping.Proofs.Query.Alignment

/-!
# The order of native values

The values that come before those of the placeholders stand in the order of their keys.  A key can be
a numeral; the numerals come first, by their numbers, and the numerals of one number in the order of
texts.  All other keys follow in the order of texts, among them the numerals of numbers that do not
fit 64 bits.

This is the order of pairs of a number and a text, where keys that are no numerals have a number
beyond all others.  So it is total, no two keys have the same place in it, and a map can be put into
order in one way only.

## Main definitions

* `NativeKey.Numbers` : a key is a numeral of a number of 64 bits.
* `NativeKey.Before` : a key comes before another one.
* `NativeKey.rank` : the pair that a key is ordered by.

## Main results

* `NativeKey.precedes_iff`, `NativeKey.before_iff_rank_lt` : the order, and its pairs.
* `NativeKey.eq_sort_iff` : a map is put into order in one way.
* `bind_values_ordered` : the values of a bound statement begin with the native ones in order.
-/

namespace TableMapping

namespace NativeKey

/-! ### Keys that are numerals -/

/-- The key is a numeral of the number: digits that denote it, with zeros in front or without, alone
or behind a plus sign; and the number fits 64 bits. -/
structure Numbers (key : String) (n : ℕ) : Prop where
  written : ∃ digits, (key.toList = digits ∨ key.toList = '+' :: digits) ∧ IsRun digits ∧
    runValue digits = n
  fits : n < 18446744073709551616

/-- The number of a key that is a numeral. -/
def number? (key : String) : Option ℕ := (readUInt64? key.toList).map UInt64.toNat

variable {a b key : String} {n : ℕ}

theorem number?_eq_some_iff : number? key = some n ↔ Numbers key n := by
  rw [number?, Option.map_eq_some_iff]
  constructor
  · rintro ⟨w, hw, rfl⟩
    exact ⟨readNat?_eq_some_iff.mp (readUInt64?_eq_some_iff.mp hw), w.toNat_lt⟩
  · rintro ⟨hwritten, hfits⟩
    have htoNat : (UInt64.ofNat n).toNat = n := UInt64.toNat_ofNat_of_lt' hfits
    refine ⟨UInt64.ofNat n, readUInt64?_eq_some_iff.mpr ?_, htoNat⟩
    rw [htoNat]
    exact readNat?_eq_some_iff.mpr hwritten

theorem number?_eq_none_iff : number? key = none ↔ ∀ n, ¬ Numbers key n := by
  simp only [Option.eq_none_iff_forall_ne_some, ne_eq, number?_eq_some_iff]

/-! ### The order -/

/-- One key comes before another one. -/
inductive Before (a b : String) : Prop
  /-- Both are numerals, and the first one has the smaller number. -/
  | smaller {m n : ℕ} (ha : Numbers a m) (hb : Numbers b n) (h : m < n)
  /-- Both are numerals of one number. -/
  | sameNumber {n : ℕ} (ha : Numbers a n) (hb : Numbers b n) (h : a < b)
  /-- Only the first one is a numeral. -/
  | numeral {n : ℕ} (ha : Numbers a n) (hb : ∀ n, ¬ Numbers b n)
  /-- Neither is a numeral. -/
  | text (ha : ∀ n, ¬ Numbers a n) (hb : ∀ n, ¬ Numbers b n) (h : a < b)

/-- The number of a key, beyond all numbers if it is no numeral, and its text. -/
def rank (key : String) : WithTop ℕ ×ₗ String :=
  toLex ((number? key).elim ⊤ WithTop.some, key)

theorem rank_injective : Function.Injective rank := by
  intro a b h
  exact congrArg (fun r => (ofLex r).2) h

theorem before_iff_rank_lt : Before a b ↔ rank a < rank b := by
  rw [rank, rank, Prod.Lex.toLex_lt_toLex]
  constructor
  · rintro (⟨ha, hb, h⟩ | ⟨ha, hb, h⟩ | ⟨ha, hb⟩ | ⟨ha, hb, h⟩)
    · rw [number?_eq_some_iff.mpr ha, number?_eq_some_iff.mpr hb]
      exact .inl (WithTop.coe_lt_coe.mpr h)
    · rw [number?_eq_some_iff.mpr ha, number?_eq_some_iff.mpr hb]
      exact .inr ⟨rfl, h⟩
    · rw [number?_eq_some_iff.mpr ha, number?_eq_none_iff.mpr hb]
      exact .inl (WithTop.coe_lt_top _)
    · rw [number?_eq_none_iff.mpr ha, number?_eq_none_iff.mpr hb]
      exact .inr ⟨rfl, h⟩
  · cases ha : number? a with
    | some m =>
      have ha' := number?_eq_some_iff.mp ha
      cases hb : number? b with
      | some n =>
        have hb' := number?_eq_some_iff.mp hb
        rintro (h | ⟨h, hlt⟩)
        · exact .smaller ha' hb' (WithTop.coe_lt_coe.mp h)
        · obtain rfl : m = n := WithTop.coe_injective h
          exact .sameNumber ha' hb' hlt
      | none => exact fun _ => .numeral ha' (number?_eq_none_iff.mp hb)
    | none =>
      have ha' := number?_eq_none_iff.mp ha
      rintro (h | ⟨h, hlt⟩)
      · exact absurd h not_top_lt
      · cases hb : number? b with
        | some n =>
          rw [hb] at h
          exact absurd h.symm (WithTop.coe_ne_top)
        | none => exact .text ha' (number?_eq_none_iff.mp hb) hlt

/-- The keys are compared by their ranks. -/
theorem precedes_iff_rank_lt : precedes a b = true ↔ rank a < rank b := by
  rw [rank, rank, Prod.Lex.toLex_lt_toLex, precedes, number?, number?]
  cases readUInt64? a.toList with
  | some m =>
    cases readUInt64? b.toList with
    | some n => simp [UInt64.lt_iff_toNat_lt, UInt64.toNat_inj]
    | none => simp
  | none => cases readUInt64? b.toList <;> simp

/-- The keys are compared in their order. -/
theorem precedes_iff : precedes a b = true ↔ Before a b :=
  precedes_iff_rank_lt.trans before_iff_rank_lt.symm

instance : IsStrictTotalOrder String Before where
  irrefl a h := lt_irrefl (rank a) (before_iff_rank_lt.mp h)
  trans a b c hab hbc := by
    rw [before_iff_rank_lt] at hab hbc ⊢
    exact hab.trans hbc
  trichotomous a b hab hba := by
    rw [before_iff_rank_lt] at hab hba
    exact rank_injective (le_antisymm (not_lt.mp hba) (not_lt.mp hab))

/-! ### Native values in order -/

variable {native : List (String × Value)}

/-- The pairs come in the order of their keys, if no key is there twice. -/
theorem pairwise_sort (h : (native.map Prod.fst).Nodup) :
    (sort native).Pairwise fun p q => Before p.1 q.1 := by
  have hle : ∀ p q : String × Value, (!precedes q.1 p.1) = true ↔ rank p.1 ≤ rank q.1 := by
    intro p q
    rw [Bool.not_eq_true', ← Bool.not_eq_true, precedes_iff_rank_lt, not_lt]
  have hsorted : (sort native).Pairwise fun p q => rank p.1 ≤ rank q.1 := by
    refine (List.pairwise_mergeSort ?_ ?_ native).imp fun h => (hle _ _).mp h
    · intro p q r hpq hqr
      rw [hle] at hpq hqr ⊢
      exact hpq.trans hqr
    · intro p q
      rw [Bool.or_eq_true, hle, hle]
      exact le_total _ _
  have hdistinct : (sort native).Pairwise fun p q => p.1 ≠ q.1 :=
    List.pairwise_map.mp (((sort_perm native).map Prod.fst).nodup_iff.mpr h)
  refine hsorted.imp₂ (fun p q hpq hne => ?_) hdistinct
  exact before_iff_rank_lt.mpr (lt_of_le_of_ne hpq (rank_injective.ne hne))

/-- There is one way to put the pairs of a map into order. -/
theorem eq_sort_iff (h : (native.map Prod.fst).Nodup) {pairs : List (String × Value)} :
    pairs.Perm native ∧ (pairs.Pairwise fun p q => Before p.1 q.1) ↔ pairs = sort native := by
  constructor
  · rintro ⟨hperm, hpairwise⟩
    refine List.Perm.eq_of_pairwise ?_ hpairwise (pairwise_sort h)
      (hperm.trans (sort_perm native).symm)
    intro p q _ _ hpq hqp
    exact absurd (before_iff_rank_lt.mp hqp) (lt_asymm (before_iff_rank_lt.mp hpq))
  · rintro rfl
    exact ⟨sort_perm native, pairwise_sort h⟩

end NativeKey

/-- **Native values have one order.**  The keys are compared in a strict total order: the numerals
first, by their numbers and as texts where these are the same, and all other keys as texts.  A native
map, which has each key once, is put into this order in exactly one way, and the values of a bound
statement are its values in that order, each of them once, before those of the placeholders. -/
theorem bind_values_ordered :
    IsStrictTotalOrder String NativeKey.Before ∧
    (∀ a b, NativeKey.precedes a b = true ↔ NativeKey.Before a b) ∧
    ∀ (template : List Char) (parameters : List (String × Parameter))
      (native : List (String × Value)), (native.map Prod.fst).Nodup →
      ∃ ordered : List (String × Value),
        (∀ pairs : List (String × Value), pairs.Perm native ∧
          (pairs.Pairwise fun p q => NativeKey.Before p.1 q.1) ↔ pairs = ordered) ∧
        (bind template parameters native).values =
          ordered.map Prod.snd ++ (bind template parameters []).values := by
  refine ⟨inferInstance, fun _ _ => NativeKey.precedes_iff, fun template parameters native h => ?_⟩
  exact ⟨NativeKey.sort native, fun _ => NativeKey.eq_sort_iff h,
    bind_values_eq_append template parameters native⟩

/-- Three numerals of nine, which come before ten; and a negative number, a number beyond 64 bits and
a word, which are no numerals. -/
theorem bind_values_ordered_nines :
    let native := ["10", "9", "name", "+9", "18446744073709551616", "009", "-1"].map fun key =>
      (key, Value.text key)
    (native.map Prod.fst).Nodup ∧
      (bind ":name".toList [("name", .value .null)] native).values =
        ["+9", "009", "9", "10", "-1", "18446744073709551616", "name"].map Value.text ++ [.null] := by
  intro native
  have hdistinct : (native.map Prod.fst).Nodup := by decide
  obtain ⟨-, hprecedes, hbind⟩ := bind_values_ordered
  obtain ⟨ordered, hordered, hvalues⟩ := hbind ":name".toList [("name", .value .null)] native hdistinct
  have hsame : (["+9", "009", "9", "10", "-1", "18446744073709551616", "name"].map fun key =>
      (key, Value.text key)) = ordered := by
    refine (hordered _).mp ⟨List.Perm.map _ (by decide), List.pairwise_map.mpr ?_⟩
    simp only [← hprecedes]
    decide
  have hbound : (bind ":name".toList [("name", .value .null)] []).values = [.null] := by
    rw [bind_values, NativeKey.sort_nil]
    rfl
  exact ⟨hdistinct, by rw [hvalues, ← hsame, hbound]; rfl⟩

end TableMapping
