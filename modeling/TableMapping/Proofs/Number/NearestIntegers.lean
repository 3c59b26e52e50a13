import TableMapping.Number.Layout
import TableMapping.Proofs.Number.Numerals

/-!
# Doubles next to great integers

From `2 ^ 52` on the doubles are integers, and neighbours are apart by a power of two.  The double
of an integer up there is the nearest multiple of that power, so that it stands for the integer
itself if and only if the power divides it.  Written without decimals it has the digits of that
multiple.

## Main results

* `Binary64.roundHalfEven_mul_eq_iff` : rounding to multiples leaves the multiples alone, and only them.
* `Binary64.fixedText_ofInt` : the digits of the double of a great integer.
-/

namespace TableMapping

/-! ### Powers of two -/

theorem twoPow_pos (k : ℕ) : 0 < twoPow k := Nat.two_pow_pos k

theorem twoPow_add (i j : ℕ) : twoPow (i + j) = twoPow i * twoPow j := Nat.pow_add 2 i j

theorem log2_mul_twoPow {n e : ℕ} (hn : twoPow e ≤ n) (hn' : n < twoPow (e + 1)) (s : ℕ) :
    Nat.log2 (n * twoPow s) = e + s := by
  have hne : n * twoPow s ≠ 0 :=
    Nat.mul_ne_zero (Nat.ne_of_gt ((twoPow_pos e).trans_le hn)) (Nat.ne_of_gt (twoPow_pos s))
  rw [Nat.log2_eq_iff hne, Nat.add_right_comm]
  change twoPow (e + s) ≤ _ ∧ _ < twoPow (e + 1 + s)
  rw [twoPow_add, twoPow_add]
  exact ⟨Nat.mul_le_mul_right _ hn, Nat.mul_lt_mul_of_pos_right hn' (twoPow_pos s)⟩

namespace Binary64

/-! ### Rounding to integers -/

theorem roundHalfEven_mul_right {k : ℕ} (hk : 0 < k) (m n : ℕ) :
    roundHalfEven (m * k) (n * k) = roundHalfEven m n := by
  have hdown : 2 * (m % n * k) < n * k ↔ 2 * (m % n) < n := by
    rw [← Nat.mul_assoc, Nat.mul_lt_mul_right hk]
  have hup : n * k < 2 * (m % n * k) ↔ n < 2 * (m % n) := by
    rw [← Nat.mul_assoc, Nat.mul_lt_mul_right hk]
  simp only [roundHalfEven, Nat.mul_div_mul_right m n hk, Nat.mul_mod_mul_right, hdown, hup]

theorem roundHalfEven_of_dvd {m n : ℕ} (hn : 0 < n) (h : n ∣ m) : roundHalfEven m n = m / n := by
  rw [roundHalfEven, Nat.mod_eq_zero_of_dvd h]
  exact if_pos hn

/-- Rounding goes to one of the two integers around a quotient. -/
theorem roundHalfEven_bounds (m n : ℕ) :
    m / n ≤ roundHalfEven m n ∧ roundHalfEven m n ≤ m / n + 1 := by
  simp only [roundHalfEven]
  split_ifs <;> omega

/-- Rounding to multiples leaves the multiples alone, and only them. -/
theorem roundHalfEven_mul_eq_iff {m n : ℕ} (hn : 0 < n) : roundHalfEven m n * n = m ↔ n ∣ m := by
  refine ⟨fun h => ⟨_, h.symm.trans (Nat.mul_comm _ _)⟩, fun h => ?_⟩
  rw [roundHalfEven_of_dvd hn h, Nat.div_mul_cancel h]

/-! ### Doubles that count whole units -/

variable {unit count k n : ℕ}

/-- A double that counts a power of two from one on is an integer.  If the count has one bit more
than there is room for, that is the first double with the next power. -/
theorem whole_withSign (hunit : 1074 ≤ unit) (hunit' : unit ≤ 2044) (hcount : twoPow 52 ≤ count)
    (hcount' : count ≤ twoPow 53) :
    let x := withSign false (unit * twoPow 52 + count)
    x.isFinite = true ∧ x.isNegative = false ∧ x.denominator = 1 ∧
      x.numerator = count * twoPow (unit - 1074) := by
  intro x
  -- The powers are put as numbers, with which the fields of the double are linear arithmetic.
  have h52 : twoPow 52 = 4503599627370496 := rfl
  have h53 : twoPow 53 = 9007199254740992 := rfl
  rw [h52] at hcount
  rw [h53] at hcount'
  have hbits : x.bits.toNat = unit * 4503599627370496 + count := by
    change (UInt64.ofNat (unit * twoPow 52 + count)).toNat = _
    rw [h52]
    exact UInt64.toNat_ofNat_of_lt' (by rw [UInt64.size]; omega)
  have hsign : x.isNegative = false := by
    have h63 : twoPow 63 = 9223372036854775808 := rfl
    rw [isNegative, hbits, h63, decide_eq_false_iff_not]
    omega
  have hfield : x.exponentField = unit + count / 4503599627370496 := by
    have h11 : twoPow 11 = 2048 := rfl
    rw [exponentField, hbits, h52, h11]
    omega
  have hfraction : x.fraction = count % 4503599627370496 := by
    rw [fraction, hbits, h52]
    omega
  have hfinite : x.isFinite = true := by
    rw [isFinite, hfield, bne_iff_ne]
    omega
  refine ⟨hfinite, hsign, ?_, ?_⟩
  · rw [denominator, unitIndex, hfield, Nat.sub_eq_zero_of_le (by omega)]
    rfl
  · have hne : x.exponentField ≠ 0 := by omega
    rw [numerator, significand, if_neg hne, unitIndex, hfield, hfraction, h52]
    rcases Nat.lt_or_eq_of_le hcount' with hlt | heq
    · have hindex : unit + count / 4503599627370496 - 1 - 1074 = unit - 1074 := by omega
      have hvalue : 4503599627370496 + count % 4503599627370496 = count := by omega
      rw [hindex, hvalue]
    · have hindex : unit + count / 4503599627370496 - 1 - 1074 = 1 + (unit - 1074) := by omega
      have hvalue : 4503599627370496 + count % 4503599627370496 = twoPow 52 := by omega
      rw [hindex, hvalue, heq, ← h53, twoPow_add, ← Nat.mul_assoc, ← twoPow_add]

/-! ### The double of a great integer -/

/-- The double of an integer counts the power of two that leaves it 53 bits. -/
theorem ofInt_eq (hn : twoPow (52 + k) ≤ n) (hn' : n < twoPow (53 + k)) (hk : k ≤ 970) :
    ofInt n = withSign false ((1074 + k) * twoPow 52 + roundHalfEven n (twoPow k)) := by
  have hlog : Nat.log2 (n * twoPow 1074 / 1) - 52 = 1074 + k := by
    have hbound : n < twoPow (52 + k + 1) := by rwa [Nat.add_right_comm]
    rw [Nat.div_one, log2_mul_twoPow hn hbound]
    omega
  have hround : roundHalfEven (n * twoPow 1074) (1 * twoPow (1074 + k)) =
      roundHalfEven n (twoPow k) := by
    rw [Nat.one_mul, Nat.add_comm, twoPow_add, roundHalfEven_mul_right (twoPow_pos 1074)]
  have hcount : roundHalfEven n (twoPow k) ≤ twoPow 53 := by
    have hquotient : n / twoPow k < twoPow 53 :=
      Nat.div_lt_of_lt_mul (by rwa [← twoPow_add, Nat.add_comm])
    exact (roundHalfEven_bounds n (twoPow k)).2.trans (Nat.succ_le_of_lt hquotient)
  have hmin : (1074 + k) * twoPow 52 + roundHalfEven n (twoPow k) ≤ infinityBits := by
    have h52 : twoPow 52 = 4503599627370496 := rfl
    have h53 : twoPow 53 = 9007199254740992 := rfl
    rw [infinityBits, h52]
    omega
  have hsign : decide ((n : ℤ) < 0) = false := decide_eq_false (by omega)
  rw [ofInt, ofQuotient, hsign, Int.natAbs_natCast]
  simp only [hlog, hround, Nat.min_eq_left hmin]

/-- The double of a great integer is the nearest multiple of a power of two. -/
theorem whole_ofInt (hn : twoPow (52 + k) ≤ n) (hn' : n < twoPow (53 + k)) (hk : k ≤ 970) :
    (ofInt n).isFinite = true ∧ (ofInt n).isNegative = false ∧ (ofInt n).denominator = 1 ∧
      (ofInt n).numerator = roundHalfEven n (twoPow k) * twoPow k := by
  have hlow : twoPow 52 ≤ n / twoPow k := by
    rwa [Nat.le_div_iff_mul_le (twoPow_pos k), ← twoPow_add]
  have hhigh : n / twoPow k + 1 ≤ twoPow 53 := by
    rwa [Nat.succ_le_iff, Nat.div_lt_iff_lt_mul (twoPow_pos k), ← twoPow_add]
  obtain ⟨hdown, hup⟩ := roundHalfEven_bounds n (twoPow k)
  have hunit : 1074 ≤ 1074 + k := Nat.le_add_right 1074 k
  have hunit' : 1074 + k ≤ 2044 := by omega
  have hwhole := whole_withSign hunit hunit' (hlow.trans hdown) (hup.trans hhigh)
  rw [Nat.add_sub_cancel_left] at hwhole
  rw [ofInt_eq hn hn' hk]
  exact hwhole

/-- An integer is written without decimals as its digits. -/
theorem fixedText_zero {x : Binary64} (hfinite : x.isFinite = true) (hsign : x.isNegative = false)
    (hwhole : x.denominator = 1) : x.fixedText 0 = natText x.numerator := by
  have hpad : 0 + 1 - (natText x.numerator).length = 0 := by
    have hpos : 0 < (natText x.numerator).length := List.length_pos_of_ne_nil (natText_ne_nil _)
    omega
  have hround : roundHalfEven (x.numerator * tenPow 0) x.denominator = x.numerator := by
    have htenPow : tenPow 0 = 1 := rfl
    rw [hwhole, htenPow, Nat.mul_one, roundHalfEven_of_dvd Nat.one_pos (Nat.one_dvd _), Nat.div_one]
  simp only [fixedText, hfinite, Bool.not_true, Bool.false_eq_true, if_false, hround, hpad,
    List.replicate_zero, List.nil_append, Nat.sub_zero, List.take_length, List.drop_length,
    List.isEmpty_nil, if_true, List.append_nil, hsign, signed]

/-- **The digits of the double of a great integer** are those of the nearest multiple of the power
of two by which doubles are apart there. -/
theorem fixedText_ofInt (hn : twoPow (52 + k) ≤ n) (hn' : n < twoPow (53 + k)) (hk : k ≤ 970) :
    (ofInt n).fixedText 0 = natText (roundHalfEven n (twoPow k) * twoPow k) := by
  obtain ⟨hfinite, hsign, hwhole, hnumerator⟩ := whole_ofInt hn hn' hk
  rw [fixedText_zero hfinite hsign hwhole, hnumerator]

end Binary64

end TableMapping
