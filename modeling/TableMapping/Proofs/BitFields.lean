import Mathlib.Algebra.BigOperators.Fin
import Mathlib.Tactic.Ring
import TableMapping.BitField

/-!
# The numbers of bit fields

Each byte of a bit field counts as often as the power of 256 for its place says, and the last one
counts once.  The bytes are taken in from the left: the accumulator is multiplied by 256 and the next
byte is added.  After `k` bytes it is less than `256 ^ k`, so with at most eight bytes neither the
product nor the sum ever leaves 64 bits, and the field decodes to the number that its bytes are in
big-endian notation.  A text stands for the bytes that its characters carry.

## Main definitions

* `BitField.placeValue` : the sum of the bytes by their places.
* `BitField.IsBigEndian` : the bytes of a number, the most significant one first.
* `BitField.accumulated` : the accumulator after some bytes.
* `BitField.Carries` : the bytes that the characters of a text carry.

## Main results

* `BitField.placeValue_eq_iff` : the bytes that add up to a number are those of the number.
* `BitField.toNat_step` : one byte is taken in without an overflow.
* `BitField.toNat_accumulated` : the accumulator is the sum of the bytes by their places.
* `BitField.decode_bigEndian` : what a bit field decodes to.
-/

namespace TableMapping.BitField

variable {bs before : List UInt8} {b : UInt8} {s : String}

/-! ### Bytes and their places -/

/-- The sum of some bytes, each as often as the power of 256 for its place says. -/
def placeValue (bs : List UInt8) : ℕ :=
  ∑ i : Fin bs.length, bs[i].toNat * 256 ^ (bs.length - 1 - i)

theorem placeValue_cons (b : UInt8) (bs : List UInt8) :
    placeValue (b :: bs) = b.toNat * 256 ^ bs.length + placeValue bs := by
  refine (Fin.sum_univ_succ _).trans (congrArg₂ (· + ·) rfl (Finset.sum_congr rfl fun i _ => ?_))
  have hplace : (b :: bs).length - 1 - (i.succ : ℕ) = bs.length - 1 - i := by
    rw [List.length_cons, Fin.val_succ]
    omega
  rw [hplace]
  rfl

/-- One more byte moves the others up by one place. -/
theorem placeValue_append_singleton (bs : List UInt8) (b : UInt8) :
    placeValue (bs ++ [b]) = placeValue bs * 256 + b.toNat := by
  induction bs with
  | nil => simp [placeValue]
  | cons c bs ih =>
    rw [List.cons_append, placeValue_cons, ih, placeValue_cons, List.length_append,
      List.length_singleton]
    ring

theorem placeValue_lt (bs : List UInt8) : placeValue bs < 256 ^ bs.length := by
  induction bs using List.reverseRecOn with
  | nil => exact Nat.one_pos
  | append_singleton bs b ih =>
    have hb := b.toNat_lt
    rw [placeValue_append_singleton, List.length_append, List.length_singleton, pow_succ]
    omega

/-- The bytes of a number in a width, the most significant one first. -/
def bigEndian : (width n : ℕ) → List UInt8
  | 0, _ => []
  | width + 1, n => bigEndian width (n / 256) ++ [UInt8.ofNat n]

/-- The bytes are a number in big-endian notation, with zeros in front or without. -/
def IsBigEndian (bs : List UInt8) (n : ℕ) : Prop :=
  n < 256 ^ bs.length ∧ bs = bigEndian bs.length n

theorem length_bigEndian (width n : ℕ) : (bigEndian width n).length = width := by
  induction width generalizing n with
  | zero => rfl
  | succ width ih => rw [bigEndian, List.length_append, ih, List.length_singleton]

theorem isBigEndian_bigEndian {width n : ℕ} (h : n < 256 ^ width) :
    IsBigEndian (bigEndian width n) n := by
  rw [IsBigEndian, length_bigEndian]
  exact ⟨h, rfl⟩

theorem placeValue_bigEndian {width n : ℕ} (h : n < 256 ^ width) :
    placeValue (bigEndian width n) = n := by
  induction width generalizing n with
  | zero =>
    rw [pow_zero, Nat.lt_one_iff] at h
    rw [h]
    rfl
  | succ width ih =>
    rw [pow_succ] at h
    rw [bigEndian, placeValue_append_singleton, ih (by omega), UInt8.toNat_ofNat']
    omega

theorem bigEndian_placeValue (bs : List UInt8) : bigEndian bs.length (placeValue bs) = bs := by
  induction bs using List.reverseRecOn with
  | nil => rfl
  | append_singleton bs b ih =>
    have hb := b.toNat_lt
    have hrest : (placeValue bs * 256 + b.toNat) / 256 = placeValue bs := by omega
    have hlast : UInt8.ofNat (placeValue bs * 256 + b.toNat) = b := by
      rw [← UInt8.toNat_inj, UInt8.toNat_ofNat']
      omega
    rw [List.length_append, List.length_singleton, bigEndian, placeValue_append_singleton, hrest,
      hlast, ih]

/-- The bytes that add up to a number are the number in big-endian notation. -/
theorem placeValue_eq_iff {n : ℕ} : placeValue bs = n ↔ IsBigEndian bs n := by
  constructor
  · rintro rfl
    exact ⟨placeValue_lt bs, (bigEndian_placeValue bs).symm⟩
  · rintro ⟨hn, hbs⟩
    rw [hbs]
    exact placeValue_bigEndian hn

/-! ### Taking in one byte after the other -/

/-- The accumulator after some bytes. -/
def accumulated (bs : List UInt8) : UInt64 := bs.foldl (fun n b => n * 256 + b.toUInt64) 0

theorem accumulated_append_singleton (bs : List UInt8) (b : UInt8) :
    accumulated (bs ++ [b]) = accumulated bs * 256 + b.toUInt64 :=
  List.foldl_append

/-- A byte is taken in without an overflow as long as there is a place left for it. -/
theorem toNat_step {n : UInt64} (h : n.toNat < 256 ^ 7) (b : UInt8) :
    n.toNat * 256 + b.toNat < 2 ^ 64 ∧ (n * 256 + b.toUInt64).toNat = n.toNat * 256 + b.toNat := by
  have hb := b.toNat_lt
  have hfits : n.toNat * 256 + b.toNat < 2 ^ 64 := by omega
  refine ⟨hfits, ?_⟩
  rw [UInt64.toNat_add, UInt64.toNat_mul, UInt8.toNat_toUInt64]
  change (n.toNat * 256 % 2 ^ 64 + b.toNat) % 2 ^ 64 = _
  omega

/-- The accumulator after at most eight bytes is their sum by places. -/
theorem toNat_accumulated (h : bs.length ≤ 8) : (accumulated bs).toNat = placeValue bs := by
  induction bs using List.reverseRecOn with
  | nil => rfl
  | append_singleton bs b ih =>
    rw [List.length_append, List.length_singleton] at h
    have hsum := ih (by omega)
    have hplace : (accumulated bs).toNat < 256 ^ 7 := by
      rw [hsum]
      exact (placeValue_lt bs).trans_le (Nat.pow_le_pow_right (by decide) (by omega))
    rw [accumulated_append_singleton, (toNat_step hplace b).2, hsum, placeValue_append_singleton]

/-- No byte of at most eight makes the accumulator overflow. -/
theorem toNat_accumulated_step (h : bs.length ≤ 8) (hbefore : before ++ [b] <+: bs) :
    (accumulated before).toNat * 256 + b.toNat < 2 ^ 64 ∧
      (accumulated (before ++ [b])).toNat = (accumulated before).toNat * 256 + b.toNat := by
  have hlength := hbefore.length_le
  rw [List.length_append, List.length_singleton] at hlength
  rw [accumulated_append_singleton]
  refine toNat_step ?_ b
  rw [toNat_accumulated (by omega)]
  exact (placeValue_lt before).trans_le (Nat.pow_le_pow_right (by decide) (by omega))

/-! ### Bit fields -/

theorem decode_bytes (h : bs.length ≤ 8) : decode (.bytes bs) = accumulated bs := if_pos h

theorem decode_bytes_of_lt (h : 8 < bs.length) : decode (.bytes bs) = 0 := if_neg (Nat.not_le.mpr h)

/-- Each character of the text carries one of the bytes in its low eight bits. -/
def Carries (s : String) (bs : List UInt8) : Prop :=
  List.Forall₂ (fun c b => c.toNat % 256 = b.toNat) s.toList bs

/-- A text carries the low eight bits of its characters, and nothing else. -/
theorem carries_iff : Carries s bs ↔ s.toList.map (fun c => UInt8.ofNat (c.toNat % 256)) = bs := by
  have hbyte (c : Char) (b : UInt8) :
      c.toNat % 256 = b.toNat ↔ UInt8.ofNat (c.toNat % 256) = b := by
    rw [← UInt8.toNat_inj, UInt8.toNat_ofNat', Nat.mod_mod]
  simp only [Carries, hbyte]
  rw [← List.forall₂_eq_eq_eq, List.forall₂_map_left_iff]

theorem Carries.length_eq (h : Carries s bs) : bs.length = s.length := by
  rw [← List.Forall₂.length_eq h, String.length_toList]

theorem Carries.decode_text (h : Carries s bs) : decode (.text s) = decode (.bytes bs) :=
  congrArg ofBytes (carries_iff.mp h)

/-- **Bit fields are read in big-endian notation.**  While at most eight bytes are taken in, the
accumulator never overflows, and the field decodes to the sum of the bytes by their places; so it
decodes to a number if and only if its bytes are that number in big-endian notation, with zeros in
front or not.  A text decodes to what the bytes do that its characters carry in their low eight bits,
whatever is in the other bits.  What is longer than eight bytes or characters decodes to zero. -/
theorem decode_bigEndian :
    (∀ bs : List UInt8, bs.length ≤ 8 →
      (∀ before b, before ++ [b] <+: bs →
        (accumulated before).toNat * 256 + b.toNat < 2 ^ 64 ∧
          (accumulated (before ++ [b])).toNat = (accumulated before).toNat * 256 + b.toNat) ∧
      decode (.bytes bs) = accumulated bs ∧
      (decode (.bytes bs)).toNat = ∑ i : Fin bs.length, bs[i].toNat * 256 ^ (bs.length - 1 - i) ∧
      ∀ n : UInt64, decode (.bytes bs) = n ↔ IsBigEndian bs n.toNat) ∧
    (∀ s : String, (∃ bs, Carries s bs) ∧ ∀ bs, Carries s bs → decode (.text s) = decode (.bytes bs)) ∧
    (∀ bs : List UInt8, 8 < bs.length → decode (.bytes bs) = 0) ∧
    ∀ s : String, 8 < s.length → decode (.text s) = 0 := by
  refine ⟨fun bs h => ?_, fun s => ⟨⟨_, carries_iff.mpr rfl⟩, fun bs => Carries.decode_text⟩,
    fun bs => decode_bytes_of_lt, fun s h => ?_⟩
  · have hsum : (decode (.bytes bs)).toNat = placeValue bs := by
      rw [decode_bytes h, toNat_accumulated h]
    refine ⟨fun before b => toNat_accumulated_step h, decode_bytes h, hsum, fun n => ?_⟩
    rw [← placeValue_eq_iff, ← hsum, UInt64.toNat_inj]
  · have hcarries : Carries s _ := carries_iff.mpr rfl
    rw [hcarries.decode_text]
    refine decode_bytes_of_lt ?_
    rwa [hcarries.length_eq]

/-- The greatest number of 64 bits, a number with a zero in front, a text with other bits set, and nine
bytes. -/
theorem decode_bigEndian_extremes :
    decode (.bytes (List.replicate 8 255)) = 18446744073709551615 ∧
      decode (.bytes (bigEndian 3 258)) = 258 ∧
      decode (.text "\u01ff\u4e00") = decode (.bytes [255, 0]) ∧
      decode (.bytes (List.replicate 9 1)) = 0 ∧ decode (.text "ninebytes") = 0 := by
  obtain ⟨hshort, htext, hlong, hlongText⟩ := decode_bigEndian
  have hgreatest : IsBigEndian (List.replicate 8 255) (18446744073709551615 : UInt64).toNat :=
    ⟨by decide, by decide⟩
  have hcarries : Carries "\u01ff\u4e00" [255, 0] := carries_iff.mpr (by decide)
  refine ⟨((hshort _ (by decide)).2.2.2 _).mpr hgreatest,
    ((hshort _ (by decide)).2.2.2 _).mpr (isBigEndian_bigEndian (by decide)),
    (htext _).2 _ hcarries, hlong _ (by decide), hlongText _ (by decide)⟩

end TableMapping.BitField
