import Mathlib.Algebra.Order.Field.Rat
import Mathlib.Data.Rat.Cast.Order
import Mathlib.Tactic.NormNum
import ClusterConsole.Proofs.Number.Rounding

/-! # Values of binary numbers

A finite binary number stands for a whole number of units. An integer that lies below it is rounded to a number that is
not above it, and the other way round. Integers of up to 53 bits are not changed by rounding. -/

namespace ClusterConsole.Binary64

/-- The number of units, with its sign. -/
def signedUnits (x : Binary64) : Int :=
  if x.negative then -(x.units : Int) else x.units

/-- The number that a finite pattern stands for. -/
def value (x : Binary64) : ℚ :=
  x.signedUnits / unitsPerOne

section
variable {x : Binary64} {n : Int}

theorem intCast_lt_value_iff : (n : ℚ) < x.value ↔ n * unitsPerOne < x.signedUnits := by
  have hpos : (0 : ℚ) < unitsPerOne := by exact_mod_cast unitsPerOne_pos
  rw [value, lt_div_iff₀ hpos]
  exact_mod_cast Iff.rfl

theorem value_lt_intCast_iff : x.value < (n : ℚ) ↔ x.signedUnits < n * unitsPerOne := by
  have hpos : (0 : ℚ) < unitsPerOne := by exact_mod_cast unitsPerOne_pos
  rw [value, div_lt_iff₀ hpos]
  exact_mod_cast Iff.rfl

theorem mul_unitsPerOne_neg_iff : n * unitsPerOne < 0 ↔ n < 0 := by
  have hpos : (0 : Int) < unitsPerOne := by exact_mod_cast unitsPerOne_pos
  rw [mul_neg_iff]
  omega

theorem roundedSize_eq (n : Int) : roundedSize n = nearestMagnitude (n * unitsPerOne).natAbs 1 := by
  rw [Int.natAbs_mul, Int.natAbs_natCast]
  rfl

theorem magnitude_le_roundedSize (hx : x.isFinite = true) (h : x.units ≤ (n * unitsPerOne).natAbs) :
    x.magnitude ≤ roundedSize n := by
  rw [← nearestMagnitude_units Nat.one_pos hx, roundedSize_eq]
  exact nearestMagnitude_mono (by decide) (by decide) (by omega)

theorem roundedSize_le_magnitude (hx : x.isFinite = true) (h : (n * unitsPerOne).natAbs ≤ x.units) :
    roundedSize n ≤ x.magnitude := by
  rw [← nearestMagnitude_units Nat.one_pos hx, roundedSize_eq]
  exact nearestMagnitude_mono (by decide) (by decide) (by omega)

/-- An integer below a number is rounded to it or to a number below it. -/
theorem rank_ofInt_le_rank (hx : x.isFinite = true) (h : (n : ℚ) < x.value) : (ofInt n).rank ≤ x.rank := by
  rw [intCast_lt_value_iff, signedUnits] at h
  have hsign := mul_unitsPerOne_neg_iff (n := n)
  rw [rank_ofInt, rank]
  by_cases hnegative : x.negative = true
  · rw [if_pos hnegative] at h ⊢
    have hsize : x.magnitude ≤ roundedSize n := magnitude_le_roundedSize hx (by omega)
    rw [if_pos (by omega)]
    omega
  · rw [if_neg hnegative] at h ⊢
    split
    · omega
    · have hsize : roundedSize n ≤ x.magnitude := roundedSize_le_magnitude hx (by omega)
      omega

/-- An integer above a number is rounded to it or to a number above it. -/
theorem rank_le_rank_ofInt (hx : x.isFinite = true) (h : x.value < n) : x.rank ≤ (ofInt n).rank := by
  rw [value_lt_intCast_iff, signedUnits] at h
  have hsign := mul_unitsPerOne_neg_iff (n := n)
  rw [rank_ofInt, rank]
  by_cases hnegative : x.negative = true
  · rw [if_pos hnegative] at h ⊢
    split
    · have hsize : roundedSize n ≤ x.magnitude := roundedSize_le_magnitude hx (by omega)
      omega
    · omega
  · rw [if_neg hnegative] at h ⊢
    have hsize : x.magnitude ≤ roundedSize n := magnitude_le_roundedSize hx (by omega)
    rw [if_neg (by omega)]
    omega

/-! ### Integers that are not changed -/

theorem units_ofMagnitude {e m : Nat} (hm : m < 2 * fractionLimit) (he : e ≤ 2044)
    (hleading : fractionLimit ≤ m ∨ e = 0) :
    (ofMagnitude false (e * fractionLimit + m)).isFinite = true ∧
      (ofMagnitude false (e * fractionLimit + m)).units = m * Nat.pow 2 e := by
  have hfinite : e * fractionLimit + m < infinityPattern := by
    unfold infinityPattern
    unfold fractionLimit at hm ⊢
    omega
  have hshift : (ofMagnitude false (e * fractionLimit + m)).shift = e := by
    rw [shift, magnitude_ofMagnitude (Nat.le_of_lt hfinite)]
    unfold fractionLimit at hm hleading ⊢
    omega
  refine ⟨isFinite_ofMagnitude hfinite, ?_⟩
  rw [units, mantissa, hshift, magnitude_ofMagnitude (Nat.le_of_lt hfinite), Nat.add_sub_cancel_left]

/-- A mantissa of 53 bits times a power of two is the size of a number. -/
theorem exists_units_eq {m e : Nat} (hm : m < 2 * fractionLimit) (he : e ≤ 2044) :
    ∃ x : Binary64, x.isFinite = true ∧ x.units = m * Nat.pow 2 e := by
  induction e generalizing m with
  | zero => exact ⟨_, units_ofMagnitude hm he (.inr rfl)⟩
  | succ e ih =>
    by_cases hleading : fractionLimit ≤ m
    · exact ⟨_, units_ofMagnitude hm he (.inl hleading)⟩
    · obtain ⟨x, hfinite, hunits⟩ := ih (m := 2 * m) (by omega) (by omega)
      refine ⟨x, hfinite, hunits.trans ?_⟩
      rw [Nat.pow_eq, Nat.pow_eq, Nat.pow_succ]
      ring

theorem units_ofInt (h : n.natAbs ≤ 2 * fractionLimit) : (ofInt n).units = n.natAbs * unitsPerOne := by
  obtain ⟨x, hfinite, hunits⟩ : ∃ x : Binary64, x.isFinite = true ∧ x.units = n.natAbs * unitsPerOne := by
    obtain ⟨e, he, hone⟩ : ∃ e, e + 1 ≤ 2044 ∧ unitsPerOne = Nat.pow 2 e := ⟨1074, by decide +kernel⟩
    rw [hone]
    rcases Nat.lt_or_eq_of_le h with hlt | heq
    · exact exists_units_eq hlt (by omega)
    · obtain ⟨x, hfinite, hunits⟩ := exists_units_eq (m := fractionLimit) (e := e + 1) (by decide) he
      refine ⟨x, hfinite, hunits.trans ?_⟩
      rw [heq, Nat.pow_eq, Nat.pow_eq, Nat.pow_succ]
      ring
  rw [← hunits]
  refine units_congr ?_
  rw [ofInt, ofRatio, magnitude_ofMagnitude (nearestMagnitude_le _ _), ← hunits, ← Nat.mul_one x.units]
  exact nearestMagnitude_units Nat.one_pos hfinite

theorem units_ofNat {m : Nat} (h : m ≤ 2 * fractionLimit) : (ofNat m).units = m * unitsPerOne := by
  rw [← ofInt_natCast]
  exact units_ofInt h

/-- Up to 2^53 rounding changes no integer. -/
theorem value_ofInt (h : n.natAbs ≤ 2 * fractionLimit) : (ofInt n).value = n := by
  have hsigned : (ofInt n).signedUnits = n * unitsPerOne := by
    rw [signedUnits, units_ofInt h, ofInt, ofRatio, negative_ofMagnitude (nearestMagnitude_le _ _), Int.natCast_mul,
      Int.natCast_natAbs]
    simp only [decide_eq_true_eq]
    split
    · rename_i hneg
      rw [abs_of_neg hneg, neg_mul, neg_neg]
    · rename_i hnonneg
      rw [abs_of_nonneg (Int.not_lt.mp hnonneg)]
  have hne : (unitsPerOne : ℚ) ≠ 0 := by exact_mod_cast Nat.ne_of_gt unitsPerOne_pos
  rw [value, hsigned]
  push_cast
  exact mul_div_cancel_right₀ _ hne

end
end ClusterConsole.Binary64
