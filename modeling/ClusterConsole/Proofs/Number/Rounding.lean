import Mathlib.Algebra.Order.Ring.Nat
import Mathlib.Tactic.Ring
import ClusterConsole.Number.Binary64

/-! # Rounding to binary numbers

Rounding goes by value alone and never turns an order around: of two quotients the greater one is rounded to the greater
pattern or to the same. A number that has a pattern is rounded to it. What is rounded therefore lies on the same side of
every binary number as before, or has become that number. -/

namespace ClusterConsole.Binary64

theorem unitsPerOne_pos : 0 < unitsPerOne :=
  Nat.pos_of_ne_zero (by decide +kernel)

/-! ### Whole numbers -/

section
variable {num den num' den' : Nat}

theorem div_le_div_of_mul_le (hden : 0 < den) (hden' : 0 < den') (h : num * den' ≤ num' * den) :
    num / den ≤ num' / den' := by
  rw [Nat.le_div_iff_mul_le hden']
  refine Nat.le_of_mul_le_mul_right ?_ hden
  calc num / den * den' * den = num / den * den * den' := by ring
    _ ≤ num * den' := Nat.mul_le_mul_right den' (Nat.div_mul_le_self num den)
    _ ≤ num' * den := h

theorem roundedQuotient_bounds (num den : Nat) :
    num / den ≤ roundedQuotient num den ∧ roundedQuotient num den ≤ num / den + 1 := by
  unfold roundedQuotient
  dsimp only
  split <;> omega

theorem roundedQuotient_mul (n : Nat) (hden : 0 < den) : roundedQuotient (n * den) den = n := by
  unfold roundedQuotient
  rw [Nat.mul_div_cancel n hden, Nat.mul_mod_left]
  exact if_neg (by omega)

theorem roundedQuotient_mono (hden : 0 < den) (hden' : 0 < den') (h : num * den' ≤ num' * den) :
    roundedQuotient num den ≤ roundedQuotient num' den' := by
  obtain ⟨-, hhigh⟩ := roundedQuotient_bounds num den
  obtain ⟨hlow, -⟩ := roundedQuotient_bounds num' den'
  rcases Nat.lt_or_eq_of_le (div_le_div_of_mul_le hden hden' h) with hlt | heq
  · omega
  -- The whole parts are the same, so the order is that of the remainders.
  have hrest : num % den * den' ≤ num' % den' * den := by
    have hnum : num * den' = num / den * (den * den') + num % den * den' := by
      conv_lhs => rw [← Nat.div_add_mod num den]
      ring
    have hnum' : num' * den = num' / den' * (den * den') + num' % den' * den := by
      conv_lhs => rw [← Nat.div_add_mod num' den']
      ring
    rw [hnum, hnum', heq] at h
    omega
  unfold roundedQuotient
  dsimp only
  rw [heq]
  split
  · rename_i hup
    refine Nat.le_of_eq (if_pos ?_).symm
    rcases hup with hmore | ⟨hhalf, hodd⟩
    · refine .inl (Nat.lt_of_mul_lt_mul_right (a := den) ?_)
      calc den' * den = den * den' := Nat.mul_comm _ _
        _ < 2 * (num % den) * den' := Nat.mul_lt_mul_of_pos_right hmore hden'
        _ = 2 * (num % den * den') := by ring
        _ ≤ 2 * (num' % den' * den) := Nat.mul_le_mul_left 2 hrest
        _ = 2 * (num' % den') * den := by ring
    · have hle : den' ≤ 2 * (num' % den') := by
        refine Nat.le_of_mul_le_mul_right ?_ hden
        calc den' * den = 2 * (num % den) * den' := by rw [hhalf, Nat.mul_comm]
          _ = 2 * (num % den * den') := by ring
          _ ≤ 2 * (num' % den' * den) := Nat.mul_le_mul_left 2 hrest
          _ = 2 * (num' % den') * den := by ring
      rcases Nat.lt_or_eq_of_le hle with hlt | hsame
      · exact .inl hlt
      · exact .inr ⟨hsame.symm, hodd⟩
  · split <;> omega

/-! ### Patterns -/

theorem gridShift_mono (hden : 0 < den) (hden' : 0 < den') (h : num * den' ≤ num' * den) :
    gridShift num den ≤ gridShift num' den' := by
  have hle := div_le_div_of_mul_le hden hden' h
  unfold gridShift
  by_cases hzero : num / den = 0
  · simp [hzero]
  · have hzero' : num' / den' ≠ 0 := fun heq => hzero (Nat.eq_zero_of_le_zero (heq ▸ hle))
    exact Nat.sub_le_sub_right ((Nat.le_log2 hzero').mpr (Nat.le_trans (Nat.log2_self_le hzero) hle)) 52

theorem lt_of_gridShift (num : Nat) (hden : 0 < den) :
    num < 2 * fractionLimit * (den * Nat.pow 2 (gridShift num den)) := by
  have hlog : num / den < 2 ^ (gridShift num den + 53) := by
    refine Nat.lt_of_lt_of_le Nat.lt_log2_self (Nat.pow_le_pow_right (by decide) ?_)
    unfold gridShift
    omega
  calc num < den * 2 ^ (gridShift num den + 53) := by
        rw [Nat.mul_comm]
        exact (Nat.div_lt_iff_lt_mul hden).mp hlog
    _ = 2 * fractionLimit * (den * Nat.pow 2 (gridShift num den)) := by
      rw [Nat.pow_eq, Nat.pow_add, fractionLimit]
      ring

theorem le_of_gridShift_pos (h : 0 < gridShift num den) :
    fractionLimit * (den * Nat.pow 2 (gridShift num den)) ≤ num := by
  have hlog : (num / den).log2 = gridShift num den + 52 := by
    unfold gridShift at h ⊢
    omega
  have hne : num / den ≠ 0 := by
    intro hzero
    rw [hzero] at hlog
    simp at hlog
  calc fractionLimit * (den * Nat.pow 2 (gridShift num den)) = den * 2 ^ (num / den).log2 := by
        rw [hlog, Nat.pow_eq, Nat.pow_add, fractionLimit]
        ring
    _ ≤ den * (num / den) := Nat.mul_le_mul_left den (Nat.log2_self_le hne)
    _ ≤ num := Nat.mul_div_le num den

theorem scale_pos (hden : 0 < den) (shift : Nat) : 0 < den * Nat.pow 2 shift :=
  Nat.mul_pos hden (Nat.pow_pos (by decide))

theorem nearestMagnitude_mono (hden : 0 < den) (hden' : 0 < den') (h : num * den' ≤ num' * den) :
    nearestMagnitude num den ≤ nearestMagnitude num' den' := by
  unfold nearestMagnitude
  refine min_le_min_right _ ?_
  have hscale := scale_pos hden (gridShift num den)
  have hscale' := scale_pos hden' (gridShift num' den')
  rcases Nat.lt_or_eq_of_le (gridShift_mono hden hden' h) with hlt | heq
  · -- The finer grid ends where the next one has got half way.
    have hhigh : roundedQuotient num (den * Nat.pow 2 (gridShift num den)) ≤ 2 * fractionLimit := by
      rw [← roundedQuotient_mul (2 * fractionLimit) hscale]
      exact roundedQuotient_mono hscale hscale (Nat.mul_le_mul_right _ (Nat.le_of_lt (lt_of_gridShift num hden)))
    have hlow : fractionLimit ≤ roundedQuotient num' (den' * Nat.pow 2 (gridShift num' den')) := by
      rw [← roundedQuotient_mul fractionLimit hscale']
      exact roundedQuotient_mono hscale' hscale' (Nat.mul_le_mul_right _ (le_of_gridShift_pos (by omega)))
    calc _ ≤ gridShift num den * fractionLimit + 2 * fractionLimit := Nat.add_le_add_left hhigh _
      _ = (gridShift num den + 1) * fractionLimit + fractionLimit := by ring
      _ ≤ _ := Nat.add_le_add (Nat.mul_le_mul_right _ hlt) hlow
  · rw [heq] at hscale ⊢
    refine Nat.add_le_add_left (roundedQuotient_mono hscale hscale' ?_) _
    calc num * (den' * Nat.pow 2 (gridShift num' den')) = num * den' * Nat.pow 2 (gridShift num' den') := by ring
      _ ≤ num' * den * Nat.pow 2 (gridShift num' den') := Nat.mul_le_mul_right _ h
      _ = num' * (den * Nat.pow 2 (gridShift num' den')) := by ring

end

/-! ### Numbers that have a pattern -/

section
variable {x : Binary64}

theorem fractionLimit_le_mantissa (h : 0 < x.shift) : fractionLimit ≤ x.mantissa := by
  unfold mantissa
  unfold shift at h ⊢
  have := Nat.div_mul_le_self x.magnitude fractionLimit
  have : (x.magnitude / fractionLimit - 1) * fractionLimit + fractionLimit =
      x.magnitude / fractionLimit * fractionLimit := by
    rw [← Nat.succ_mul]
    congr 1
    omega
  omega

theorem mantissa_lt (x : Binary64) : x.mantissa < 2 * fractionLimit := by
  unfold mantissa shift fractionLimit
  omega

theorem shift_mul_add_mantissa (x : Binary64) : x.shift * fractionLimit + x.mantissa = x.magnitude := by
  unfold mantissa shift fractionLimit
  omega

theorem gridShift_units {den : Nat} (hden : 0 < den) : gridShift (x.units * den) den = x.shift := by
  have hhigh : x.units < 2 ^ (53 + x.shift) := by
    rw [Nat.pow_add]
    exact Nat.mul_lt_mul_of_pos_right x.mantissa_lt (Nat.pow_pos (by decide))
  rw [gridShift, Nat.mul_div_cancel _ hden]
  rcases Nat.eq_zero_or_pos x.shift with hzero | hpos
  · have hlog : x.units.log2 < 53 := by
      by_cases hunits : x.units = 0
      · rw [hunits]
        decide
      · rw [hzero] at hhigh
        exact (Nat.log2_lt hunits).mpr hhigh
    omega
  · have hlow : 2 ^ (52 + x.shift) ≤ x.units := by
      rw [Nat.pow_add]
      exact Nat.mul_le_mul_right _ (fractionLimit_le_mantissa hpos)
    have hne : x.units ≠ 0 := Nat.ne_of_gt (Nat.lt_of_lt_of_le (Nat.pow_pos (by decide)) hlow)
    have hlog := (Nat.log2_eq_iff hne).mpr ⟨hlow, by rwa [Nat.add_right_comm]⟩
    omega

/-- A number is rounded to itself. -/
theorem nearestMagnitude_units {den : Nat} (hden : 0 < den) (h : x.isFinite = true) :
    nearestMagnitude (x.units * den) den = x.magnitude := by
  have hquotient : roundedQuotient (x.units * den) (den * Nat.pow 2 x.shift) = x.mantissa := by
    rw [← roundedQuotient_mul x.mantissa (scale_pos hden x.shift), units]
    congr 1
    ring
  have hfinite : x.magnitude < infinityPattern := of_decide_eq_true h
  rw [nearestMagnitude, gridShift_units hden, hquotient, shift_mul_add_mantissa]
  exact min_eq_left (Nat.le_of_lt hfinite)

theorem units_congr {y : Binary64} (h : x.magnitude = y.magnitude) : x.units = y.units := by
  unfold units mantissa shift
  rw [h]

/-- The patterns list the numbers in their order. -/
theorem units_le_of_magnitude_le {y : Binary64} (hx : x.isFinite = true) (hy : y.isFinite = true)
    (h : x.magnitude ≤ y.magnitude) : x.units ≤ y.units := by
  by_contra hlt
  have hle : nearestMagnitude (y.units * 1) 1 ≤ nearestMagnitude (x.units * 1) 1 :=
    nearestMagnitude_mono (by decide) (by decide) (by omega)
  rw [nearestMagnitude_units (by decide) hx, nearestMagnitude_units (by decide) hy] at hle
  exact hlt (Nat.le_of_eq (units_congr (Nat.le_antisymm h hle)))

end

/-! ### Signs -/

section
variable {negative : Bool} {m : Nat}

theorem toNat_bits_ofMagnitude (h : m ≤ infinityPattern) :
    (ofMagnitude negative m).bits.toNat = (if negative then Word.signedLimit else 0) + m := by
  unfold infinityPattern at h
  rw [ofMagnitude, UInt64.toNat_ofNat']
  unfold Word.signedLimit
  split <;> omega

theorem negative_ofMagnitude (h : m ≤ infinityPattern) : (ofMagnitude negative m).negative = negative := by
  rw [Binary64.negative, toNat_bits_ofMagnitude h]
  unfold infinityPattern at h
  unfold Word.signedLimit
  cases negative <;> simp
  omega

theorem magnitude_ofMagnitude (h : m ≤ infinityPattern) : (ofMagnitude negative m).magnitude = m := by
  rw [magnitude, toNat_bits_ofMagnitude h]
  unfold infinityPattern at h
  unfold Word.signedLimit
  split <;> omega

theorem isFinite_ofMagnitude (h : m < infinityPattern) : (ofMagnitude negative m).isFinite = true := by
  rw [isFinite, magnitude_ofMagnitude (Nat.le_of_lt h)]
  exact decide_eq_true h

theorem rank_ofMagnitude (h : m ≤ infinityPattern) :
    (ofMagnitude negative m).rank = if negative then -1 - (m : Int) else m := by
  rw [rank, negative_ofMagnitude h, magnitude_ofMagnitude h]

theorem nearestMagnitude_le (num den : Nat) : nearestMagnitude num den ≤ infinityPattern :=
  min_le_right _ _

theorem isFinite_negate {x : Binary64} (h : x.isFinite = true) : x.negate.isFinite = true :=
  isFinite_ofMagnitude (of_decide_eq_true h)

end

/-! ### Integers -/

section
variable {m n : Int}

/-- The pattern that the size of an integer is rounded to. -/
def roundedSize (n : Int) : Nat :=
  nearestMagnitude (n.natAbs * unitsPerOne) 1

theorem roundedSize_mono (h : m.natAbs ≤ n.natAbs) : roundedSize m ≤ roundedSize n :=
  nearestMagnitude_mono (by decide) (by decide) (Nat.mul_le_mul_right 1 (Nat.mul_le_mul_right unitsPerOne h))

theorem rank_ofInt (n : Int) : (ofInt n).rank = if n < 0 then -1 - (roundedSize n : Int) else roundedSize n := by
  rw [ofInt, ofRatio, rank_ofMagnitude (nearestMagnitude_le _ _)]
  simp only [decide_eq_true_eq]
  rfl

/-- Rounding keeps the order of integers, though not that they differ. -/
theorem rank_ofInt_mono (h : m ≤ n) : (ofInt m).rank ≤ (ofInt n).rank := by
  rw [rank_ofInt, rank_ofInt]
  split <;> split
  · have := roundedSize_mono (m := n) (n := m) (by omega)
    omega
  · omega
  · omega
  · have := roundedSize_mono (m := m) (n := n) (by omega)
    omega

theorem ofInt_natCast (n : Nat) : ofInt n = ofNat n := by
  have hsign : ¬(n : Int) < 0 := by omega
  rw [ofInt, ofNat, Int.natAbs_natCast, decide_eq_false hsign]

end

/-! ### What stays finite -/

section
variable {m n : Nat}

theorem magnitude_ofNat_mono (h : m ≤ n) : (ofNat m).magnitude ≤ (ofNat n).magnitude := by
  unfold ofNat ofRatio
  rw [magnitude_ofMagnitude (nearestMagnitude_le _ _), magnitude_ofMagnitude (nearestMagnitude_le _ _)]
  exact nearestMagnitude_mono (by decide) (by decide) (Nat.mul_le_mul_right 1 (Nat.mul_le_mul_right unitsPerOne h))

theorem isFinite_ofNat_of_le (h : m ≤ n) (hn : (ofNat n).isFinite = true) : (ofNat m).isFinite = true :=
  decide_eq_true (Nat.lt_of_le_of_lt (magnitude_ofNat_mono h) (of_decide_eq_true hn))

theorem unitsPerOne_le_units_ofNat (h : 0 < n) (hn : (ofNat n).isFinite = true) : unitsPerOne ≤ (ofNat n).units := by
  have hone : (ofNat 1).units = unitsPerOne := by decide +kernel
  rw [← hone]
  exact units_le_of_magnitude_le (isFinite_ofNat_of_le h hn) hn (magnitude_ofNat_mono h)

/-- Dividing by a number that is not below one gives a number that is not greater. -/
theorem isFinite_dividedBy {x y : Binary64} (hx : x.isFinite = true) (hy : unitsPerOne ≤ y.units) :
    (x.dividedBy y).isFinite = true := by
  have hpos : 0 < y.units := Nat.lt_of_lt_of_le unitsPerOne_pos hy
  refine isFinite_ofMagnitude (Nat.lt_of_le_of_lt ?_ (of_decide_eq_true hx))
  rw [← nearestMagnitude_units Nat.one_pos hx]
  refine nearestMagnitude_mono hpos Nat.one_pos ?_
  rw [Nat.mul_one, Nat.mul_one]
  exact Nat.mul_le_mul_left x.units hy

end

end ClusterConsole.Binary64
