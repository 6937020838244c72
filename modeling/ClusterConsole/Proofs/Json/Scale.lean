import ClusterConsole.Proofs.Json.Written

/-! # Scaling by powers of ten

The reader rounds the digits of a number, then the power of ten, then their product or quotient; below the least power of
ten it divides twice. Up to 2^53 digits are not changed, nor are the powers up to the twenty-second. Otherwise each
rounding adds its relative error, and in the end the number that is read may lie a few steps beside the nearest one. -/

namespace ClusterConsole.Json
open Binary64

/-! ### Powers of ten -/

/-- The shift of the grid on which a power of ten is rounded. -/
def powerShift (n : Nat) : Nat :=
  1022 + n * 217706 / 65536

/-- A power of ten in units. -/
def powerUnits (n : Nat) : Nat :=
  Nat.pow 10 n * unitsPerOne

/-- The units of a power of ten on its grid. -/
def roundedPower (n : Nat) : Nat :=
  roundedQuotient (powerUnits n) (Nat.pow 2 (powerShift n)) * Nat.pow 2 (powerShift n)

/-- A bound for the error of a power of ten, as the number of the 2^58th parts. -/
def powerError (n : Nat) : Nat :=
  if n ≤ 22 then 0 else if n ≤ 33 then 27 else if n < greatestPower then 29 else 4

theorem powers_bounded : ∀ n < 309, Nat.pow 2 (powerShift n + 52) ≤ powerUnits n ∧
    powerUnits n < Nat.pow 2 (powerShift n + 53) ∧
    roundedPower n * Nat.pow 2 58 ≤ (Nat.pow 2 58 + powerError n) * powerUnits n ∧
    powerUnits n * Nat.pow 2 58 ≤ (Nat.pow 2 58 + powerError n) * roundedPower n := by
  decide +kernel

/-- The factor of an error that is given as the number of the 2^58th parts. -/
def errorFactor (error : ℚ) : ℚ :=
  1 + error * (halfStep / 16)

section
variable {n : Nat}

theorem units_powerOfTen (h : n ≤ greatestPower) : (powerOfTen n).units = roundedPower n := by
  obtain ⟨hlow, hhigh, -, -⟩ := powers_bounded n (Nat.lt_succ_of_le h)
  have hfinite : (powerOfTen n).magnitude < infinityPattern := of_decide_eq_true (isFinite_powerOfTen h)
  have hmagnitude : (powerOfTen n).magnitude = nearestMagnitude (powerUnits n) 1 :=
    magnitude_ofMagnitude (nearestMagnitude_le _ _)
  have hshift : gridShift (powerUnits n) 1 = powerShift n :=
    gridShift_eq (le_of_le_of_eq hlow (Nat.div_one _).symm) (lt_of_eq_of_lt (Nat.div_one _) hhigh)
  have hunbounded : nearestMagnitude (powerUnits n) 1 = unboundedMagnitude (powerUnits n) 1 := by
    rw [hmagnitude, nearestMagnitude_eq_min] at hfinite
    rw [nearestMagnitude_eq_min]
    omega
  rw [units_eq, hmagnitude, hunbounded, patternUnits_unbounded Nat.one_pos, gridStep, hshift, Nat.one_mul]
  rfl

theorem within_powerOfTen (h : n ≤ greatestPower) :
    Within (errorFactor (powerError n)) (powerOfTen n).units ((10 : ℚ) ^ n * unitsPerOne) := by
  obtain ⟨-, -, hle, hge⟩ := powers_bounded n (Nat.lt_succ_of_le h)
  have hpow : ((Nat.pow 2 58 : ℕ) : ℚ) = 288230376151711744 := by norm_num
  have hfactor : errorFactor (powerError n) = (288230376151711744 + powerError n) / 288230376151711744 := by
    unfold errorFactor halfStep
    ring
  have hunits : (10 : ℚ) ^ n * unitsPerOne = powerUnits n := by
    rw [powerUnits, Nat.pow_eq]
    push_cast
    rfl
  rw [units_powerOfTen h, hfactor, hunits]
  constructor
  · rw [div_mul_eq_mul_div, le_div_iff₀ (by norm_num), ← hpow]
    exact_mod_cast hle
  · rw [div_mul_eq_mul_div, le_div_iff₀ (by norm_num), ← hpow]
    exact_mod_cast hge

theorem errorFactor_zero : errorFactor 0 = 1 := by
  rw [errorFactor, zero_mul, add_zero]

theorem errorFactor_mono {a b : ℚ} (h : a ≤ b) : errorFactor a ≤ errorFactor b := by
  unfold errorFactor halfStep
  linarith

theorem powerError_le (n : Nat) : powerError n ≤ 29 := by
  unfold powerError
  split
  · decide
  split
  · decide
  split <;> decide

theorem powerError_eq_zero (h : n ≤ 22) : powerError n = 0 :=
  if_pos h

end

/-! ### Digits -/

/-- The factor of one rounding. -/
def roundingFactor : ℚ :=
  1 / (1 - 2 * halfStep)

theorem units_pos_of_within {c : ℚ} {x : Nat} {a : ℚ} (h : Within c x a) (ha : 0 < a) : 0 < x := by
  refine Nat.pos_of_ne_zero fun hzero => ?_
  have hge := h.ge
  rw [hzero, Nat.cast_zero, mul_zero] at hge
  linarith

theorem within_ofNat {m : Nat} (h : m ≤ greatestWord) :
    Within roundingFactor (ofNat m).units ((m : ℚ) * unitsPerOne) := by
  have hfinite : (ofNat m).magnitude < infinityPattern := of_decide_eq_true (isFinite_ofWord h)
  have hmagnitude : (ofNat m).magnitude = nearestMagnitude (m * unitsPerOne) 1 :=
    magnitude_ofMagnitude (nearestMagnitude_le _ _)
  rcases Nat.eq_zero_or_pos m with rfl | hpos
  · rw [units_ofNat (Nat.zero_le _), Nat.zero_mul, Nat.cast_zero, zero_mul]
    exact ⟨le_of_eq (mul_zero _).symm, le_of_eq (mul_zero _).symm⟩
  · have hgreat : (18014398509481984 : ℚ) ≤ unitsPerOne := by
      have hunits : 18014398509481984 ≤ unitsPerOne := by decide +kernel
      exact_mod_cast hunits
    have hone : (1 : ℚ) ≤ m := by exact_mod_cast hpos
    have hsize : (18014398509481984 : ℚ) ≤ m * unitsPerOne := le_trans hgreat (le_mul_of_one_le_left (by linarith) hone)
    have hwithin : Within roundingFactor (patternUnits (nearestMagnitude (m * unitsPerOne) 1))
        ((m * unitsPerOne : ℕ) / (1 : ℕ)) := by
      refine within_of_nearest Nat.one_pos (hmagnitude ▸ hfinite) (le_refl _) ?_ ?_
      · unfold halfStep
        norm_num
      · rw [Nat.cast_one, div_one, Nat.cast_mul]
        unfold halfStep
        linarith
    rwa [Nat.cast_one, div_one, Nat.cast_mul, ← hmagnitude, ← units_eq] at hwithin

/-! ### Products and quotients -/

section
variable {x p : Binary64} {a b c c' : ℚ}

theorem unitsPerOne_cast_pos : (0 : ℚ) < unitsPerOne := by exact_mod_cast unitsPerOne_pos

theorem within_quotient (hc : 0 ≤ c) (ha : 0 ≤ a) (hb : 0 < b) (h : Within c x.units (a * unitsPerOne))
    (h' : Within c' p.units (b * unitsPerOne)) :
    Within (c * c') ((x.units * unitsPerOne : ℕ) / p.units) (a / b * unitsPerOne) := by
  have hunits := unitsPerOne_cast_pos
  have hpos : (0 : ℚ) < p.units := by exact_mod_cast units_pos_of_within h' (mul_pos hb hunits)
  have hquotient := (h.div hc (Nat.cast_nonneg _) (mul_nonneg ha (le_of_lt hunits)) hpos (mul_pos hb hunits)
    h').mul_right (le_of_lt hunits)
  rwa [mul_div_mul_right _ _ (ne_of_gt hunits), div_mul_eq_mul_div, ← Nat.cast_mul] at hquotient

theorem within_product (hc : 0 ≤ c) (ha : 0 ≤ a) (hb : 0 ≤ b) (h : Within c x.units (a * unitsPerOne))
    (h' : Within c' p.units (b * unitsPerOne)) :
    Within (c * c') ((x.units * p.units : ℕ) / unitsPerOne) (a * b * unitsPerOne) := by
  have hunits := unitsPerOne_cast_pos
  have hproduct := (h.mul hc (Nat.cast_nonneg _) (mul_nonneg ha (le_of_lt hunits)) (Nat.cast_nonneg _)
    (mul_nonneg hb (le_of_lt hunits)) h').mul_right (inv_nonneg.mpr (le_of_lt hunits))
  have hright : a * unitsPerOne * (b * unitsPerOne) * (unitsPerOne : ℚ)⁻¹ = a * b * unitsPerOne := by
    field_simp
  rwa [hright, ← div_eq_mul_inv, ← Nat.cast_mul] at hproduct

end

theorem errorFactor_nonneg (n : Nat) : 0 ≤ errorFactor n := by
  unfold errorFactor halfStep
  positivity

/-- The digits are exact or rounded once. -/
structure DigitsWithin (m : Nat) (c : ℚ) : Prop where
  nonneg : 0 ≤ c
  within : Within c (ofNat m).units ((m : ℚ) * unitsPerOne)

section
variable {m n steps : Nat} {c : ℚ}

theorem digitsWithin_of_small (h : m ≤ 2 * fractionLimit) : DigitsWithin m 1 := by
  refine ⟨by norm_num, ?_⟩
  rw [units_ofNat h, Nat.cast_mul]
  exact .refl _

theorem digitsWithin_of_word (h : m ≤ greatestWord) : DigitsWithin m roundingFactor :=
  ⟨by unfold roundingFactor halfStep; norm_num, within_ofNat h⟩

theorem value_neg (m n : Nat) : (⟨m, -n⟩ : Scientific).value = m / (10 : ℚ) ^ n := by
  rw [Scientific.value, zpow_neg, zpow_natCast, div_eq_mul_inv]

theorem value_natCast (m n : Nat) : (⟨m, n⟩ : Scientific).value = m * (10 : ℚ) ^ n := by
  rw [Scientific.value, zpow_natCast]

/-- The digits divided by a power of ten, before the last rounding. -/
theorem DigitsWithin.quotient (h : DigitsWithin m c) (hn : n ≤ greatestPower) :
    let d : Scientific := ⟨m, -n⟩
    Within (c * errorFactor (powerError n)) (((ofNat m).units * unitsPerOne : ℕ) / (powerOfTen n).units)
      ((d.numerator * unitsPerOne : ℕ) / d.denominator) := by
  intro d
  rw [Scientific.value_mul_unitsPerOne, value_neg]
  exact within_quotient h.nonneg (Nat.cast_nonneg m) (by positivity) h.within (within_powerOfTen hn)

/-- The digits multiplied by a power of ten, before the last rounding. -/
theorem DigitsWithin.product (h : DigitsWithin m c) (hn : n ≤ greatestPower) :
    let d : Scientific := ⟨m, n⟩
    Within (c * errorFactor (powerError n)) (((ofNat m).units * (powerOfTen n).units : ℕ) / unitsPerOne)
      ((d.numerator * unitsPerOne : ℕ) / d.denominator) := by
  intro d
  rw [Scientific.value_mul_unitsPerOne, value_natCast]
  exact within_product h.nonneg (Nat.cast_nonneg m) (by positivity) h.within (within_powerOfTen hn)

theorem units_powerOfTen_pos (hn : n ≤ greatestPower) : 0 < (powerOfTen n).units :=
  Nat.lt_of_lt_of_le unitsPerOne_pos (unitsPerOne_le_units_powerOfTen hn)

theorem magnitude_dividedBy (x y : Binary64) :
    (x.dividedBy y).magnitude = nearestMagnitude (x.units * unitsPerOne) y.units :=
  magnitude_ofMagnitude (nearestMagnitude_le _ _)

theorem magnitude_times (x y : Binary64) : (x.times y).magnitude = nearestMagnitude (x.units * y.units) unitsPerOne :=
  magnitude_ofMagnitude (nearestMagnitude_le _ _)

/-- A word and a power of ten add less error than two steps. -/
theorem rounding_power_le (n : Nat) : roundingFactor * errorFactor (powerError n) ≤ 1 + (2 : ℕ) * (2 * halfStep) := by
  have hpower : errorFactor (powerError n) ≤ errorFactor 29 := errorFactor_mono (by exact_mod_cast powerError_le n)
  calc roundingFactor * errorFactor (powerError n) ≤ roundingFactor * errorFactor 29 :=
        mul_le_mul_of_nonneg_left hpower (by unfold roundingFactor halfStep; norm_num)
    _ ≤ 1 + (2 : ℕ) * (2 * halfStep) := by unfold roundingFactor errorFactor halfStep; norm_num

theorem near_dividedBy (hm : m ≤ greatestWord) (hn : n ≤ greatestPower) :
    Near 2 ((ofNat m).dividedBy (powerOfTen n)).magnitude (⟨m, -n⟩ : Scientific).pattern := by
  rw [magnitude_dividedBy]
  exact ((digitsWithin_of_word hm).quotient hn).near (by decide) (units_powerOfTen_pos hn)
    (Scientific.denominator_pos _) (rounding_power_le n)

theorem magnitude_dividedBy_of_small (hm : m ≤ 2 * fractionLimit) (hn : n ≤ 22) :
    ((ofNat m).dividedBy (powerOfTen n)).magnitude = (⟨m, -n⟩ : Scientific).pattern := by
  have hpower : n ≤ greatestPower := Nat.le_trans hn (by decide)
  have hquotient := (digitsWithin_of_small hm).quotient hpower
  rw [powerError_eq_zero hn, Nat.cast_zero, errorFactor_zero, one_mul] at hquotient
  rw [magnitude_dividedBy]
  exact hquotient.magnitude_eq (units_powerOfTen_pos hpower) (Scientific.denominator_pos _)

theorem near_times (hm : m ≤ greatestWord) (hn : n ≤ greatestPower) :
    Near 2 ((ofNat m).times (powerOfTen n)).magnitude (⟨m, n⟩ : Scientific).pattern := by
  rw [magnitude_times]
  exact ((digitsWithin_of_word hm).product hn).near (by decide) unitsPerOne_pos (Scientific.denominator_pos _)
    (rounding_power_le n)

theorem magnitude_times_of_small (hm : m ≤ 2 * fractionLimit) (hn : n ≤ 22) :
    ((ofNat m).times (powerOfTen n)).magnitude = (⟨m, n⟩ : Scientific).pattern := by
  have hpower : n ≤ greatestPower := Nat.le_trans hn (by decide)
  have hproduct := (digitsWithin_of_small hm).product hpower
  rw [powerError_eq_zero hn, Nat.cast_zero, errorFactor_zero, one_mul] at hproduct
  rw [magnitude_times]
  exact hproduct.magnitude_eq unitsPerOne_pos (Scientific.denominator_pos _)

/-! ### Two divisions -/

theorem greatestPower_le_unitsPerOne : Nat.pow 10 greatestPower * 2024000000000000 ≤ unitsPerOne := by decide +kernel

/-- The digits divided by the greatest power, before they are rounded. -/
theorem DigitsWithin.first (h : DigitsWithin m c) :
    Within (c * errorFactor 4) (((ofNat m).units * unitsPerOne : ℕ) / (powerOfTen greatestPower).units)
      (m / 10 ^ greatestPower * unitsPerOne) := by
  have hpower := within_powerOfTen (Nat.le_refl greatestPower)
  have herror : ((powerError greatestPower : ℕ) : ℚ) = 4 := by
    have : powerError greatestPower = 4 := by decide
    exact_mod_cast this
  rw [herror] at hpower
  exact within_quotient h.nonneg (Nat.cast_nonneg m) (by positivity) h.within hpower

/-- The digits divided by the greatest power are no small number of units. -/
theorem DigitsWithin.first_size {error : ℚ} (h : DigitsWithin m c) (hm : 0 < m)
    (hsize : c * errorFactor 4 ≤ error * (4048000000000000 * m)) :
    1 / 2 ≤ error * (((ofNat m).units * unitsPerOne : ℕ) / (powerOfTen greatestPower).units : ℚ) := by
  have hgreat : (2024000000000000 : ℚ) ≤ unitsPerOne / 10 ^ greatestPower := by
    have hcast : ((Nat.pow 10 greatestPower * 2024000000000000 : ℕ) : ℚ) ≤ unitsPerOne := by
      exact_mod_cast greatestPower_le_unitsPerOne
    rw [le_div_iff₀ (by positivity)]
    refine le_trans (le_of_eq ?_) hcast
    rw [Nat.pow_eq]
    push_cast
    ring
  have hpos : (0 : ℚ) < m := by exact_mod_cast hm
  have hlow : (2024000000000000 * m : ℚ) ≤ m / 10 ^ greatestPower * unitsPerOne := by
    calc (2024000000000000 * m : ℚ) ≤ unitsPerOne / 10 ^ greatestPower * m :=
          mul_le_mul_of_nonneg_right hgreat (le_of_lt hpos)
      _ = m / 10 ^ greatestPower * unitsPerOne := by ring
  have hge := h.first.ge
  have hnonneg : (0 : ℚ) ≤ ((ofNat m).units * unitsPerOne : ℕ) / (powerOfTen greatestPower).units :=
    div_nonneg (Nat.cast_nonneg _) (Nat.cast_nonneg _)
  generalize (((ofNat m).units * unitsPerOne : ℕ) / (powerOfTen greatestPower).units : ℚ) = q at hge hnonneg ⊢
  by_contra hnot
  have hupper : error * (4048000000000000 * m) * q < 2024000000000000 * m := by
    calc error * (4048000000000000 * m) * q = error * q * (4048000000000000 * m) := by ring
      _ < 1 / 2 * (4048000000000000 * m) := mul_lt_mul_of_pos_right (not_le.mp hnot) (by positivity)
      _ = 2024000000000000 * m := by ring
  have hlower := le_trans (le_trans hlow hge) (mul_le_mul_of_nonneg_right hsize hnonneg)
  linarith

/-- The digits divided by the greatest power and by a small one. -/
theorem DigitsWithin.second (h : DigitsWithin m c) (error : ℚ) (hm : 0 < m) (hword : m ≤ greatestWord)
    (hn : n ≤ greatestPower) (herror : 2 * halfStep ≤ error) (hone : error < 1)
    (hsize : c * errorFactor 4 ≤ error * (4048000000000000 * m)) (hsteps : 0 < steps)
    (hfactor : 1 / (1 - error) * (c * errorFactor 4) * errorFactor (powerError n) ≤ 1 + steps * (2 * halfStep)) :
    Near steps (((ofNat m).dividedBy (powerOfTen greatestPower)).dividedBy (powerOfTen n)).magnitude
      (⟨m, -(greatestPower + n : ℕ)⟩ : Scientific).pattern := by
  have hfinite := isFinite_dividedBy (isFinite_ofWord hword) (unitsPerOne_le_units_powerOfTen (Nat.le_refl greatestPower))
  have hmagnitude := magnitude_dividedBy (ofNat m) (powerOfTen greatestPower)
  have hround : Within (1 / (1 - error)) ((ofNat m).dividedBy (powerOfTen greatestPower)).units
      (((ofNat m).units * unitsPerOne : ℕ) / (powerOfTen greatestPower).units) := by
    rw [units_eq, hmagnitude]
    exact within_of_nearest (units_powerOfTen_pos (Nat.le_refl _)) (hmagnitude ▸ of_decide_eq_true hfinite) herror hone
      (h.first_size hm hsize)
  have hrest : 0 ≤ 1 / (1 - error) := one_div_nonneg.mpr (by linarith)
  have hfirst := hround.trans hrest (mul_nonneg h.nonneg (errorFactor_nonneg 4)) h.first
  have hnonneg := mul_nonneg hrest (mul_nonneg h.nonneg (errorFactor_nonneg 4))
  have hquotient := within_quotient hnonneg (by positivity) (by positivity) hfirst (within_powerOfTen hn)
  have hvalue : (m / 10 ^ greatestPower / 10 ^ n : ℚ) = (⟨m, -(greatestPower + n : ℕ)⟩ : Scientific).value := by
    rw [value_neg, pow_add, div_div]
  rw [hvalue, ← Scientific.value_mul_unitsPerOne] at hquotient
  rw [magnitude_dividedBy]
  exact hquotient.near hsteps (units_powerOfTen_pos hn) (Scientific.denominator_pos _) hfactor

/-- The least numbers have one digit only, which is exact. -/
theorem near_dividedBy_twice (hm : 0 < m) (hword : m ≤ greatestWord) (hn : n ≤ 33) (hsmall : m ≤ 2 → n ≤ 22) :
    Near 3 (((ofNat m).dividedBy (powerOfTen greatestPower)).dividedBy (powerOfTen n)).magnitude
      (⟨m, -(greatestPower + n : ℕ)⟩ : Scientific).pattern := by
  have hpower : n ≤ greatestPower := Nat.le_trans hn (by decide)
  have hone : (1 : ℚ) ≤ m := by exact_mod_cast hm
  -- The first quotient is subnormal when `m` is 1 or 2, where its rounding weighs more: three steps are
  -- then enough only because the digits and the second power are exact.
  rcases Nat.lt_or_ge 2 m with hmany | hfew
  · have hthree : (3 : ℚ) ≤ m := by exact_mod_cast hmany
    have herror : powerError n ≤ 27 := by
      by_cases hexact : n ≤ 22
      · rw [powerError_eq_zero hexact]
        decide
      · rw [powerError, if_neg hexact, if_pos hn]
    have hlast : errorFactor (powerError n) ≤ errorFactor 27 := errorFactor_mono (by exact_mod_cast herror)
    refine (digitsWithin_of_word hword).second (2 * halfStep) hm hword hpower (le_refl _) (by unfold halfStep; norm_num)
      ?_ (by decide) (le_trans (mul_le_mul_of_nonneg_left hlast ?_) ?_)
    · unfold roundingFactor errorFactor halfStep
      linarith
    · unfold roundingFactor errorFactor halfStep
      norm_num
    · unfold roundingFactor errorFactor halfStep
      norm_num
  · have hexact : m ≤ 2 * fractionLimit := Nat.le_trans hfew (by decide)
    refine (digitsWithin_of_small hexact).second (9 / 2 * halfStep) hm hword hpower ?_ ?_ ?_ (by decide) ?_
    · unfold halfStep
      norm_num
    · unfold halfStep
      norm_num
    · unfold errorFactor halfStep
      linarith
    · rw [powerError_eq_zero (hsmall hfew), Nat.cast_zero, errorFactor_zero]
      unfold errorFactor halfStep
      norm_num

end
end ClusterConsole.Json
