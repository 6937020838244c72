import Mathlib.Tactic.FieldSimp
import Mathlib.Tactic.Linarith
import Mathlib.Tactic.Positivity
import ClusterConsole.Proofs.Number.Value

/-! # How far rounding goes

What is rounded to a number lies at most half a step from it, and what lies closer than the 2^54th part of a number is
rounded to it. A small relative change before rounding moves the pattern by few steps. -/

namespace ClusterConsole.Binary64

/-! ### Steps between numbers -/

/-- The units of the number with this pattern. -/
def patternUnits (p : Nat) : Nat :=
  (p - (p / fractionLimit - 1) * fractionLimit) * Nat.pow 2 (p / fractionLimit - 1)

theorem units_eq (x : Binary64) : x.units = patternUnits x.magnitude := rfl

/-- The step from a number to the next one. -/
def step (p : Nat) : Nat :=
  Nat.pow 2 (p / fractionLimit - 1)

theorem step_pos (p : Nat) : 0 < step p :=
  Nat.pow_pos (by decide)

/-- A rounded quotient on its grid has this pattern, also when it has been rounded up to the end of the grid. -/
theorem patternUnits_add {s r : Nat} (hr : r ≤ 2 * fractionLimit) (hleading : fractionLimit ≤ r ∨ s = 0) :
    patternUnits (s * fractionLimit + r) = r * Nat.pow 2 s := by
  unfold patternUnits
  rcases Nat.lt_or_eq_of_le hr with hlt | rfl
  · have hshift : (s * fractionLimit + r) / fractionLimit - 1 = s := by
      unfold fractionLimit at hlt hleading ⊢
      omega
    rw [hshift, Nat.add_sub_cancel_left]
  · have hshift : (s * fractionLimit + 2 * fractionLimit) / fractionLimit - 1 = s + 1 := by
      unfold fractionLimit
      omega
    have hmantissa : s * fractionLimit + 2 * fractionLimit - (s + 1) * fractionLimit = fractionLimit := by
      rw [Nat.add_one_mul s]
      omega
    rw [hshift, hmantissa, Nat.pow_eq, Nat.pow_eq, Nat.pow_succ]
    ring

theorem patternUnits_succ (p : Nat) : patternUnits (p + 1) = patternUnits p + step p := by
  obtain ⟨s, r, hp, hr, hleading⟩ : ∃ s r, p = s * fractionLimit + r ∧ r < 2 * fractionLimit ∧
      (fractionLimit ≤ r ∨ s = 0) := by
    refine ⟨p / fractionLimit - 1, p - (p / fractionLimit - 1) * fractionLimit, ?_, ?_, ?_⟩ <;>
    · unfold fractionLimit
      omega
  have hstep : step p = Nat.pow 2 s := by
    unfold step
    congr 1
    unfold fractionLimit at hp hr hleading ⊢
    omega
  rw [hstep, hp, Nat.add_assoc, patternUnits_add hr (hleading.imp_left Nat.le_succ_of_le),
    patternUnits_add (Nat.le_of_lt hr) hleading, Nat.succ_mul]

theorem step_mono {p q : Nat} (h : p ≤ q) : step p ≤ step q :=
  Nat.pow_le_pow_right (by decide) (Nat.sub_le_sub_right (Nat.div_le_div_right h) 1)

theorem patternUnits_add_step_le (p : Nat) : patternUnits p + step p ≤ 2 * fractionLimit * step p := by
  have hmantissa : p - (p / fractionLimit - 1) * fractionLimit + 1 ≤ 2 * fractionLimit := by
    unfold fractionLimit
    omega
  have hle := Nat.mul_le_mul_right (step p) hmantissa
  rwa [Nat.add_one_mul] at hle

/-- Each of some steps further on is at least as long as the first one. -/
theorem patternUnits_add_le (p n : Nat) : patternUnits p + n * step p ≤ patternUnits (p + n) := by
  induction n with
  | zero => exact Nat.le_of_eq (by rw [Nat.zero_mul]; rfl)
  | succ n ih =>
    have hstep := step_mono (Nat.le_add_right p n)
    rw [← Nat.add_assoc, patternUnits_succ, Nat.succ_mul]
    omega

/-! ### Half a step -/

section
variable {num den num' den' : Nat}

theorem roundedQuotient_half (num : Nat) (hden : 0 < den) :
    2 * num ≤ (2 * roundedQuotient num den + 1) * den ∧ 2 * roundedQuotient num den * den ≤ 2 * num + den := by
  have hsplit := Nat.div_add_mod num den
  have hrest := Nat.mod_lt num hden
  have hodd : (2 * (num / den) + 1) * den = 2 * (den * (num / den)) + den := by ring
  have heven : 2 * (num / den) * den = 2 * (den * (num / den)) := by ring
  have hodd' : (2 * (num / den + 1) + 1) * den = 2 * (den * (num / den)) + 3 * den := by ring
  have heven' : 2 * (num / den + 1) * den = 2 * (den * (num / den)) + 2 * den := by ring
  unfold roundedQuotient
  dsimp only
  split
  · rw [hodd', heven']
    omega
  · rw [hodd, heven]
    omega

/-- The pattern of the number nearest to a quotient if there were no greatest number. -/
def unboundedMagnitude (num den : Nat) : Nat :=
  gridShift num den * fractionLimit + roundedQuotient num (den * Nat.pow 2 (gridShift num den))

theorem nearestMagnitude_eq_min (num den : Nat) :
    nearestMagnitude num den = min (unboundedMagnitude num den) infinityPattern := rfl

/-- The step of the grid that a quotient is rounded on. -/
def gridStep (num den : Nat) : Nat :=
  Nat.pow 2 (gridShift num den)

theorem le_unboundedQuotient (num : Nat) (hden : 0 < den) :
    fractionLimit ≤ roundedQuotient num (den * gridStep num den) ∨ gridShift num den = 0 := by
  have hscale := scale_pos hden (gridShift num den)
  rcases Nat.eq_zero_or_pos (gridShift num den) with hzero | hpos
  · exact .inr hzero
  · left
    rw [← roundedQuotient_mul fractionLimit hscale]
    exact roundedQuotient_mono hscale hscale (Nat.mul_le_mul_right _ (le_of_gridShift_pos hpos))

theorem patternUnits_unbounded (hden : 0 < den) : patternUnits (unboundedMagnitude num den) =
    roundedQuotient num (den * gridStep num den) * gridStep num den := by
  have hscale := scale_pos hden (gridShift num den)
  refine patternUnits_add ?_ (le_unboundedQuotient num hden)
  rw [← roundedQuotient_mul (2 * fractionLimit) hscale]
  exact roundedQuotient_mono hscale hscale (Nat.mul_le_mul_right _ (Nat.le_of_lt (lt_of_gridShift num hden)))

/-- A quotient lies at most half a step of its grid from what it is rounded to. -/
theorem unboundedMagnitude_half (num : Nat) (hden : 0 < den) :
    (num / den : ℚ) ≤ patternUnits (unboundedMagnitude num den) + gridStep num den / 2 ∧
      (patternUnits (unboundedMagnitude num den) : ℚ) ≤ num / den + gridStep num den / 2 := by
  obtain ⟨hup, hdown⟩ := roundedQuotient_half num (scale_pos hden (gridShift num den))
  have hpos : (0 : ℚ) < den := by exact_mod_cast hden
  have hup' : (2 * num : ℚ) ≤ (2 * patternUnits (unboundedMagnitude num den) + gridStep num den) * den := by
    rw [patternUnits_unbounded hden]
    exact_mod_cast Nat.le_trans hup (Nat.le_of_eq (by unfold gridStep; ring))
  have hdown' : (2 * patternUnits (unboundedMagnitude num den) * den : ℚ) ≤ 2 * num + gridStep num den * den := by
    rw [patternUnits_unbounded hden]
    exact_mod_cast Nat.le_trans (Nat.le_of_eq (by unfold gridStep; ring)) (Nat.le_trans hdown (Nat.le_of_eq (by
      unfold gridStep
      ring)))
  constructor
  · rw [div_le_iff₀ hpos]
    linarith
  · have hquotient : (patternUnits (unboundedMagnitude num den) - gridStep num den / 2 : ℚ) ≤ num / den := by
      rw [le_div_iff₀ hpos]
      linarith
    linarith

theorem lt_gridStep (num : Nat) (hden : 0 < den) : (num / den : ℚ) < 2 * fractionLimit * gridStep num den := by
  have hpos : (0 : ℚ) < den := by exact_mod_cast hden
  rw [div_lt_iff₀ hpos]
  exact_mod_cast Nat.lt_of_lt_of_eq (lt_of_gridShift num hden) (by unfold gridStep; ring)

theorem gridStep_le {p : Nat} (hden : 0 < den) (h : (num / den : ℚ) < 2 * fractionLimit * step p) :
    gridStep num den ≤ step p := by
  have hpos : (0 : ℚ) < den := by exact_mod_cast hden
  have hnum : num < 2 * fractionLimit * step p * den := by
    rw [div_lt_iff₀ hpos] at h
    exact_mod_cast h
  refine Nat.pow_le_pow_right (by decide) ?_
  by_contra hlt
  have hle : fractionLimit * (den * Nat.pow 2 (gridShift num den)) ≤ num := le_of_gridShift_pos (by omega)
  have hpow : 2 * step p ≤ gridStep num den := by
    have hsucc : Nat.pow 2 (p / fractionLimit - 1 + 1) ≤ gridStep num den := Nat.pow_le_pow_right (by decide) (by omega)
    rwa [Nat.pow_eq, Nat.pow_succ, Nat.mul_comm] at hsucc
  have hgrid := Nat.mul_le_mul_left fractionLimit (Nat.mul_le_mul_left den hpow)
  have hsame : fractionLimit * (den * (2 * step p)) = 2 * fractionLimit * step p * den := by ring
  unfold gridStep at hgrid
  omega

theorem nearestMagnitude_mono_rat (hden : 0 < den) (hden' : 0 < den') (h : (num / den : ℚ) ≤ num' / den') :
    nearestMagnitude num den ≤ nearestMagnitude num' den' := by
  have hpos : (0 : ℚ) < den := by exact_mod_cast hden
  have hpos' : (0 : ℚ) < den' := by exact_mod_cast hden'
  rw [div_le_div_iff₀ hpos hpos'] at h
  exact nearestMagnitude_mono hden hden' (by exact_mod_cast h)

theorem nearestMagnitude_patternUnits {p : Nat} (hp : p < infinityPattern) : nearestMagnitude (patternUnits p) 1 = p := by
  have hmagnitude : (ofMagnitude false p).magnitude = p := magnitude_ofMagnitude (Nat.le_of_lt hp)
  have hunits : nearestMagnitude ((ofMagnitude false p).units * 1) 1 = (ofMagnitude false p).magnitude :=
    nearestMagnitude_units Nat.one_pos (isFinite_ofMagnitude hp)
  rwa [units_eq, hmagnitude, Nat.mul_one] at hunits

theorem nearestMagnitude_zero (den : Nat) : nearestMagnitude 0 den = 0 := by
  have hshift : gridShift 0 den = 0 := by
    rw [gridShift, Nat.zero_div]
    rfl
  have hquotient (d : Nat) : roundedQuotient 0 d = 0 := by
    unfold roundedQuotient
    simp only [Nat.zero_div, Nat.zero_mod]
    exact if_neg (by omega)
  rw [nearestMagnitude_eq_min, unboundedMagnitude, hshift, hquotient, Nat.zero_mul]
  rfl

/-- The 2^54th part: at most half a step of any number. -/
def halfStep : ℚ :=
  1 / 18014398509481984

/-- What lies below the middle between a number and the next one is rounded to nothing greater than that number. -/
theorem unboundedMagnitude_le {p : Nat} (hden : 0 < den) (h : (num / den : ℚ) < patternUnits p + step p / 2) :
    unboundedMagnitude num den ≤ p := by
  by_contra hnot
  obtain ⟨n, hn⟩ := Nat.exists_eq_add_of_le (Nat.lt_of_not_le hnot)
  have hlimit : (patternUnits p + step p : ℚ) ≤ 2 * fractionLimit * step p := by
    exact_mod_cast patternUnits_add_step_le p
  have hpos : (0 : ℚ) < step p := by exact_mod_cast step_pos p
  have hgrid : (gridStep num den : ℚ) ≤ step p := by exact_mod_cast gridStep_le hden (by linarith)
  have hnext : (patternUnits p + step p : ℚ) ≤ patternUnits (unboundedMagnitude num den) := by
    have hle := patternUnits_add_le (p + 1) n
    rw [← Nat.succ_eq_add_one, ← hn] at hle
    exact_mod_cast Nat.le_trans (Nat.le_of_eq (patternUnits_succ p).symm) (Nat.le_trans (Nat.le_add_right _ _) hle)
  have hdown := (unboundedMagnitude_half num hden).2
  linarith

/-- What lies closer than the 2^54th part of a number is rounded to it. -/
theorem nearestMagnitude_eq {p : Nat} (hp : p < infinityPattern) (hden : 0 < den)
    (hhigh : (num / den : ℚ) < patternUnits p * (1 + halfStep))
    (hlow : patternUnits p * (1 - halfStep) < num / den) :
    nearestMagnitude num den = p := by
  have hlimit : (fractionLimit : ℚ) = 4503599627370496 := by unfold fractionLimit; norm_num
  have hstep : (patternUnits p + step p : ℚ) ≤ 2 * fractionLimit * step p := by
    exact_mod_cast patternUnits_add_step_le p
  have hpos : (0 : ℚ) < step p := by exact_mod_cast step_pos p
  rw [hlimit] at hstep
  unfold halfStep at hhigh hlow
  have hle : unboundedMagnitude num den ≤ p := unboundedMagnitude_le hden (by linarith)
  have hge : p ≤ unboundedMagnitude num den := by
    -- Below the number the steps may be half as long, but then the number is as small as its mantissa allows.
    by_contra hnot
    obtain ⟨q, rfl⟩ : ∃ q, p = q + 1 := ⟨p - 1, by omega⟩
    have hbelow : (num / den : ℚ) < patternUnits (q + 1) := by
      by_contra hgreat
      have hmono : nearestMagnitude (patternUnits (q + 1)) 1 ≤ nearestMagnitude num den :=
        nearestMagnitude_mono_rat Nat.one_pos hden (by push_cast; linarith)
      rw [nearestMagnitude_patternUnits hp, nearestMagnitude_eq_min] at hmono
      omega
    have hprevious : (patternUnits q + step q : ℚ) ≤ 2 * 4503599627370496 * step q := by
      rw [← hlimit]
      exact_mod_cast patternUnits_add_step_le q
    have hnext : (patternUnits (q + 1) : ℚ) = patternUnits q + step q := by exact_mod_cast patternUnits_succ q
    have hgrid : (gridStep num den : ℚ) ≤ step q := by
      exact_mod_cast gridStep_le hden (by rw [hlimit]; linarith)
    obtain ⟨n, hn⟩ := Nat.exists_eq_add_of_le (Nat.le_of_lt_succ (Nat.lt_of_not_le hnot))
    have hmono : (patternUnits (unboundedMagnitude num den) : ℚ) ≤ patternUnits q := by
      have hadd := patternUnits_add_le (unboundedMagnitude num den) n
      rw [← hn] at hadd
      exact_mod_cast Nat.le_trans (Nat.le_add_right _ _) hadd
    have hup := (unboundedMagnitude_half num hden).1
    linarith
  rw [nearestMagnitude_eq_min, Nat.le_antisymm hle hge]
  exact min_eq_left (Nat.le_of_lt hp)

/-- A quotient that is greater by some of the 2^53th parts is rounded to a number as many steps on. -/
theorem nearestMagnitude_le_add {n : Nat} (hn : 0 < n) (hden : 0 < den) (hden' : 0 < den')
    (h : (num' / den' : ℚ) ≤ num / den * (1 + n * (2 * halfStep))) :
    nearestMagnitude num' den' ≤ nearestMagnitude num den + n := by
  have hlimit : (fractionLimit : ℚ) = 4503599627370496 := by unfold fractionLimit; norm_num
  have hup := (unboundedMagnitude_half num hden).1
  have hlt := lt_gridStep num hden
  -- The steps between numbers are no smaller there than those of the grid that the quotient was rounded on.
  have hgrid : (gridStep num den : ℚ) ≤ step (unboundedMagnitude num den) := by
    have hleading := le_unboundedQuotient num hden
    refine Nat.cast_le.mpr (Nat.pow_le_pow_right (by decide) ?_)
    unfold unboundedMagnitude
    unfold gridStep at hleading
    unfold fractionLimit at hleading ⊢
    omega
  have hsteps : (patternUnits (unboundedMagnitude num den) + n * step (unboundedMagnitude num den) : ℚ) ≤
      patternUnits (unboundedMagnitude num den + n) := by
    exact_mod_cast patternUnits_add_le (unboundedMagnitude num den) n
  have hstep : (step (unboundedMagnitude num den) : ℚ) ≤ step (unboundedMagnitude num den + n) := by
    exact_mod_cast step_mono (Nat.le_add_right _ n)
  have hn' : (0 : ℚ) < n := by exact_mod_cast hn
  have hbound : unboundedMagnitude num' den' ≤ unboundedMagnitude num den + n := by
    refine unboundedMagnitude_le hden' ?_
    rw [hlimit] at hlt
    unfold halfStep at h
    have hgrow : (num / den * (n * (2 * (1 / 18014398509481984))) : ℚ) < n * gridStep num den := by
      have hmul := mul_lt_mul_of_pos_left hlt hn'
      linarith
    have hmany : (n * gridStep num den : ℚ) ≤ n * step (unboundedMagnitude num den) :=
      mul_le_mul_of_nonneg_left hgrid (le_of_lt hn')
    linarith
  rw [nearestMagnitude_eq_min, nearestMagnitude_eq_min]
  omega

theorem nearestMagnitude_congr (hden : 0 < den) (hden' : 0 < den') (h : (num / den : ℚ) = num' / den') :
    nearestMagnitude num den = nearestMagnitude num' den' :=
  Nat.le_antisymm (nearestMagnitude_mono_rat hden hden' (le_of_eq h))
    (nearestMagnitude_mono_rat hden' hden (le_of_eq h.symm))

/-- The grid of a quotient between its least and its greatest mantissa. -/
theorem gridShift_eq {s : Nat} (hlow : Nat.pow 2 (s + 52) ≤ num / den) (hhigh : num / den < Nat.pow 2 (s + 53)) :
    gridShift num den = s := by
  have hpos : 0 < Nat.pow 2 (s + 52) := Nat.pow_pos (by decide)
  have hlog : (num / den).log2 = s + 52 := (Nat.log2_eq_iff (by omega)).mpr ⟨hlow, hhigh⟩
  rw [gridShift, hlog, Nat.add_sub_cancel]

end

/-- At most some steps between two patterns. -/
structure Near (steps p q : Nat) : Prop where
  le : p ≤ q + steps
  ge : q ≤ p + steps

/-! ### Relative errors -/

/-- Neither of two sizes exceeds the other by more than this factor. -/
structure Within (factor a b : ℚ) : Prop where
  le : a ≤ factor * b
  ge : b ≤ factor * a

namespace Within
variable {c c' a b a' b' : ℚ}

theorem refl (a : ℚ) : Within 1 a a :=
  ⟨le_of_eq (one_mul a).symm, le_of_eq (one_mul a).symm⟩

theorem eq (h : Within 1 a b) : a = b :=
  le_antisymm (le_of_le_of_eq h.le (one_mul b)) (le_of_le_of_eq h.ge (one_mul a))

theorem trans (hc : 0 ≤ c) (hc' : 0 ≤ c') (h : Within c a b) (h' : Within c' b b') : Within (c * c') a b' := by
  constructor
  · calc a ≤ c * b := h.le
      _ ≤ c * (c' * b') := mul_le_mul_of_nonneg_left h'.le hc
      _ = c * c' * b' := by ring
  · calc b' ≤ c' * b := h'.ge
      _ ≤ c' * (c * a) := mul_le_mul_of_nonneg_left h.ge hc'
      _ = c * c' * a := by ring

theorem mul (hc : 0 ≤ c) (ha : 0 ≤ a) (hb : 0 ≤ b) (ha' : 0 ≤ a') (hb' : 0 ≤ b') (h : Within c a b)
    (h' : Within c' a' b') : Within (c * c') (a * a') (b * b') := by
  constructor
  · calc a * a' ≤ c * b * (c' * b') := mul_le_mul h.le h'.le ha' (mul_nonneg hc hb)
      _ = c * c' * (b * b') := by ring
  · calc b * b' ≤ c * a * (c' * a') := mul_le_mul h.ge h'.ge hb' (mul_nonneg hc ha)
      _ = c * c' * (a * a') := by ring

theorem mul_right (hb' : 0 ≤ b') (h : Within c a b) : Within c (a * b') (b * b') := by
  constructor
  · calc a * b' ≤ c * b * b' := mul_le_mul_of_nonneg_right h.le hb'
      _ = c * (b * b') := mul_assoc c b b'
  · calc b * b' ≤ c * a * b' := mul_le_mul_of_nonneg_right h.ge hb'
      _ = c * (a * b') := mul_assoc c a b'

theorem inv (ha : 0 < a) (hb : 0 < b) (h : Within c a b) : Within c a⁻¹ b⁻¹ := by
  have hle := h.le
  have hge := h.ge
  constructor
  · rw [inv_le_iff_one_le_mul₀ ha]
    calc (1 : ℚ) = b * b⁻¹ := (mul_inv_cancel₀ (ne_of_gt hb)).symm
      _ ≤ c * a * b⁻¹ := mul_le_mul_of_nonneg_right hge (inv_nonneg.mpr (le_of_lt hb))
      _ = c * b⁻¹ * a := by ring
  · rw [inv_le_iff_one_le_mul₀ hb]
    calc (1 : ℚ) = a * a⁻¹ := (mul_inv_cancel₀ (ne_of_gt ha)).symm
      _ ≤ c * b * a⁻¹ := mul_le_mul_of_nonneg_right hle (inv_nonneg.mpr (le_of_lt ha))
      _ = c * a⁻¹ * b := by ring

theorem div (hc : 0 ≤ c) (ha : 0 ≤ a) (hb : 0 ≤ b) (ha' : 0 < a') (hb' : 0 < b') (h : Within c a b)
    (h' : Within c' a' b') : Within (c * c') (a / a') (b / b') := by
  rw [div_eq_mul_inv, div_eq_mul_inv]
  exact h.mul hc ha hb (le_of_lt (inv_pos.mpr ha')) (le_of_lt (inv_pos.mpr hb')) (h'.inv ha' hb')

/-- Quotients that differ by few of the 2^53th parts are rounded to numbers few steps apart. -/
theorem near {num den num' den' steps : Nat} (hsteps : 0 < steps) (hden : 0 < den) (hden' : 0 < den')
    (hc : c ≤ 1 + steps * (2 * halfStep)) (h : Within c (num / den) (num' / den')) :
    Near steps (nearestMagnitude num den) (nearestMagnitude num' den') := by
  have hquotient : (0 : ℚ) ≤ num / den := by positivity
  have hquotient' : (0 : ℚ) ≤ num' / den' := by positivity
  refine ⟨nearestMagnitude_le_add hsteps hden' hden ?_, nearestMagnitude_le_add hsteps hden hden' ?_⟩
  · rw [mul_comm]
    exact le_trans h.le (mul_le_mul_of_nonneg_right hc hquotient')
  · rw [mul_comm]
    exact le_trans h.ge (mul_le_mul_of_nonneg_right hc hquotient)

/-- Equal quotients are rounded to one number. -/
theorem magnitude_eq {num den num' den' : Nat} (hden : 0 < den) (hden' : 0 < den')
    (h : Within 1 (num / den) (num' / den')) : nearestMagnitude num den = nearestMagnitude num' den' :=
  nearestMagnitude_congr hden hden' h.eq

end Within

/-- A quotient that is not too small is rounded with a small relative error. -/
theorem within_of_nearest {num den : Nat} {error : ℚ} (hden : 0 < den)
    (hfinite : nearestMagnitude num den < infinityPattern) (herror : 2 * halfStep ≤ error) (hone : error < 1)
    (hsize : 1 / 2 ≤ error * (num / den)) :
    Within (1 / (1 - error)) (patternUnits (nearestMagnitude num den)) (num / den) := by
  have hunbounded : nearestMagnitude num den = unboundedMagnitude num den := by
    rw [nearestMagnitude_eq_min] at hfinite ⊢
    omega
  have hpos : (0 : ℚ) < den := by exact_mod_cast hden
  have hquotient : (0 : ℚ) ≤ num / den := by positivity
  -- Half a step of the grid is small against the quotient: by assumption where the grid is finest, and else because
  -- the quotient is at least 2^52 of its steps.
  have hstep : (gridStep num den / 2 : ℚ) ≤ error * (num / den) := by
    rcases Nat.eq_zero_or_pos (gridShift num den) with hzero | hgrid
    · have hgridStep : gridStep num den = 1 := by rw [gridStep, hzero, Nat.pow_eq, Nat.pow_zero]
      rw [hgridStep, Nat.cast_one]
      exact hsize
    · have hle : (fractionLimit * gridStep num den : ℚ) ≤ num / den := by
        rw [le_div_iff₀ hpos]
        exact_mod_cast Nat.le_trans (Nat.le_of_eq (by unfold gridStep; ring)) (le_of_gridShift_pos hgrid)
      calc (gridStep num den / 2 : ℚ) = 2 * halfStep * (fractionLimit * gridStep num den) := by
            unfold halfStep fractionLimit
            push_cast
            ring
        _ ≤ 2 * halfStep * (num / den) := mul_le_mul_of_nonneg_left hle (by unfold halfStep; norm_num)
        _ ≤ error * (num / den) := mul_le_mul_of_nonneg_right herror hquotient
  obtain ⟨hup, hdown⟩ := unboundedMagnitude_half num hden
  have hrest : 0 < 1 - error := by linarith
  have hnonneg : 0 ≤ error := le_trans (by unfold halfStep; norm_num) herror
  rw [hunbounded]
  constructor
  · rw [div_mul_eq_mul_div, one_mul, le_div_iff₀ hrest]
    have hsquare := mul_le_mul_of_nonneg_right (le_trans hdown (add_le_add_right hstep _)) (le_of_lt hrest)
    have hloss : 0 ≤ error * error * (num / den) := by positivity
    linarith [hsquare, hloss]
  · rw [div_mul_eq_mul_div, one_mul, le_div_iff₀ hrest]
    linarith

end ClusterConsole.Binary64
