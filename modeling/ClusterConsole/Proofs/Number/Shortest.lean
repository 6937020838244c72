import Mathlib.Algebra.Order.Field.Power
import ClusterConsole.Number.Shortest
import ClusterConsole.Proofs.Number.Nearest

/-! # The shortest decimal reads back

Among seventeen digits there is always a decimal so close to a number that it reads back, so the search for the shortest
one ends with a decimal that does. -/

namespace ClusterConsole

open Binary64

namespace Scientific

/-- The number that a decimal stands for. -/
def value (d : Scientific) : ℚ :=
  d.digits * (10 : ℚ) ^ d.exponent

/-- The pattern of the binary number nearest to a decimal. -/
def pattern (d : Scientific) : Nat :=
  nearestMagnitude (d.numerator * unitsPerOne) d.denominator

theorem denominator_pos (d : Scientific) : 0 < d.denominator :=
  Nat.pow_pos (by decide)

/-- A power of ten and the power that divides, of which one is one. -/
theorem ten_zpow_eq (e : Int) : (10 : ℚ) ^ e = (Nat.pow 10 e.toNat : ℕ) / (Nat.pow 10 (-e).toNat : ℕ) := by
  rcases Int.le_total 0 e with h | h
  · obtain ⟨n, rfl⟩ := Int.eq_ofNat_of_zero_le h
    have hzero : (-(n : Int)).toNat = 0 := by omega
    rw [hzero, Int.toNat_natCast, zpow_natCast]
    simp
  · obtain ⟨n, hn⟩ := Int.eq_ofNat_of_zero_le (Int.neg_nonneg_of_nonpos h)
    obtain rfl : e = -n := by omega
    have hzero : (-(n : Int)).toNat = 0 := by omega
    rw [hzero, Int.neg_neg, Int.toNat_natCast, zpow_neg, zpow_natCast]
    simp

theorem value_mul_unitsPerOne (d : Scientific) :
    ((d.numerator * unitsPerOne : ℕ) / d.denominator : ℚ) = d.value * unitsPerOne := by
  rw [value, ten_zpow_eq, numerator, denominator]
  push_cast
  ring

theorem pattern_congr {d d' : Scientific} (h : d.value = d'.value) : d.pattern = d'.pattern :=
  nearestMagnitude_congr d.denominator_pos d'.denominator_pos (by
    rw [value_mul_unitsPerOne, value_mul_unitsPerOne, h])

theorem pattern_mono {d d' : Scientific} (h : d.value ≤ d'.value) : d.pattern ≤ d'.pattern :=
  nearestMagnitude_mono_rat d.denominator_pos d'.denominator_pos (by
    rw [value_mul_unitsPerOne, value_mul_unitsPerOne]
    exact mul_le_mul_of_nonneg_right h (Nat.cast_nonneg _))

theorem pattern_eq_zero {d : Scientific} (h : d.digits = 0) : d.pattern = 0 := by
  have hnumerator : d.numerator * unitsPerOne = 0 := by rw [numerator, h, Nat.zero_mul, Nat.zero_mul]
  rw [pattern, hnumerator]
  exact nearestMagnitude_zero _

theorem value_one (e : Int) : (⟨1, e⟩ : Scientific).value = (10 : ℚ) ^ e := by
  rw [value, Nat.cast_one, one_mul]

/-- What is not rounded to zero. -/
theorem lt_value {d : Scientific} (h : 0 < d.pattern) : (10 : ℚ) ^ (-325 : Int) < d.value := by
  have hzero : (⟨1, -325⟩ : Scientific).pattern = 0 := by decide +kernel
  rw [← value_one]
  by_contra hle
  have hmono := pattern_mono (not_lt.mp hle)
  omega

/-- What is not rounded to infinity. -/
theorem value_lt {d : Scientific} (h : d.pattern < infinityPattern) : d.value < (10 : ℚ) ^ (309 : Int) := by
  have hinfinity : (⟨1, 309⟩ : Scientific).pattern = infinityPattern := by decide +kernel
  rw [← value_one]
  by_contra hle
  have hmono := pattern_mono (not_lt.mp hle)
  omega

theorem lt_exponent {d : Scientific} {places : Nat} (h : 0 < d.pattern) (hdigits : d.digits ≤ Nat.pow 10 places) :
    -325 - (places : Int) < d.exponent := by
  by_contra hsmall
  have hmany : (d.digits : ℚ) ≤ 10 ^ (places : Int) := by exact_mod_cast hdigits
  have hle : d.value ≤ (10 : ℚ) ^ (-325 : Int) := by
    calc d.value ≤ 10 ^ (places : Int) * (10 : ℚ) ^ d.exponent :=
          mul_le_mul_of_nonneg_right hmany (zpow_nonneg (by norm_num) _)
      _ = (10 : ℚ) ^ (places + d.exponent) := (zpow_add₀ (by norm_num) _ _).symm
      _ ≤ (10 : ℚ) ^ (-325 : Int) := zpow_le_zpow_right₀ (by norm_num) (by omega)
  exact absurd (lt_value h) (not_lt.mpr hle)

theorem exponent_lt {d : Scientific} (hpos : 0 < d.digits) (h : d.pattern < infinityPattern) : d.exponent < 309 := by
  by_contra hgreat
  have hone : (1 : ℚ) ≤ d.digits := by exact_mod_cast hpos
  have hle : (10 : ℚ) ^ (309 : Int) ≤ d.value := by
    calc (10 : ℚ) ^ (309 : Int) ≤ (10 : ℚ) ^ d.exponent := zpow_le_zpow_right₀ (by norm_num) (by omega)
      _ ≤ d.value := le_mul_of_one_le_left (zpow_nonneg (by norm_num) _) hone
  exact absurd (value_lt h) (not_lt.mpr hle)

theorem nearest_eq (d : Scientific) : d.nearest = ofMagnitude false d.pattern := rfl

/-! ### Zeros at the end -/

theorem trimmed_go (fuel : Nat) (d : Scientific) :
    (trimmed.go fuel d).value = d.value ∧ (trimmed.go fuel d).digits ≤ d.digits := by
  induction fuel generalizing d with
  | zero => exact ⟨rfl, Nat.le_refl _⟩
  | succ fuel ih =>
    rw [trimmed.go]
    split
    · rename_i hzero
      obtain ⟨hvalue, hdigits⟩ := ih ⟨d.digits / 10, d.exponent + 1⟩
      refine ⟨hvalue.trans ?_, Nat.le_trans hdigits (Nat.div_le_self _ _)⟩
      have hten : (d.digits : ℚ) = 10 * (d.digits / 10 : ℕ) := by
        exact_mod_cast (Nat.mul_div_cancel' (Nat.dvd_of_mod_eq_zero hzero)).symm
      rw [value, value, hten, zpow_add_one₀ (by norm_num)]
      ring
    · exact ⟨rfl, Nat.le_refl _⟩

theorem value_trimmed (d : Scientific) : d.trimmed.value = d.value :=
  (trimmed_go d.digits d).1

theorem digits_trimmed_le (d : Scientific) : d.trimmed.digits ≤ d.digits :=
  (trimmed_go d.digits d).2

end Scientific

namespace Binary64

/-- A positive finite number. -/
structure Positive (x : Binary64) : Prop where
  finite : x.isFinite = true
  pos : 0 < x.magnitude
  unsigned : x = ofMagnitude false x.magnitude

section
variable {x : Binary64}

theorem Positive.units_pos (h : x.Positive) : 0 < x.units := by
  have hle := patternUnits_add_le 0 x.magnitude
  rw [Nat.zero_add] at hle
  exact Nat.lt_of_lt_of_le (Nat.mul_pos h.pos (step_pos 0)) (Nat.le_trans (Nat.le_add_left _ _) hle)

/-- The size of a number. -/
def sizeValue (x : Binary64) : ℚ :=
  x.units / unitsPerOne

theorem Positive.sizeValue_pos (h : x.Positive) : 0 < x.sizeValue :=
  div_pos (by exact_mod_cast h.units_pos) (by exact_mod_cast unitsPerOne_pos)

/-- A number of `k + 1` digits. -/
theorem digits_length_bounds {n k : Nat} (hn : 0 < n) (hlength : (Decimal.digits n).length = k + 1) :
    Nat.pow 10 k ≤ n ∧ n < Nat.pow 10 (k + 1) := by
  constructor
  · cases k with
    | zero => exact hn
    | succ k =>
      by_contra hlt
      have hle := (Nat.length_toDigits_le_iff (by decide : 1 < 10) (Nat.succ_pos k)).mpr (Nat.lt_of_not_le hlt)
      rw [Decimal.digits] at hlength
      omega
  · exact (Nat.length_toDigits_le_iff (by decide : 1 < 10) (Nat.succ_pos k)).mp (Nat.le_of_eq hlength)

/-- The digits of the whole part of a multiple by a power of ten tell the power of ten of the first digit. -/
theorem ten_zpow_bounds {units places k : Nat} (hpos : 0 < units * Nat.pow 10 places / unitsPerOne)
    (hlength : (Decimal.digits (units * Nat.pow 10 places / unitsPerOne)).length = k + 1) :
    (10 : ℚ) ^ ((k : Int) - places) ≤ units / unitsPerOne ∧
      (units / unitsPerOne : ℚ) < (10 : ℚ) ^ ((k : Int) + 1 - places) := by
  obtain ⟨hlow, hhigh⟩ := digits_length_bounds hpos hlength
  have hunits : (0 : ℚ) < unitsPerOne := by exact_mod_cast unitsPerOne_pos
  have hpow : (0 : ℚ) < 10 ^ places := by positivity
  rw [Nat.le_div_iff_mul_le unitsPerOne_pos] at hlow
  rw [Nat.div_lt_iff_lt_mul unitsPerOne_pos] at hhigh
  rw [zpow_sub₀ (by norm_num), zpow_sub₀ (by norm_num), zpow_natCast, zpow_natCast]
  constructor
  · rw [div_le_div_iff₀ hpow hunits]
    exact_mod_cast hlow
  · rw [div_lt_div_iff₀ hunits hpow]
    exact_mod_cast hhigh

/-- The power of ten of the first digit. -/
theorem Positive.leadingPower_bounds (h : x.Positive) :
    (10 : ℚ) ^ x.leadingPower ≤ x.sizeValue ∧ x.sizeValue < (10 : ℚ) ^ (x.leadingPower + 1) := by
  have hfirst : 0 < x.units * Nat.pow 10 330 / unitsPerOne := by
    have hgreat : unitsPerOne ≤ Nat.pow 10 330 := by decide +kernel
    generalize Nat.pow 10 330 = power at hgreat ⊢
    exact Nat.div_pos (Nat.le_trans hgreat (Nat.le_mul_of_pos_left power h.units_pos)) unitsPerOne_pos
  obtain ⟨k, hk⟩ : ∃ k, (Decimal.digits (x.units * Nat.pow 10 330 / unitsPerOne)).length = k + 1 := by
    refine Nat.exists_eq_succ_of_ne_zero fun hzero => ?_
    rw [List.length_eq_zero_iff] at hzero
    exact Nat.toDigits_ne_nil hzero
  have hleading : x.leadingPower = (k : Int) - (330 : Nat) := by
    unfold leadingPower
    omega
  obtain ⟨hlow, hhigh⟩ := ten_zpow_bounds hfirst hk
  rw [hleading, sizeValue, sub_add_eq_add_sub]
  exact ⟨hlow, hhigh⟩

/-! ### Grids -/

/-- A decimal that is close enough reads back. -/
theorem pattern_eq_of_close (h : x.Positive) {d : Scientific} (hhigh : d.value < x.sizeValue * (1 + halfStep))
    (hlow : x.sizeValue * (1 - halfStep) < d.value) : d.pattern = x.magnitude := by
  have hunits : (0 : ℚ) < unitsPerOne := by exact_mod_cast unitsPerOne_pos
  have hsize : x.sizeValue * unitsPerOne = patternUnits x.magnitude := div_mul_cancel₀ _ (ne_of_gt hunits)
  refine nearestMagnitude_eq (of_decide_eq_true h.finite) d.denominator_pos ?_ ?_
  · rw [Scientific.value_mul_unitsPerOne, ← hsize]
    calc d.value * unitsPerOne < x.sizeValue * (1 + halfStep) * unitsPerOne := mul_lt_mul_of_pos_right hhigh hunits
      _ = x.sizeValue * unitsPerOne * (1 + halfStep) := by ring
  · rw [Scientific.value_mul_unitsPerOne, ← hsize]
    calc x.sizeValue * unitsPerOne * (1 - halfStep) = x.sizeValue * (1 - halfStep) * unitsPerOne := by ring
      _ < d.value * unitsPerOne := mul_lt_mul_of_pos_right hlow hunits

/-- The digits of the neighbour below on a grid. -/
def lowDigits (x : Binary64) (exponent : Int) : Nat :=
  x.units * Nat.pow 10 (-exponent).toNat / (unitsPerOne * Nat.pow 10 exponent.toNat)

theorem lowDigits_bounds (x : Binary64) (exponent : Int) :
    (x.lowDigits exponent : ℚ) * 10 ^ exponent ≤ x.sizeValue ∧
      x.sizeValue < (x.lowDigits exponent + 1) * (10 : ℚ) ^ exponent := by
  have hunits : (0 : ℚ) < unitsPerOne := by exact_mod_cast unitsPerOne_pos
  have hup : (0 : ℚ) < (Nat.pow 10 exponent.toNat : ℕ) := by exact_mod_cast Nat.pow_pos (by decide)
  have hdown : (0 : ℚ) < (Nat.pow 10 (-exponent).toNat : ℕ) := by exact_mod_cast Nat.pow_pos (by decide)
  have hden : 0 < unitsPerOne * Nat.pow 10 exponent.toNat := Nat.mul_pos unitsPerOne_pos (Nat.pow_pos (by decide))
  have hlow := Nat.div_mul_le_self (x.units * Nat.pow 10 (-exponent).toNat) (unitsPerOne * Nat.pow 10 exponent.toNat)
  have hhigh := Nat.lt_div_mul_add (a := x.units * Nat.pow 10 (-exponent).toNat) hden
  rw [← Nat.add_one_mul] at hhigh
  rw [Scientific.ten_zpow_eq, sizeValue]
  unfold lowDigits
  generalize x.units * Nat.pow 10 (-exponent).toNat / (unitsPerOne * Nat.pow 10 exponent.toNat) = n at hlow hhigh ⊢
  constructor
  · rw [mul_div_assoc', div_le_div_iff₀ hdown hunits]
    exact_mod_cast Nat.le_trans (Nat.le_of_eq (by ring)) hlow
  · rw [mul_div_assoc', div_lt_div_iff₀ hunits hdown]
    exact_mod_cast Nat.lt_of_lt_of_le hhigh (Nat.le_of_eq (by ring))

theorem pattern_of_nearest {d : Scientific} (h : d.nearest = x) : d.pattern = x.magnitude := by
  rw [← h, Scientific.nearest_eq]
  exact (magnitude_ofMagnitude (nearestMagnitude_le _ _)).symm

theorem Positive.nearest_of_pattern (h : x.Positive) {d : Scientific} (hd : d.pattern = x.magnitude) :
    d.nearest = x := by
  rw [Scientific.nearest_eq, hd]
  exact h.unsigned.symm

/-- A neighbour that is taken reads back. -/
theorem onGrid?_eq_some {tie : Tie} {exponent : Int} {d : Scientific} (h : x.onGrid? tie exponent = some d) :
    d.digits ≤ x.lowDigits exponent + 1 ∧ d.pattern = x.magnitude := by
  unfold onGrid? at h
  unfold lowDigits
  generalize x.units * Nat.pow 10 (-exponent).toNat = num at h ⊢
  generalize unitsPerOne * Nat.pow 10 exponent.toNat = den at h ⊢
  dsimp only at h
  split at h
  · rename_i hlow
    obtain rfl := Option.some.inj h
    split
    · rename_i hhigh
      exact ⟨Nat.le_refl _, pattern_of_nearest hhigh.1⟩
    · exact ⟨Nat.le_succ _, pattern_of_nearest hlow⟩
  · split at h
    · rename_i hhigh
      obtain rfl := Option.some.inj h
      exact ⟨Nat.le_refl _, pattern_of_nearest hhigh⟩
    · cases h

/-- A neighbour is taken if one of them reads back. -/
theorem Positive.isSome_onGrid? (h : x.Positive) (tie : Tie) {exponent : Int}
    (hreads : (⟨x.lowDigits exponent, exponent⟩ : Scientific).pattern = x.magnitude ∨
      (⟨x.lowDigits exponent + 1, exponent⟩ : Scientific).pattern = x.magnitude) : (x.onGrid? tie exponent).isSome := by
  unfold lowDigits at hreads
  unfold onGrid?
  generalize x.units * Nat.pow 10 (-exponent).toNat = num at hreads ⊢
  generalize unitsPerOne * Nat.pow 10 exponent.toNat = den at hreads ⊢
  dsimp only
  split
  · rfl
  · rename_i hlow
    split
    · rfl
    · rename_i hhigh
      rcases hreads with hreads | hreads
      · exact absurd (h.nearest_of_pattern hreads) hlow
      · exact absurd (h.nearest_of_pattern hreads) hhigh

/-- On a grid of a 10^16th part of a number at most, one of its neighbours reads back. -/
theorem Positive.neighbour_reads (h : x.Positive) {exponent : Int}
    (hgrid : (10 : ℚ) ^ exponent * 10 ^ 16 ≤ x.sizeValue) :
    (⟨x.lowDigits exponent, exponent⟩ : Scientific).pattern = x.magnitude ∨
      (⟨x.lowDigits exponent + 1, exponent⟩ : Scientific).pattern = x.magnitude := by
  obtain ⟨hlow, hhigh⟩ := x.lowDigits_bounds exponent
  have hstep : (0 : ℚ) < 10 ^ exponent := zpow_pos (by norm_num) exponent
  have hpos := h.sizeValue_pos
  have hhalf : (10 : ℚ) ^ exponent / 2 < x.sizeValue * halfStep := by
    unfold halfStep
    linarith
  by_cases hnear : x.sizeValue - x.lowDigits exponent * (10 : ℚ) ^ exponent ≤ (10 : ℚ) ^ exponent / 2
  · left
    have hvalue : (⟨x.lowDigits exponent, exponent⟩ : Scientific).value =
        x.lowDigits exponent * (10 : ℚ) ^ exponent := rfl
    refine pattern_eq_of_close h ?_ ?_ <;> rw [hvalue] <;> linarith
  · right
    have hvalue : (⟨x.lowDigits exponent + 1, exponent⟩ : Scientific).value =
        (x.lowDigits exponent + 1) * (10 : ℚ) ^ exponent := by
      rw [Scientific.value]
      push_cast
      rfl
    refine pattern_eq_of_close h ?_ ?_ <;> rw [hvalue] <;> linarith

/-! ### The search -/

/-- On a grid that is not too fine the neighbours have at most seventeen digits. -/
theorem lowDigits_lt {exponent : Int} (h : x.sizeValue < (10 : ℚ) ^ (exponent + 17)) :
    x.lowDigits exponent < Nat.pow 10 17 := by
  have hstep : (0 : ℚ) < 10 ^ exponent := zpow_pos (by norm_num) exponent
  have hlow := (x.lowDigits_bounds exponent).1
  rw [zpow_add₀ (by norm_num), mul_comm] at h
  have hlt : (x.lowDigits exponent : ℚ) < 10 ^ (17 : Int) :=
    lt_of_mul_lt_mul_right (lt_of_le_of_lt hlow h) (le_of_lt hstep)
  exact_mod_cast hlt

/-- From a grid on that is not too fine to one that is fine enough, the search ends with a decimal that reads back. -/
theorem Positive.shortestFrom_reads (h : x.Positive) (tie : Tie) (grids : Nat) {exponent : Int}
    (hcoarse : x.sizeValue < (10 : ℚ) ^ (exponent - grids + 17))
    (hfine : (10 : ℚ) ^ (exponent - grids + 16) ≤ x.sizeValue) :
    (x.shortestFrom tie exponent (grids + 1)).digits ≤ Nat.pow 10 17 ∧
      (x.shortestFrom tie exponent (grids + 1)).pattern = x.magnitude := by
  induction grids generalizing exponent with
  | zero =>
    rw [Nat.cast_zero, sub_zero] at hcoarse hfine
    have hgrid : (10 : ℚ) ^ exponent * 10 ^ 16 ≤ x.sizeValue := by
      rw [zpow_add₀ (by norm_num)] at hfine
      exact_mod_cast hfine
    -- On the last grid one of the two neighbours reads back, so the search does not end without any.
    obtain ⟨d, hd⟩ := Option.isSome_iff_exists.mp (h.isSome_onGrid? tie (h.neighbour_reads hgrid))
    obtain ⟨hdigits, hpattern⟩ := onGrid?_eq_some hd
    rw [shortestFrom, hd, Option.getD_some]
    exact ⟨Nat.le_trans hdigits (lowDigits_lt hcoarse), hpattern⟩
  | succ grids ih =>
    rw [shortestFrom]
    cases hd : x.onGrid? tie exponent with
    | some d =>
      obtain ⟨hdigits, hpattern⟩ := onGrid?_eq_some hd
      have hbounded : x.lowDigits exponent < Nat.pow 10 17 := by
        refine lowDigits_lt (lt_of_lt_of_le hcoarse (zpow_le_zpow_right₀ (by norm_num) ?_))
        omega
      rw [Option.getD_some]
      exact ⟨Nat.le_trans hdigits hbounded, hpattern⟩
    | none =>
      have hexponent : exponent - (grids + 1 : Nat) = exponent - 1 - grids := by omega
      rw [hexponent] at hcoarse hfine
      rw [Option.getD_none]
      exact ih hcoarse hfine

/-- The shortest decimal of a number has at most seventeen digits and reads back. -/
theorem Positive.shortest_reads (h : x.Positive) (tie : Tie) : 0 < (x.shortest tie).digits ∧
    (x.shortest tie).digits ≤ Nat.pow 10 17 ∧ (x.shortest tie).pattern = x.magnitude := by
  obtain ⟨hlow, hhigh⟩ := h.leadingPower_bounds
  have hfirst : x.leadingPower - (16 : Nat) + 16 = x.leadingPower := by omega
  have hlast : x.leadingPower - (16 : Nat) + 17 = x.leadingPower + 1 := by omega
  obtain ⟨hdigits, hpattern⟩ := h.shortestFrom_reads tie 16 (by rwa [hlast]) (by rwa [hfirst])
  have hreads : (x.shortest tie).pattern = x.magnitude :=
    (Scientific.pattern_congr (Scientific.value_trimmed _)).trans hpattern
  refine ⟨Nat.pos_of_ne_zero fun hzero => ?_, Nat.le_trans (Scientific.digits_trimmed_le _) hdigits, hreads⟩
  have hnothing : (x.shortest tie).pattern = 0 := Scientific.pattern_eq_zero hzero
  have hpos := h.pos
  omega

/-- The powers of ten that the digits of the shortest decimal of a number are multiplied by. -/
theorem Positive.shortest_exponent (h : x.Positive) (tie : Tie) :
    -342 < (x.shortest tie).exponent ∧ (x.shortest tie).exponent < 309 := by
  obtain ⟨hpos, hdigits, hpattern⟩ := h.shortest_reads tie
  have hpositive : 0 < (x.shortest tie).pattern := Nat.lt_of_lt_of_eq h.pos hpattern.symm
  have hfinite : (x.shortest tie).pattern < infinityPattern :=
    Nat.lt_of_le_of_lt (Nat.le_of_eq hpattern) (of_decide_eq_true h.finite)
  have hlow := Scientific.lt_exponent hpositive hdigits
  exact ⟨by omega, Scientific.exponent_lt hpos hfinite⟩

end

end Binary64

end ClusterConsole
