import ClusterConsole.Proofs.Json.Scale

/-! # Reading back what is written for a binary number

The literal of a finite number is read as a finite number of the same sign, as the same one when its digits and the power
of ten need no rounding, and else as one few steps beside it. -/

namespace ClusterConsole.Json
open Binary64

/-! ### No product is too great -/

/-- Halfway between the greatest number and the one before it. -/
def beforeGreatest : Nat :=
  Nat.pow 2 1024 - 3 * Nat.pow 2 970

theorem shortest_greatest : (ofMagnitude false (infinityPattern - 1)).shortest .even = ⟨17976931348623157, 292⟩ := by
  decide +kernel

theorem isFinite_greatest : ((ofNat 17976931348623157).times (powerOfTen 292)).isFinite = true := by
  decide +kernel

/-- The greatest digits that come with a great power of ten. -/
theorem products_bounded : ∀ i < 19, nearestMagnitude
    ((ofNat (min (Nat.pow 10 17) (beforeGreatest / Nat.pow 10 (290 + i)))).units * (powerOfTen (290 + i)).units)
    unitsPerOne < infinityPattern := by
  decide +kernel

theorem isFinite_times {m n : Nat} (hm : m ≤ Nat.pow 10 17) (hn : n ≤ greatestPower)
    (h : m * Nat.pow 10 n ≤ beforeGreatest) : ((ofNat m).times (powerOfTen n)).isFinite = true := by
  obtain ⟨i, hi, hpower, hdigits⟩ : ∃ i < 19, n ≤ 290 + i ∧
      m ≤ min (Nat.pow 10 17) (beforeGreatest / Nat.pow 10 (290 + i)) := by
    rcases Nat.le_total n 290 with hsmall | hgreat
    · refine ⟨0, by decide, hsmall, Nat.le_trans hm (Nat.le_of_eq ?_)⟩
      decide +kernel
    · obtain ⟨i, rfl⟩ := Nat.exists_eq_add_of_le hgreat
      refine ⟨i, by unfold greatestPower at hn; omega, Nat.le_refl _, le_min hm ?_⟩
      exact (Nat.le_div_iff_mul_le (Nat.pow_pos (by decide))).mpr h
  have hword : min (Nat.pow 10 17) (beforeGreatest / Nat.pow 10 (290 + i)) ≤ greatestWord :=
    Nat.le_trans (min_le_left _ _) (by decide)
  have hlast : 290 + i ≤ greatestPower := by
    unfold greatestPower
    omega
  have hdigitUnits := units_le_of_magnitude_le (isFinite_ofWord (Nat.le_trans hdigits hword)) (isFinite_ofWord hword)
    (magnitude_ofNat_mono hdigits)
  have hpowerUnits := units_le_of_magnitude_le (isFinite_powerOfTen hn) (isFinite_powerOfTen hlast)
    (magnitude_ofNat_mono (Nat.pow_le_pow_right (by decide) hpower))
  refine isFinite_ofMagnitude (Nat.lt_of_le_of_lt ?_ (products_bounded i hi))
  refine nearestMagnitude_mono unitsPerOne_pos unitsPerOne_pos (Nat.mul_le_mul_right _ ?_)
  exact Nat.mul_le_mul hdigitUnits hpowerUnits

section
variable {x : Binary64}

theorem isFinite_times_written (hx : x.isFinite = true) {n : Nat} (hexponent : x.written.exponent = n) :
    ((ofNat x.written.digits).times (powerOfTen n)).isFinite = true := by
  have hfinite : x.magnitude < infinityPattern := of_decide_eq_true hx
  have hn : n ≤ greatestPower := by
    have hhigh := (exponent_written hx).2
    unfold greatestPower
    omega
  -- Only the greatest number comes near the overflow, and its decimal is known.
  by_cases hgreatest : x.magnitude = infinityPattern - 1
  · have hwritten : x.written = ⟨17976931348623157, 292⟩ := by
      have hsize : x.size = ofMagnitude false (infinityPattern - 1) := congrArg (ofMagnitude false) hgreatest
      have hzero : x.magnitude ≠ 0 := by
        rw [hgreatest]
        decide
      rw [written, if_neg hzero, hsize, shortest_greatest]
      decide
    rw [hwritten] at hexponent ⊢
    obtain rfl : 292 = n := Int.ofNat.inj hexponent
    exact isFinite_greatest
  · refine isFinite_times (digits_written_le hx) hn (Nat.le_of_not_lt fun hlt => ?_)
    have hbeyond : (⟨beforeGreatest + 1, 0⟩ : Scientific).pattern = infinityPattern - 1 := by decide +kernel
    have hvalue : (⟨beforeGreatest + 1, 0⟩ : Scientific).value ≤ x.written.value := by
      rw [Scientific.value, Scientific.value, hexponent, zpow_zero, mul_one, zpow_natCast]
      have hcast : ((beforeGreatest + 1 : ℕ) : ℚ) ≤ (x.written.digits * Nat.pow 10 n : ℕ) :=
        Nat.cast_le.mpr (Nat.add_one_le_iff.mpr hlt)
      rwa [Nat.cast_mul, Nat.pow_eq, Nat.cast_pow, Nat.cast_ofNat] at hcast
    have hmono := Scientific.pattern_mono hvalue
    rw [hbeyond, pattern_written hx] at hmono
    omega

/-! ### What is read -/

/-- How many steps beside a number its literal may be read: dividing twice adds one. -/
def drift (x : Binary64) : Nat :=
  if -308 ≤ x.written.exponent then 2 else 3

/-- The digits and the power of ten in the literal of a number need no rounding. -/
structure Exact (x : Binary64) : Prop where
  digits : x.written.digits ≤ Nat.pow 2 53
  low : -22 ≤ x.written.exponent
  high : x.written.exponent ≤ 22

instance (x : Binary64) : Decidable (Exact x) :=
  decidable_of_iff (x.written.digits ≤ Nat.pow 2 53 ∧ -22 ≤ x.written.exponent ∧ x.written.exponent ≤ 22)
    ⟨fun h => ⟨h.1, h.2.1, h.2.2⟩, fun h => ⟨h.digits, h.low, h.high⟩⟩

/-- A size that is read for the literal of a number. -/
structure ReadFor (x y : Binary64) : Prop where
  unsigned : y.negative = false
  finite : y.isFinite = true
  near : Near (drift x) y.magnitude x.magnitude
  exact : Exact x → y.magnitude = x.magnitude

theorem scaleDown_near {y : Binary64} {n : Nat} (h : n ≤ greatestPower) :
    scaleDown y (-n) = y.dividedBy (powerOfTen n) := by
  rw [scaleDown, if_neg (by omega), Int.natAbs_neg, Int.natAbs_natCast]

theorem scaleDown_far {y : Binary64} (hy : y.magnitude ≠ 0) {n : Nat} (hpos : 0 < n) (h : n ≤ greatestPower) :
    scaleDown y (-(greatestPower + n : ℕ)) = (y.dividedBy (powerOfTen greatestPower)).dividedBy (powerOfTen n) := by
  have hrest : -((greatestPower + n : ℕ) : Int) + greatestPower = -n := by omega
  rw [scaleDown, if_pos (by omega), if_neg hy, hrest, scaleDown_near h]

theorem magnitude_ofNat_ne_zero {m : Nat} (hm : 0 < m) (hword : m ≤ greatestWord) : (ofNat m).magnitude ≠ 0 := by
  intro hzero
  have hle := unitsPerOne_le_units_ofNat hm (isFinite_ofWord hword)
  have hunits : (ofNat m).units = 0 := by
    rw [units_eq, hzero]
    rfl
  rw [hunits] at hle
  exact absurd unitsPerOne_pos (Nat.not_lt_of_le hle)

theorem word_written (hx : x.isFinite = true) : x.written.digits ≤ greatestWord :=
  Nat.le_trans (digits_written_le hx) (by decide)

/-- What one division gives. -/
theorem readFor_dividedBy (hx : x.isFinite = true) {n : Nat} (hexponent : x.written.exponent = -n)
    (hpower : n ≤ greatestPower) : ReadFor x ((ofNat x.written.digits).dividedBy (powerOfTen n)) := by
  have heq : x.written = ⟨x.written.digits, -n⟩ := by rw [← hexponent]
  have hword := word_written hx
  refine ⟨negative_ofMagnitude (nearestMagnitude_le _ _), ?_, ?_, fun hexact => ?_⟩
  · exact isFinite_dividedBy (isFinite_ofWord hword) (unitsPerOne_le_units_powerOfTen hpower)
  · have hnear := near_dividedBy hword hpower
    rw [← heq, pattern_written hx] at hnear
    unfold greatestPower at hpower
    rwa [drift, if_pos (by omega)]
  · have hlow := hexact.low
    have hsmall : n ≤ 22 := by omega
    have hpattern := magnitude_dividedBy_of_small hexact.digits hsmall
    rwa [← heq, pattern_written hx] at hpattern

theorem pattern_pos_of_far (hx : x.isFinite = true) (hfar : x.written.exponent < -308) : 0 < x.written.pattern := by
  refine Nat.pos_of_ne_zero fun hpattern => ?_
  rw [pattern_written hx] at hpattern
  rw [written, if_pos hpattern] at hfar
  exact absurd hfar (by decide)

theorem digits_pos_of_far (hx : x.isFinite = true) (hfar : x.written.exponent < -308) : 0 < x.written.digits := by
  have hpattern := pattern_pos_of_far hx hfar
  refine Nat.pos_of_ne_zero fun hzero => ?_
  rw [Scientific.pattern_eq_zero hzero] at hpattern
  exact Nat.lt_irrefl 0 hpattern

/-- What two divisions give. -/
theorem readFor_dividedBy_twice (hx : x.isFinite = true) {n : Nat} (hpos : 0 < n)
    (hexponent : x.written.exponent = -(greatestPower + n : ℕ)) :
    ReadFor x (((ofNat x.written.digits).dividedBy (powerOfTen greatestPower)).dividedBy (powerOfTen n)) := by
  have heq : x.written = ⟨x.written.digits, -(greatestPower + n : ℕ)⟩ := by rw [← hexponent]
  have hword := word_written hx
  have hfar : x.written.exponent < -308 := by
    unfold greatestPower at hexponent
    omega
  have hpattern := pattern_pos_of_far hx hfar
  have hn : n ≤ 33 := by
    have hlow := (exponent_written hx).1
    unfold greatestPower at hexponent
    omega
  have hfew : x.written.digits ≤ 2 → n ≤ 22 := by
    intro hdigits
    have hlow := Scientific.lt_exponent hpattern (Nat.le_trans hdigits (by decide : 2 ≤ Nat.pow 10 1))
    unfold greatestPower at hexponent
    omega
  refine ⟨negative_ofMagnitude (nearestMagnitude_le _ _), ?_, ?_, fun hexact => ?_⟩
  · refine isFinite_dividedBy ?_ (unitsPerOne_le_units_powerOfTen (Nat.le_trans hn (by decide)))
    exact isFinite_dividedBy (isFinite_ofWord hword) (unitsPerOne_le_units_powerOfTen (Nat.le_refl _))
  · have hnear := near_dividedBy_twice (digits_pos_of_far hx hfar) hword hn hfew
    rw [← heq, pattern_written hx] at hnear
    rwa [drift, if_neg (by omega)]
  · have hlow := hexact.low
    omega

/-- What a product gives. -/
theorem readFor_times (hx : x.isFinite = true) {n : Nat} (hexponent : x.written.exponent = n)
    (hpower : n ≤ greatestPower) : ReadFor x ((ofNat x.written.digits).times (powerOfTen n)) := by
  have heq : x.written = ⟨x.written.digits, n⟩ := by rw [← hexponent]
  refine ⟨negative_ofMagnitude (nearestMagnitude_le _ _), isFinite_times_written hx hexponent, ?_, fun hexact => ?_⟩
  · have hnear := near_times (word_written hx) hpower
    rw [← heq, pattern_written hx] at hnear
    rwa [drift, if_pos (by omega)]
  · have hhigh := hexact.high
    have hsmall : n ≤ 22 := by omega
    have hpattern := magnitude_times_of_small hexact.digits hsmall
    rwa [← heq, pattern_written hx] at hpattern

/-- The literal of a finite number is never out of range. -/
theorem scale?_written (hx : x.isFinite = true) :
    ∃ y, scale? x.written.digits x.written.exponent = some y ∧ ReadFor x y := by
  obtain ⟨-, hhigh⟩ := exponent_written hx
  rcases lt_or_ge x.written.exponent 0 with hdown | hup
  · refine ⟨scaleDown (ofNat x.written.digits) x.written.exponent, if_pos hdown, ?_⟩
    by_cases hfar : x.written.exponent < -greatestPower
    · obtain ⟨n, hn⟩ : ∃ n : Nat, x.written.exponent = -(greatestPower + (n + 1) : ℕ) :=
        ⟨(-greatestPower - 1 - x.written.exponent).toNat, by omega⟩
      have hdigits := digits_pos_of_far hx hfar
      have hread := readFor_dividedBy_twice hx (Nat.succ_pos n) hn
      have hlow := (exponent_written hx).1
      rwa [hn, scaleDown_far (magnitude_ofNat_ne_zero hdigits (word_written hx)) (Nat.succ_pos n)]
      unfold greatestPower at hn ⊢
      omega
    · obtain ⟨n, hn⟩ : ∃ n : Nat, x.written.exponent = -n := ⟨x.written.exponent.natAbs, by omega⟩
      have hpower : n ≤ greatestPower := by omega
      have hread := readFor_dividedBy hx hn hpower
      rwa [hn, scaleDown_near hpower]
  · obtain ⟨n, hn⟩ := Int.eq_ofNat_of_zero_le hup
    have hpower : n ≤ greatestPower := by
      unfold greatestPower
      omega
    refine ⟨(ofNat x.written.digits).times (powerOfTen n), ?_, readFor_times hx hn hpower⟩
    rw [scale?, if_neg (Int.not_lt.mpr hup), hn, if_pos (Int.ofNat_le.mpr hpower), Int.toNat_natCast]
    exact if_pos (isFinite_times_written hx hn)

/-! ### The sign -/

section
variable {y : Binary64} (negative : Bool)

theorem withSign_eq (hy : y.negative = false) (hfinite : y.isFinite = true) :
    (withSign negative y).negative = negative ∧ (withSign negative y).magnitude = y.magnitude := by
  have hle : y.magnitude ≤ infinityPattern := Nat.le_of_lt (of_decide_eq_true hfinite)
  cases negative with
  | false => exact ⟨hy, rfl⟩
  | true =>
    have hnegate : withSign true y = ofMagnitude true y.magnitude := by
      show ofMagnitude (!y.negative) y.magnitude = _
      rw [hy]
      rfl
    rw [hnegate]
    exact ⟨negative_ofMagnitude hle, magnitude_ofMagnitude hle⟩

end

/-- With its sign the size is read for the literal wherever a number is. -/
theorem literal_reads (hx : x.isFinite = true) {y : Binary64}
    (h : scale? x.written.digits x.written.exponent = some y) :
    Reads number x.literal (.fraction (withSign x.negative y)) := by
  intro rest hrest
  rw [number_literal hx hrest, ofParts, h]

end
end ClusterConsole.Json
