import ClusterConsole.Proofs.Node.Document
import ClusterConsole.Proofs.Node.Order
import ClusterConsole.Proofs.Number.Value

/-! # The order of numbers

Identifiers that are integers come in the order of their values: rounding keeps that order, and where it makes two of
them one, their forms and then they themselves decide. Between an integer and a fraction only the forms are left to
decide then, so an integer that is rounded down to a fraction comes before it although it is greater. -/

namespace ClusterConsole.NodeId

/-- The integer that an identifier is. -/
def integer? : NodeId → Option Int
  | .numeric n => some n.toInt
  | .unsigned n => some n.toNat
  | _ => none

section
variable {a b : NodeId} {m n : Int}

theorem isText_of_integer? (h : a.integer? = some n) : a.isText = false := by
  cases a <;> first | rfl | cases h

theorem exact_of_integer? (h : a.integer? = some n) : a.exact = n := by
  cases a <;> first | exact Option.some.inj h | cases h

theorem form_le_one_of_integer? (h : a.integer? = some n) : a.form ≤ 1 := by
  cases a <;> first | exact Nat.zero_le 1 | exact Nat.le_refl 1 | cases h

theorem roundedRank_of_integer? (h : a.integer? = some n) : a.roundedRank = (Binary64.ofInt n).rank := by
  cases a with
  | numeric k =>
    obtain rfl := Option.some.inj h
    rfl
  | unsigned k =>
    obtain rfl := Option.some.inj h
    rw [Binary64.ofInt_natCast]
    rfl
  | fractional x => cases h
  | text s => cases h

theorem form_of_integer? (h : a.integer? = some n) (hcanonical : a.Canonical) :
    a.form = if n < Word.signedLimit then 0 else 1 := by
  cases a with
  | numeric k =>
    obtain rfl := Option.some.inj h
    exact (if_pos k.toInt_lt).symm
  | unsigned k =>
    obtain rfl := Option.some.inj h
    exact (if_neg (Int.not_lt.mpr (Int.ofNat_le.mpr hcanonical))).symm
  | fractional x => cases h
  | text s => cases h

theorem compare_eq_lt_iff (ha : a.isText = false) (hb : b.isText = false) : compare a b = .lt ↔
    a.roundedRank < b.roundedRank ∨ a.roundedRank = b.roundedRank ∧
      (a.form < b.form ∨ a.form = b.form ∧ a.exact < b.exact) := by
  rw [compare_of_number ha hb, compareRounded_of_number ha hb, then_compareExact]
  simp only [Ordering.then_eq_lt, Std.LawfulEqOrd.compare_eq_iff_eq, compare_lt_iff_lt]

theorem compare_eq_gt_iff : compare a b = .gt ↔ compare b a = .lt := by
  have hswap : compare a b = (compare b a).swap := Std.OrientedOrd.eq_swap (α := NodeId)
  rw [hswap]
  cases compare b a <;> simp

/-! ### Two integers -/

theorem compare_eq_lt_of_integers (ha : a.integer? = some m) (hb : b.integer? = some n) (hacanonical : a.Canonical)
    (hbcanonical : b.Canonical) (h : m < n) : compare a b = .lt := by
  have hrank := Binary64.rank_ofInt_mono (Int.le_of_lt h)
  rw [compare_eq_lt_iff (isText_of_integer? ha) (isText_of_integer? hb), roundedRank_of_integer? ha,
    roundedRank_of_integer? hb, form_of_integer? ha hacanonical, form_of_integer? hb hbcanonical, exact_of_integer? ha,
    exact_of_integer? hb]
  -- The greater integer has the second form if the smaller one has it.
  have hform : (if m < Word.signedLimit then 0 else 1) ≤ if n < Word.signedLimit then 0 else 1 := by
    split <;> split <;> omega
  omega

/-- Integers come in the order of their values, signed and unsigned ones together, although they are rounded before they
    are compared. -/
theorem compare_integers (ha : a.integer? = some m) (hb : b.integer? = some n) (hacanonical : a.Canonical)
    (hbcanonical : b.Canonical) : compare a b = Ord.compare m n := by
  rcases Int.lt_trichotomy m n with hlt | rfl | hgt
  · rw [compare_eq_lt_of_integers ha hb hacanonical hbcanonical hlt, compare_lt_iff_lt.mpr hlt]
  · rw [compare_of_number (isText_of_integer? ha) (isText_of_integer? hb),
      compareRounded_of_number (isText_of_integer? ha) (isText_of_integer? hb), then_compareExact,
      roundedRank_of_integer? ha, roundedRank_of_integer? hb, form_of_integer? ha hacanonical,
      form_of_integer? hb hbcanonical, exact_of_integer? ha, exact_of_integer? hb]
    simp only [Std.ReflOrd.compare_self, Ordering.eq_then]
  · rw [compare_eq_gt_iff.mpr (compare_eq_lt_of_integers hb ha hbcanonical hacanonical hgt), compare_gt_iff_gt.mpr hgt]

/-- Two integers of different forms that are rounded to one number. -/
theorem compare_integers_of_neighbours :
    let a := numeric 9223372036854775807
    let b := unsigned 9223372036854775808
    a.integer? = some 9223372036854775807 ∧ b.integer? = some 9223372036854775808 ∧ a.Canonical ∧ b.Canonical ∧
      a.rounded? = b.rounded? ∧ compare a b = .lt := by
  intro a b
  have ha : a.integer? = some 9223372036854775807 := by decide
  have hb : b.integer? = some 9223372036854775808 := by decide
  have hbcanonical : b.Canonical := by
    show Word.signedLimit ≤ 9223372036854775808
    decide
  exact ⟨ha, hb, trivial, hbcanonical, by decide +kernel, compare_integers ha hb trivial hbcanonical⟩

/-! ### An integer and a fraction -/

theorem compare_fractional_eq_lt_iff (ha : a.integer? = some n) {x : Binary64} :
    compare a (.fractional x) = .lt ↔ (Binary64.ofInt n).rank ≤ x.rank := by
  have hform : a.form < (fractional x).form := Nat.lt_succ_of_le (form_le_one_of_integer? ha)
  rw [compare_eq_lt_iff (isText_of_integer? ha) rfl, roundedRank_of_integer? ha]
  show _ < x.rank ∨ _ = x.rank ∧ _ ↔ _
  omega

theorem compare_fractional_eq_gt_iff (ha : a.integer? = some n) {x : Binary64} :
    compare a (.fractional x) = .gt ↔ x.rank < (Binary64.ofInt n).rank := by
  have hform : a.form < (fractional x).form := Nat.lt_succ_of_le (form_le_one_of_integer? ha)
  rw [compare_eq_gt_iff, compare_eq_lt_iff rfl (isText_of_integer? ha), roundedRank_of_integer? ha]
  show x.rank < _ ∨ x.rank = _ ∧ _ ↔ _
  omega

/-- An integer and a fraction come in the order of their values unless the fraction is the number that the integer is
    rounded to: then the integer comes first, also when it is the greater one. That takes an integer beyond 2^53. -/
theorem compare_fractional (ha : a.integer? = some n) {x : Binary64} (hx : x.isFinite = true) :
    ((n : ℚ) < x.value → compare a (.fractional x) = .lt ∧ compare (.fractional x) a = .gt) ∧
      (x.value < n → Binary64.ofInt n ≠ x → compare a (.fractional x) = .gt ∧ compare (.fractional x) a = .lt) ∧
      (x.value < n → Binary64.ofInt n = x → compare a (.fractional x) = .lt ∧ compare (.fractional x) a = .gt) ∧
      (x.value ≠ n → Binary64.ofInt n = x → 2 * Binary64.fractionLimit < n.natAbs) := by
  have hlt : (Binary64.ofInt n).rank ≤ x.rank → compare a (.fractional x) = .lt ∧ compare (.fractional x) a = .gt := by
    intro hrank
    have hcompare := (compare_fractional_eq_lt_iff ha).mpr hrank
    exact ⟨hcompare, compare_eq_gt_iff.mpr hcompare⟩
  refine ⟨fun hvalue => hlt (Binary64.rank_ofInt_le_rank hx hvalue), fun hvalue hne => ?_, fun _ heq => hlt ?_, ?_⟩
  · have hrank := Binary64.rank_le_rank_ofInt hx hvalue
    have hdiffer : x.rank ≠ (Binary64.ofInt n).rank := fun heq => hne (Binary64.rank_injective heq).symm
    have hcompare := (compare_fractional_eq_gt_iff ha).mpr (Int.lt_iff_le_and_ne.mpr ⟨hrank, hdiffer⟩)
    exact ⟨hcompare, compare_eq_gt_iff.mp hcompare⟩
  · rw [heq]
  · intro hvalue heq
    by_contra hsmall
    exact hvalue (heq ▸ Binary64.value_ofInt (Nat.le_of_not_lt hsmall))

end

/-- The greatest word and the greatest fraction below it. -/
theorem compare_fractional_of_greatest :
    let a := unsigned 18446744073709551615
    let x : Binary64 := ⟨0x43EFFFFFFFFFFFFF⟩
    a.integer? = some 18446744073709551615 ∧ x.isFinite = true ∧ x.value < (18446744073709551615 : Int) ∧
      compare a (.fractional x) = .gt ∧ compare (.fractional x) a = .lt := by
  intro a x
  have ha : a.integer? = some 18446744073709551615 := by decide
  have hx : x.isFinite = true := by decide +kernel
  have hvalue : x.value < (18446744073709551615 : Int) := Binary64.value_lt_intCast_iff.mpr (by decide +kernel)
  exact ⟨ha, hx, hvalue, (compare_fractional ha hx).2.1 hvalue (by decide +kernel)⟩

/-- An integer that comes before the fraction below it. -/
theorem compare_fractional_of_rounded_down :
    let a := numeric 9007199254740993
    let x : Binary64 := ⟨0x4340000000000000⟩
    a.integer? = some 9007199254740993 ∧ x.isFinite = true ∧ x.value < (9007199254740993 : Int) ∧
      compare a (.fractional x) = .lt ∧
      ¬∀ (a : NodeId) (n : Int) (x : Binary64), a.integer? = some n → x.isFinite = true → x.value < n →
        compare a (.fractional x) = .gt := by
  intro a x
  have ha : a.integer? = some 9007199254740993 := by decide
  have hx : x.isFinite = true := by decide +kernel
  have hvalue : x.value < (9007199254740993 : Int) := Binary64.value_lt_intCast_iff.mpr (by decide +kernel)
  have hcompare : compare a (.fractional x) = .lt := by decide +kernel
  refine ⟨ha, hx, hvalue, hcompare, fun h => ?_⟩
  rw [h a _ x ha hx hvalue] at hcompare
  cases hcompare

end ClusterConsole.NodeId
