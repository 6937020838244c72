import ClusterConsole.Json.Number
import ClusterConsole.Proofs.Json.Reads
import ClusterConsole.Proofs.Number.Decimal
import ClusterConsole.Proofs.Number.Rounding
import ClusterConsole.Proofs.Text.Ascii
import ClusterConsole.Proofs.Text.Reading

/-! # Numbers in documents

An integer that is read fits a word, signed or unsigned, and every such integer is read from its decimal text. Whatever
else is read as a number is finite: a word is, dividing makes no number greater, and a product is looked at before it
is given. -/

namespace ClusterConsole.Json
open Ascii

/-! ### Bounds -/

/-- An integer that is read fits a word, and a fraction is finite. -/
def Number.Bounded : Number → Prop
  | .integer n => -(Word.signedLimit : Int) ≤ n ∧ n < Word.limit
  | .fraction x => x.isFinite = true

theorem Number.bounded_integer {n : Int} (hlow : -0x8000000000000000 ≤ n) (hhigh : n < 0x10000000000000000) :
    (Number.integer n).Bounded := by
  unfold Bounded Word.signedLimit Word.limit
  exact ⟨hlow, hhigh⟩

theorem isFinite_powerOfTen {n : Nat} (h : n ≤ greatestPower) : (powerOfTen n).isFinite = true := by
  have hgreatest : (powerOfTen greatestPower).isFinite = true := by decide +kernel
  generalize greatestPower = greatest at h hgreatest
  exact Binary64.isFinite_ofNat_of_le (Nat.pow_le_pow_right (by decide) h) hgreatest

theorem unitsPerOne_le_units_powerOfTen {n : Nat} (h : n ≤ greatestPower) :
    Binary64.unitsPerOne ≤ (powerOfTen n).units :=
  Binary64.unitsPerOne_le_units_ofNat (Nat.pow_pos (by decide)) (isFinite_powerOfTen h)

theorem isFinite_ofWord {n : Nat} (h : n ≤ greatestWord) : (Binary64.ofNat n).isFinite = true := by
  have hgreatest : (Binary64.ofNat greatestWord).isFinite = true := by decide +kernel
  exact Binary64.isFinite_ofNat_of_le h hgreatest

theorem isFinite_scaleDown {x : Binary64} {exponent : Int} (hx : x.isFinite = true) (h : exponent < 0) :
    (scaleDown x exponent).isFinite = true := by
  fun_induction scaleDown x exponent with
  | case1 x exponent hfar hzero => exact hx
  | case2 x exponent hfar hzero ih =>
    exact ih (Binary64.isFinite_dividedBy hx (unitsPerOne_le_units_powerOfTen (Nat.le_refl _))) (by omega)
  | case3 x exponent hnear =>
    exact Binary64.isFinite_dividedBy hx (unitsPerOne_le_units_powerOfTen (by omega))

theorem isFinite_of_scale? {significand : Nat} {exponent : Int} {x : Binary64} (h : significand ≤ greatestWord)
    (hscale : scale? significand exponent = some x) : x.isFinite = true := by
  have hword := isFinite_ofWord h
  unfold scale? at hscale
  dsimp only at hscale
  split at hscale
  · rename_i hdown
    obtain rfl := Option.some.inj hscale
    exact isFinite_scaleDown hword hdown
  split at hscale
  · split at hscale
    · rename_i hfinite
      obtain rfl := Option.some.inj hscale
      exact hfinite
    · cases hscale
  · split at hscale
    · obtain rfl := Option.some.inj hscale
      exact hword
    · cases hscale

theorem isFinite_withSign {x : Binary64} (hx : x.isFinite = true) (negative : Bool) :
    (withSign negative x).isFinite = true := by
  cases negative with
  | false => exact hx
  | true => exact Binary64.isFinite_negate hx

section
variable {negative : Bool} {significand : Nat}

theorem ofParts_yields (h : significand ≤ greatestWord) {exponent : Int} {rest : Input} :
    Yields (·.1.Bounded) (ofParts negative significand exponent rest) := by
  unfold ofParts
  split
  · rename_i x hscale
    exact .ok (isFinite_withSign (isFinite_of_scale? h hscale) negative)
  · exact .error _

theorem exponentDigits_yields (h : significand ≤ greatestWord) {sofar : Int} {down : Bool} {exponent : Nat}
    {input : Input} : Yields (·.1.Bounded) (exponentDigits negative significand sofar down exponent input) := by
  induction input generalizing exponent with
  | nil => exact ofParts_yields h
  | cons b rest ih =>
    unfold exponentDigits
    cases digit? b with
    | none => exact ofParts_yields h
    | some d =>
      dsimp only
      split
      · split
        · exact .error _
        · exact .ok (isFinite_withSign (isFinite_ofWord (Nat.zero_le _)) negative)
      · exact ih

theorem exponent_yields (h : significand ≤ greatestWord) {sofar : Int} {input : Input} :
    Yields (·.1.Bounded) (exponent negative significand sofar input) := by
  unfold exponent
  split
  split
  · exact .error _
  · split
    · exact exponentDigits_yields h
    · exact .error _

theorem afterDigits_yields (h : significand ≤ greatestWord) {sofar : Int} {input : Input} :
    Yields (·.1.Bounded) (afterDigits negative significand sofar input) := by
  unfold afterDigits
  split
  · split
    · exact exponent_yields h
    · exact ofParts_yields h
  · exact ofParts_yields h

theorem decimals_yields (h : significand ≤ greatestWord) {before places : Int} {input : Input} :
    Yields (·.1.Bounded) (decimals negative significand before places input) := by
  induction input generalizing significand places with
  | nil =>
    unfold decimals
    split
    · exact .error _
    · exact afterDigits_yields h
  | cons b rest ih =>
    unfold decimals
    cases digit? b with
    | none =>
      dsimp only
      split
      · exact .error _
      · exact afterDigits_yields h
    | some d =>
      dsimp only
      split
      · exact afterDigits_yields h
      · rename_i hsmall
        exact ih (Nat.le_of_not_lt hsmall)

theorem longInteger_yields (h : significand ≤ greatestWord) {dropped : Int} {input : Input} :
    Yields (·.1.Bounded) (longInteger negative significand dropped input) := by
  induction input generalizing dropped with
  | nil => exact ofParts_yields h
  | cons b rest ih =>
    unfold longInteger
    split
    · exact ih
    · split
      · exact decimals_yields h
      · exact afterDigits_yields h

theorem afterInteger_yields (h : significand ≤ greatestWord) (input : Input) :
    Yields (·.1.Bounded) (afterInteger negative significand input) := by
  have whole : ∀ rest, Yields (·.1.Bounded) (afterInteger.whole negative significand rest) := by
    intro rest
    have hfinite := isFinite_ofWord h
    unfold greatestWord Word.limit at h
    unfold afterInteger.whole
    split
    · exact .ok (Number.bounded_integer (by omega) (by omega))
    · split
      · rename_i hsize
        unfold Word.signedLimit at hsize
        exact .ok (Number.bounded_integer (by omega) (by omega))
      · exact .ok (Binary64.isFinite_negate hfinite)
  unfold afterInteger
  split
  · split
    · exact decimals_yields h
    · split
      · exact exponent_yields h
      · exact whole _
  · exact whole _

theorem integerDigits_yields (h : significand ≤ greatestWord) (input : Input) :
    Yields (·.1.Bounded) (integerDigits negative significand input) := by
  induction input generalizing significand with
  | nil => exact afterInteger_yields h []
  | cons b rest ih =>
    unfold integerDigits
    cases digit? b with
    | none => exact afterInteger_yields h _
    | some d =>
      dsimp only
      split
      · exact longInteger_yields h
      · rename_i hsmall
        exact ih (Nat.le_of_not_lt hsmall)

end

theorem number_yields (input : Input) : Yields (·.1.Bounded) (number input) := by
  have digits : ∀ negative input, Yields (·.1.Bounded) (unsigned negative input) := by
    intro negative input
    unfold unsigned
    split
    · exact .error _
    · split
      · split
        · exact .error _
        · exact afterInteger_yields (Nat.zero_le _) _
      · split
        · rename_i d hd
          have hlt := digit?_lt hd
          have hword : 10 ≤ greatestWord := by decide
          exact integerDigits_yields (by omega) _
        · exact .error _
  unfold number
  split
  · exact digits _ _
  · split <;> exact digits _ _

/-! ### Reading back -/

theorem AtBreak.digit?_head {b : UInt8} {rest : Input} (h : AtBreak (b :: rest)) : digit? b = none := by
  cases h with
  | cons hb => rcases hb with rfl | rfl | rfl | rfl | rfl | rfl | rfl <;> rfl

theorem AtBreak.noDigit {rest : Input} (h : AtBreak rest) : NoDigit rest := by
  intro b hb
  cases rest with
  | nil => cases hb
  | cons b' rest =>
    obtain rfl := Option.some.inj hb
    exact h.digit?_head

theorem isDigit_head {rest : Input} (h : NoDigit rest) : (rest.head?.map isDigit).getD false = false := by
  cases rest with
  | nil => rfl
  | cons b rest => exact isDigit_of_digit?_eq_none (h b rfl)

theorem integerDigits_of_noDigit {negative : Bool} {significand : Nat} {rest : Input} (h : NoDigit rest) :
    integerDigits negative significand rest = afterInteger negative significand rest := by
  cases rest with
  | nil => rfl
  | cons b rest => rw [integerDigits, h b rfl]

theorem afterInteger_eq {negative : Bool} {significand : Nat} {rest : Input} (h : AtBreak rest) :
    afterInteger negative significand rest = afterInteger.whole negative significand rest := by
  cases h with
  | nil => rfl
  | cons hb rest =>
    rcases hb with rfl | rfl | rfl | rfl | rfl | rfl | rfl <;> rfl

/-- The digits of a number up to the greatest word are all gathered. -/
theorem integerDigits_encode {negative : Bool} {ds : List Char} {significand : Nat} {rest : Input}
    (hds : ∀ c ∈ ds, c.isDigit) (hbound : Nat.ofDigitChars 10 ds significand ≤ greatestWord) (hrest : NoDigit rest) :
    integerDigits negative significand (Utf8.encode ds ++ rest) =
      afterInteger negative (Nat.ofDigitChars 10 ds significand) rest := by
  induction ds generalizing significand with
  | nil =>
    rw [Nat.ofDigitChars_nil]
    exact integerDigits_of_noDigit hrest
  | cons c ds ih =>
    obtain ⟨hc, hmore⟩ := List.forall_mem_cons.mp hds
    rw [Nat.ofDigitChars_cons, Nat.mul_comm] at hbound ⊢
    have hsofar := Nat.le_trans (Decimal.le_ofDigitChars ds _) hbound
    rw [Utf8.encode_cons_of_isDigit hc, List.cons_append, integerDigits, digit?_byte hc]
    dsimp only
    rw [if_neg (Nat.not_lt_of_le hsofar)]
    exact ih hmore hbound

/-- The integer part is gathered up to the greatest word. -/
theorem unsigned_gathers {negative : Bool} {ds : List Char} {rest : Input} (hne : ds ≠ []) (hds : ∀ c ∈ ds, c.isDigit)
    (hzero : ds.head? = some '0' → ds = ['0']) (hbound : Nat.ofDigitChars 10 ds 0 ≤ greatestWord)
    (hrest : NoDigit rest) :
    unsigned negative (Utf8.encode ds ++ rest) = afterInteger negative (Nat.ofDigitChars 10 ds 0) rest := by
  obtain ⟨c, more, rfl⟩ := List.exists_cons_of_ne_nil hne
  obtain ⟨hc, hmore⟩ := List.forall_mem_cons.mp hds
  rw [Utf8.encode_cons_of_isDigit hc, List.cons_append, unsigned]
  by_cases h0 : c = '0'
  · obtain ⟨rfl, rfl⟩ := List.cons.inj (hzero (congrArg some h0))
    rw [if_pos rfl]
    show (if (rest.head?.map isDigit).getD false = true then _ else afterInteger negative 0 rest) = _
    rw [isDigit_head hrest, if_neg Bool.false_ne_true]
    rfl
  · have hascii := (bounds_of_isDigit hc).2
    rw [if_neg fun heq => h0 (byte_injective (by omega) (by decide) heq), digit?_byte hc]
    dsimp only
    rw [Nat.ofDigitChars_cons, Nat.mul_zero, Nat.zero_add] at hbound ⊢
    exact integerDigits_encode hmore hbound hrest

theorem unsigned_encode {negative : Bool} {n : Nat} {rest : Input} (h : n ≤ greatestWord) (hrest : AtBreak rest) :
    unsigned negative (Utf8.encode (Decimal.digits n) ++ rest) = afterInteger.whole negative n rest := by
  have hvalue : Nat.ofDigitChars 10 (Decimal.digits n) 0 = n := Nat.ofDigitChars_ten_toDigits
  have hne : Decimal.digits n ≠ [] := Nat.toDigits_ne_nil
  rw [unsigned_gathers hne (fun d hd => Decimal.isDigit_of_mem_digits hd) Decimal.digits_eq_of_head
    (hvalue.symm ▸ h) hrest.noDigit, hvalue, afterInteger_eq hrest]

/-- A number begins with this character. -/
def StartsNumber (c : Char) : Prop :=
  c = '-' ∨ c.isDigit

namespace StartsNumber
variable {c : Char}

theorem toNat_lt (h : StartsNumber c) : c.toNat < 0x80 := by
  rcases h with rfl | h
  · decide
  · have := (bounds_of_isDigit h).2
    omega

theorem byte_ne (h : StartsNumber c) {d : Char} (hd : d.toNat < 0x80) (hminus : d ≠ '-') (hdigit : d.isDigit = false) :
    byte c ≠ byte d := by
  rcases h with rfl | h
  · exact fun heq => hminus (byte_injective (by decide) hd heq).symm
  · exact byte_ne_of_isDigit h hd hdigit

theorem isSpace_byte (h : StartsNumber c) : isSpace (byte c) = false := by
  simp only [isSpace, Bool.or_eq_false_iff, beq_eq_false_iff_ne]
  exact ⟨⟨⟨h.byte_ne (by decide) (by decide) rfl, h.byte_ne (by decide) (by decide) rfl⟩,
    h.byte_ne (by decide) (by decide) rfl⟩, h.byte_ne (by decide) (by decide) rfl⟩

end StartsNumber

theorem exists_integer_eq_cons (n : Int) : ∃ c more, Decimal.integer n = c :: more ∧ StartsNumber c := by
  rw [Decimal.integer]
  split
  · exact ⟨'-', _, rfl, Or.inl rfl⟩
  · obtain ⟨c, ds, hds, -⟩ := Decimal.exists_digits_eq_cons n.natAbs
    exact ⟨c, ds, hds, Or.inr (Decimal.isDigit_of_mem_digits (hds ▸ List.mem_cons_self))⟩

/-- An integer that fits a word is read from its decimal text. -/
theorem number_reads {n : Int} (h : (Number.integer n).Bounded) : Reads number (Decimal.integer n) (.integer n) := by
  intro rest hrest
  obtain ⟨hlow, hhigh⟩ := h
  unfold Word.signedLimit at hlow
  unfold Word.limit at hhigh
  have hword : n.natAbs ≤ greatestWord := by
    unfold greatestWord Word.limit
    omega
  rw [Decimal.integer]
  split
  · rename_i hneg
    rw [Utf8.encode_cons_of_ascii (by decide), List.cons_append, number, if_pos rfl, unsigned_encode hword hrest,
      afterInteger.whole, if_neg (by decide), if_pos (by unfold Word.signedLimit; omega)]
    congr 3
    omega
  · rename_i hneg
    have hunsigned : number (Utf8.encode (Decimal.digits n.natAbs) ++ rest) =
        unsigned false (Utf8.encode (Decimal.digits n.natAbs) ++ rest) := by
      obtain ⟨c, ds, hds, -⟩ := Decimal.exists_digits_eq_cons n.natAbs
      have hc : c.isDigit := Decimal.isDigit_of_mem_digits (hds ▸ List.mem_cons_self)
      rw [hds, Utf8.encode_cons_of_isDigit hc, List.cons_append, number,
        if_neg (byte_ne_of_isDigit hc (by decide) rfl)]
    rw [hunsigned, unsigned_encode hword hrest, afterInteger.whole, if_pos (by decide)]
    congr 3
    omega

end ClusterConsole.Json
