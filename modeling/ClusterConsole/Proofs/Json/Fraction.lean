import ClusterConsole.Proofs.Json.Literal

/-! # Literals as digits and an exponent

A literal whose digits all fit a word is read as the number that its digits denote without the point, times the power of
ten that its exponent and the number of its decimals give. -/

namespace ClusterConsole.Json
open Ascii

/-- The digits behind the point. -/
def decimalChars : Option Digits → List Char
  | none => []
  | some ds => ds.chars

/-- The power of ten that an exponent gives. -/
def powerValue : Option Exponent → Int
  | none => 0
  | some e =>
    if e.sign = some '-' then -(Nat.ofDigitChars 10 e.digits.chars 0 : Int) else Nat.ofDigitChars 10 e.digits.chars 0

namespace Literal

/-- The number that all digits denote without the point. -/
def significand (l : Literal) : Nat :=
  Nat.ofDigitChars 10 (l.whole.chars ++ decimalChars l.fraction) 0

/-- The power of ten that the digits are multiplied by. -/
def exponent (l : Literal) : Int :=
  powerValue l.power - (decimalChars l.fraction).length

end Literal

section
variable {negative : Bool} {significand : Nat} {rest : Input}

/-! ### Digits that are gathered -/

/-- An exponent that is kept. -/
theorem exponentDigits_gathers {sofar : Int} {down : Bool} {ds : List Char} {exponent : Nat}
    (hds : ∀ c ∈ ds, c.isDigit) (hbound : Nat.ofDigitChars 10 ds exponent ≤ greatestExponent) (hrest : AtBreak rest) :
    exponentDigits negative significand sofar down exponent (Utf8.encode ds ++ rest) =
      ofParts negative significand
        (if down then sofar - (Nat.ofDigitChars 10 ds exponent : Nat)
          else sofar + (Nat.ofDigitChars 10 ds exponent : Nat))
        rest := by
  induction ds generalizing exponent with
  | nil =>
    rw [Nat.ofDigitChars_nil]
    exact exponentDigits_of_break negative significand sofar down exponent hrest
  | cons c ds ih =>
    obtain ⟨hc, hmore⟩ := List.forall_mem_cons.mp hds
    rw [Nat.ofDigitChars_cons, Nat.mul_comm] at hbound ⊢
    have hsofar := Nat.le_trans (Decimal.le_ofDigitChars ds _) hbound
    rw [exponentDigits_cons negative significand sofar down exponent hc, if_neg (Nat.not_lt_of_le hsofar)]
    exact ih hmore hbound

theorem afterDigits_gathers {sofar : Int} {power : Option Exponent}
    (hpower : (powerValue power).natAbs ≤ greatestExponent) (hrest : AtBreak rest) :
    afterDigits negative significand sofar (Utf8.encode (powerText power) ++ rest) =
      ofParts negative significand (sofar + powerValue power) rest := by
  cases power with
  | none =>
    rw [powerValue, Int.add_zero]
    exact afterDigits_of_break negative significand sofar hrest
  | some e =>
    obtain ⟨c, ds, hcons⟩ := List.exists_cons_of_ne_nil e.digits.ne_nil
    have hdigits := e.digits.isDigit
    rw [powerValue, hcons, Nat.ofDigitChars_cons, Nat.mul_zero, Nat.zero_add] at hpower ⊢
    rw [hcons] at hdigits
    obtain ⟨hc, hmore⟩ := List.forall_mem_cons.mp hdigits
    have hbound : Nat.ofDigitChars 10 ds (c.toNat - '0'.toNat) ≤ greatestExponent := by
      split at hpower <;> omega
    rw [afterDigits_power, hcons, exponent_encode negative significand sofar e.sign_eq hc,
      exponentDigits_gathers hmore hbound hrest]
    congr 1
    by_cases hdown : e.sign = some '-'
    · rw [if_pos hdown, if_pos (decide_eq_true hdown), Int.sub_eq_add_neg]
    · rw [if_neg hdown, if_neg (by rwa [decide_eq_true_eq])]

theorem decimals_gathers {before places : Int} {ds : List Char} (hds : ∀ c ∈ ds, c.isDigit)
    (hbound : Nat.ofDigitChars 10 ds significand ≤ greatestWord) (hplaces : ds = [] → places ≠ 0) (hnot : places ≤ 0)
    (hrest : NoDigit rest) :
    decimals negative significand before places (Utf8.encode ds ++ rest) =
      afterDigits negative (Nat.ofDigitChars 10 ds significand) (before + (places - ds.length)) rest := by
  induction ds generalizing significand places with
  | nil =>
    rw [List.length_nil, Int.natCast_zero, Int.sub_zero, Nat.ofDigitChars_nil]
    exact decimals_of_noDigit negative significand before (hplaces rfl) hrest
  | cons c ds ih =>
    obtain ⟨hc, hmore⟩ := List.forall_mem_cons.mp hds
    rw [Nat.ofDigitChars_cons, Nat.mul_comm] at hbound ⊢
    have hsofar := Nat.le_trans (Decimal.le_ofDigitChars ds _) hbound
    rw [Utf8.encode_cons_of_isDigit hc, List.cons_append, decimals, digit?_byte hc]
    dsimp only
    rw [if_neg (Nat.not_lt_of_le hsofar), ih hmore hbound (fun _ => by omega) (by omega), List.length_cons]
    congr 2
    omega

/-- What makes a number no integer: decimals or an exponent. -/
theorem afterInteger_gathers {fraction : Option Digits} {power : Option Exponent} (h : fraction = none → power ≠ none)
    (hbound : Nat.ofDigitChars 10 (decimalChars fraction) significand ≤ greatestWord)
    (hpower : (powerValue power).natAbs ≤ greatestExponent) (hrest : AtBreak rest) :
    afterInteger negative significand (Utf8.encode (fractionText fraction ++ powerText power) ++ rest) =
      ofParts negative (Nat.ofDigitChars 10 (decimalChars fraction) significand)
        (powerValue power - (decimalChars fraction).length) rest := by
  cases fraction with
  | some ds =>
    rw [afterInteger_fraction, Utf8.encode_append, List.append_assoc, decimals_gathers ds.isDigit hbound
      (fun hnil => absurd hnil ds.ne_nil) (Int.le_refl 0) (noDigit_powerText power hrest),
      afterDigits_gathers hpower hrest, decimalChars]
    congr 1
    omega
  | none =>
    cases power with
    | none => exact absurd rfl (h rfl)
    | some e =>
      rw [afterInteger_power, ← afterDigits_power, afterDigits_gathers hpower hrest, decimalChars, Nat.ofDigitChars_nil]
      congr 1
      show 0 + powerValue (some e) = powerValue (some e) - 0
      omega

end

/-! ### Literals -/

/-- A literal that is no integer, whose digits fit a word and whose exponent is kept, is read as its digits and its
    exponent. -/
theorem Literal.number_gathers (l : Literal) (h : l.fraction = none → l.power ≠ none)
    (hbound : l.significand ≤ greatestWord) (hpower : (powerValue l.power).natAbs ≤ greatestExponent) {rest : Input}
    (hrest : AtBreak rest) :
    number (Utf8.encode l.text ++ rest) = ofParts l.negative l.significand l.exponent rest := by
  unfold significand at hbound ⊢
  rw [Nat.ofDigitChars_append] at hbound ⊢
  have hwhole := Nat.le_trans (Decimal.le_ofDigitChars _ _) hbound
  rw [number_text, Utf8.encode_append, List.append_assoc, unsigned_gathers l.whole.ne_nil l.whole.isDigit l.head_whole
    hwhole (noDigit_tail l.fraction l.power hrest), afterInteger_gathers h hbound hpower hrest]
  rfl

end ClusterConsole.Json
