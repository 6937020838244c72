import ClusterConsole.Number.Notation
import ClusterConsole.Proofs.Json.Fraction
import ClusterConsole.Proofs.Number.Shortest

/-! # Literals of binary numbers

A finite number is written as a literal with a point or an exponent, whose digits fit a word. So the reader takes these
digits and this exponent, and they have the value of the shortest decimal that reads back. -/

namespace ClusterConsole
open Json Binary64

namespace Scientific

/-- The digits and the exponent of a decimal in a document: a whole number of moderate size gets a zero behind its
    point. -/
def written (d : Scientific) : Scientific :=
  if 0 ≤ d.exponent ∧ d.leading < 16 then ⟨d.digits * Nat.pow 10 (d.exponent.toNat + 1), -1⟩ else d

theorem value_written (d : Scientific) : d.written.value = d.value := by
  unfold written
  split
  · rename_i hwhole
    obtain ⟨e, he⟩ := Int.eq_ofNat_of_zero_le hwhole.1
    rw [value, value, he, Int.toNat_natCast, zpow_natCast, zpow_neg_one, Nat.pow_eq, pow_succ]
    push_cast
    field_simp
  · rfl

section
variable {d : Scientific}

theorem digits_lt (d : Scientific) : d.digits < Nat.pow 10 (Decimal.digits d.digits).length := by
  have hvalue : Nat.ofDigitChars 10 (Decimal.digits d.digits) 0 = d.digits := Nat.ofDigitChars_ten_toDigits
  have hlt := Decimal.ofDigitChars_lt fun c hc => Decimal.isDigit_of_mem_digits (n := d.digits) hc
  rwa [hvalue] at hlt

theorem length_digits_pos (d : Scientific) : 0 < (Decimal.digits d.digits).length :=
  List.length_pos_iff.mpr Nat.toDigits_ne_nil

theorem digits_written_le (h : d.digits ≤ Nat.pow 10 17) : d.written.digits ≤ Nat.pow 10 17 := by
  unfold written
  split
  · rename_i hwhole
    obtain ⟨hexponent, hleading⟩ := hwhole
    have hlength : (Decimal.digits d.digits).length + (d.exponent.toNat + 1) ≤ 17 := by
      unfold leading at hleading
      omega
    calc d.digits * Nat.pow 10 (d.exponent.toNat + 1)
        ≤ Nat.pow 10 (Decimal.digits d.digits).length * Nat.pow 10 (d.exponent.toNat + 1) :=
          Nat.mul_le_mul_right _ (Nat.le_of_lt d.digits_lt)
      _ = Nat.pow 10 ((Decimal.digits d.digits).length + (d.exponent.toNat + 1)) := (Nat.pow_add _ _ _).symm
      _ ≤ Nat.pow 10 17 := Nat.pow_le_pow_right (by decide) hlength
  · exact h

end
end Scientific

namespace Json

/-- A literal without sign that has this text, these digits and this exponent, and is no integer. -/
structure Literal.Holds (l : Literal) (text : List Char) (d : Scientific) : Prop where
  unsigned : l.negative = false
  text_eq : l.text = text
  significand_eq : l.significand = d.digits
  exponent_eq : l.exponent = d.exponent
  isFraction : l.fraction = none → l.power ≠ none
  kept : (powerValue l.power).natAbs ≤ greatestExponent

/-- With its sign the literal is read as its digits and its exponent. -/
theorem Literal.Holds.number_signed {l : Literal} {text : List Char} {d : Scientific} (h : l.Holds text d)
    (hbound : d.digits ≤ greatestWord) (x : Binary64) {rest : Input} (hrest : AtBreak rest) :
    number (Utf8.encode (x.signed text) ++ rest) = ofParts x.negative d.digits d.exponent rest := by
  let signedLiteral : Literal := { l with negative := x.negative }
  have htext : signedLiteral.text = x.signed text := by
    have hunsigned := h.text_eq
    rw [Literal.text, h.unsigned, if_neg Bool.false_ne_true, List.nil_append] at hunsigned
    rw [Literal.text, hunsigned, signed]
    show (if x.negative then ['-'] else []) ++ text = _
    split <;> rfl
  have hsignificand : signedLiteral.significand = d.digits := h.significand_eq
  have hexponent : signedLiteral.exponent = d.exponent := h.exponent_eq
  rw [← htext, signedLiteral.number_gathers h.isFraction (hsignificand.symm ▸ hbound) h.kept hrest, hsignificand,
    hexponent]

/-- A point and what is behind it, if there is anything. -/
def afterPoint : List Char → List Char
  | [] => []
  | c :: ds => '.' :: c :: ds

theorem exists_literal (whole decimals : List Char) (power : Option Exponent) {text : List Char} {d : Scientific}
    (hne : whole ≠ []) (hdigit : ∀ c ∈ whole ++ decimals, c.isDigit) (hhead : whole.head? = some '0' → whole = ['0'])
    (hfraction : decimals = [] → power ≠ none) (hkept : (powerValue power).natAbs ≤ greatestExponent)
    (htext : text = whole ++ (afterPoint decimals ++ powerText power))
    (hdigits : Nat.ofDigitChars 10 (whole ++ decimals) 0 = d.digits)
    (hexponent : powerValue power - decimals.length = d.exponent) : ∃ l : Literal, l.Holds text d := by
  let part : Digits := ⟨whole, hne, fun c hc => hdigit c (List.mem_append_left _ hc)⟩
  subst htext
  cases decimals with
  | nil => exact ⟨⟨false, part, none, power, hhead⟩, rfl, rfl, hdigits, hexponent, fun _ => hfraction rfl, hkept⟩
  | cons c ds =>
    let places : Digits := ⟨c :: ds, List.cons_ne_nil c ds, fun b hb => hdigit b (List.mem_append_right _ hb)⟩
    exact ⟨⟨false, part, some places, power, hhead⟩, rfl, rfl, hdigits, hexponent, nofun, hkept⟩

section
variable {d : Scientific}

/-- The first digit of a positive number is no zero. -/
theorem head_digits_ne_zero (hd : 0 < d.digits) : (Decimal.digits d.digits).head? ≠ some '0' := by
  intro hhead
  have hvalue : Nat.ofDigitChars 10 (Decimal.digits d.digits) 0 = d.digits := Nat.ofDigitChars_ten_toDigits
  rw [Decimal.digits_eq_of_head hhead] at hvalue
  have hzero : Nat.ofDigitChars 10 ['0'] 0 = 0 := by decide
  omega

theorem isDigit_of_mem_zeros (n : Nat) : ∀ c ∈ List.replicate n '0', c.isDigit := by
  intro c hc
  rw [List.eq_of_mem_replicate hc]
  rfl

/-- A whole number in positional notation. -/
theorem exists_literal_whole (hd : 0 < d.digits) (hexponent : 0 ≤ d.exponent) :
    ∃ l : Literal, l.Holds (positional ['.', '0'] d) ⟨d.digits * Nat.pow 10 (d.exponent.toNat + 1), -1⟩ := by
  have hhead := head_digits_ne_zero hd
  have hne : Decimal.digits d.digits ≠ [] := Nat.toDigits_ne_nil
  have hvalue : Nat.ofDigitChars 10 (Decimal.digits d.digits) 0 = d.digits := Nat.ofDigitChars_ten_toDigits
  refine exists_literal (Decimal.digits d.digits ++ List.replicate d.exponent.toNat '0') ['0'] none
    (List.append_ne_nil_of_left_ne_nil hne _) ?_ ?_ nofun (Nat.zero_le _) ?_ ?_ rfl
  · intro c hc
    rcases List.mem_append.mp hc with hc | hc
    · rcases List.mem_append.mp hc with hc | hc
      · exact Decimal.isDigit_of_mem_digits hc
      · exact isDigit_of_mem_zeros _ c hc
    · exact isDigit_of_mem_zeros 1 c hc
  · intro h
    rw [List.head?_append_of_ne_nil _ hne] at h
    exact absurd h hhead
  · rw [positional, if_pos hexponent]
    rfl
  · rw [Nat.ofDigitChars_append, Nat.ofDigitChars_append, Nat.ofDigitChars_replicate_zero, hvalue, Nat.pow_eq,
      Nat.pow_succ]
    show 10 * (10 ^ d.exponent.toNat * d.digits) + 0 = _
    ring

/-- A number with decimals in positional notation. -/
theorem exists_literal_decimals (hd : 0 < d.digits) (hexponent : d.exponent < 0) (whole : List Char) :
    ∃ l : Literal, l.Holds (positional whole d) d := by
  have hhead := head_digits_ne_zero hd
  have hvalue : Nat.ofDigitChars 10 (Decimal.digits d.digits) 0 = d.digits := Nat.ofDigitChars_ten_toDigits
  have hdigit : ∀ b ∈ Decimal.digits d.digits, b.isDigit := fun b hb => Decimal.isDigit_of_mem_digits hb
  have hlength := d.length_digits_pos
  obtain ⟨places, hplaces⟩ : ∃ places : Nat, d.exponent = -((places + 1 : Nat) : Int) :=
    ⟨d.exponent.natAbs - 1, by omega⟩
  rw [positional, if_neg (Int.not_le.mpr hexponent)]
  dsimp only
  rw [hplaces, Int.neg_neg, Int.toNat_natCast]
  -- From here on the digits are any with this value and without a zero in front.
  generalize Decimal.digits d.digits = ds at hhead hvalue hdigit hlength
  split
  · rename_i hinside
    have hsplit : ds.take (ds.length - (places + 1)) ++ ds.drop (ds.length - (places + 1)) = ds :=
      List.take_append_drop _ _
    -- The point stands among the digits, with at least one before and one behind it.
    obtain ⟨c, more, hdrop⟩ : ∃ c more, ds.drop (ds.length - (places + 1)) = c :: more :=
      List.exists_cons_of_length_pos (by rw [List.length_drop]; omega)
    refine exists_literal (ds.take (ds.length - (places + 1))) (c :: more) none ?_ ?_ ?_ nofun (Nat.zero_le _) ?_ ?_ ?_
    · exact List.ne_nil_of_length_pos (by rw [List.length_take]; omega)
    · rwa [← hdrop, hsplit]
    · intro h
      rw [List.head?_take, if_neg (by omega)] at h
      exact absurd h hhead
    · rw [hdrop, afterPoint, powerText, List.append_nil]
    · rw [← hdrop, hsplit, hvalue]
    · rw [← hdrop, List.length_drop, hplaces, powerValue]
      omega
  · rename_i hbelow
    -- The point stands before all digits, and zeros fill the places up to them.
    obtain ⟨c, more, hcons⟩ : ∃ c more, List.replicate (places + 1 - ds.length) '0' ++ ds = c :: more :=
      List.exists_cons_of_length_pos (by rw [List.length_append]; omega)
    have hall : ∀ b ∈ List.replicate (places + 1 - ds.length) '0' ++ ds, b.isDigit := by
      intro b hb
      rcases List.mem_append.mp hb with hb | hb
      · exact isDigit_of_mem_zeros _ b hb
      · exact hdigit b hb
    refine exists_literal ['0'] (c :: more) none (List.cons_ne_nil _ _) ?_ (fun _ => rfl) nofun (Nat.zero_le _) ?_ ?_ ?_
    · rw [← hcons]
      exact List.forall_mem_cons.mpr ⟨rfl, hall⟩
    · rw [hcons, afterPoint, powerText, List.append_nil]
      rfl
    · rw [← hcons, Nat.ofDigitChars_append, Nat.ofDigitChars_append, Nat.ofDigitChars_replicate_zero]
      exact hvalue
    · rw [← hcons, List.length_append, List.length_replicate, hplaces, powerValue]
      omega

theorem exists_literal_zero : ∃ l : Literal, l.Holds ['0', '.', '0'] ⟨0, -1⟩ :=
  exists_literal ['0'] ['0'] none (List.cons_ne_nil _ _) (isDigit_of_mem_zeros 2) (fun _ => rfl) nofun (Nat.zero_le _) rfl
    rfl rfl

/-- A number with an exponent. -/
theorem exists_literal_scientific (hleading : d.leading.natAbs ≤ greatestExponent) :
    ∃ l : Literal, l.Holds (scientific d) d := by
  have hvalue : Nat.ofDigitChars 10 (Decimal.digits d.digits) 0 = d.digits := Nat.ofDigitChars_ten_toDigits
  have hdigit : ∀ b ∈ Decimal.digits d.digits, b.isDigit := fun b hb => Decimal.isDigit_of_mem_digits hb
  have hpower : Nat.ofDigitChars 10 (Decimal.digits d.leading.natAbs) 0 = d.leading.natAbs :=
    Nat.ofDigitChars_ten_toDigits
  have hexponent : d.leading = d.exponent + (Decimal.digits d.digits).length - 1 := rfl
  obtain ⟨c, ds, hcons⟩ := List.exists_cons_of_length_pos d.length_digits_pos
  let sign := if d.leading < 0 then '-' else '+'
  have hsign : sign = '+' ∨ sign = '-' := (ite_eq_or_eq _ _ _).symm
  let power : Exponent := ⟨'e', some sign, ⟨Decimal.digits d.leading.natAbs, Nat.toDigits_ne_nil,
    fun b hb => Decimal.isDigit_of_mem_digits hb⟩, .inl rfl, fun b hb => Option.some.inj hb ▸ hsign⟩
  -- The power is written as its sign and its digits.
  have hpowerValue : powerValue (some power) = d.leading := by
    rw [powerValue, hpower]
    by_cases hneg : d.leading < 0
    · have hminus : power.sign = some '-' := congrArg some (if_pos hneg)
      rw [if_pos hminus]
      omega
    · have hplus : power.sign = some '+' := congrArg some (if_neg hneg)
      rw [if_neg (by rw [hplus]; decide)]
      omega
  rw [hcons] at hvalue hdigit hexponent
  refine exists_literal [c] ds (some power) (List.cons_ne_nil _ _) hdigit (fun h => by rw [Option.some.inj h])
    (fun _ => Option.some_ne_none power) (hpowerValue ▸ hleading) ?_ hvalue ?_
  · rw [scientific, hcons]
    cases ds <;> rfl
  · rw [hpowerValue, hexponent, List.length_cons]
    omega

end
end Json

namespace Binary64

/-- The digits and the exponent of a number in a document. -/
def written (x : Binary64) : Scientific :=
  if x.magnitude = 0 then ⟨0, -1⟩ else (x.size.shortest .even).written

section
variable {x : Binary64}

theorem positive_size (hx : x.isFinite = true) (h : x.magnitude ≠ 0) : x.size.Positive := by
  have hfinite : x.magnitude < infinityPattern := of_decide_eq_true hx
  have hmagnitude : x.size.magnitude = x.magnitude := magnitude_ofMagnitude (Nat.le_of_lt hfinite)
  refine ⟨isFinite_ofMagnitude hfinite, by omega, ?_⟩
  rw [hmagnitude]
  rfl

theorem digits_written_le (hx : x.isFinite = true) : x.written.digits ≤ Nat.pow 10 17 := by
  unfold written
  split
  · exact Nat.zero_le _
  · rename_i hzero
    exact Scientific.digits_written_le ((positive_size hx hzero).shortest_reads .even).2.1

/-- What is written reads back if it is rounded only once. -/
theorem pattern_written (hx : x.isFinite = true) : x.written.pattern = x.magnitude := by
  unfold written
  split
  · rename_i hzero
    rw [hzero]
    exact Scientific.pattern_eq_zero rfl
  · rename_i hzero
    have hfinite : x.magnitude < infinityPattern := of_decide_eq_true hx
    rw [Scientific.pattern_congr (Scientific.value_written _), ((positive_size hx hzero).shortest_reads .even).2.2]
    exact magnitude_ofMagnitude (Nat.le_of_lt hfinite)

theorem exponent_written (hx : x.isFinite = true) : -342 < x.written.exponent ∧ x.written.exponent < 309 := by
  unfold written
  split
  · decide
  · rename_i hzero
    have hshortest := (positive_size hx hzero).shortest_exponent .even
    unfold Scientific.written
    split
    · exact ⟨by norm_num, by norm_num⟩
    · exact hshortest

/-- Behind the sign of a finite number there is a literal of its digits and its exponent. -/
theorem exists_literal_written (hx : x.isFinite = true) :
    ∃ text, ∃ l : Literal, x.literal = x.signed text ∧ l.Holds text x.written := by
  rw [literal, hx, Bool.not_true, if_neg Bool.false_ne_true, written]
  split
  · obtain ⟨l, hl⟩ := exists_literal_zero
    exact ⟨_, l, rfl, hl⟩
  · rename_i hzero
    have hpositive := positive_size hx hzero
    obtain ⟨hpos, hdigits, -⟩ := hpositive.shortest_reads .even
    obtain ⟨hlow, hhigh⟩ := hpositive.shortest_exponent .even
    -- Of the shortest decimal only its bounds matter for the form that it is written in.
    generalize x.size.shortest .even = d at hpos hdigits hlow hhigh
    have hlength := d.length_digits_pos
    have hlength' : (Decimal.digits d.digits).length ≤ 18 :=
      (Nat.length_toDigits_le_iff (by decide) (by decide)).mpr (Nat.lt_of_le_of_lt hdigits (by decide))
    have hleading : d.leading = d.exponent + (Decimal.digits d.digits).length - 1 := rfl
    dsimp only
    split
    · rename_i hmoderate
      by_cases hexponent : 0 ≤ d.exponent
      · obtain ⟨l, hl⟩ := exists_literal_whole hpos hexponent
        rw [Scientific.written, if_pos ⟨hexponent, hmoderate.2⟩]
        exact ⟨_, l, rfl, hl⟩
      · obtain ⟨l, hl⟩ := exists_literal_decimals hpos (Int.not_le.mp hexponent) ['.', '0']
        rw [Scientific.written, if_neg fun h => hexponent h.1]
        exact ⟨_, l, rfl, hl⟩
    · rename_i hextreme
      have hkept : d.leading.natAbs ≤ greatestExponent := by
        unfold greatestExponent
        omega
      obtain ⟨l, hl⟩ := exists_literal_scientific hkept
      rw [Scientific.written, if_neg (by omega)]
      exact ⟨_, l, rfl, hl⟩

/-- The literal of a finite number is read as its digits and its exponent. -/
theorem number_literal (hx : x.isFinite = true) {rest : Input} (hrest : AtBreak rest) :
    number (Utf8.encode x.literal ++ rest) = ofParts x.negative x.written.digits x.written.exponent rest := by
  obtain ⟨text, l, htext, hl⟩ := exists_literal_written hx
  rw [htext]
  exact hl.number_signed (Nat.le_trans (digits_written_le hx) (by decide)) x hrest

theorem literal_startsNumber (hx : x.isFinite = true) : ∃ c more, x.literal = c :: more ∧ StartsNumber c := by
  obtain ⟨text, l, htext, hl⟩ := exists_literal_written hx
  rw [htext, signed]
  split
  · exact ⟨'-', text, rfl, .inl rfl⟩
  · rw [← hl.text_eq]
    exact l.exists_text_eq_cons

end
end Binary64
end ClusterConsole
