import ClusterConsole.Proofs.Json.Number

/-! # Number literals

The grammar of the numbers in documents, and what becomes of them. An integer that fits a word is read as it is. Every
other literal is read as binary floating point or refused because it is out of range; which of the two depends on the
literal alone, however long it is. -/

namespace ClusterConsole.Json
open Ascii

/-! ### Grammar -/

/-- At least one digit. -/
structure Digits where
  chars : List Char
  ne_nil : chars ≠ []
  isDigit : ∀ c ∈ chars, c.isDigit

/-- An exponent: its letter, perhaps a sign, and its digits. -/
structure Exponent where
  letter : Char
  sign : Option Char
  digits : Digits
  letter_eq : letter = 'e' ∨ letter = 'E'
  sign_eq : ∀ c ∈ sign, c = '+' ∨ c = '-'

/-- A number in a document: perhaps a minus, an integer part that has a zero in front only alone, perhaps decimals and
    perhaps an exponent. -/
structure Literal where
  negative : Bool
  whole : Digits
  fraction : Option Digits
  power : Option Exponent
  head_whole : whole.chars.head? = some '0' → whole.chars = ['0']

/-- The decimals behind their point. -/
def fractionText : Option Digits → List Char
  | none => []
  | some ds => '.' :: ds.chars

/-- The exponent with its letter. -/
def powerText : Option Exponent → List Char
  | none => []
  | some e => e.letter :: (e.sign.toList ++ e.digits.chars)

theorem fractionText_eq_nil {fraction : Option Digits} (h : fractionText fraction = []) : fraction = none := by
  cases fraction with
  | none => rfl
  | some ds => cases h

theorem powerText_eq_nil {power : Option Exponent} (h : powerText power = []) : power = none := by
  cases power with
  | none => rfl
  | some e => cases h

namespace Literal

/-- The literal as documents hold it. -/
def text (l : Literal) : List Char :=
  (if l.negative then ['-'] else []) ++ (l.whole.chars ++ (fractionText l.fraction ++ powerText l.power))

/-- The number that the digits of the integer part denote. -/
def size (l : Literal) : Nat :=
  Nat.ofDigitChars 10 l.whole.chars 0

/-- The integer that the literal denotes when it has neither decimals nor an exponent. -/
def integer? (l : Literal) : Option Int :=
  match l.fraction, l.power with
  | none, none => some (if l.negative then -(l.size : Int) else l.size)
  | _, _ => none

/-- The literal in which an integer is written. -/
def ofInteger (n : Int) : Literal where
  negative := n < 0
  whole := {
    chars := Decimal.digits n.natAbs
    ne_nil := by
      obtain ⟨c, ds, hds, -⟩ := Decimal.exists_digits_eq_cons n.natAbs
      exact hds ▸ List.cons_ne_nil c ds
    isDigit := fun _ => Decimal.isDigit_of_mem_digits }
  fraction := none
  power := none
  head_whole := by
    obtain ⟨c, ds, hds, hzero⟩ := Decimal.exists_digits_eq_cons n.natAbs
    intro hhead
    dsimp only at hhead ⊢
    rw [hds] at hhead ⊢
    obtain rfl := Option.some.inj hhead
    rw [(hzero rfl).2]

theorem integer?_ofInteger (n : Int) : (ofInteger n).integer? = some n := by
  have hsize : (ofInteger n).size = n.natAbs := Nat.ofDigitChars_ten_toDigits
  show some (if decide (n < 0) = true then -((ofInteger n).size : Int) else (ofInteger n).size) = some n
  rw [hsize]
  congr 1
  simp only [decide_eq_true_eq]
  omega

theorem digits_size (l : Literal) : Decimal.digits l.size = l.whole.chars :=
  Decimal.digits_ofDigitChars l.whole.ne_nil l.whole.isDigit l.head_whole

end Literal

/-! ### What is no digit -/

theorem noDigit_powerText (power : Option Exponent) {rest : Input} (h : AtBreak rest) :
    NoDigit (Utf8.encode (powerText power) ++ rest) := by
  cases power with
  | none => exact h.noDigit
  | some e =>
    intro b hb
    rcases e.letter_eq with hletter | hletter <;>
    · rw [powerText, hletter, Utf8.encode_cons_of_ascii (by decide)] at hb
      obtain rfl := Option.some.inj hb
      rfl

theorem noDigit_tail (fraction : Option Digits) (power : Option Exponent) {rest : Input} (h : AtBreak rest) :
    NoDigit (Utf8.encode (fractionText fraction ++ powerText power) ++ rest) := by
  cases fraction with
  | none => exact noDigit_powerText power h
  | some ds =>
    intro b hb
    rw [fractionText, List.cons_append, Utf8.encode_cons_of_ascii (by decide)] at hb
    obtain rfl := Option.some.inj hb
    rfl

theorem skipDigits_encode {ds : List Char} (hds : ∀ c ∈ ds, c.isDigit) {rest : Input} (h : NoDigit rest) :
    skipDigits (Utf8.encode ds ++ rest) = rest := by
  induction ds with
  | nil =>
    cases rest with
    | nil => rfl
    | cons b rest => exact List.dropWhile_cons_of_neg (by rw [isDigit_of_digit?_eq_none (h b rfl)]; decide)
  | cons c ds ih =>
    obtain ⟨hc, hmore⟩ := List.forall_mem_cons.mp hds
    rw [Utf8.encode_cons_of_isDigit hc, List.cons_append, skipDigits, List.dropWhile_cons_of_pos (isDigit_byte hc)]
    exact ih hmore

/-! ### What is no integer -/

/-- Whatever stands behind it, the text is read as one and the same fraction, or else refused as out of range. -/
def ReadsFraction (read : Input → Except Fault (Number × Input)) (text : List Char) : Prop :=
  (∃ x, Reads read text (.fraction x)) ∨ Refuses read text .numberOutOfRange

/-- The reading of a text goes on with another reader, and the text that it has left. -/
theorem ReadsFraction.of_eq {read next : Input → Except Fault (Number × Input)} {text more : List Char}
    (h : ReadsFraction next more)
    (heq : ∀ rest, AtBreak rest → read (Utf8.encode text ++ rest) = next (Utf8.encode more ++ rest)) :
    ReadsFraction read text := by
  rcases h with ⟨x, hx⟩ | hrefused
  · refine .inl ⟨x, fun rest hrest => ?_⟩
    rw [heq rest hrest]
    exact hx rest hrest
  · refine .inr fun rest hrest => ?_
    rw [heq rest hrest]
    exact hrefused rest hrest

section
variable (negative : Bool)

theorem ofParts_readsFraction (significand : Nat) (exponent : Int) :
    ReadsFraction (ofParts negative significand exponent) [] := by
  cases hscale : scale? significand exponent with
  | some x =>
    refine .inl ⟨withSign negative x, fun rest _ => ?_⟩
    rw [ofParts, hscale]
    rfl
  | none =>
    refine .inr fun rest _ => ⟨rest.length, ?_⟩
    rw [ofParts, hscale]
    rfl

/-- An exponent that is not kept makes the number zero or too great. -/
theorem exponentDigits_cons (significand : Nat) (sofar : Int) (down : Bool) (exponent : Nat) {c : Char}
    (hc : c.isDigit) (ds : List Char) (rest : Input) :
    exponentDigits negative significand sofar down exponent (Utf8.encode (c :: ds) ++ rest) =
      if greatestExponent < exponent * 10 + (c.toNat - '0'.toNat) then
        if significand ≠ 0 ∧ !down then .error (.here .numberOutOfRange (Utf8.encode ds ++ rest))
        else .ok (.fraction (withSign negative (.ofNat 0)), skipDigits (Utf8.encode ds ++ rest))
      else exponentDigits negative significand sofar down (exponent * 10 + (c.toNat - '0'.toNat))
        (Utf8.encode ds ++ rest) := by
  rw [Utf8.encode_cons_of_isDigit hc, List.cons_append, exponentDigits, digit?_byte hc]

theorem exponentDigits_of_break (significand : Nat) (sofar : Int) (down : Bool) (exponent : Nat) {rest : Input}
    (h : AtBreak rest) : exponentDigits negative significand sofar down exponent rest =
      ofParts negative significand (if down then sofar - exponent else sofar + exponent) rest := by
  cases rest with
  | nil => rfl
  | cons b rest => rw [exponentDigits, h.digit?_head]

theorem exponentDigits_readsFraction (significand : Nat) (sofar : Int) (down : Bool) (exponent : Nat) {ds : List Char}
    (hds : ∀ c ∈ ds, c.isDigit) : ReadsFraction (exponentDigits negative significand sofar down exponent) ds := by
  induction ds generalizing exponent with
  | nil =>
    exact (ofParts_readsFraction negative significand (if down then sofar - exponent else sofar + exponent)).of_eq
      fun rest hrest => exponentDigits_of_break negative significand sofar down exponent hrest
  | cons c ds ih =>
    obtain ⟨hc, hmore⟩ := List.forall_mem_cons.mp hds
    by_cases hgreat : greatestExponent < exponent * 10 + (c.toNat - '0'.toNat)
    · by_cases hsign : significand ≠ 0 ∧ !down
      · refine .inr fun rest _ => ⟨(Utf8.encode ds ++ rest).length, ?_⟩
        rw [exponentDigits_cons negative significand sofar down exponent hc, if_pos hgreat, if_pos hsign]
        rfl
      · refine .inl ⟨withSign negative (.ofNat 0), fun rest hrest => ?_⟩
        rw [exponentDigits_cons negative significand sofar down exponent hc, if_pos hgreat, if_neg hsign,
          skipDigits_encode hmore hrest.noDigit]
    · refine (ih (exponent * 10 + (c.toNat - '0'.toNat)) hmore).of_eq fun rest _ => ?_
      rw [exponentDigits_cons negative significand sofar down exponent hc, if_neg hgreat]

theorem exponent_encode (significand : Nat) (sofar : Int) {sign : Option Char} (hsign : ∀ c ∈ sign, c = '+' ∨ c = '-')
    {c : Char} (hc : c.isDigit) (ds : List Char) (rest : Input) :
    exponent negative significand sofar (Utf8.encode (sign.toList ++ c :: ds) ++ rest) =
      exponentDigits negative significand sofar (sign = some '-') (c.toNat - '0'.toNat) (Utf8.encode ds ++ rest) := by
  cases sign with
  | none =>
    show exponent negative significand sofar (Utf8.encode (c :: ds) ++ rest) = _
    rw [Utf8.encode_cons_of_isDigit hc, List.cons_append, exponent, if_neg (byte_ne_of_isDigit hc (by decide) rfl),
      if_neg (byte_ne_of_isDigit hc (by decide) rfl)]
    dsimp only
    rw [digit?_byte hc]
    rfl
  | some s =>
    rcases hsign s rfl with rfl | rfl
    · show exponent negative significand sofar (byte '+' :: (Utf8.encode (c :: ds) ++ rest)) = _
      rw [Utf8.encode_cons_of_isDigit hc, List.cons_append, exponent, if_pos rfl]
      dsimp only
      rw [digit?_byte hc]
      rfl
    · show exponent negative significand sofar (byte '-' :: (Utf8.encode (c :: ds) ++ rest)) = _
      rw [Utf8.encode_cons_of_isDigit hc, List.cons_append, exponent, if_neg (by decide), if_pos rfl]
      dsimp only
      rw [digit?_byte hc]
      rfl

theorem exponent_readsFraction (significand : Nat) (sofar : Int) {sign : Option Char}
    (hsign : ∀ c ∈ sign, c = '+' ∨ c = '-') (ds : Digits) :
    ReadsFraction (exponent negative significand sofar) (sign.toList ++ ds.chars) := by
  obtain ⟨c, more, hcons⟩ := List.exists_cons_of_ne_nil ds.ne_nil
  have hdigits := ds.isDigit
  rw [hcons] at hdigits ⊢
  obtain ⟨hc, hmore⟩ := List.forall_mem_cons.mp hdigits
  exact (exponentDigits_readsFraction negative significand sofar _ _ hmore).of_eq fun rest _ =>
    exponent_encode negative significand sofar hsign hc more rest

theorem afterDigits_of_break (significand : Nat) (sofar : Int) {rest : Input} (h : AtBreak rest) :
    afterDigits negative significand sofar rest = ofParts negative significand sofar rest := by
  cases h with
  | nil => rfl
  | cons hb rest => rcases hb with rfl | rfl | rfl | rfl | rfl | rfl | rfl <;> rfl

theorem afterDigits_power (significand : Nat) (sofar : Int) (e : Exponent) (rest : Input) :
    afterDigits negative significand sofar (Utf8.encode (powerText (some e)) ++ rest) =
      exponent negative significand sofar (Utf8.encode (e.sign.toList ++ e.digits.chars) ++ rest) := by
  rcases e.letter_eq with hletter | hletter <;>
  · rw [powerText, hletter, Utf8.encode_cons_of_ascii (by decide), List.cons_append, afterDigits, if_pos (by decide)]

theorem afterDigits_readsFraction (significand : Nat) (sofar : Int) (power : Option Exponent) :
    ReadsFraction (afterDigits negative significand sofar) (powerText power) := by
  cases power with
  | none =>
    exact (ofParts_readsFraction negative significand sofar).of_eq fun rest hrest =>
      afterDigits_of_break negative significand sofar hrest
  | some e =>
    exact (exponent_readsFraction negative significand sofar e.sign_eq e.digits).of_eq fun rest _ =>
      afterDigits_power negative significand sofar e rest

/-- Where the decimals end, there has to have been one. -/
theorem decimals_of_noDigit (significand : Nat) (before : Int) {places : Int} (hplaces : places ≠ 0) {rest : Input}
    (h : NoDigit rest) :
    decimals negative significand before places rest = afterDigits negative significand (before + places) rest := by
  cases rest with
  | nil => rw [decimals, if_neg hplaces]
  | cons b rest =>
    rw [decimals, h b rfl]
    exact if_neg hplaces

theorem decimals_readsFraction (significand : Nat) (before places : Int) (power : Option Exponent) {ds : List Char}
    (hds : ∀ c ∈ ds, c.isDigit) (hplaces : ds = [] → places ≠ 0) (hnot : places ≤ 0) :
    ReadsFraction (decimals negative significand before places) (ds ++ powerText power) := by
  induction ds generalizing significand places with
  | nil =>
    refine (afterDigits_readsFraction negative significand (before + places) power).of_eq fun rest hrest => ?_
    exact decimals_of_noDigit negative significand before (hplaces rfl) (noDigit_powerText power hrest)
  | cons c ds ih =>
    obtain ⟨hc, hmore⟩ := List.forall_mem_cons.mp hds
    have hstep : ∀ rest, decimals negative significand before places (Utf8.encode (c :: ds ++ powerText power) ++ rest) =
        if greatestWord < significand * 10 + (c.toNat - '0'.toNat) then
          afterDigits negative significand (before + places) (skipDigits (Utf8.encode (ds ++ powerText power) ++ rest))
        else decimals negative (significand * 10 + (c.toNat - '0'.toNat)) before (places - 1)
          (Utf8.encode (ds ++ powerText power) ++ rest) := by
      intro rest
      rw [List.cons_append, Utf8.encode_cons_of_isDigit hc, List.cons_append, decimals, digit?_byte hc]
    by_cases hgreat : greatestWord < significand * 10 + (c.toNat - '0'.toNat)
    · refine (afterDigits_readsFraction negative significand (before + places) power).of_eq fun rest hrest => ?_
      rw [hstep, if_pos hgreat, Utf8.encode_append, List.append_assoc,
        skipDigits_encode hmore (noDigit_powerText power hrest)]
    · refine (ih (significand * 10 + (c.toNat - '0'.toNat)) (places - 1) hmore (fun _ => by omega) (by omega)).of_eq
        fun rest _ => ?_
      rw [hstep, if_neg hgreat]

/-- A point and the decimals behind it. -/
theorem decimals_readsFraction_of_digits (significand : Nat) (before : Int) (ds : Digits) (power : Option Exponent) :
    ReadsFraction (decimals negative significand before 0) (ds.chars ++ powerText power) :=
  decimals_readsFraction negative significand before 0 power ds.isDigit (fun h => absurd h ds.ne_nil) (Int.le_refl 0)

/-- Where the digits end without a point, they are those of a number that is not exact. -/
theorem longInteger_of_end (significand : Nat) (dropped : Int) (power : Option Exponent) {rest : Input}
    (h : AtBreak rest) : longInteger negative significand dropped (Utf8.encode (powerText power) ++ rest) =
      afterDigits negative significand dropped (Utf8.encode (powerText power) ++ rest) := by
  cases power with
  | none =>
    cases h with
    | nil => rfl
    | cons hb rest => rcases hb with rfl | rfl | rfl | rfl | rfl | rfl | rfl <;> rfl
  | some e =>
    rcases e.letter_eq with hletter | hletter <;>
    · rw [powerText, hletter, Utf8.encode_cons_of_ascii (by decide)]
      rfl

theorem longInteger_readsFraction (significand : Nat) (dropped : Int) (fraction : Option Digits)
    (power : Option Exponent) {ds : List Char} (hds : ∀ c ∈ ds, c.isDigit) :
    ReadsFraction (longInteger negative significand dropped) (ds ++ (fractionText fraction ++ powerText power)) := by
  induction ds generalizing dropped with
  | nil =>
    cases fraction with
    | none =>
      refine (afterDigits_readsFraction negative significand dropped power).of_eq fun rest hrest => ?_
      exact longInteger_of_end negative significand dropped power hrest
    | some digits =>
      refine (decimals_readsFraction_of_digits negative significand dropped digits power).of_eq fun rest _ => ?_
      rw [fractionText, List.nil_append, List.cons_append, Utf8.encode_cons_of_ascii (by decide)]
      rfl
  | cons c ds ih =>
    obtain ⟨hc, hmore⟩ := List.forall_mem_cons.mp hds
    refine (ih (dropped + 1) hmore).of_eq fun rest _ => ?_
    rw [List.cons_append, Utf8.encode_cons_of_isDigit hc, List.cons_append, longInteger, if_pos (isDigit_byte hc)]

theorem afterInteger_fraction (significand : Nat) (ds : Digits) (more : List Char) (rest : Input) :
    afterInteger negative significand (Utf8.encode (fractionText (some ds) ++ more) ++ rest) =
      decimals negative significand 0 0 (Utf8.encode (ds.chars ++ more) ++ rest) := by
  rw [fractionText, List.cons_append, Utf8.encode_cons_of_ascii (by decide), List.cons_append, afterInteger, if_pos rfl]

theorem afterInteger_power (significand : Nat) (e : Exponent) (rest : Input) :
    afterInteger negative significand (Utf8.encode (fractionText none ++ powerText (some e)) ++ rest) =
      exponent negative significand 0 (Utf8.encode (e.sign.toList ++ e.digits.chars) ++ rest) := by
  rcases e.letter_eq with hletter | hletter <;>
  · rw [fractionText, List.nil_append, powerText, hletter, Utf8.encode_cons_of_ascii (by decide), List.cons_append,
      afterInteger, if_neg (by decide), if_pos (by decide)]

/-- What makes a number no integer: decimals or an exponent. -/
theorem afterInteger_readsFraction (significand : Nat) {fraction : Option Digits} {power : Option Exponent}
    (h : fraction = none → power ≠ none) :
    ReadsFraction (afterInteger negative significand) (fractionText fraction ++ powerText power) := by
  cases fraction with
  | some ds =>
    exact (decimals_readsFraction_of_digits negative significand 0 ds power).of_eq fun rest _ =>
      afterInteger_fraction negative significand ds (powerText power) rest
  | none =>
    cases power with
    | none => exact absurd rfl (h rfl)
    | some e =>
      exact (exponent_readsFraction negative significand 0 e.sign_eq e.digits).of_eq fun rest _ =>
        afterInteger_power negative significand e rest

/-- A number is no integer either when it exceeds the greatest word. -/
theorem integerDigits_readsFraction {significand : Nat} (hword : significand ≤ greatestWord) {fraction : Option Digits}
    {power : Option Exponent} {ds : List Char} (hds : ∀ c ∈ ds, c.isDigit)
    (h : fraction = none → power = none → greatestWord < Nat.ofDigitChars 10 ds significand) :
    ReadsFraction (integerDigits negative significand) (ds ++ (fractionText fraction ++ powerText power)) := by
  induction ds generalizing significand with
  | nil =>
    rw [Nat.ofDigitChars_nil] at h
    have hsome : fraction = none → power ≠ none := fun hfraction hpower =>
      absurd (h hfraction hpower) (Nat.not_lt_of_le hword)
    refine (afterInteger_readsFraction negative significand hsome).of_eq fun rest hrest => ?_
    exact integerDigits_of_noDigit (noDigit_tail fraction power hrest)
  | cons c ds ih =>
    obtain ⟨hc, hmore⟩ := List.forall_mem_cons.mp hds
    have hstep : ∀ rest, integerDigits negative significand
        (Utf8.encode (c :: ds ++ (fractionText fraction ++ powerText power)) ++ rest) =
        if greatestWord < significand * 10 + (c.toNat - '0'.toNat) then
          longInteger negative significand 1 (Utf8.encode (ds ++ (fractionText fraction ++ powerText power)) ++ rest)
        else integerDigits negative (significand * 10 + (c.toNat - '0'.toNat))
          (Utf8.encode (ds ++ (fractionText fraction ++ powerText power)) ++ rest) := by
      intro rest
      rw [List.cons_append, Utf8.encode_cons_of_isDigit hc, List.cons_append, integerDigits, digit?_byte hc]
    by_cases hgreat : greatestWord < significand * 10 + (c.toNat - '0'.toNat)
    · refine (longInteger_readsFraction negative significand 1 fraction power hmore).of_eq fun rest _ => ?_
      rw [hstep, if_pos hgreat]
    · rw [Nat.ofDigitChars_cons, Nat.mul_comm] at h
      refine (ih (Nat.le_of_not_lt hgreat) hmore h).of_eq fun rest _ => ?_
      rw [hstep, if_neg hgreat]

theorem unsigned_readsFraction {whole : Digits} (hzero : whole.chars.head? = some '0' → whole.chars = ['0'])
    {fraction : Option Digits} {power : Option Exponent}
    (h : fraction = none → power = none → greatestWord < Nat.ofDigitChars 10 whole.chars 0) :
    ReadsFraction (unsigned negative) (whole.chars ++ (fractionText fraction ++ powerText power)) := by
  obtain ⟨c, ds, hcons⟩ := List.exists_cons_of_ne_nil whole.ne_nil
  have hdigits := whole.isDigit
  rw [hcons] at hzero h hdigits ⊢
  obtain ⟨hc, hmore⟩ := List.forall_mem_cons.mp hdigits
  rw [Nat.ofDigitChars_cons, Nat.mul_zero, Nat.zero_add] at h
  by_cases h0 : c = '0'
  · obtain ⟨rfl, rfl⟩ := List.cons.inj (hzero (congrArg some h0))
    have hsome : fraction = none → power ≠ none := fun hfraction hpower => Nat.not_lt_zero _ (h hfraction hpower)
    refine (afterInteger_readsFraction negative 0 hsome).of_eq fun rest hrest => ?_
    rw [List.cons_append, Utf8.encode_cons_of_isDigit hc, List.cons_append, unsigned, if_pos rfl, List.nil_append,
      isDigit_head (noDigit_tail fraction power hrest), if_neg Bool.false_ne_true]
  · have hascii := (bounds_of_isDigit hc).2
    have hten := Decimal.sub_lt_ten_of_isDigit hc
    have hword : c.toNat - '0'.toNat ≤ greatestWord := Nat.le_trans (Nat.le_of_lt hten) (by decide)
    refine (integerDigits_readsFraction negative hword hmore h).of_eq fun rest _ => ?_
    rw [List.cons_append, Utf8.encode_cons_of_isDigit hc, List.cons_append, unsigned,
      if_neg fun heq => h0 (byte_injective (by omega) (by decide) heq), digit?_byte hc]

end

/-! ### Literals -/

namespace Literal
variable (l : Literal)

theorem exists_text_eq_cons : ∃ c more, l.text = c :: more ∧ StartsNumber c := by
  obtain ⟨c, ds, hcons⟩ := List.exists_cons_of_ne_nil l.whole.ne_nil
  have hc : c.isDigit := l.whole.isDigit c (hcons ▸ List.mem_cons_self)
  rw [text, hcons]
  cases l.negative with
  | true => exact ⟨'-', _, rfl, .inl rfl⟩
  | false => exact ⟨c, _, rfl, .inr hc⟩

/-- The sign is read before the digits. -/
theorem number_text (rest : Input) : number (Utf8.encode l.text ++ rest) =
    unsigned l.negative (Utf8.encode (l.whole.chars ++ (fractionText l.fraction ++ powerText l.power)) ++ rest) := by
  obtain ⟨c, ds, hcons⟩ := List.exists_cons_of_ne_nil l.whole.ne_nil
  have hc : c.isDigit := l.whole.isDigit c (hcons ▸ List.mem_cons_self)
  rw [text]
  cases l.negative with
  | true =>
    show number (Utf8.encode ('-' :: _) ++ rest) = _
    rw [Utf8.encode_cons_of_ascii (by decide), List.cons_append, number, if_pos rfl]
    rfl
  | false =>
    show number (Utf8.encode (l.whole.chars ++ _) ++ rest) = _
    rw [hcons, List.cons_append, Utf8.encode_cons_of_isDigit hc, List.cons_append, number,
      if_neg (byte_ne_of_isDigit hc (by decide) rfl)]

variable {l}

theorem integer?_eq_some {n : Int} (h : l.integer? = some n) :
    l.fraction = none ∧ l.power = none ∧ n = if l.negative then -(l.size : Int) else l.size := by
  unfold integer? at h
  split at h
  · rename_i hfraction hpower
    exact ⟨hfraction, hpower, (Option.some.inj h).symm⟩
  · cases h

theorem text_of_integer? {n : Int} (h : l.integer? = some n) :
    l.text = (if l.negative then ['-'] else []) ++ Decimal.digits l.size := by
  obtain ⟨hfraction, hpower, -⟩ := integer?_eq_some h
  rw [text, hfraction, hpower, digits_size]
  show _ ++ (l.whole.chars ++ []) = _
  rw [List.append_nil]

/-- A zero with a minus is `-0`. -/
theorem text_eq_minusZero_iff : l.text = ['-', '0'] ↔ l.negative = true ∧ l.integer? = some 0 := by
  constructor
  · intro htext
    obtain ⟨c, ds, hcons⟩ := List.exists_cons_of_ne_nil l.whole.ne_nil
    have hc : c.isDigit := l.whole.isDigit c (hcons ▸ List.mem_cons_self)
    rw [text, hcons] at htext
    cases hnegative : l.negative with
    | false =>
      rw [hnegative] at htext
      obtain rfl := (List.cons.inj htext).1
      cases hc
    | true =>
      rw [hnegative] at htext
      obtain ⟨rfl, htail⟩ := List.cons.inj (List.cons.inj htext).2
      obtain ⟨rfl, hempty⟩ := List.append_eq_nil_iff.mp htail
      obtain ⟨hfraction, hpower⟩ := List.append_eq_nil_iff.mp hempty
      refine ⟨rfl, ?_⟩
      rw [integer?, fractionText_eq_nil hfraction, powerText_eq_nil hpower, hnegative, size, hcons]
      rfl
  · rintro ⟨hnegative, hinteger⟩
    obtain ⟨-, -, hn⟩ := integer?_eq_some hinteger
    rw [hnegative, if_pos rfl] at hn
    have hzero : l.size = 0 := by omega
    rw [text_of_integer? hinteger, hnegative, hzero]
    rfl

/-- All integers but `-0` have one literal. -/
theorem text_eq_integer {n : Int} (h : l.integer? = some n) (hzero : l.text ≠ ['-', '0']) :
    l.text = Decimal.integer n := by
  obtain ⟨-, -, hn⟩ := integer?_eq_some h
  rw [text_of_integer? h, Decimal.integer]
  cases hnegative : l.negative with
  | true =>
    rw [hnegative, if_pos rfl] at hn
    have hne : n ≠ 0 := fun h0 => hzero (text_eq_minusZero_iff.mpr ⟨hnegative, h0 ▸ h⟩)
    have hlt : n < 0 := by omega
    rw [if_pos hlt, hn, Int.natAbs_neg, Int.natAbs_natCast]
    rfl
  | false =>
    rw [hnegative, if_neg Bool.false_ne_true] at hn
    have hnot : ¬n < 0 := by omega
    rw [if_neg hnot, hn, Int.natAbs_natCast]
    rfl

/-- The digits of an integer that exceed no word are all gathered. -/
theorem number_of_integer? {n : Int} (h : l.integer? = some n) (hword : l.size ≤ greatestWord) {rest : Input}
    (hrest : AtBreak rest) : number (Utf8.encode l.text ++ rest) = afterInteger.whole l.negative l.size rest := by
  obtain ⟨hfraction, hpower, -⟩ := integer?_eq_some h
  rw [number_text, hfraction, hpower, ← digits_size]
  show unsigned l.negative (Utf8.encode (Decimal.digits l.size ++ []) ++ rest) = _
  rw [List.append_nil, unsigned_encode hword hrest]

theorem number_reads_minusZero (h : l.text = ['-', '0']) :
    Reads number l.text (.fraction (Binary64.ofNat 0).negate) := by
  intro rest hrest
  obtain ⟨hnegative, hinteger⟩ := text_eq_minusZero_iff.mp h
  obtain ⟨-, -, hsize⟩ := integer?_eq_some hinteger
  rw [hnegative, if_pos rfl] at hsize
  have hzero : l.size = 0 := by omega
  rw [number_of_integer? hinteger (hzero ▸ Nat.zero_le _) hrest, hnegative, hzero]
  rfl

/-- A literal that is no integer, or none that fits a word, is read as a fraction if it is not out of range. -/
theorem number_readsFraction (h : ∀ n, l.integer? = some n → ¬(Number.integer n).Bounded) :
    ReadsFraction number l.text := by
  by_cases hlarge : l.fraction = none → l.power = none → greatestWord < l.size
  · exact (unsigned_readsFraction l.negative l.head_whole hlarge).of_eq fun rest _ => l.number_text rest
  · -- Digits that are gathered in full are those of an integer below the least signed word.
    push Not at hlarge
    obtain ⟨hfraction, hpower, hword⟩ := hlarge
    have hinteger : l.integer? = some (if l.negative then -(l.size : Int) else l.size) := by
      rw [integer?, hfraction, hpower]
    have hout := h _ hinteger
    refine .inl ⟨(Binary64.ofNat l.size).negate, fun rest hrest => ?_⟩
    rw [number_of_integer? hinteger hword hrest, afterInteger.whole]
    unfold Number.Bounded Word.limit Word.signedLimit at hout
    unfold greatestWord Word.limit at hword
    cases hnegative : l.negative with
    | false =>
      rw [hnegative, if_neg Bool.false_ne_true] at hout
      omega
    | true =>
      rw [hnegative, if_pos rfl] at hout
      rw [if_neg (by decide), if_neg (by unfold Word.signedLimit; omega)]

end Literal

end ClusterConsole.Json
